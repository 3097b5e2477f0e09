import Uroam.Shared.Pool

namespace Uroam.Pool
open Runs Memopt

structure Held where
  header : ℕ
  run : PoolRun
  deriving DecidableEq, Repr

def touchedBy (pool : MemoptPool) : Finset Page :=
  Pages.touched memoptPageSize pool.base.toNat pool.size.toNat

def Held.pages (h : Held) : Finset Page := touchedBy h.run.pool

structure Arena where
  mapped : Finset Page
  heap : Heap
  pools : List Held

def Arena.empty : Arena := ⟨∅,⟨[],0⟩,[]⟩

inductive ArenaCall where
  | create (malloc : Bool) (mmap : Mmap) (size : SizeT) (flags : U64) (numaNode : Int)
  | pool (header : ℕ) (call : PoolCall)
  | destroy (header : ℕ)

def Arena.create (a : Arena) (created : Option (ℕ × MemoptPool) × Heap) : Arena :=
  match created with
  | (none,heap) => { a with heap }
  | (some (header,pool),heap) =>
    { mapped := a.mapped ∪ touchedBy pool, heap, pools := ⟨header,⟨pool,[]⟩⟩ :: a.pools }

def Held.call (header : ℕ) (call : PoolCall) (h : Held) : Held :=
  if h.header = header then { h with run := poolStep h.run call } else h

def memoptPoolDestroy (a : Arena) (h : Held) : Arena :=
  { a with
    mapped := a.mapped \ h.pages
    heap := a.heap.free h.header
    pools := a.pools.filter (·.header ≠ h.header) }

def Arena.find (a : Arena) (header : ℕ) : Option Held := a.pools.find? (·.header = header)

def Arena.step (a : Arena) : ArenaCall → Arena
  | .create malloc mmap size flags numaNode =>
    a.create (memoptPoolCreate malloc mmap size flags numaNode a.heap)
  | .pool header call => { a with pools := a.pools.map (Held.call header call) }
  | .destroy header =>
    match a.find header with
    | none => a
    | some h => memoptPoolDestroy a h

def Arena.Admits (a : Arena) : ArenaCall → Prop
  | .create malloc mmap size flags numaNode =>
    ∀ header pool, (memoptPoolCreate malloc mmap size flags numaNode a.heap).1 = some (header,pool) →
      Disjoint (touchedBy pool) a.mapped
  | _ => True

def Arena.GrantExact (a : Arena) : ArenaCall → Prop
  | .pool header call => ∀ h ∈ a.pools, h.header = header → Pool.GrantExact h.run call
  | _ => True

def Arena.SumFits (a : Arena) : ArenaCall → Prop
  | .pool header call => ∀ h ∈ a.pools, h.header = header → Pool.SumFits h.run call
  | _ => True

def BlocksApart (h k : Held) : Prop :=
  ∀ b ∈ h.run.granted, ∀ c ∈ k.run.granted, Disjoint b.bytes c.bytes

structure Arena.Safe (a : Arena) : Prop where
  mapped : ∀ page, page ∈ a.mapped ↔ ∃ h ∈ a.pools, page ∈ h.pages
  headers : a.heap.allocated = a.pools.map Held.header
  safe : ∀ h ∈ a.pools, PoolSafe h.run
  apart : a.pools.Pairwise BlocksApart

structure Arena.Sound (a : Arena) : Prop where
  mapped : ∀ page, page ∈ a.mapped ↔ ∃ h ∈ a.pools, page ∈ h.pages
  headers : a.heap.allocated = a.pools.map Held.header
  fresh : ∀ h ∈ a.pools, h.header < a.heap.next
  distinct : (a.pools.map Held.header).Nodup
  bumped : ∀ h ∈ a.pools, Bumped h.run
  disjoint : a.pools.Pairwise fun h k => Disjoint h.pages k.pages

variable {a : Arena}

theorem empty_sound : Arena.empty.Sound where
  mapped := fun page => by simp [Arena.empty]
  headers := rfl
  fresh := fun h hh => by cases hh
  distinct := List.nodup_nil
  bumped := fun h hh => by cases hh
  disjoint := List.Pairwise.nil

theorem block_pages {h : Held} (hb : Bumped h.run) {b : Block} (hmem : b ∈ h.run.granted) {x : ℕ}
    (hx : x ∈ b.bytes) : x / memoptPageSize ∈ h.pages := by
  obtain ⟨hlo,hhi⟩ := hb.inside b hmem
  rw [Block.bytes,Finset.mem_Ico] at hx
  refine Finset.mem_image_of_mem _ (Finset.mem_Ico.mpr ⟨?_,?_⟩)
  · exact hlo.trans hx.1
  · exact lt_of_lt_of_le hx.2 hhi

theorem blocks_apart {h k : Held} (hh : Bumped h.run) (hk : Bumped k.run)
    (hdisjoint : Disjoint h.pages k.pages) : BlocksApart h k := by
  intro b hb c hc
  rw [Finset.disjoint_left]
  intro x hx hy
  exact Finset.disjoint_left.mp hdisjoint (block_pages hh hb hx) (block_pages hk hc hy)

theorem Arena.Sound.safe (h : a.Sound) : a.Safe where
  mapped := h.mapped
  headers := h.headers
  safe := fun k hk => (h.bumped k hk).toPoolSafe
  apart := h.disjoint.imp_of_mem fun hj hk => blocks_apart (h.bumped _ hj) (h.bumped _ hk)

theorem create_sound (h : a.Sound) {malloc : Bool} {mmap : Mmap} {size : SizeT} {flags : U64}
    {numaNode : Int} (hadmits : a.Admits (.create malloc mmap size flags numaNode)) :
    (a.step (.create malloc mmap size flags numaNode)).Sound := by
  rcases create_cases malloc mmap size flags numaNode a.heap with
    ⟨pool,hcreated,hbase,hfits,hused⟩ | ⟨next,hnext,hcreated⟩
  · have hapart := hadmits a.heap.next pool (by rw [hcreated])
    rw [Arena.step,hcreated]
    constructor
    · intro page
      simp only [Arena.create,Finset.mem_union,List.mem_cons,exists_eq_or_imp,h.mapped page]
      exact or_comm
    · simp [Arena.create,h.headers]
    · intro k hk
      rcases List.mem_cons.mp hk with rfl | hk
      · exact Nat.lt_succ_self _
      · exact Nat.lt_succ_of_lt (h.fresh k hk)
    · refine List.nodup_cons.mpr ⟨?_,h.distinct⟩
      intro hmem
      obtain ⟨k,hk,heq⟩ := List.mem_map.mp hmem
      exact absurd (h.fresh k hk) (by simp [heq])
    · intro k hk
      rcases List.mem_cons.mp hk with rfl | hk
      · exact ⟨⟨by simp [hused,BitVec.le_def],by simp,List.Pairwise.nil⟩,hbase,hfits,by simp⟩
      · exact h.bumped k hk
    · refine List.pairwise_cons.mpr ⟨fun k hk => ?_,h.disjoint⟩
      refine hapart.mono_right fun page hpage => ?_
      exact (h.mapped page).mpr ⟨k,hk,hpage⟩
  · rw [Arena.step,hcreated]
    exact { h with fresh := fun k hk => Nat.lt_of_lt_of_le (h.fresh k hk) hnext }

theorem poolStep_frame (s : PoolRun) (c : PoolCall) :
    (poolStep s c).pool.base = s.pool.base ∧ (poolStep s c).pool.size = s.pool.size := by
  cases c with
  | free ptr => exact ⟨rfl,rfl⟩
  | alloc size =>
    simp only [poolStep,memoptPoolAlloc]
    split
    · exact ⟨rfl,rfl⟩
    · split <;> exact ⟨rfl,rfl⟩

theorem call_header (header : ℕ) (call : PoolCall) (h : Held) :
    (h.call header call).header = h.header := by
  unfold Held.call
  split <;> rfl

theorem call_pages (header : ℕ) (call : PoolCall) (h : Held) :
    (h.call header call).pages = h.pages := by
  unfold Held.call
  split
  · obtain ⟨hbase,hsize⟩ := poolStep_frame h.run call
    simp only [Held.pages,touchedBy,hbase,hsize]
  · rfl

theorem call_sound (h : a.Sound) {header : ℕ} {call : PoolCall}
    (hfits : a.SumFits (.pool header call)) :
    (a.step (.pool header call)).Sound ∧ a.GrantExact (.pool header call) := by
  have hgood : ∀ k ∈ a.pools, k.header = header →
      Bumped (poolStep k.run call) ∧ GrantExact k.run call :=
    fun k hk heq => pool_step_good k.run call (h.bumped k hk) (hfits k hk heq)
  refine ⟨?_,fun k hk heq => (hgood k hk heq).2⟩
  have hheaders : (a.pools.map (Held.call header call)).map Held.header =
      a.pools.map Held.header := by
    rw [List.map_map]
    exact List.map_congr_left fun k _ => call_header header call k
  constructor
  · intro page
    simp only [Arena.step,List.mem_map,exists_exists_and_eq_and,call_pages,h.mapped page]
  · rw [Arena.step,hheaders]
    exact h.headers
  · intro k hk
    obtain ⟨j,hj,rfl⟩ := List.mem_map.mp hk
    rw [call_header]
    exact h.fresh j hj
  · rw [Arena.step,hheaders]
    exact h.distinct
  · intro k hk
    obtain ⟨j,hj,rfl⟩ := List.mem_map.mp hk
    unfold Held.call
    split
    · rename_i heq
      exact (hgood j hj heq).1
    · exact h.bumped j hj
  · refine List.pairwise_map.mpr (h.disjoint.imp fun hjk => ?_)
    rwa [call_pages,call_pages]

theorem destroy_sound (h : a.Sound) (header : ℕ) : (a.step (.destroy header)).Sound := by
  simp only [Arena.step]
  split
  · exact h
  · rename_i k hfind
    have hk : k ∈ a.pools := List.mem_of_find?_eq_some hfind
    have hkept : ∀ j ∈ a.pools, j.header ≠ k.header → Disjoint j.pages k.pages := by
      intro j hj hne
      have hsym : Std.Symm fun h k : Held => Disjoint h.pages k.pages := ⟨fun _ _ hjk => hjk.symm⟩
      exact h.disjoint.forall hj hk fun heq => hne (congrArg Held.header heq)
    have honly : ∀ j ∈ a.pools, j.header = k.header → j = k :=
      fun j hj heq => List.inj_on_of_nodup_map h.distinct hj hk heq
    constructor
    · intro page
      simp only [memoptPoolDestroy,Finset.mem_sdiff,h.mapped page,List.mem_filter,
        decide_eq_true_eq]
      constructor
      · rintro ⟨⟨j,hj,hpage⟩,hno⟩
        refine ⟨j,⟨hj,fun heq => ?_⟩,hpage⟩
        rw [honly j hj heq] at hpage
        exact hno hpage
      · rintro ⟨j,⟨hj,hne⟩,hpage⟩
        exact ⟨⟨j,hj,hpage⟩,Finset.disjoint_left.mp (hkept j hj hne) hpage⟩
    · simp only [memoptPoolDestroy,Heap.free,h.headers,h.distinct.erase_eq_filter,List.filter_map,
        Function.comp_def,ne_eq,decide_not]
      rfl
    · exact fun j hj => h.fresh j (List.mem_of_mem_filter hj)
    · exact h.distinct.sublist ((List.filter_sublist).map Held.header)
    · exact fun j hj => h.bumped j (List.mem_of_mem_filter hj)
    · exact h.disjoint.sublist List.filter_sublist

theorem arena_step_good (c : ArenaCall) (h : a.Sound) (hadmits : a.Admits c) (hfits : a.SumFits c) :
    (a.step c).Sound ∧ a.GrantExact c := by
  cases c with
  | create malloc mmap size flags numaNode => exact ⟨create_sound h hadmits,trivial⟩
  | pool header call => exact call_sound h hfits
  | destroy header => exact ⟨destroy_sound h header,trivial⟩

theorem arena_step_bad (c : ArenaCall) (h : a.Sound) (hexact : a.GrantExact c) : a.SumFits c := by
  cases c with
  | create malloc mmap size flags numaNode => trivial
  | pool header call =>
    exact fun k hk heq => pool_step_bad k.run call (h.bumped k hk) (hexact k hk heq)
  | destroy header => trivial

theorem arena_run_exact (calls : List ArenaCall) (hcalls : Along Arena.step Arena.Admits .empty calls) :
    Throughout Arena.step Arena.Safe .empty calls ∧
        Along Arena.step Arena.GrantExact .empty calls ↔
      Along Arena.step Arena.SumFits .empty calls :=
  exact_condition Arena.step (G := Arena.Sound) (fun _ h => h.safe)
    (fun _ c h hadmits hfits => arena_step_good c h hadmits hfits)
    (fun _ c h _ _ hexact => arena_step_bad c h hexact) calls .empty empty_sound hcalls

def sampleCalls : List ArenaCall :=
  [.create true sampleMmap 4096 0 (-1),.create true sampleMmap 16777216 0 (-1),.pool 1 (.alloc 4096),
    .destroy 1]

theorem arena_run_exact_sample :
    Throughout Arena.step Arena.Safe .empty sampleCalls ∧
      Along Arena.step Arena.GrantExact .empty sampleCalls := by
  have hadmits : Along Arena.step Arena.Admits .empty sampleCalls :=
    ⟨fun _ _ _ => Finset.disjoint_empty_right _,fun _ _ _ => Finset.disjoint_empty_right _,trivial,
      trivial,trivial⟩
  refine (arena_run_exact sampleCalls hadmits).mpr ⟨trivial,trivial,?_,trivial,trivial⟩
  intro h hh _
  rw [List.mem_singleton.mp hh]
  decide

end Uroam.Pool
