import Mathlib.Data.Nat.Basic
import Mathlib.Order.Interval.Finset.Nat
import Uroam.Library.Runs
import Uroam.Shared.Memopt

namespace Uroam.Pool
open Runs Memopt

abbrev Pointer := BitVec 64

def null : Pointer := 0

structure MemoptPool where
  base : Pointer
  size : SizeT
  used : SizeT
  flags : U64
  numaNode : Int
  deriving DecidableEq, Repr

structure Mmap where
  run : SizeT → Option Pointer
  inside : ∀ size base, run size = some base → base ≠ null ∧ base.toNat + size.toNat < 2 ^ 64

structure Heap where
  allocated : List ℕ
  next : ℕ
  deriving DecidableEq, Repr

def Heap.malloc (heap : Heap) (granted : Bool) : Option ℕ × Heap :=
  if granted then (some heap.next,⟨heap.next :: heap.allocated,heap.next + 1⟩) else (none,heap)

def Heap.free (heap : Heap) (header : ℕ) : Heap :=
  { heap with allocated := heap.allocated.erase header }

def memoptPoolCreate (malloc : Bool) (mmap : Mmap) (size : SizeT) (flags : U64) (numaNode : Int)
    (heap : Heap) : Option (ℕ × MemoptPool) × Heap :=
  match heap.malloc malloc with
  | (none,heap) => (none,heap)
  | (some header,heap) =>
    match mmap.run size with
    | none => (none,heap.free header)
    | some base => (some (header,{ base, size, used := 0, flags, numaNode }),heap)

def memoptPoolAlloc (pool : MemoptPool) (size : SizeT) : Pointer × MemoptPool :=
  if pool.base = null then (null, pool)
  else if pool.used + size > pool.size then (null, pool)
  else (pool.base + pool.used, { pool with used := pool.used + size })

def memoptPoolFree (pool : MemoptPool) (_ptr : Pointer) : MemoptPool := pool

theorem create_cases (malloc : Bool) (mmap : Mmap) (size : SizeT) (flags : U64) (numaNode : Int)
    (heap : Heap) :
    (∃ pool, memoptPoolCreate malloc mmap size flags numaNode heap =
        (some (heap.next,pool),⟨heap.next :: heap.allocated,heap.next + 1⟩) ∧
      pool.base ≠ null ∧ pool.base.toNat + pool.size.toNat < 2 ^ 64 ∧ pool.used = 0) ∨
    ∃ next, heap.next ≤ next ∧
      memoptPoolCreate malloc mmap size flags numaNode heap = (none,⟨heap.allocated,next⟩) := by
  unfold memoptPoolCreate Heap.malloc
  cases malloc with
  | false => exact .inr ⟨heap.next,Nat.le_refl _,rfl⟩
  | true =>
    cases hm : mmap.run size with
    | none =>
      refine .inr ⟨heap.next + 1,Nat.le_succ _,?_⟩
      simp [Heap.free]
    | some base =>
      obtain ⟨hbase,hfits⟩ := mmap.inside size base hm
      exact .inl ⟨⟨base,size,0,flags,numaNode⟩,by simp,hbase,hfits,rfl⟩

theorem pool_create_cases {malloc : Bool} {mmap : Mmap} {size : SizeT} {flags : U64}
    {numaNode : Int} {heap : Heap} {header : ℕ} {pool : MemoptPool}
    (h : (memoptPoolCreate malloc mmap size flags numaNode heap).1 = some (header,pool)) :
    pool.base ≠ null ∧ pool.base.toNat + pool.size.toNat < 2 ^ 64 ∧ pool.used = 0 := by
  rcases create_cases malloc mmap size flags numaNode heap with ⟨taken,heq,hpool⟩ | ⟨next,_,heq⟩
  · rw [heq] at h
    cases h
    exact hpool
  · rw [heq] at h
    cases h

inductive PoolCall where
  | alloc (size : SizeT)
  | free (ptr : Pointer)
  deriving DecidableEq, Repr

structure Block where
  ptr : Pointer
  size : SizeT
  deriving DecidableEq, Repr

def Block.bytes (b : Block) : Finset ℕ := Finset.Ico b.ptr.toNat (b.ptr.toNat + b.size.toNat)

structure PoolRun where
  pool : MemoptPool
  granted : List Block
  deriving DecidableEq, Repr

def poolStep (s : PoolRun) : PoolCall → PoolRun
  | .alloc size =>
    let (ptr, pool) := memoptPoolAlloc s.pool size
    { pool, granted := if ptr = null then s.granted else ⟨ptr, size⟩ :: s.granted }
  | .free ptr => { s with pool := memoptPoolFree s.pool ptr }

structure PoolSafe (s : PoolRun) : Prop where
  used_le : s.pool.used ≤ s.pool.size
  inside : ∀ b ∈ s.granted, s.pool.base.toNat ≤ b.ptr.toNat ∧
    b.ptr.toNat + b.size.toNat ≤ s.pool.base.toNat + s.pool.size.toNat
  disjoint : s.granted.Pairwise (fun b c => Disjoint b.bytes c.bytes)

def GrantExact (s : PoolRun) : PoolCall → Prop
  | .alloc size =>
    ((memoptPoolAlloc s.pool size).1 ≠ null ↔
      (size.toNat : ℤ) ≤ (s.pool.size.toNat : ℤ) - s.pool.used.toNat) ∧
    ((memoptPoolAlloc s.pool size).1 = null → (memoptPoolAlloc s.pool size).2 = s.pool)
  | .free _ => True

def SumFits (s : PoolRun) : PoolCall → Prop
  | .alloc size => s.pool.used.toNat + size.toNat < 2 ^ 64
  | .free _ => True

instance (s : PoolRun) : (c : PoolCall) → Decidable (SumFits s c)
  | .alloc size => inferInstanceAs (Decidable (s.pool.used.toNat + size.toNat < 2 ^ 64))
  | .free _ => instDecidableTrue

structure Bumped (s : PoolRun) : Prop extends PoolSafe s where
  base_ne : s.pool.base ≠ null
  fits : s.pool.base.toNat + s.pool.size.toNat < 2 ^ 64
  below : ∀ b ∈ s.granted, b.ptr.toNat + b.size.toNat ≤ s.pool.base.toNat + s.pool.used.toNat

theorem base_pos {p : Pointer} (h : p ≠ null) : 0 < p.toNat := by
  have : p.toNat ≠ 0 := fun h0 => h (BitVec.eq_of_toNat_eq (by simpa [null] using h0))
  omega

theorem used_toNat {s : PoolRun} (h : Bumped s) : s.pool.used.toNat ≤ s.pool.size.toNat :=
  BitVec.le_def.mp h.used_le

theorem bump_pointer {s : PoolRun} (h : Bumped s) :
    (s.pool.base + s.pool.used).toNat = s.pool.base.toNat + s.pool.used.toNat := by
  have hu := used_toNat h
  have hf := h.fits
  rw [BitVec.toNat_add]
  omega

theorem bump_pointer_ne {s : PoolRun} (h : Bumped s) : s.pool.base + s.pool.used ≠ null := by
  intro h0
  have hp := bump_pointer h
  have hb := base_pos h.base_ne
  rw [h0] at hp
  simp [null] at hp
  omega

theorem alloc_wraps {s : PoolRun} (h : Bumped s) {size : SizeT}
    (hw : 2 ^ 64 ≤ s.pool.used.toNat + size.toNat) :
    memoptPoolAlloc s.pool size =
      (s.pool.base + s.pool.used, { s.pool with used := s.pool.used + size }) := by
  have hu := used_toNat h
  have hle : ¬ s.pool.used + size > s.pool.size := by
    have hs := s.pool.size.isLt
    have hz := size.isLt
    simp only [gt_iff_lt,BitVec.lt_def,BitVec.toNat_add]
    omega
  simp [memoptPoolAlloc,h.base_ne,hle]

theorem alloc_cases {s : PoolRun} (h : Bumped s) {size : SizeT}
    (hfit : s.pool.used.toNat + size.toNat < 2 ^ 64) :
    (s.pool.used.toNat + size.toNat ≤ s.pool.size.toNat ∧
      (s.pool.used + size).toNat = s.pool.used.toNat + size.toNat ∧
      memoptPoolAlloc s.pool size =
        (s.pool.base + s.pool.used, { s.pool with used := s.pool.used + size })) ∨
    (s.pool.size.toNat < s.pool.used.toNat + size.toNat ∧
      memoptPoolAlloc s.pool size = (null, s.pool)) := by
  have hsum : (s.pool.used + size).toNat = s.pool.used.toNat + size.toNat := by
    rw [BitVec.toNat_add]
    omega
  rcases Nat.lt_or_ge s.pool.size.toNat (s.pool.used.toNat + size.toNat) with hlt | hge
  · have hgt : s.pool.used + size > s.pool.size := by
      simpa [BitVec.lt_def,hsum] using hlt
    exact Or.inr ⟨hlt,by simp [memoptPoolAlloc,h.base_ne,hgt]⟩
  · have hle : ¬ s.pool.used + size > s.pool.size := by
      simpa [BitVec.lt_def,hsum] using hge
    exact Or.inl ⟨hge,hsum,by simp [memoptPoolAlloc,h.base_ne,hle]⟩

theorem bumped_grant {s : PoolRun} (h : Bumped s) {size : SizeT}
    (hle : s.pool.used.toNat + size.toNat ≤ s.pool.size.toNat)
    (hsum : (s.pool.used + size).toNat = s.pool.used.toNat + size.toNat) :
    Bumped ⟨{ s.pool with used := s.pool.used + size },
      ⟨s.pool.base + s.pool.used, size⟩ :: s.granted⟩ := by
  have hp := bump_pointer h
  refine ⟨⟨?_,?_,?_⟩,h.base_ne,h.fits,?_⟩
  · simpa [BitVec.le_def,hsum] using hle
  · intro b hb
    rcases List.mem_cons.mp hb with rfl | hb
    · simp only [hp]
      omega
    · exact h.inside b hb
  · refine List.pairwise_cons.mpr ⟨?_,h.disjoint⟩
    intro b hb
    have hbelow := h.below b hb
    rw [Block.bytes,Block.bytes,hp,Finset.disjoint_left]
    intro x hx hy
    rw [Finset.mem_Ico] at hx hy
    omega
  · intro b hb
    rcases List.mem_cons.mp hb with rfl | hb
    · simp only [hp,hsum]
      omega
    · have hbelow := h.below b hb
      simp only [hsum]
      omega

theorem pool_step_good (s : PoolRun) (c : PoolCall) (h : Bumped s) (hc : SumFits s c) :
    Bumped (poolStep s c) ∧ GrantExact s c := by
  cases c with
  | free ptr => exact ⟨h,trivial⟩
  | alloc size =>
    rcases alloc_cases h hc with ⟨hle,hsum,ha⟩ | ⟨hlt,ha⟩
    · have hne := bump_pointer_ne h
      refine ⟨?_,?_⟩
      · simpa [poolStep,ha,hne] using bumped_grant h hle hsum
      · simp only [GrantExact,ha]
        exact ⟨⟨fun _ => by omega,fun _ => hne⟩,fun h0 => absurd h0 hne⟩
    · refine ⟨?_,?_⟩
      · simpa [poolStep,ha] using h
      · simp only [GrantExact,ha]
        exact ⟨⟨fun h0 => absurd rfl h0,fun hz => by omega⟩,fun _ => trivial⟩

theorem pool_step_bad (s : PoolRun) (c : PoolCall) (h : Bumped s) (hq : GrantExact s c) :
    SumFits s c := by
  cases c with
  | free ptr => trivial
  | alloc size =>
    by_contra hw
    have hw' : 2 ^ 64 ≤ s.pool.used.toNat + size.toNat := by simpa [SumFits] using hw
    have hgrant : (memoptPoolAlloc s.pool size).1 ≠ null := by
      rw [alloc_wraps h hw']
      exact bump_pointer_ne h
    have hle := hq.1.mp hgrant
    have hs := s.pool.size.isLt
    omega

theorem pool_run_exact (malloc : Bool) (mmap : Mmap) (size : SizeT) (flags : U64)
    (numaNode : Int) (heap : Heap) (header : ℕ) (pool : MemoptPool) (calls : List PoolCall)
    (h : (memoptPoolCreate malloc mmap size flags numaNode heap).1 = some (header,pool)) :
    Throughout poolStep PoolSafe ⟨pool, []⟩ calls ∧ Along poolStep GrantExact ⟨pool, []⟩ calls ↔
      Along poolStep SumFits ⟨pool, []⟩ calls := by
  obtain ⟨hb,hf,hu⟩ := pool_create_cases h
  have hstart : Bumped ⟨pool, []⟩ :=
    ⟨⟨by simp [hu,BitVec.le_def],by simp,List.Pairwise.nil⟩,hb,hf,by simp⟩
  exact exact_condition poolStep (E := fun _ _ => True) (fun s hs => hs.toPoolSafe)
    (fun s c hs _ hc => pool_step_good s c hs hc)
    (fun s c hs _ _ hq => pool_step_bad s c hs hq) calls _ hstart (along_true poolStep calls _)

def sampleMmap : Mmap where
  run size := if size = 16777216 then some 0x7f0000000000 else none
  inside size base h := by
    split at h
    · next hs =>
      cases h
      subst hs
      decide
    · cases h

def samplePool : MemoptPool := ⟨0x7f0000000000, 16777216, 0, 0, -1⟩

theorem pool_run_exact_sample :
    Throughout poolStep PoolSafe ⟨samplePool, []⟩ [.alloc 4096, .free 0x7f0000000000, .alloc 8] ∧
    Along poolStep GrantExact ⟨samplePool, []⟩ [.alloc 4096, .free 0x7f0000000000, .alloc 8] :=
  (pool_run_exact true sampleMmap 16777216 0 (-1) ⟨[],0⟩ 0 samplePool _ rfl).mpr
    ⟨by decide,trivial,by decide,trivial⟩

theorem pool_wrap_overlap :
    ¬ (Throughout poolStep PoolSafe ⟨samplePool, []⟩
        [.alloc 16, .alloc 0xfffffffffffffff0, .alloc 16] ∧
      Along poolStep GrantExact ⟨samplePool, []⟩
        [.alloc 16, .alloc 0xfffffffffffffff0, .alloc 16]) := by
  rintro ⟨hsafe,_⟩
  have hfinal := (throughout_iff _ _ _ _).mp hsafe _ List.prefix_rfl
  have hpair := hfinal.disjoint
  have hmem : (0x7f0000000000 : ℕ) ∈ (⟨0x7f0000000000, 16⟩ : Block).bytes := by
    simp [Block.bytes]
  have hd : Disjoint (⟨0x7f0000000000, 16⟩ : Block).bytes (⟨0x7f0000000000, 16⟩ : Block).bytes :=
    (List.pairwise_cons.mp hpair).1 ⟨0x7f0000000000, 16⟩ (by decide)
  exact Finset.disjoint_left.mp hd hmem hmem

end Uroam.Pool
