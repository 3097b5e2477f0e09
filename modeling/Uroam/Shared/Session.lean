import Mathlib.Algebra.Order.BigOperators.Group.List
import Uroam.Library.Runs
import Uroam.Shared.Memopt

namespace Uroam.Memopt
open Runs

structure Block where
  ptr : Addr
  size : SizeT
  deriving DecidableEq, Repr

def Block.pages (b : Block) : Finset Page := Pages.touched memoptPageSize b.ptr b.size.toNat

structure Session where
  process : Process
  live : List Block
  granted : ℕ

inductive Call where
  | alloc (size : SizeT) (answer : Option Page)
  | allocFlags (size : SizeT) (flags : U64) (huge small : Option Page)
  | calloc (nmemb size : SizeT) (answer : Option Page)
  | realloc (ptr : Option Addr) (size : SizeT) (answer : Option Page)
  | free (ptr : Option Addr)
  deriving DecidableEq, Repr

def without (live : List Block) (ptr : Option Addr) : List Block :=
  live.eraseP (fun b => some b.ptr == ptr)

def Session.receive (s : Session) (old : Option Addr) (size : SizeT) :
    Option Addr × Process → Session
  | (none, p) => { s with process := p }
  | (some new, p) =>
    { process := p, live := ⟨new, size⟩ :: without s.live old, granted := s.granted + size.toNat }

def Session.call (s : Session) : Call → Session
  | .alloc size answer => s.receive none size (memoptAlloc size answer s.process)
  | .allocFlags size flags huge small =>
    s.receive none size (memoptAllocFlags size flags huge small s.process)
  | .calloc nmemb size answer =>
    s.receive none (nmemb * size) (memoptCalloc nmemb size answer s.process)
  | .realloc ptr size answer => s.receive ptr size (memoptRealloc ptr size answer s.process)
  | .free ptr => { s with process := memoptFree ptr s.process, live := without s.live ptr }

def Session.holds (s : Session) : Option Addr → Prop
  | none => True
  | some ptr => ∃ b ∈ s.live, b.ptr = ptr

-- `mmap` refuses an empty mapping and never hands out page zero or a page in use.
def Fresh (space : Space) (size : SizeT) (n : ℕ) : Option Page → Prop
  | none => True
  | some page => size ≠ 0 ∧ 0 < page ∧ Disjoint (Finset.Ico page (page + n)) space.mapped

def smallPages (size : SizeT) : ℕ := Pages.count memoptPageSize size.toNat

def hugePages (size : SizeT) : ℕ :=
  Pages.count memoptHugepageSize size.toNat * (memoptHugepageSize / memoptPageSize)

def Session.admits (s : Session) : Call → Prop
  | .alloc size answer => Fresh s.process.space size (smallPages size) answer
  | .allocFlags size _ huge small =>
    Fresh s.process.space size (hugePages size) huge ∧
      Fresh s.process.space size (smallPages size) small
  | .calloc nmemb size answer =>
    Fresh s.process.space (nmemb * size) (smallPages (nmemb * size)) answer
  | .realloc ptr size answer => s.holds ptr ∧ Fresh s.process.space size (smallPages size) answer
  | .free ptr => s.holds ptr

instance (s : Session) : (ptr : Option Addr) → Decidable (s.holds ptr)
  | none => instDecidableTrue
  | some ptr => inferInstanceAs (Decidable (∃ b ∈ s.live, b.ptr = ptr))

instance (space : Space) (size : SizeT) (n : ℕ) :
    (answer : Option Page) → Decidable (Fresh space size n answer)
  | none => instDecidableTrue
  | some page => inferInstanceAs (Decidable (size ≠ 0 ∧ 0 < page ∧
      Disjoint (Finset.Ico page (page + n)) space.mapped))

instance (s : Session) : (c : Call) → Decidable (s.admits c)
  | .alloc size answer => inferInstanceAs (Decidable (Fresh _ size _ answer))
  | .allocFlags size _ huge small =>
    inferInstanceAs (Decidable (Fresh _ size _ huge ∧ Fresh _ size _ small))
  | .calloc nmemb size answer => inferInstanceAs (Decidable (Fresh _ (nmemb * size) _ answer))
  | .realloc ptr size answer => inferInstanceAs (Decidable (s.holds ptr ∧ Fresh _ size _ answer))
  | .free ptr => inferInstanceAs (Decidable (s.holds ptr))

structure Ledger where
  mapped : Finset Page
  live : List Block
  granted : ℕ
  totalAllocated : SizeT
  totalFreed : SizeT
  poolUsed : SizeT

def Session.ledger (s : Session) : Ledger where
  mapped := s.process.space.mapped
  live := s.live
  granted := s.granted
  totalAllocated := s.process.gTotalAllocated
  totalFreed := s.process.gTotalFreed
  poolUsed := s.process.gPoolUsed

inductive Move where
  | grant (page : Page) (n : ℕ) (size : SizeT)
  | release (ptr : Addr)
  deriving DecidableEq, Repr

def Ledger.move (l : Ledger) : Move → Ledger
  | .grant page n size =>
    { l with
      mapped := l.mapped ∪ Finset.Ico page (page + n)
      live := ⟨page * memoptPageSize, size⟩ :: l.live
      granted := l.granted + size.toNat
      totalAllocated := l.totalAllocated + size
      poolUsed := l.poolUsed + size }
  | .release ptr =>
    { l with
      mapped := l.mapped \ Pages.touched memoptPageSize ptr 4096
      live := without l.live (some ptr)
      poolUsed := if l.poolUsed > 4096 then l.poolUsed - 4096 else 0 }

def Ledger.admits (l : Ledger) : Move → Prop
  | .grant page n size =>
    size ≠ 0 ∧ 0 < page ∧ smallPages size ≤ n ∧ Disjoint (Finset.Ico page (page + n)) l.mapped
  | .release ptr => ∃ b ∈ l.live, b.ptr = ptr

def grants (size : SizeT) : Option Page → List Move
  | none => []
  | some page => [.grant page (smallPages size) size]

def releases (ptr : Option Addr) : List Move := (ptr.map Move.release).toList

def grantsFlags (size : SizeT) (flags : U64) (huge small : Option Page) : List Move :=
  if flags &&& memoptAllocHugepage ≠ 0 then
    match huge with
    | some page => [.grant page (hugePages size) size]
    | none => grants size small
  else grants size small

def Call.grantMoves : Call → List Move
  | .alloc size answer => grants size answer
  | .allocFlags size flags huge small => grantsFlags size flags huge small
  | .calloc nmemb size answer => grants (nmemb * size) answer
  | .realloc _ size answer => grants size answer
  | .free _ => []

def Call.released : Call → Option Addr
  | .free ptr => ptr
  | .realloc ptr _ (some _) => ptr
  | _ => none

def Call.moves (c : Call) : List Move := c.grantMoves ++ releases c.released

structure WellPlaced (l : Ledger) : Prop where
  aligned : ∀ b ∈ l.live, ∃ page, 0 < page ∧ b.ptr = page * memoptPageSize
  sized : ∀ b ∈ l.live, b.size ≠ 0
  resident : ∀ b ∈ l.live, b.pages ⊆ l.mapped
  separated : l.live.Pairwise (fun b c => Disjoint b.pages c.pages)

theorem size_pos {size : SizeT} (h : size ≠ 0) : 0 < size.toNat := by
  have : size.toNat ≠ 0 := fun h0 => h (BitVec.eq_of_toNat_eq (by simpa using h0))
  omega

theorem pages_at (page : Page) (size : SizeT) :
    (⟨page * memoptPageSize, size⟩ : Block).pages = Finset.Ico page (page + smallPages size) :=
  Pages.touched_aligned (by decide) page size.toNat

theorem first_page {b : Block} {page : Page} (hp : b.ptr = page * memoptPageSize)
    (hs : b.size ≠ 0) : page ∈ b.pages := by
  rw [Block.pages,hp]
  exact Pages.first_mem_touched (by decide) (size_pos hs)

@[simp] theorem without_none (live : List Block) : without live none = live :=
  List.eraseP_of_forall_not (by simp)

theorem held_unique {l : Ledger} (h : WellPlaced l) {b c : Block} (hb : b ∈ l.live)
    (hc : c ∈ l.live) (hptr : b.ptr = c.ptr) : b = c := by
  by_contra hne
  obtain ⟨page,_,hpage⟩ := h.aligned b hb
  have : Std.Symm (fun b c : Block => Disjoint b.pages c.pages) := ⟨fun _ _ hd => hd.symm⟩
  have hd : Disjoint b.pages c.pages := h.separated.forall hb hc hne
  exact Finset.disjoint_left.mp hd (first_page hpage (h.sized b hb))
    (first_page (hptr ▸ hpage) (h.sized c hc))

theorem split_held {l : Ledger} (h : WellPlaced l) {b : Block} (hb : b ∈ l.live) :
    ∃ xs ys, l.live = xs ++ b :: ys ∧ without l.live (some b.ptr) = xs ++ ys ∧
      ∀ c ∈ xs ++ ys, Disjoint b.pages c.pages := by
  obtain ⟨a,xs,ys,_,ha,hl,he⟩ :=
    List.exists_of_eraseP (p := fun c => some c.ptr == some b.ptr) hb (by simp)
  have hab : a = b := held_unique h (by simp [hl]) hb (by simpa using ha)
  subst hab
  have hsep := h.separated
  rw [hl] at hsep
  refine ⟨xs,ys,hl,he,?_⟩
  intro c hc
  rcases List.mem_append.mp hc with hc | hc
  · exact ((List.pairwise_append.mp hsep).2.2 c hc a (by simp)).symm
  · exact (List.pairwise_cons.mp (List.pairwise_append.mp hsep).2.1).1 c hc

theorem release_touches {b : Block} {page : Page} (hp : b.ptr = page * memoptPageSize) :
    Pages.touched memoptPageSize b.ptr 4096 = {page} := by
  rw [hp]
  exact Pages.touched_one (by decide) page

theorem placed_release {l : Ledger} (h : WellPlaced l) {b : Block} (hb : b ∈ l.live) :
    WellPlaced (l.move (.release b.ptr)) := by
  obtain ⟨xs,ys,hl,hw,hother⟩ := split_held h hb
  obtain ⟨page,_,hpage⟩ := h.aligned b hb
  have hmem : ∀ c, c ∈ xs ++ ys → c ∈ l.live := by
    intro c hc
    rw [hl]
    simp only [List.mem_append,List.mem_cons] at hc ⊢
    tauto
  have hsep := h.separated
  rw [hl] at hsep
  simp only [Ledger.move,hw]
  refine ⟨fun c hc => h.aligned c (hmem c hc),fun c hc => h.sized c (hmem c hc),?_,?_⟩
  · intro c hc k hk
    have hne : k ≠ page := by
      rintro rfl
      exact Finset.disjoint_left.mp (hother c hc) (first_page hpage (h.sized b hb)) hk
    rw [release_touches hpage,Finset.mem_sdiff,Finset.mem_singleton]
    exact ⟨h.resident c (hmem c hc) hk,hne⟩
  · exact hsep.sublist ((List.sublist_cons_self b ys).append_left xs)

theorem placed_grant {l : Ledger} (h : WellPlaced l) {page : Page} {n : ℕ} {size : SizeT}
    (ha : l.admits (.grant page n size)) : WellPlaced (l.move (.grant page n size)) := by
  obtain ⟨hs,hpos,hn,hfree⟩ := ha
  have hnew : (⟨page * memoptPageSize, size⟩ : Block).pages ⊆ Finset.Ico page (page + n) := by
    rw [pages_at]
    exact Finset.Ico_subset_Ico_right (Nat.add_le_add_left hn page)
  refine ⟨?_,?_,?_,?_⟩
  · intro b hb
    rcases List.mem_cons.mp hb with rfl | hb
    · exact ⟨page,hpos,rfl⟩
    · exact h.aligned b hb
  · intro b hb
    rcases List.mem_cons.mp hb with rfl | hb
    · exact hs
    · exact h.sized b hb
  · intro b hb
    rcases List.mem_cons.mp hb with rfl | hb
    · exact hnew.trans Finset.subset_union_right
    · exact (h.resident b hb).trans Finset.subset_union_left
  · refine List.pairwise_cons.mpr ⟨?_,h.separated⟩
    intro b hb
    exact (hfree.mono_left hnew).mono_right (h.resident b hb)

theorem placed_move {l : Ledger} (h : WellPlaced l) (m : Move) (ha : l.admits m) :
    WellPlaced (l.move m) := by
  cases m with
  | grant page n size => exact placed_grant h ha
  | release ptr =>
    obtain ⟨b,hb,rfl⟩ := ha
    exact placed_release h hb

theorem smallPages_le_hugePages (size : SizeT) : smallPages size ≤ hugePages size := by
  have hle : size.toNat ≤ Pages.count memoptHugepageSize size.toNat * memoptHugepageSize := by
    by_contra hlt
    have hpos : 0 < memoptHugepageSize := by decide
    have := (Pages.lt_count_iff hpos).mpr (not_le.mp hlt)
    omega
  have hsz : memoptHugepageSize = memoptHugepageSize / memoptPageSize * memoptPageSize := by decide
  unfold smallPages hugePages
  by_contra hlt
  rw [not_le,Pages.lt_count_iff (by decide),Nat.mul_assoc,← hsz] at hlt
  omega

theorem receive_alloc_flags (s : Session) (size : SizeT) (flags : U64) (huge small : Option Page) :
    (s.receive none size (memoptAllocFlags size flags huge small s.process)).ledger =
      exec Ledger.move s.ledger (grantsFlags size flags huge small) := by
  have plain : (flags &&& memoptAllocHugepage = 0#64 ∨ huge = none) →
      (s.receive none size (memoptAllocFlags size flags huge small s.process)).ledger =
        exec Ledger.move s.ledger (grants size small) := by
    intro h
    by_cases hz : flags &&& memoptAllocZeroed = 0#64 <;> rcases h with h | h <;> cases small <;>
      simp [memoptAllocFlags,h,hz,mmapHugetlb,mmap,grants,Session.receive,Session.ledger,
        Ledger.move,mapPages,memset,smallPages]
  unfold grantsFlags
  split
  · next hf =>
    cases huge with
    | none => exact plain (Or.inr rfl)
    | some page =>
      have hf' : flags &&& memoptAllocHugepage ≠ 0#64 := hf
      by_cases hz : flags &&& memoptAllocZeroed = 0#64 <;>
        simp [memoptAllocFlags,hf',hz,mmapHugetlb,Session.receive,Session.ledger,Ledger.move,
          mapPages,memset,hugePages]
  · next hf => exact plain (Or.inl (not_not.mp hf))

theorem receive_alloc (s : Session) (size : SizeT) (answer : Option Page) :
    (s.receive none size (memoptAlloc size answer s.process)).ledger =
      exec Ledger.move s.ledger (grants size answer) := by
  have h := receive_alloc_flags s size memoptAllocNone none answer
  simpa [memoptAlloc,grantsFlags,memoptAllocNone] using h

theorem free_ledger (s : Session) (ptr : Option Addr) :
    ({ s with process := memoptFree ptr s.process, live := without s.live ptr } : Session).ledger =
      exec Ledger.move s.ledger (releases ptr) := by
  cases ptr <;> simp [memoptFree,releases,Session.ledger,Ledger.move,munmap]

theorem smallPages_pos {size : SizeT} (h : size ≠ 0) : 0 < smallPages size :=
  Pages.count_pos (by decide) (size_pos h)

theorem fresh_ne_held {l : Ledger} (h : WellPlaced l) {page : Page} {n : ℕ} {size : SizeT}
    (ha : l.admits (.grant page n size)) {b : Block} (hb : b ∈ l.live) :
    b.ptr ≠ page * memoptPageSize := by
  intro hptr
  have hn : 0 < n := lt_of_lt_of_le (smallPages_pos ha.1) ha.2.2.1
  have hnew : page ∈ Finset.Ico page (page + n) :=
    Finset.left_mem_Ico.mpr (Nat.lt_add_of_pos_right hn)
  have hold := h.resident b hb (first_page hptr (h.sized b hb))
  exact Finset.disjoint_left.mp ha.2.2.2 hnew hold

theorem fresh_admits {s : Session} {size : SizeT} {n : ℕ} {page : Page} (hle : smallPages size ≤ n)
    (h : Fresh s.process.space size n (some page)) : s.ledger.admits (.grant page n size) :=
  ⟨h.1,h.2.1,hle,h.2.2⟩

theorem grants_admitted {s : Session} {size : SizeT} {answer : Option Page}
    (h : Fresh s.process.space size (smallPages size) answer) :
    Along Ledger.move Ledger.admits s.ledger (grants size answer) := by
  cases answer with
  | none => trivial
  | some page => exact ⟨fresh_admits le_rfl h,trivial⟩

theorem moves_admitted {s : Session} {c : Call} (h : s.admits c) :
    Along Ledger.move Ledger.admits s.ledger c.moves := by
  cases c with
  | alloc size answer =>
    simpa [Call.moves,Call.grantMoves,Call.released,releases] using grants_admitted h
  | allocFlags size flags huge small =>
    simp only [Call.moves,Call.grantMoves,Call.released,releases,grantsFlags]
    split
    · cases huge with
      | none => simpa using grants_admitted h.2
      | some page => exact ⟨fresh_admits (smallPages_le_hugePages size) h.1,trivial⟩
    · simpa using grants_admitted h.2
  | calloc nmemb size answer =>
    simpa [Call.moves,Call.grantMoves,Call.released,releases] using grants_admitted h
  | free ptr =>
    cases ptr with
    | none => trivial
    | some ptr => exact ⟨h,trivial⟩
  | realloc ptr size answer =>
    cases answer with
    | none => trivial
    | some page =>
      refine ⟨fresh_admits le_rfl h.2,?_⟩
      cases ptr with
      | none => trivial
      | some ptr =>
        obtain ⟨b,hb,hp⟩ := h.1
        exact ⟨⟨b,List.mem_cons_of_mem _ hb,hp⟩,trivial⟩

theorem call_refines {s : Session} {c : Call} (hw : WellPlaced s.ledger) (ha : s.admits c) :
    (s.call c).ledger = exec Ledger.move s.ledger c.moves := by
  cases c with
  | alloc size answer =>
    simpa [Session.call,Call.moves,Call.grantMoves,Call.released,releases] using
      receive_alloc s size answer
  | allocFlags size flags huge small =>
    simpa [Session.call,Call.moves,Call.grantMoves,Call.released,releases] using
      receive_alloc_flags s size flags huge small
  | calloc nmemb size answer =>
    have hgrant := receive_alloc s (nmemb * size) answer
    cases answer <;>
      simpa [Session.call,Call.moves,Call.grantMoves,Call.released,releases,memoptCalloc,
        memoptAlloc,memoptAllocFlags,memoptAllocNone,mmap,Session.receive,Session.ledger,
        memset] using hgrant
  | free ptr => exact free_ledger s ptr
  | realloc ptr size answer =>
    cases answer with
    | none =>
      simp [Session.call,Call.moves,Call.grantMoves,Call.released,releases,grants,memoptRealloc,
        memoptAlloc,memoptAllocFlags,memoptAllocNone,mmap,Session.receive]
    | some page =>
      have hgrant := receive_alloc s size (some page)
      cases ptr with
      | none =>
        simpa [Session.call,Call.moves,Call.grantMoves,Call.released,releases,memoptRealloc]
          using hgrant
      | some ptr =>
        obtain ⟨b,hb,hp⟩ := ha.1
        have hne : page * memoptPageSize ≠ ptr :=
          fun h => fresh_ne_held hw (fresh_admits le_rfl ha.2) hb (hp.trans h.symm)
        simp [Session.call,Call.moves,Call.grantMoves,Call.released,memoptRealloc,memoptAlloc,
          memoptAllocFlags,memoptAllocNone,mmap,Session.receive,Session.ledger,Ledger.move,grants,
          releases,without,memoptFree,munmap,memcpy,mapPages,smallPages,hne]

theorem placed_moves {l : Ledger} (h : WellPlaced l) {ms : List Move}
    (ha : Along Ledger.move Ledger.admits l ms) : WellPlaced (exec Ledger.move l ms) :=
  invariant Ledger.move (fun _ m hl hm => placed_move hl m hm : ∀ (l : Ledger) (m : Move),
    WellPlaced l → l.admits m → WellPlaced (l.move m)) ms l h ha

theorem call_placed {s : Session} {c : Call} (hw : WellPlaced s.ledger) (ha : s.admits c) :
    WellPlaced (s.call c).ledger := by
  rw [call_refines hw ha]
  exact placed_moves hw (moves_admitted ha)

theorem admits_released {s : Session} {c : Call} (h : s.admits c) : s.holds c.released := by
  cases c with
  | free ptr => exact h
  | realloc ptr size answer =>
    cases answer with
    | none => trivial
    | some page => exact h.1
  | _ => trivial

theorem grantMoves_cases (c : Call) :
    c.grantMoves = [] ∨ ∃ page n size, c.grantMoves = [.grant page n size] := by
  have hgrants : ∀ size answer, grants size answer = [] ∨
      ∃ page n size', grants size answer = [.grant page n size'] := by
    intro size answer
    cases answer with
    | none => exact Or.inl rfl
    | some page => exact Or.inr ⟨page,smallPages size,size,rfl⟩
  cases c with
  | free ptr => exact Or.inl rfl
  | allocFlags size flags huge small =>
    simp only [Call.grantMoves,grantsFlags]
    split
    · cases huge with
      | none => exact hgrants size small
      | some page => exact Or.inr ⟨page,hugePages size,size,rfl⟩
    · exact hgrants size small
  | _ => exact hgrants _ _

theorem held_after_grants {l : Ledger} {b : Block} (hb : b ∈ l.live) (c : Call) :
    b ∈ (exec Ledger.move l c.grantMoves).live := by
  rcases grantMoves_cases c with hc | ⟨page,n,size,hc⟩
  · rw [hc]
    exact hb
  · rw [hc]
    exact List.mem_cons_of_mem _ hb

def Session.start (process : Process) : Session := ⟨process, [], 0⟩

theorem start_placed {process : Process} : WellPlaced (Session.start process).ledger :=
  ⟨by simp [Session.start,Session.ledger],by simp [Session.start,Session.ledger],
    by simp [Session.start,Session.ledger],List.Pairwise.nil⟩

end Uroam.Memopt
