import Uroam.Shared.Session

namespace Uroam.Memopt
open Runs

inductive Event where
  | call (c : Call)
  | store (a : Addr) (value : BitVec 8)
  deriving DecidableEq, Repr

def Session.byte (s : Session) (a : Addr) : BitVec 8 := s.process.space.bytes a

def Session.store (s : Session) (a : Addr) (value : BitVec 8) : Session :=
  { s with process := { s.process with space := memset s.process.space a value 1 } }

def Session.event (s : Session) : Event → Session
  | .call c => s.call c
  | .store a value => s.store a value

def Block.covers (b : Block) (a : Addr) : Prop := b.ptr ≤ a ∧ a < b.ptr + b.size.toNat

def Session.permits (s : Session) : Event → Prop
  | .call c => s.admits c
  | .store a _ => ∃ b ∈ s.live, b.covers a

instance (b : Block) (a : Addr) : Decidable (b.covers a) :=
  inferInstanceAs (Decidable (b.ptr ≤ a ∧ a < b.ptr + b.size.toNat))

instance (s : Session) : (e : Event) → Decidable (s.permits e)
  | .call c => inferInstanceAs (Decidable (s.admits c))
  | .store a _ => inferInstanceAs (Decidable (∃ b ∈ s.live, b.covers a))

def Session.hasBlock (s : Session) (b : Block) : Prop :=
  b ∈ s.live ∧ b.pages ⊆ s.process.space.mapped

def ReallocKeeps (s : Session) (b : Block) (size : SizeT) (answer : Option Page) : Prop :=
  let result := (memoptRealloc (some b.ptr) size answer s.process).1
  let t := s.call (.realloc (some b.ptr) size answer)
  match answer with
  | some _ => ∃ new, result = some new ∧ t.hasBlock ⟨new, size⟩ ∧
      (∀ i, i < min b.size.toNat size.toNat → t.byte (new + i) = s.byte (b.ptr + i)) ∧
      ¬ t.holds (some b.ptr)
  | none => result = none ∧ t.hasBlock b ∧
      (∀ i, i < b.size.toNat → t.byte (b.ptr + i) = s.byte (b.ptr + i)) ∧
      memoptGetStats t.process = memoptGetStats s.process

-- Of the bytes to be kept only the first 4096 are copied; the rest of the new block reads zero.
def ZeroBeyondPage (s : Session) (b : Block) (size : SizeT) : Prop :=
  ∀ i, 4096 ≤ i → i < min b.size.toNat size.toNat → s.byte (b.ptr + i) = 0

theorem event_placed {s : Session} {e : Event} (hw : WellPlaced s.ledger) (he : s.permits e) :
    WellPlaced (s.event e).ledger := by
  cases e with
  | call c => exact call_placed hw he
  | store a value => exact hw

theorem run_placed (process : Process) (events : List Event)
    (he : Along Session.event Session.permits (.start process) events) :
    WellPlaced (exec Session.event (.start process) events).ledger :=
  invariant Session.event (I := fun s => WellPlaced s.ledger) (fun _ _ => event_placed) events _
    start_placed he

theorem realloc_process (s : Session) (b : Block) (size : SizeT) (page : Page) :
    (s.call (.realloc (some b.ptr) size (some page))).process.space.bytes =
      (memcpy (mapPages s.process.space page (smallPages size)) (page * memoptPageSize) b.ptr
        4096).bytes := by
  simp [Session.call,Session.receive,memoptRealloc,memoptAlloc,memoptAllocFlags,memoptAllocNone,
    mmap,memoptFree,munmap,smallPages]

theorem copied_byte {space : Space} {page : Page} {n i : ℕ} {old : Addr} (hi : i < 4096)
    (hfree : ¬ (page * memoptPageSize ≤ old + i ∧ old + i < (page + n) * memoptPageSize)) :
    (memcpy (mapPages space page n) (page * memoptPageSize) old 4096).bytes
      (page * memoptPageSize + i) = space.bytes (old + i) := by
  simp [memcpy,mapPages,hi,hfree]

theorem uncopied_byte {space : Space} {page : Page} {n i : ℕ} {old : Addr} (hi : 4096 ≤ i)
    (hn : i < n * memoptPageSize) :
    (memcpy (mapPages space page n) (page * memoptPageSize) old 4096).bytes
      (page * memoptPageSize + i) = 0 := by
  have hlt : page * memoptPageSize + i < (page + n) * memoptPageSize := by
    rw [Nat.add_mul]
    exact Nat.add_lt_add_left hn _
  simp [memcpy,mapPages,Nat.not_lt.mpr hi,hlt]

theorem size_within (size : SizeT) : size.toNat ≤ smallPages size * memoptPageSize := by
  by_contra hlt
  have hpos : 0 < memoptPageSize := by decide
  exact lt_irrefl _ ((Pages.lt_count_iff hpos).mpr (not_le.mp hlt))

theorem page_within {first page n i : ℕ} (hi : i < 4096)
    (hlo : page * memoptPageSize ≤ first * memoptPageSize + i)
    (hhi : first * memoptPageSize + i < (page + n) * memoptPageSize) :
    first ∈ Finset.Ico page (page + n) := by
  simp only [memoptPageSize] at hlo hhi
  exact Finset.mem_Ico.mpr ⟨by omega,by omega⟩

theorem old_outside {s : Session} {b : Block} (hw : WellPlaced s.ledger) (hb : b ∈ s.live)
    {page : Page} {n i : ℕ} (hfree : Disjoint (Finset.Ico page (page + n)) s.process.space.mapped)
    (hi : i < 4096) :
    ¬ (page * memoptPageSize ≤ b.ptr + i ∧ b.ptr + i < (page + n) * memoptPageSize) := by
  rintro ⟨hlo,hhi⟩
  obtain ⟨first,_,hptr⟩ := hw.aligned b hb
  have hmapped : first ∈ s.process.space.mapped :=
    hw.resident b hb (first_page hptr (hw.sized b hb))
  rw [hptr] at hlo hhi
  exact Finset.disjoint_left.mp hfree (page_within hi hlo hhi) hmapped

theorem kept_bytes {s : Session} {b : Block} (hw : WellPlaced s.ledger) (hb : b ∈ s.live)
    {size : SizeT} {page : Page}
    (hfresh : Fresh s.process.space size (smallPages size) (some page)) :
    (∀ i, i < min b.size.toNat size.toNat →
      (s.call (.realloc (some b.ptr) size (some page))).byte (page * memoptPageSize + i) =
        s.byte (b.ptr + i)) ↔ ZeroBeyondPage s b size := by
  have hwithin := size_within size
  simp only [Session.byte,realloc_process]
  constructor
  · intro hkept i hi hlt
    have hsize : i < smallPages size * memoptPageSize := by omega
    have hsame := hkept i hlt
    rw [uncopied_byte hi hsize] at hsame
    exact hsame.symm
  · intro hzero i hlt
    by_cases hi : i < 4096
    · exact copied_byte hi (old_outside hw hb hfresh.2.2 hi)
    · have hsize : i < smallPages size * memoptPageSize := by omega
      rw [uncopied_byte (not_lt.mp hi) hsize]
      exact (hzero i (not_lt.mp hi) hlt).symm

theorem realloc_live (s : Session) (b : Block) (size : SizeT) (page : Page) :
    (s.call (.realloc (some b.ptr) size (some page))).live =
      ⟨page * memoptPageSize, size⟩ :: without s.live (some b.ptr) := by
  simp [Session.call,Session.receive,memoptRealloc,memoptAlloc,memoptAllocFlags,memoptAllocNone,
    mmap]

theorem realloc_result (s : Session) (b : Block) (size : SizeT) (page : Page) :
    (memoptRealloc (some b.ptr) size (some page) s.process).1 = some (page * memoptPageSize) := by
  simp [memoptRealloc,memoptAlloc,memoptAllocFlags,memoptAllocNone,mmap]

theorem realloc_fails (s : Session) (b : Block) (size : SizeT) :
    memoptRealloc (some b.ptr) size none s.process = (none,s.process) := by
  simp [memoptRealloc,memoptAlloc,memoptAllocFlags,memoptAllocNone,mmap]

theorem realloc_drops {s : Session} {b : Block} (hw : WellPlaced s.ledger) (hb : b ∈ s.live)
    {size : SizeT} {page : Page}
    (hfresh : Fresh s.process.space size (smallPages size) (some page)) :
    ¬ (s.call (.realloc (some b.ptr) size (some page))).holds (some b.ptr) := by
  rintro ⟨c,hc,hptr⟩
  rw [realloc_live] at hc
  rcases List.mem_cons.mp hc with rfl | hc
  · exact fresh_ne_held hw (fresh_admits le_rfl hfresh) hb hptr.symm
  · obtain ⟨xs,ys,hl,hwithout,hother⟩ := split_held hw hb
    have hlive : without s.live (some b.ptr) = xs ++ ys := hwithout
    rw [hlive] at hc
    have hmem : c ∈ s.live := by
      change c ∈ s.ledger.live
      rw [hl]
      exact List.mem_append.mpr ((List.mem_append.mp hc).imp_right (List.mem_cons_of_mem b))
    obtain ⟨first,_,hfirst⟩ := hw.aligned b hb
    exact Finset.disjoint_left.mp (hother c hc) (first_page hfirst (hw.sized b hb))
      (first_page (hptr.trans hfirst) (hw.sized c hmem))

theorem realloc_moves {s : Session} {b : Block} (hw : WellPlaced s.ledger) (hb : b ∈ s.live)
    {size : SizeT} {page : Page}
    (hfresh : Fresh s.process.space size (smallPages size) (some page)) :
    ReallocKeeps s b size (some page) ↔ ZeroBeyondPage s b size := by
  have hadmits : s.admits (.realloc (some b.ptr) size (some page)) := ⟨⟨b,hb,rfl⟩,hfresh⟩
  have hnew : (s.call (.realloc (some b.ptr) size (some page))).hasBlock
      ⟨page * memoptPageSize, size⟩ := by
    have hmem : (⟨page * memoptPageSize, size⟩ : Block) ∈
        (s.call (.realloc (some b.ptr) size (some page))).live := by
      rw [realloc_live]
      exact List.mem_cons_self
    exact ⟨hmem,(call_placed hw hadmits).resident _ hmem⟩
  rw [← kept_bytes hw hb hfresh]
  constructor
  · rintro ⟨new,hresult,_,hbytes,_⟩
    rw [realloc_result] at hresult
    obtain rfl := Option.some.inj hresult
    exact hbytes
  · intro hbytes
    exact ⟨page * memoptPageSize,realloc_result ..,hnew,hbytes,realloc_drops hw hb hfresh⟩

theorem realloc_refused {s : Session} {b : Block} (hw : WellPlaced s.ledger) (hb : b ∈ s.live)
    (size : SizeT) : ReallocKeeps s b size none := by
  have hcall : s.call (.realloc (some b.ptr) size none) = s := by
    rw [Session.call,realloc_fails]
    rfl
  unfold ReallocKeeps
  rw [hcall,realloc_fails]
  exact ⟨rfl,⟨hb,hw.resident b hb⟩,fun _ _ => rfl,rfl⟩

theorem realloc_keeps_iff (process : Process) (events : List Event)
    (he : Along Session.event Session.permits (.start process) events) (b : Block)
    (hb : b ∈ (exec Session.event (.start process) events).live) (size : SizeT)
    (answer : Option Page)
    (hfresh : Fresh (exec Session.event (.start process) events).process.space size
      (smallPages size) answer) :
    ReallocKeeps (exec Session.event (.start process) events) b size answer ↔
      (answer = none ∨ ZeroBeyondPage (exec Session.event (.start process) events) b size) := by
  have hw := run_placed process events he
  cases answer with
  | none => simpa using realloc_refused hw hb size
  | some page => simpa using realloc_moves hw hb hfresh

def markedEvents : List Event := [.call (.alloc 8192 (some 16)),.store (65536 + 4096) 7]

def markedBlock : Block := ⟨65536, 8192⟩

def markedSession : Session :=
  exec Session.event (.start (memoptInit (.fresh fun _ => 0)).2) markedEvents

theorem marked_permitted :
    Along Session.event Session.permits (.start (memoptInit (.fresh fun _ => 0)).2)
      markedEvents := by
  refine ⟨?_,?_,trivial⟩
  · decide +kernel
  · exact ⟨markedBlock,by decide,by decide⟩

theorem realloc_keeps_iff_marked :
    ReallocKeeps markedSession markedBlock 8192 (some 32) ↔
      ((some 32 : Option Page) = none ∨ ZeroBeyondPage markedSession markedBlock 8192) :=
  realloc_keeps_iff _ markedEvents marked_permitted markedBlock (by decide) 8192 (some 32)
    (by decide +kernel)

theorem realloc_loses_byte :
    ¬ ∀ (process : Process) (events : List Event),
      Along Session.event Session.permits (.start process) events →
      ∀ b ∈ (exec Session.event (.start process) events).live, ∀ (size : SizeT)
        (answer : Option Page), size ≠ 0 →
        Fresh (exec Session.event (.start process) events).process.space size
          (smallPages size) answer →
        ReallocKeeps (exec Session.event (.start process) events) b size answer := by
  intro h
  obtain ⟨new,hresult,_,hbytes,_⟩ := h _ markedEvents marked_permitted markedBlock (by decide) 8192
    (some 32) (by decide) (by decide +kernel)
  rw [realloc_result] at hresult
  obtain rfl := Option.some.inj hresult
  exact absurd (hbytes 4096 (by decide)) (by decide +kernel)

end Uroam.Memopt
