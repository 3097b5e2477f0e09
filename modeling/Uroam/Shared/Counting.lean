import Uroam.Shared.Session

namespace Uroam.Memopt
open Runs

inductive Entry where
  | init
  | initWithPolicy (workload : MemoptWorkload)
  | shutdown
  | call (c : Call)
  | allocOnNode (size : SizeT) (node : ℤ) (answer : Option Page)
  | numaAwareAlloc (size : SizeT) (preferredNode : ℤ) (answer : Option Page)
  | numaAwareFree (ptr : Option Addr) (size : SizeT) (node : ℤ)
  deriving DecidableEq, Repr

inductive Answer where
  | nothing
  | pointer (ptr : Option Addr)
  | status (code : ℤ)
  deriving DecidableEq, Repr

def Answer.Failed (a : Answer) : Prop := a = .pointer none ∨ a = .status (-1)

def Session.callAnswer (s : Session) : Call → Answer
  | .alloc size answer => .pointer (memoptAlloc size answer s.process).1
  | .allocFlags size flags huge small =>
    .pointer (memoptAllocFlags size flags huge small s.process).1
  | .calloc nmemb size answer => .pointer (memoptCalloc nmemb size answer s.process).1
  | .realloc ptr size answer => .pointer (memoptRealloc ptr size answer s.process).1
  | .free _ => .nothing

def Session.answer (s : Session) : Entry → Answer
  | .init => .status (memoptInit s.process).1
  | .initWithPolicy workload => .status (memoptInitWithPolicy workload s.process).1
  | .shutdown => .nothing
  | .call c => s.callAnswer c
  | .allocOnNode size node answer => .status (memoptAllocOnNode size node answer s.process).2.1
  | .numaAwareAlloc size node answer => .pointer (memoptNumaAwareAlloc size node answer s.process).1
  | .numaAwareFree _ _ _ => .nothing

def Session.enter (s : Session) : Entry → Session
  | .init => { s with process := (memoptInit s.process).2 }
  | .initWithPolicy workload => { s with process := (memoptInitWithPolicy workload s.process).2 }
  | .shutdown => { s with process := memoptShutdown s.process }
  | .call c => s.call c
  | .allocOnNode size node answer =>
    let r := memoptAllocOnNode size node answer s.process
    s.receive none size (r.1,r.2.2)
  | .numaAwareAlloc size node answer =>
    s.receive none size (memoptNumaAwareAlloc size node answer s.process)
  | .numaAwareFree ptr size node =>
    { s with process := memoptNumaAwareFree ptr size node s.process, live := without s.live ptr }

def Session.allows (s : Session) : Entry → Prop
  | .init => s.process.gInitialized = true ∨ s.live = []
  | .initWithPolicy _ => s.process.gInitialized = true ∨ s.live = []
  | .call (.free ptr) => s.holds ptr
  | .call (.realloc ptr _ _) => s.holds ptr
  | .numaAwareFree ptr _ _ => s.holds ptr
  | _ => True

def CountsLive (s : Session) : Prop :=
  ((memoptGetStats s.process).allocationCount.toNat : ℤ) -
    (memoptGetStats s.process).freeCount.toNat = s.live.length

def FailureKeepsStats (s : Session) (e : Entry) : Prop :=
  (s.answer e).Failed → memoptGetStats (s.enter e).process = memoptGetStats s.process

def Allocates (p : Process) (r : Option Addr × Process) : Prop :=
  r.1 = none ∧ memoptGetStats r.2 = memoptGetStats p ∨
  ∃ ptr, r.1 = some ptr ∧ r.2.gAllocationCount = p.gAllocationCount + 1 ∧
    r.2.gFreeCount = p.gFreeCount

theorem alloc_flags_allocates (size : SizeT) (flags : U64) (huge small : Option Page)
    (p : Process) : Allocates p (memoptAllocFlags size flags huge small p) := by
  unfold memoptAllocFlags
  dsimp only
  split
  · exact .inl ⟨rfl,rfl⟩
  · exact .inr ⟨_,rfl,rfl,rfl⟩

theorem alloc_allocates (size : SizeT) (answer : Option Page) (p : Process) :
    Allocates p (memoptAlloc size answer p) := alloc_flags_allocates ..

theorem calloc_allocates (nmemb size : SizeT) (answer : Option Page) (p : Process) :
    Allocates p (memoptCalloc nmemb size answer p) := by
  unfold memoptCalloc
  rcases halloc : memoptAlloc (nmemb * size) answer p with ⟨_ | ptr,q⟩
  · have h := alloc_allocates (nmemb * size) answer p
    rw [halloc] at h
    exact h
  · have h := alloc_allocates (nmemb * size) answer p
    rw [halloc] at h
    rcases h with ⟨hnone,-⟩ | ⟨-,-,ha,hf⟩
    · cases hnone
    · exact .inr ⟨ptr,rfl,ha,hf⟩

theorem realloc_null (size : SizeT) (answer : Option Page) (p : Process) :
    memoptRealloc none size answer p = memoptAlloc size answer p := by
  unfold memoptRealloc
  rcases memoptAlloc size answer p with ⟨_ | ptr,q⟩ <;> rfl

def Counted (n : ℕ) (s : Session) : Prop :=
  s.process.gFreeCount.toNat + s.live.length = s.process.gAllocationCount.toNat ∧
    s.process.gAllocationCount.toNat ≤ n

theorem counted_live {n : ℕ} {s : Session} (h : Counted n s) : CountsLive s := by
  obtain ⟨hlive,-⟩ := h
  simp only [CountsLive,memoptGetStats]
  omega

theorem counted_mono {n k : ℕ} {s : Session} (hk : n ≤ k) (h : Counted n s) : Counted k s :=
  ⟨h.1,h.2.trans hk⟩

theorem counted_receive {n : ℕ} {s : Session} {size : SizeT} {r : Option Addr × Process}
    (hn : n + 1 < 2 ^ 64) (h : Counted n s) (hr : Allocates s.process r) :
    Counted (n + 1) (s.receive none size r) := by
  obtain ⟨result,q⟩ := r
  rcases hr with ⟨rfl,hstats⟩ | ⟨ptr,rfl,ha,hf⟩
  · have hf : q.gFreeCount = s.process.gFreeCount := congrArg MemoptStats.freeCount hstats
    have ha : q.gAllocationCount = s.process.gAllocationCount :=
      congrArg MemoptStats.allocationCount hstats
    apply counted_mono (Nat.le_succ n)
    simpa [Counted,Session.receive,ha,hf] using h
  · obtain ⟨hlive,hle⟩ := h
    simp only [Counted,Session.receive,without_none,List.length_cons] at ha hf ⊢
    rw [ha,hf,BitVec.toNat_add]
    have hone : (1 : U64).toNat = 1 := rfl
    omega

theorem without_length {s : Session} {ptr : Addr} (h : s.holds (some ptr)) :
    (without s.live (some ptr)).length + 1 = s.live.length := by
  obtain ⟨b,hb,rfl⟩ := h
  have hlength := List.length_eraseP_of_mem (p := fun c : Block => some c.ptr == some b.ptr) hb
    (by simp)
  have hpos := List.length_pos_of_mem hb
  unfold without
  omega

theorem counted_free {n : ℕ} {s : Session} {ptr : Option Addr} (h : Counted n s)
    (hheld : s.holds ptr) :
    Counted n { s with process := memoptFree ptr s.process, live := without s.live ptr } := by
  cases ptr with
  | none => simpa [memoptFree] using h
  | some ptr =>
    obtain ⟨hlive,hle⟩ := h
    have hlength := without_length hheld
    have hone : (1 : U64).toNat = 1 := rfl
    simp only [Counted,memoptFree,BitVec.toNat_add]
    omega

theorem counted_realloc {n : ℕ} {s : Session} {ptr : Option Addr} {size : SizeT}
    {answer : Option Page} (hn : n + 1 < 2 ^ 64) (h : Counted n s) (hheld : s.holds ptr) :
    Counted (n + 1) (s.receive ptr size (memoptRealloc ptr size answer s.process)) := by
  cases ptr with
  | none =>
    rw [realloc_null]
    exact counted_receive hn h (alloc_allocates size answer s.process)
  | some old =>
    have halloc : Counted (n + 1) (s.receive none size (memoptAlloc size answer s.process)) :=
      counted_receive hn h (alloc_allocates size answer s.process)
    unfold memoptRealloc
    rcases hr : memoptAlloc size answer s.process with ⟨_ | new,q⟩
    · rw [hr] at halloc
      exact halloc
    · rw [hr] at halloc
      obtain ⟨hlive,hle⟩ := halloc
      have hlength := without_length hheld
      have hone : (1 : U64).toNat = 1 := rfl
      simp only [Session.receive,without_none,List.length_cons] at hlive hle
      simp only [Counted,Session.receive,memoptFree,List.length_cons,BitVec.toNat_add]
      omega

theorem init_counted {n : ℕ} {s : Session} (h : Counted n s)
    (hready : s.process.gInitialized = true ∨ s.live = []) :
    Counted n { s with process := (memoptInit s.process).2 } := by
  unfold memoptInit
  split_ifs with hinit
  · exact h
  · rcases hready with hready | hempty
    · exact absurd hready hinit
    · simp [Counted,hempty]

theorem enter_counted {n : ℕ} {s : Session} {e : Entry} (hn : n + 1 < 2 ^ 64) (h : Counted n s)
    (he : s.allows e) : Counted (n + 1) (s.enter e) := by
  have hnext : ∀ t, Counted n t → Counted (n + 1) t := fun _ => counted_mono (Nat.le_succ n)
  cases e with
  | init => exact hnext _ (init_counted h he)
  | initWithPolicy workload => exact hnext _ (init_counted h he)
  | shutdown => exact hnext _ h
  | call c =>
    cases c with
    | alloc size answer => exact counted_receive hn h (alloc_allocates ..)
    | allocFlags size flags huge small => exact counted_receive hn h (alloc_flags_allocates ..)
    | calloc nmemb size answer => exact counted_receive hn h (calloc_allocates ..)
    | realloc ptr size answer => exact counted_realloc hn h he
    | free ptr => exact hnext _ (counted_free h he)
  | allocOnNode size node answer => exact counted_receive hn h (alloc_allocates ..)
  | numaAwareAlloc size node answer => exact counted_receive hn h (alloc_allocates ..)
  | numaAwareFree ptr size node => exact hnext _ (counted_free h he)

theorem allocates_keeps {p : Process} {r : Option Addr × Process} (h : Allocates p r)
    (hnone : r.1 = none) : memoptGetStats r.2 = memoptGetStats p := by
  rcases h with ⟨-,hstats⟩ | ⟨ptr,hsome,-⟩
  · exact hstats
  · rw [hnone] at hsome
    cases hsome

theorem receive_process (s : Session) (old : Option Addr) (size : SizeT)
    (r : Option Addr × Process) : (s.receive old size r).process = r.2 := by
  obtain ⟨_ | ptr,q⟩ := r <;> rfl

theorem realloc_keeps {ptr : Option Addr} {size : SizeT} {answer : Option Page} {p : Process}
    (hnone : (memoptRealloc ptr size answer p).1 = none) :
    memoptGetStats (memoptRealloc ptr size answer p).2 = memoptGetStats p := by
  cases ptr with
  | none =>
    rw [realloc_null] at hnone ⊢
    exact allocates_keeps (alloc_allocates size answer p) hnone
  | some old =>
    have halloc := alloc_allocates size answer p
    unfold memoptRealloc at hnone ⊢
    rcases hr : memoptAlloc size answer p with ⟨_ | new,q⟩
    · rw [hr] at halloc
      exact allocates_keeps halloc rfl
    · rw [hr] at hnone
      cases hnone

theorem pointer_failed {ptr : Option Addr} : (Answer.pointer ptr).Failed ↔ ptr = none := by
  simp [Answer.Failed]

theorem init_succeeds (p : Process) : (memoptInit p).1 = 0 := by
  unfold memoptInit
  split_ifs <;> rfl

theorem enter_failure (s : Session) (e : Entry) : FailureKeepsStats s e := by
  intro hfailed
  cases e with
  | init => simp [Session.answer,Answer.Failed,init_succeeds] at hfailed
  | initWithPolicy workload =>
    simp [Session.answer,Answer.Failed,memoptInitWithPolicy,init_succeeds] at hfailed
  | shutdown => simp [Session.answer,Answer.Failed] at hfailed
  | call c =>
    cases c with
    | alloc size answer =>
      rw [Session.enter,Session.call,receive_process]
      exact allocates_keeps (alloc_allocates ..) (pointer_failed.mp hfailed)
    | allocFlags size flags huge small =>
      rw [Session.enter,Session.call,receive_process]
      exact allocates_keeps (alloc_flags_allocates ..) (pointer_failed.mp hfailed)
    | calloc nmemb size answer =>
      rw [Session.enter,Session.call,receive_process]
      exact allocates_keeps (calloc_allocates ..) (pointer_failed.mp hfailed)
    | realloc ptr size answer =>
      rw [Session.enter,Session.call,receive_process]
      exact realloc_keeps (pointer_failed.mp hfailed)
    | free ptr => simp [Session.answer,Session.callAnswer,Answer.Failed] at hfailed
  | allocOnNode size node answer =>
    have hnone : (memoptAlloc size answer s.process).1 = none := by
      cases hptr : (memoptAlloc size answer s.process).1 with
      | none => rfl
      | some ptr => simp [Session.answer,Answer.Failed,memoptAllocOnNode,hptr] at hfailed
    simp only [Session.enter,receive_process,memoptAllocOnNode]
    exact allocates_keeps (alloc_allocates ..) hnone
  | numaAwareAlloc size node answer =>
    rw [Session.enter,receive_process]
    exact allocates_keeps (alloc_allocates ..) (pointer_failed.mp hfailed)
  | numaAwareFree ptr size node => simp [Session.answer,Answer.Failed] at hfailed

theorem start_counted (bytes : Addr → BitVec 8) :
    Counted 0 (.start (memoptInit (.fresh bytes)).2) := ⟨rfl,le_rfl⟩

theorem counts_run (bytes : Addr → BitVec 8) (entries : List Entry)
    (hallowed : Along Session.enter Session.allows (.start (memoptInit (.fresh bytes)).2) entries)
    (hlength : entries.length < 2 ^ 64) :
    Throughout Session.enter CountsLive (.start (memoptInit (.fresh bytes)).2) entries ∧
      Along Session.enter FailureKeepsStats (.start (memoptInit (.fresh bytes)).2) entries := by
  refine ⟨?_,along_all _ enter_failure entries _⟩
  have hstep : ∀ n s e, n < 2 ^ 64 - 1 → Counted n s → s.allows e → Counted (n + 1) (s.enter e) :=
    fun n s e hn hs he => enter_counted (by omega) hs he
  have hrun := throughout_counted Session.enter hstep entries 0 _ (start_counted bytes) hallowed
    (by omega)
  exact throughout_mono _ (fun s ⟨n,_,hn⟩ => counted_live hn) entries _ hrun

def mixedEntries : List Entry :=
  [.initWithPolicy .gaming,.call (.alloc 1024 (some 16)),.allocOnNode 4096 1 (some 20),
    .call (.realloc (some 65536) 8192 (some 32)),.numaAwareAlloc 64 0 none,.shutdown,
    .numaAwareFree (some 81920) 4096 1,.call (.free (some 131072)),.call (.free none),.init]

theorem counts_run_sample :
    Throughout Session.enter CountsLive (.start (memoptInit (.fresh fun _ => 0)).2) mixedEntries ∧
      Along Session.enter FailureKeepsStats (.start (memoptInit (.fresh fun _ => 0)).2)
        mixedEntries := by
  refine counts_run (fun _ => 0) mixedEntries ?_ (by decide)
  refine ⟨.inl rfl,trivial,trivial,?_,trivial,trivial,?_,?_,trivial,.inr rfl,trivial⟩
  · exact ⟨⟨65536,1024⟩,by decide,rfl⟩
  · exact ⟨⟨81920,4096⟩,by decide,rfl⟩
  · exact ⟨⟨131072,8192⟩,by decide,rfl⟩

end Uroam.Memopt
