import Uroam.Library.Runs

namespace Uroam.Kernel
open Runs

inductive Work where
  | trackingScan
  | numaUpdate
  | pressureCheck
  | clearTracked
  | psiTriggerDestroy
  | psiGroupCleanup
  deriving DecidableEq, Repr

inductive Worker where
  | created
  | loopTest
  | body (todo : List Work)
  | waitTest
  | asleep
  | timedOut
  | leaving
  | returned
  | neverRan
  deriving DecidableEq, Repr

inductive Exit where
  | testRunning
  | clearRunning
  | wakeUpAll
  | testThread
  | kthreadStop
  | awaitThread
  | clearThread
  | cleanup (todo : List Work)
  | done
  deriving DecidableEq, Repr

structure Shared where
  running : Bool
  thread : Bool
  numaAware : Bool
  shouldStop : Bool
  worker : Worker
  exit : Exit
  log : List Work
  deriving DecidableEq, Repr

def Shared.loaded (numaAware : Bool) : Shared :=
  ⟨true,true,numaAware,false,.created,.testRunning,[]⟩

inductive Turn where
  | worker
  | timeout
  | exit
  | setNumaAware (on : Bool)
  deriving DecidableEq, Repr

def Worker.woken : Worker → Worker
  | .asleep => .waitTest
  | w => w

def Worker.ended : Worker → Bool
  | .returned => true
  | .neverRan => true
  | _ => false

def Work.due (numaAware : Bool) : Work → Bool
  | .numaUpdate => numaAware
  | _ => true

-- A thread that is stopped before its first turn never enters its function. Kernel threads ignore
-- signals, so the interruptible wait ends by its condition or by the timeout only.
def threadFn (body : List Work) (s : Shared) : Shared :=
  match s.worker with
  | .created => { s with worker := if s.shouldStop then .neverRan else .loopTest }
  | .loopTest => { s with worker := if s.running then .body body else .leaving }
  | .body [] => { s with worker := .waitTest }
  | .body (work :: todo) =>
    { s with
      worker := .body todo
      log := if work.due s.numaAware then s.log ++ [work] else s.log }
  | .waitTest => { s with worker := if s.running then .asleep else .leaving }
  | .asleep => s
  | .timedOut => { s with worker := if s.running then .loopTest else .leaving }
  | .leaving => { s with worker := .returned }
  | .returned => s
  | .neverRan => s

def trackingThreadFn : Shared → Shared := threadFn [.trackingScan,.numaUpdate]

def pressureMonitorFn : Shared → Shared := threadFn [.pressureCheck]

def monitorExit (cleanup : List Work) (s : Shared) : Shared :=
  match s.exit with
  | .testRunning => { s with exit := if s.running then .clearRunning else .cleanup cleanup }
  | .clearRunning => { s with running := false, exit := .wakeUpAll }
  | .wakeUpAll => { s with worker := s.worker.woken, exit := .testThread }
  | .testThread => { s with exit := if s.thread then .kthreadStop else .cleanup cleanup }
  | .kthreadStop => { s with shouldStop := true, worker := s.worker.woken, exit := .awaitThread }
  | .awaitThread => { s with exit := if s.worker.ended then .clearThread else .awaitThread }
  | .clearThread => { s with thread := false, exit := .cleanup cleanup }
  | .cleanup [] => { s with exit := .done }
  | .cleanup (work :: todo) => { s with exit := .cleanup todo, log := s.log ++ [work] }
  | .done => s

def uroamTrackingExit : Shared → Shared := monitorExit [.clearTracked]

def uroamPressureExit : Shared → Shared := monitorExit [.psiTriggerDestroy,.psiGroupCleanup]

def timeoutStep (s : Shared) : Shared :=
  match s.worker with
  | .asleep => { s with worker := .timedOut }
  | _ => s

def step (fn exit : Shared → Shared) (s : Shared) : Turn → Shared
  | .worker => fn s
  | .timeout => timeoutStep s
  | .exit => exit s
  | .setNumaAware on => { s with numaAware := on }

def trackingStep : Shared → Turn → Shared := step trackingThreadFn uroamTrackingExit

def pressureStep : Shared → Turn → Shared := step pressureMonitorFn uroamPressureExit

def StopsLive (s : Shared) (t : Turn) : Prop :=
  t = .exit → s.exit = .kthreadStop → s.worker ≠ .returned

def Exit.BeforeClear (e : Exit) : Prop := e = .testRunning ∨ e = .clearRunning

def Exit.Stopping (e : Exit) : Prop := e = .wakeUpAll ∨ e = .testThread ∨ e = .kthreadStop

def ReturnsStopped (s : Shared) (t : Turn) : Prop :=
  t = .worker → s.worker = .leaving → ¬ s.exit.Stopping

structure Guarded (s : Shared) : Prop where
  beforeClear : s.exit.BeforeClear → s.running = true
  thread : s.exit.BeforeClear ∨ s.exit.Stopping → s.thread = true
  runs : s.running = true → s.worker ≠ .leaving ∧ s.worker ≠ .returned
  live : s.exit.Stopping → s.worker ≠ .returned

def Exit.Stopped (e : Exit) : Prop := ¬ e.BeforeClear ∧ ¬ e.Stopping

structure Late (s : Shared) : Prop where
  stopping : s.exit.Stopping
  thread : s.thread = true
  returned : s.worker = .returned

theorem loaded_guarded (numaAware : Bool) : Guarded (.loaded numaAware) where
  beforeClear := fun _ => rfl
  thread := fun _ => rfl
  runs := fun _ => ⟨nofun,nofun⟩
  live := fun _ => nofun

theorem woken_leaving {w : Worker} : w.woken = .leaving ↔ w = .leaving := by
  cases w <;> simp [Worker.woken]

theorem woken_returned {w : Worker} : w.woken = .returned ↔ w = .returned := by
  cases w <;> simp [Worker.woken]

theorem guarded_of_stopped {s : Shared} (he : s.exit.Stopped)
    (hruns : s.running = true → s.worker ≠ .leaving ∧ s.worker ≠ .returned) : Guarded s where
  beforeClear := fun h => absurd h he.1
  thread := fun h => absurd h (not_or.mpr he)
  runs := hruns
  live := fun h => absurd h he.2

theorem guarded_of_worker {s t : Shared} (h : Guarded s)
    (hframe : t.running = s.running ∧ t.thread = s.thread ∧ t.exit = s.exit)
    (hruns : s.running = true → t.worker ≠ .leaving ∧ t.worker ≠ .returned)
    (hlive : s.exit.Stopping → t.worker ≠ .returned) : Guarded t := by
  obtain ⟨hrunning,hthread,hexit⟩ := hframe
  refine ⟨?_,?_,?_,?_⟩
  · rw [hexit,hrunning]
    exact h.beforeClear
  · rw [hexit,hthread]
    exact h.thread
  · rw [hrunning]
    exact hruns
  · rw [hexit]
    exact hlive

section Members

variable {body cleanup : List Work} {s : Shared}

theorem threadFn_frame (body : List Work) (s : Shared) :
    (threadFn body s).running = s.running ∧ (threadFn body s).thread = s.thread ∧
      (threadFn body s).exit = s.exit := by
  unfold threadFn
  split <;> exact ⟨rfl,rfl,rfl⟩

theorem threadFn_leaving (h : (threadFn body s).worker = .leaving) : s.running = false := by
  by_contra hup
  have hr : s.running = true := by simpa using hup
  cases hw : s.worker with
  | created => cases hs : s.shouldStop <;> simp [threadFn,hw,hs] at h
  | body todo => cases todo <;> simp [threadFn,hw] at h
  | _ => simp [threadFn,hw,hr] at h

theorem threadFn_returned (h : (threadFn body s).worker = .returned) :
    s.worker = .leaving ∨ s.worker = .returned := by
  cases hw : s.worker with
  | created => cases hs : s.shouldStop <;> simp [threadFn,hw,hs] at h
  | body todo => cases todo <;> simp [threadFn,hw] at h
  | leaving => exact .inl rfl
  | returned => exact .inr rfl
  | _ => cases hr : s.running <;> simp [threadFn,hw,hr] at h

theorem timeoutStep_frame (s : Shared) :
    (timeoutStep s).running = s.running ∧ (timeoutStep s).thread = s.thread ∧
      (timeoutStep s).exit = s.exit := by
  unfold timeoutStep
  split <;> exact ⟨rfl,rfl,rfl⟩

theorem timeoutStep_leaving (h : (timeoutStep s).worker = .leaving) : s.worker = .leaving := by
  unfold timeoutStep at h
  split at h
  · simp at h
  · exact h

theorem timeoutStep_returned (h : (timeoutStep s).worker = .returned) : s.worker = .returned := by
  unfold timeoutStep at h
  split at h
  · simp at h
  · exact h

theorem threadFn_guarded (h : Guarded s) (hc : ReturnsStopped s .worker) :
    Guarded (threadFn body s) := by
  apply guarded_of_worker h (threadFn_frame body s)
  · intro hr
    refine ⟨fun hl => ?_,fun hl => ?_⟩
    · simp [threadFn_leaving hl] at hr
    · rcases threadFn_returned hl with hl | hl
      · exact (h.runs hr).1 hl
      · exact (h.runs hr).2 hl
  · intro hs hl
    rcases threadFn_returned hl with hl | hl
    · exact hc rfl hl hs
    · exact h.live hs hl

theorem timeoutStep_guarded (h : Guarded s) : Guarded (timeoutStep s) := by
  apply guarded_of_worker h (timeoutStep_frame s)
  · intro hr
    exact ⟨fun hl => (h.runs hr).1 (timeoutStep_leaving hl),
      fun hl => (h.runs hr).2 (timeoutStep_returned hl)⟩
  · exact fun hs hl => h.live hs (timeoutStep_returned hl)

theorem monitorExit_guarded (h : Guarded s) : Guarded (monitorExit cleanup s) := by
  cases he : s.exit with
  | testRunning =>
    have hr := h.beforeClear (.inl he)
    have ht := h.thread (.inl (.inl he))
    refine ⟨fun _ => ?_,fun _ => ?_,fun _ => ?_,?_⟩
    · simp [monitorExit,he,hr]
    · simp [monitorExit,he,ht]
    · simpa [monitorExit,he] using h.runs hr
    · simp [monitorExit,he,hr,Exit.Stopping]
  | clearRunning =>
    have hr := h.beforeClear (.inr he)
    have ht := h.thread (.inl (.inr he))
    refine ⟨?_,fun _ => ?_,?_,fun _ => ?_⟩
    · simp [monitorExit,he,Exit.BeforeClear]
    · simp [monitorExit,he,ht]
    · simp [monitorExit,he]
    · simpa [monitorExit,he] using (h.runs hr).2
  | wakeUpAll =>
    have hs : s.exit.Stopping := .inl he
    refine ⟨?_,fun _ => ?_,?_,fun _ => ?_⟩
    · simp [monitorExit,he,Exit.BeforeClear]
    · simpa [monitorExit,he] using h.thread (.inr hs)
    · simpa [monitorExit,he,woken_leaving,woken_returned] using h.runs
    · simpa [monitorExit,he,woken_returned] using h.live hs
  | testThread =>
    have hs : s.exit.Stopping := .inr (.inl he)
    have ht := h.thread (.inr hs)
    refine ⟨?_,fun _ => ?_,?_,fun _ => ?_⟩
    · simp [monitorExit,he,ht,Exit.BeforeClear]
    · simp [monitorExit,he,ht]
    · simpa [monitorExit,he] using h.runs
    · simpa [monitorExit,he] using h.live hs
  | kthreadStop =>
    apply guarded_of_stopped
    · simp [monitorExit,he,Exit.Stopped,Exit.BeforeClear,Exit.Stopping]
    · simpa [monitorExit,he,woken_leaving,woken_returned] using h.runs
  | awaitThread =>
    apply guarded_of_stopped
    · cases hw : s.worker.ended <;> simp [monitorExit,he,hw,Exit.Stopped,Exit.BeforeClear,Exit.Stopping]
    · simpa [monitorExit,he] using h.runs
  | clearThread =>
    apply guarded_of_stopped
    · simp [monitorExit,he,Exit.Stopped,Exit.BeforeClear,Exit.Stopping]
    · simpa [monitorExit,he] using h.runs
  | cleanup todo =>
    apply guarded_of_stopped
    · cases todo <;> simp [monitorExit,he,Exit.Stopped,Exit.BeforeClear,Exit.Stopping]
    · cases todo <;> simpa [monitorExit,he] using h.runs
  | done => simpa [monitorExit,he] using h

theorem step_guarded {t : Turn} (h : Guarded s) (hc : ReturnsStopped s t) :
    Guarded (step (threadFn body) (monitorExit cleanup) s t) ∧ StopsLive s t := by
  refine ⟨?_,fun _ he => h.live (.inr (.inr he))⟩
  cases t with
  | worker => exact threadFn_guarded h hc
  | timeout => exact timeoutStep_guarded h
  | exit => exact monitorExit_guarded h
  | setNumaAware on => exact ⟨h.beforeClear,h.thread,h.runs,h.live⟩

theorem early_return_late {t : Turn} (h : Guarded s) (hc : ¬ ReturnsStopped s t) :
    Late (step (threadFn body) (monitorExit cleanup) s t) := by
  obtain ⟨rfl,hw,hs⟩ : t = .worker ∧ s.worker = .leaving ∧ s.exit.Stopping := by
    simpa [ReturnsStopped] using hc
  have hreturns : threadFn body s = { s with worker := .returned } := by simp [threadFn,hw]
  rw [step,hreturns]
  exact ⟨hs,h.thread (.inr hs),rfl⟩

theorem late_wakeUpAll (h : Late s) (he : s.exit = .wakeUpAll) :
    monitorExit cleanup s = { s with exit := .testThread } := by
  simp [monitorExit,he,h.returned,Worker.woken]

theorem late_testThread (h : Late s) (he : s.exit = .testThread) :
    monitorExit cleanup s = { s with exit := .kthreadStop } := by
  simp [monitorExit,he,h.thread]

theorem late_step {t : Turn} (h : Late s) (hq : StopsLive s t) :
    Late (step (threadFn body) (monitorExit cleanup) s t) := by
  have hw := h.returned
  cases t with
  | worker => simpa [step,threadFn,hw] using h
  | timeout => simpa [step,timeoutStep,hw] using h
  | exit =>
    rcases h.stopping with he | he | he
    · rw [step,late_wakeUpAll h he]
      exact ⟨.inr (.inl rfl),h.thread,hw⟩
    · rw [step,late_testThread h he]
      exact ⟨.inr (.inr rfl),h.thread,hw⟩
    · exact absurd hw (hq rfl he)
  | setNumaAware on => exact ⟨h.stopping,h.thread,hw⟩

theorem late_fires (h : Late s) :
    ¬ Along (step (threadFn body) (monitorExit cleanup)) StopsLive s (List.replicate 3 .exit) := by
  rintro ⟨hfirst,hsecond,hthird,_⟩
  simp only [step] at hsecond hthird
  rcases h.stopping with he | he | he
  · have hnext : Late { s with exit := .testThread } := ⟨.inr (.inl rfl),h.thread,h.returned⟩
    rw [late_wakeUpAll h he,late_testThread hnext rfl] at hthird
    exact hthird rfl rfl h.returned
  · rw [late_testThread h he] at hsecond
    exact hsecond rfl rfl h.returned
  · exact hfirst rfl he h.returned

theorem exits_along (body cleanup : List Work) (s : Shared) (more : Nat) :
    Along (step (threadFn body) (monitorExit cleanup)) ReturnsStopped s
      (List.replicate more .exit) := by
  induction more generalizing s with
  | zero => trivial
  | succ more ih => exact ⟨nofun,ih _⟩

theorem stops_live_exact (body cleanup : List Work) (turns : List Turn) (hs : Guarded s) :
    (∀ more, Along (step (threadFn body) (monitorExit cleanup)) StopsLive s
        (turns ++ List.replicate more .exit)) ↔
      Along (step (threadFn body) (monitorExit cleanup)) ReturnsStopped s turns := by
  have hgood : ∀ s t, Guarded s → ReturnsStopped s t →
      Guarded (step (threadFn body) (monitorExit cleanup) s t) ∧ StopsLive s t :=
    fun _ _ => step_guarded
  have harms : ∀ s t, Guarded s → ¬ ReturnsStopped s t →
      Late (step (threadFn body) (monitorExit cleanup) s t) := fun _ _ => early_return_late
  constructor
  · intro h
    exact condition_of_sequel _ (fun s t hg hc => (hgood s t hg hc).1) harms
      (fun _ _ => late_step) (fun _ => late_fires) turns s hs (h 3)
  · intro h more
    apply along_of_invariant _ hgood _ s hs
    rw [along_append]
    exact ⟨h,exits_along body cleanup _ more⟩

end Members

theorem stops_live_iff (numaAware : Bool) (turns : List Turn) :
    ((∀ more, Along trackingStep StopsLive (.loaded numaAware)
        (turns ++ List.replicate more .exit)) ↔
      Along trackingStep ReturnsStopped (.loaded numaAware) turns) ∧
    ((∀ more, Along pressureStep StopsLive (.loaded numaAware)
        (turns ++ List.replicate more .exit)) ↔
      Along pressureStep ReturnsStopped (.loaded numaAware) turns) := by
  have hs := loaded_guarded numaAware
  constructor
  · exact stops_live_exact [.trackingScan,.numaUpdate] [.clearTracked] turns hs
  · exact stops_live_exact [.pressureCheck] [.psiTriggerDestroy,.psiGroupCleanup] turns hs

def returnsEarly : List Turn :=
  [.worker,.exit,.exit,.worker,.worker,.exit,.exit,.exit]

theorem early_return_stopped :
    ¬ (∀ numaAware turns, Along trackingStep StopsLive (.loaded numaAware) turns) ∧
    ¬ (∀ numaAware turns, Along pressureStep StopsLive (.loaded numaAware) turns) := by
  constructor
  · intro h
    obtain ⟨_,_,_,_,_,_,_,hstop,_⟩ := h true returnsEarly
    exact hstop rfl rfl rfl
  · intro h
    obtain ⟨_,_,_,_,_,_,_,hstop,_⟩ := h true returnsEarly
    exact hstop rfl rfl rfl

end Uroam.Kernel
