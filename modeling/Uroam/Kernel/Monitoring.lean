import Mathlib.Data.Int.Order.Basic
import Mathlib.Logic.Function.Basic
import Uroam.Library.Runs

namespace Uroam.Kernel.Monitoring
open Runs

inductive Part where
  | psiGroup
  | psiTrigger
  | monitorThread
  deriving DecidableEq, Repr

abbrev Errno := {e : ℤ // e < 0}

structure Attempt where
  psiGroup : Option Errno
  psiTrigger : Option Errno
  kthread : Option Errno

inductive ThreadPointer where
  | null
  | error (e : Errno)
  | task

structure Monitor where
  live : Part → Bool
  running : Bool
  thread : ThreadPointer
  strays : List Part
  owed : Bool

def Monitor.loaded : Monitor where
  live := fun _ => false
  running := false
  thread := .null
  strays := []
  owed := false

def Monitor.destroy (m : Monitor) (part : Part) : Monitor :=
  if m.live part then { m with live := Function.update m.live part false }
  else { m with strays := part :: m.strays }

def Monitor.create (m : Monitor) (part : Part) : Option Errno → ℤ × Monitor
  | none => (0, { m with live := Function.update m.live part true })
  | some e => (e, m)

def psiGroupInit (a : Attempt) (m : Monitor) : ℤ × Monitor := m.create .psiGroup a.psiGroup

def psiTriggerCreate (a : Attempt) (m : Monitor) : ℤ × Monitor :=
  m.create .psiTrigger a.psiTrigger

def kthreadRun (a : Attempt) (m : Monitor) : Monitor :=
  match a.kthread with
  | none => { m with live := Function.update m.live .monitorThread true, thread := .task }
  | some e => { m with thread := .error e }

def cleanupPsi (ret : ℤ) (m : Monitor) : ℤ × Monitor := (ret, m.destroy .psiGroup)

def cleanupTrigger (ret : ℤ) (m : Monitor) : ℤ × Monitor :=
  cleanupPsi ret (m.destroy .psiTrigger)

-- The error of the thread stays in the inner `err`: the ladder returns the trigger's `ret`.
def startThread (a : Attempt) (ret : ℤ) (m : Monitor) : ℤ × Monitor :=
  let m := kthreadRun a { m with running := true }
  match m.thread with
  | .error _ => cleanupTrigger ret { m with running := false }
  | _ => (0, m)

def startTrigger (a : Attempt) (m : Monitor) : ℤ × Monitor :=
  let created := psiTriggerCreate a m
  if created.1 < 0 then cleanupPsi created.1 created.2 else startThread a created.1 created.2

def uroamPressureInit (a : Attempt) (m : Monitor) : ℤ × Monitor :=
  let created := psiGroupInit a m
  if created.1 < 0 then created else startTrigger a created.2

def kthreadStop (m : Monitor) : Monitor :=
  match m.thread with
  | .null => m
  | _ => { m.destroy .monitorThread with thread := .null }

-- Once it is woken with the flag down, the thread may return, and be freed, before it is stopped.
def stopMonitor (returned : Bool) (m : Monitor) : Monitor :=
  if m.running then
    let m := { m with running := false }
    kthreadStop
      (if returned then { m with live := Function.update m.live .monitorThread false } else m)
  else m

def uroamPressureExit (returned : Bool) (m : Monitor) : Monitor :=
  ((stopMonitor returned m).destroy .psiTrigger).destroy .psiGroup

inductive Call where
  | init (a : Attempt)
  | exit (returned : Bool)

def Monitor.call (m : Monitor) : Call → Monitor
  | .init a =>
    let done := uroamPressureInit a m
    { done.2 with owed := decide (done.1 = 0) }
  | .exit returned => { uroamPressureExit returned m with owed := false }

def Monitor.allows (m : Monitor) : Call → Prop
  | .init _ => m.owed = false
  | .exit _ => m.owed = true

def LiveAsReturned (m : Monitor) : Call → Prop
  | .init a =>
    let done := uroamPressureInit a m
    (done.1 = 0 → ∀ part, done.2.live part = true) ∧
      (done.1 < 0 → ∀ part, done.2.live part = false)
  | .exit _ => True

def NothingStray (m : Monitor) : Prop := m.strays = []

def Call.ThreadHolds : Call → Prop
  | .init a => a.psiGroup = none → a.psiTrigger = none → a.kthread = none
  | .exit returned => returned = false

def Monitor.idle (thread : ThreadPointer) : Monitor := { Monitor.loaded with thread }

def Monitor.ready : Monitor where
  live := fun _ => true
  running := true
  thread := .task
  strays := []
  owed := true

def Settled (m : Monitor) : Prop := (∃ thread, m = .idle thread) ∨ m = .ready

section Init

variable (thread : ThreadPointer) (e : Errno) (trigger kthread : Option Errno)

theorem all_live : (fun _ => true : Part → Bool) =
    Function.update (Function.update (Function.update (fun _ => false) .psiGroup true)
      .psiTrigger true) .monitorThread true := by
  funext part
  cases part <;> rfl

theorem all_cleared : Function.update (Function.update (Function.update (fun _ => true)
      .monitorThread false) .psiTrigger false) .psiGroup false = (fun _ => false : Part → Bool) := by
  funext part
  cases part <;> rfl

theorem init_group_fails :
    uroamPressureInit ⟨some e,trigger,kthread⟩ (.idle thread) = (e.val,.idle thread) := by
  simp [uroamPressureInit,psiGroupInit,Monitor.create,e.property]

theorem init_trigger_fails :
    uroamPressureInit ⟨none,some e,kthread⟩ (.idle thread) = (e.val,.idle thread) := by
  simp [uroamPressureInit,psiGroupInit,Monitor.create,startTrigger,psiTriggerCreate,e.property,
    cleanupPsi,Monitor.destroy,Monitor.idle,Monitor.loaded]

theorem init_thread_fails :
    uroamPressureInit ⟨none,none,some e⟩ (.idle thread) = (0,.idle (.error e)) := by
  simp [uroamPressureInit,psiGroupInit,Monitor.create,startTrigger,psiTriggerCreate,startThread,
    kthreadRun,cleanupTrigger,cleanupPsi,Monitor.destroy,Monitor.idle,Monitor.loaded]
  funext part
  cases part <;> rfl

theorem init_succeeds :
    uroamPressureInit ⟨none,none,none⟩ (.idle thread) =
      (0,{ Monitor.ready with owed := false }) := by
  simp [uroamPressureInit,psiGroupInit,Monitor.create,startTrigger,psiTriggerCreate,startThread,
    kthreadRun,Monitor.idle,Monitor.loaded,Monitor.ready,all_live]

end Init

theorem exit_ready (returned : Bool) :
    Monitor.ready.call (.exit returned) =
      { Monitor.idle .null with strays := if returned then [.monitorThread] else [] } := by
  cases returned <;>
    simp [Monitor.call,uroamPressureExit,stopMonitor,kthreadStop,Monitor.destroy,Monitor.ready,
      Monitor.idle,Monitor.loaded,all_cleared]

theorem settled_clean {m : Monitor} (h : Settled m) : NothingStray m := by
  rcases h with ⟨thread,rfl⟩ | rfl <;> rfl

theorem idle_refuses {thread : ThreadPointer} {returned : Bool}
    (h : (Monitor.idle thread).allows (.exit returned)) : False :=
  absurd (show false = true from h) (by decide)

theorem ready_refuses {a : Attempt} (h : Monitor.ready.allows (.init a)) : False :=
  absurd (show true = false from h) (by decide)

theorem init_error {a : Attempt} {thread : ThreadPointer} {e : Errno}
    (h : uroamPressureInit a (.idle thread) = (e.val,.idle thread)) :
    Settled ((Monitor.idle thread).call (.init a)) ∧
      LiveAsReturned (.idle thread) (.init a) := by
  have hne : e.val ≠ 0 := Int.ne_of_lt e.property
  simp only [Monitor.call,LiveAsReturned,h]
  refine ⟨.inl ⟨thread,?_⟩,fun h0 => absurd h0 hne,fun _ _ => rfl⟩
  simp [hne,Monitor.idle,Monitor.loaded]

theorem init_done (thread : ThreadPointer) :
    Settled ((Monitor.idle thread).call (.init ⟨none, none, none⟩)) ∧
      LiveAsReturned (.idle thread) (.init ⟨none, none, none⟩) := by
  simp only [Monitor.call,LiveAsReturned,init_succeeds]
  exact ⟨.inr rfl,fun _ _ => rfl,fun hlt => absurd hlt (lt_irrefl 0)⟩

theorem call_good {m : Monitor} {c : Call} (h : Settled m) (ha : m.allows c)
    (hc : c.ThreadHolds) : Settled (m.call c) ∧ LiveAsReturned m c := by
  rcases h with ⟨thread,rfl⟩ | rfl
  · cases c with
    | exit returned => exact (idle_refuses ha).elim
    | init a =>
      obtain ⟨_ | e,trigger,kthread⟩ := a
      · cases trigger with
        | some e => exact init_error (init_trigger_fails thread e kthread)
        | none =>
          obtain rfl : kthread = none := hc rfl rfl
          exact init_done thread
      · exact init_error (init_group_fails thread e trigger kthread)
  · cases c with
    | init a => exact (ready_refuses ha).elim
    | exit returned =>
      obtain rfl : returned = false := hc
      rw [exit_ready]
      exact ⟨.inl ⟨.null,rfl⟩,trivial⟩

theorem call_bad {m : Monitor} {c : Call} (h : Settled m) (ha : m.allows c)
    (hclean : NothingStray (m.call c)) (hlive : LiveAsReturned m c) : c.ThreadHolds := by
  rcases h with ⟨thread,rfl⟩ | rfl
  · cases c with
    | exit returned => exact (idle_refuses ha).elim
    | init a =>
      obtain ⟨group,trigger,kthread⟩ := a
      rintro rfl rfl
      cases kthread with
      | none => rfl
      | some e =>
        simp only [LiveAsReturned,init_thread_fails] at hlive
        exact absurd (hlive.1 trivial .psiGroup) Bool.false_ne_true
  · cases c with
    | init a => exact (ready_refuses ha).elim
    | exit returned =>
      cases returned with
      | false => rfl
      | true =>
        rw [exit_ready] at hclean
        cases hclean

theorem monitor_exact_iff (calls : List Call)
    (hallowed : Along Monitor.call Monitor.allows .loaded calls) :
    Throughout Monitor.call NothingStray .loaded calls ∧
        Along Monitor.call LiveAsReturned .loaded calls ↔
      ∀ c ∈ calls, c.ThreadHolds := by
  have hexact := exact_condition Monitor.call (G := Settled) (C := fun _ c => c.ThreadHolds)
    (fun _ => settled_clean) (fun _ _ hs ha hc => call_good hs ha hc)
    (fun _ _ hs ha hclean hlive => call_bad hs ha hclean hlive) calls .loaded (.inl ⟨.null,rfl⟩)
    hallowed
  rw [hexact,along_forall]

def noMemory : Errno := ⟨-12, by decide⟩

theorem monitor_exact_iff_sample :
    Throughout Monitor.call NothingStray .loaded
          [.init ⟨none, some noMemory, none⟩,.init ⟨none, none, none⟩,.exit false] ∧
        Along Monitor.call LiveAsReturned .loaded
          [.init ⟨none, some noMemory, none⟩,.init ⟨none, none, none⟩,.exit false] ↔
      ∀ c ∈ [Call.init ⟨none, some noMemory, none⟩,.init ⟨none, none, none⟩,.exit false],
        c.ThreadHolds :=
  monitor_exact_iff _ ⟨rfl,rfl,rfl,trivial⟩

theorem thread_failure_reported_live :
    ¬ ∀ calls : List Call, Along Monitor.call Monitor.allows .loaded calls →
      Throughout Monitor.call NothingStray .loaded calls ∧
        Along Monitor.call LiveAsReturned .loaded calls := by
  intro h
  have hrun := h [.init ⟨none, none, some noMemory⟩,.exit false] ⟨rfl,rfl,trivial⟩
  exact absurd (hrun.2.1.1 rfl .psiGroup) (by decide)

end Uroam.Kernel.Monitoring
