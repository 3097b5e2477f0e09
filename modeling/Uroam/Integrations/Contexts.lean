import Uroam.Library.Scopes

namespace Uroam.Integrations
open Runs Scopes

def workloadDefault : String := "default"
def workloadAi : String := "ai"
def workloadInference : String := "inference"
def workloadTraining : String := "training"
def workloadGaming : String := "gaming"

def priorityP0 : String := "P0"
def priorityP1 : String := "P1"
def priorityP2 : String := "P2"

structure UROAMConfig where
  workloadType : String
  priority : String
  deriving DecidableEq, Repr

def UROAMConfig.default : UROAMConfig := ⟨workloadDefault,priorityP2⟩

def setPriority (priority : String) (config : UROAMConfig) : UROAMConfig := { config with priority }

def setWorkloadType (workload : String) (config : UROAMConfig) : UROAMConfig :=
  { config with workloadType := workload }

inductive ContextManager where
  | ai
  | inference
  | training
  | gaming
  deriving DecidableEq, Repr

structure Frame where
  oldWorkload : String
  oldPriority : String
  deriving DecidableEq, Repr

def contextEnter (workload priority : String) (config : UROAMConfig) : Frame × UROAMConfig :=
  (⟨config.workloadType,config.priority⟩,
    setPriority priority (setWorkloadType workload config))

def contextFinally (frame : Frame) (config : UROAMConfig) : UROAMConfig :=
  setPriority frame.oldPriority (setWorkloadType frame.oldWorkload config)

def aiContext : UROAMConfig → Frame × UROAMConfig := contextEnter workloadAi priorityP2

def inferenceContext : UROAMConfig → Frame × UROAMConfig :=
  contextEnter workloadInference priorityP0

def trainingContext : UROAMConfig → Frame × UROAMConfig := contextEnter workloadTraining priorityP2

def gamingContext : UROAMConfig → Frame × UROAMConfig := contextEnter workloadGaming priorityP1

def ContextManager.enter : ContextManager → UROAMConfig → Frame × UROAMConfig
  | .ai => aiContext
  | .inference => inferenceContext
  | .training => trainingContext
  | .gaming => gamingContext

inductive Step where
  | enter (id : Nat) (manager : ContextManager)
  | leave (id : Nat) (raised : Bool)
  deriving DecidableEq, Repr

structure Process where
  config : UROAMConfig
  active : List (Nat × Frame)

def Process.step (p : Process) : Step → Process
  | .enter id manager =>
    let entered := manager.enter p.config
    ⟨entered.2,(id,entered.1) :: p.active⟩
  | .leave id _ =>
    match release id p.active with
    | none => p
    | some (frame,rest) => ⟨contextFinally frame p.config,rest⟩

def ContextManager.sets : ContextManager → UROAMConfig
  | .ai => ⟨workloadAi,priorityP2⟩
  | .inference => ⟨workloadInference,priorityP0⟩
  | .training => ⟨workloadTraining,priorityP2⟩
  | .gaming => ⟨workloadGaming,priorityP1⟩

def Frame.config (frame : Frame) : UROAMConfig := ⟨frame.oldWorkload,frame.oldPriority⟩

def Process.cell (p : Process) : Cell Nat UROAMConfig :=
  ⟨p.config,p.active.map fun s => (s.1,s.2.config)⟩

def Step.origin : Step → Op Nat (Origin ContextManager)
  | .enter id manager => .enter id (some manager)
  | .leave id _ => .leave id

def Step.cellOp (initial : UROAMConfig) (step : Step) : Op Nat UROAMConfig :=
  step.origin.map (Origin.value initial ContextManager.sets)

theorem enter_sets (manager : ContextManager) (config : UROAMConfig) :
    manager.enter config = (⟨config.workloadType,config.priority⟩,manager.sets) := by
  cases manager <;> rfl

theorem step_cell (initial : UROAMConfig) (p : Process) (step : Step) :
    (p.step step).cell = p.cell.step (step.cellOp initial) := by
  cases step with
  | enter id manager =>
    simp only [Process.step,enter_sets]
    rfl
  | leave id raised =>
    have hrelease : release id p.cell.saved = _ := release_map Frame.config id p.active
    simp only [Process.step,Step.cellOp,Step.origin,Op.map,Cell.step,hrelease]
    cases release id p.active <;> rfl

def Restores (initial : UROAMConfig) (p : Process) : Prop := p.active = [] → p.config = initial

theorem contexts_restore_iff (initial : UROAMConfig) (steps : List Step) :
    Throughout Process.step (Restores initial) ⟨initial,[]⟩ steps ↔
      Along Cell.step (ClosesClean initial ContextManager.sets) ⟨none,[]⟩
        (steps.map Step.origin) := by
  have hsim := throughout_map Process.step (step_cell initial) (Untouched initial) steps
    ⟨initial,[]⟩
  have hsame : (fun p : Process => Untouched initial p.cell) = Restores initial := by
    funext p
    simp [Untouched,Restores,Process.cell]
  rw [hsame] at hsim
  rw [← hsim,← untouched_iff,List.map_map]
  rfl

theorem nested_contexts_restore (initial : UROAMConfig) (steps : List Step)
    (h : Along Cell.step Nested ⟨none,[]⟩ (steps.map Step.origin)) :
    Throughout Process.step (Restores initial) ⟨initial,[]⟩ steps :=
  (contexts_restore_iff initial steps).mpr
    (nested_closes_clean initial ContextManager.sets _ _ rfl h)

theorem crossing_contexts_leave_ai :
    ¬ Throughout Process.step (Restores .default) ⟨.default,[]⟩
      [.enter 0 .ai,.enter 1 .gaming,.leave 0 false,.leave 1 false] := by
  rintro ⟨-,-,-,-,hrestored⟩
  exact absurd (hrestored rfl) (by decide)

end Uroam.Integrations
