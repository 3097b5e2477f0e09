import Mathlib.Algebra.BigOperators.Group.List.Basic
import Mathlib.Algebra.Order.Ring.Int
import Uroam.Integrations.Tracker

namespace Uroam.Integrations
open Runs

inductive Framework where
  | pytorch
  | tensorflow
  | onnxruntime
  deriving DecidableEq, Repr

structure Installed where
  torchAvailable : Bool
  tfAvailable : Bool
  onnxruntimeImported : Bool
  deriving DecidableEq, Repr

structure Optimizers where
  tracked : Tracked
  enabled : Framework → Bool

def Optimizers.start : Optimizers := ⟨.start,fun _ => false⟩

def Optimizers.mark (o : Optimizers) (f : Framework) (on : Bool) : Optimizers :=
  { o with enabled := Function.update o.enabled f on }

def Optimizers.track (o : Optimizers) (c : TrackerCall) : Optimizers :=
  { o with tracked := o.tracked.step c }

section Calls

variable (installed : Installed)

-- `raises` is an exception of the framework itself; TensorFlow's comes after the tracker is on.
def Optimizers.enable (raises : Bool) (o : Optimizers) : Framework → Optimizers
  | .pytorch =>
    if installed.torchAvailable then
      if raises then o else (o.track .enable).mark .pytorch true
    else o
  | .tensorflow =>
    if installed.tfAvailable then
      if raises then o.track .enable else (o.track .enable).mark .tensorflow true
    else o
  | .onnxruntime => (o.mark .onnxruntime true).track .enable

def Optimizers.disable (o : Optimizers) (f : Framework) : Optimizers :=
  (o.mark f false).track .disable

def detectFramework : Option String :=
  if installed.torchAvailable then some "pytorch"
  else if installed.tfAvailable then some "tensorflow"
  else if installed.onnxruntimeImported then some "onnxruntime"
  else none

def chosen (framework : String) : List Framework :=
  let framework :=
    if framework = "auto" then (detectFramework installed).getD "all" else framework
  (if framework ∈ ["pytorch","all"] then [.pytorch] else []) ++
  (if framework ∈ ["tensorflow","all"] then [.tensorflow] else []) ++
  (if framework ∈ ["onnxruntime","all"] then [.onnxruntime] else [])

-- A recording names the framework whose code makes it. The tracker is not told, so that only the
-- conditions on a run can speak of it.
inductive OptimizerCall where
  | enable (f : Framework) (raises : Bool)
  | disable (f : Framework)
  | enableAll (framework : String) (raises : Framework → Bool)
  | disableAll
  | recordAllocation (f : Framework) (size : ℕ) (tag : String)
  | recordFree (f : Framework) (size : ℕ) (tag : String)

def Optimizers.enableAll (raises : Framework → Bool) (o : Optimizers) (fs : List Framework) :
    Optimizers :=
  fs.foldl (fun o f => o.enable installed (raises f) f) o

def Optimizers.disableAll (o : Optimizers) : Optimizers :=
  ((o.disable .pytorch).disable .tensorflow).disable .onnxruntime

def Optimizers.step (o : Optimizers) : OptimizerCall → Optimizers
  | .enable f raises => o.enable installed raises f
  | .disable f => o.disable f
  | .enableAll framework raises => o.enableAll installed raises (chosen installed framework)
  | .disableAll => o.disableAll
  | .recordAllocation _ size tag => o.track (.recordAllocation size tag)
  | .recordFree _ size tag => o.track (.recordFree size tag)

end Calls

def Recording (o : Optimizers) : Prop :=
  ∀ f, o.enabled f = true → o.tracked.tracker.enabled = true

def SwitchedOffAlone (o : Optimizers) : OptimizerCall → Prop
  | .disable f => ∀ g, g ≠ f → o.enabled g = false
  | _ => True

def MadeEnabled (o : Optimizers) : OptimizerCall → Prop
  | .recordAllocation f _ _ => o.enabled f = true
  | .recordFree f size tag => o.enabled f = true ∧ (size,tag) ∈ o.tracked.unmatched
  | _ => True

def outstanding (tag : String) (unmatched : List (ℕ × String)) : ℤ :=
  (unmatched.map fun e => if e.2 = tag then (e.1 : ℤ) else 0).sum

variable {installed : Installed} {o : Optimizers}

@[simp] theorem track_enable_on : (o.track .enable).tracked.tracker.enabled = true := rfl

@[simp] theorem mark_tracked (f : Framework) (on : Bool) : (o.mark f on).tracked = o.tracked := rfl

theorem mark_enabled (f g : Framework) (on : Bool) :
    (o.mark f on).enabled g = if g = f then on else o.enabled g := by
  simp [Optimizers.mark,Function.update_apply]

theorem enable_recording (h : Recording o) (raises : Bool) (f : Framework) :
    Recording (o.enable installed raises f) := by
  unfold Optimizers.enable
  cases f with
  | pytorch =>
    dsimp only
    split_ifs
    · exact h
    · exact fun _ _ => rfl
    · exact h
  | tensorflow =>
    dsimp only
    split_ifs
    · exact fun _ _ => rfl
    · exact fun _ _ => rfl
    · exact h
  | onnxruntime => exact fun _ _ => rfl

theorem enableAll_recording (raises : Framework → Bool) (fs : List Framework) (h : Recording o) :
    Recording (o.enableAll installed raises fs) := by
  unfold Optimizers.enableAll
  induction fs generalizing o with
  | nil => exact h
  | cons f fs ih => exact ih (enable_recording h (raises f) f)

theorem disable_recording_iff (f : Framework) :
    Recording (o.disable f) ↔ ∀ g, g ≠ f → o.enabled g = false := by
  have hoff : (o.disable f).tracked.tracker.enabled = false := rfl
  have henabled : ∀ g, (o.disable f).enabled g = if g = f then false else o.enabled g :=
    fun g => mark_enabled f g false
  constructor
  · intro h g hg
    by_contra hon
    have hrec := h g (by rw [henabled,if_neg hg]; simpa using hon)
    rw [hoff] at hrec
    cases hrec
  · intro h g hg
    rw [henabled] at hg
    split at hg
    · cases hg
    · rename_i hne
      rw [h g hne] at hg
      cases hg

theorem disableAll_enabled (f : Framework) : o.disableAll.enabled f = false := by
  cases f <;> rfl

theorem record_enabled (installed : Installed) (o : Optimizers) (c : OptimizerCall)
    (f : Framework) (size : ℕ) (tag : String)
    (hc : c = .recordAllocation f size tag ∨ c = .recordFree f size tag) :
    (o.step installed c).enabled = o.enabled ∧
      (o.step installed c).tracked.tracker.enabled = o.tracked.tracker.enabled := by
  rcases hc with rfl | rfl
  · refine ⟨rfl,?_⟩
    simp only [Optimizers.step,Optimizers.track,Tracked.step,UroamMemoryTracker.recordAllocation]
    split <;> rfl
  · refine ⟨rfl,?_⟩
    simp only [Optimizers.step,Optimizers.track,Tracked.step,UroamMemoryTracker.recordFree]
    split <;> rfl

theorem step_recording_iff (h : Recording o) (c : OptimizerCall) :
    Recording (o.step installed c) ↔ SwitchedOffAlone o c := by
  cases c with
  | enable f raises => exact iff_of_true (enable_recording h raises f) trivial
  | disable f => exact disable_recording_iff f
  | enableAll framework raises => exact iff_of_true (enableAll_recording raises _ h) trivial
  | disableAll =>
    refine iff_of_true (fun f hf => ?_) trivial
    rw [Optimizers.step,disableAll_enabled] at hf
    cases hf
  | recordAllocation f size tag =>
    obtain ⟨henabled,htracker⟩ := record_enabled installed o _ f size tag (.inl rfl)
    refine iff_of_true (fun g hg => ?_) trivial
    rw [htracker]
    exact h g (by rwa [henabled] at hg)
  | recordFree f size tag =>
    obtain ⟨henabled,htracker⟩ := record_enabled installed o _ f size tag (.inr rfl)
    refine iff_of_true (fun g hg => ?_) trivial
    rw [htracker]
    exact h g (by rwa [henabled] at hg)

theorem recording_iff (installed : Installed) (calls : List OptimizerCall) :
    Throughout (Optimizers.step installed) Recording .start calls ↔
      Along (Optimizers.step installed) SwitchedOffAlone .start calls := by
  have hrun := exact_condition (Optimizers.step installed) (G := Recording) (P := Recording)
    (C := SwitchedOffAlone) (Q := fun _ _ => True) (E := fun _ _ => True) (fun _ h => h)
    (fun _ c h _ hc => ⟨(step_recording_iff h c).mpr hc,trivial⟩)
    (fun _ c h _ hp _ => (step_recording_iff h c).mp hp) calls .start (fun _ h => by cases h)
    (along_true ..)
  rwa [and_iff_left (along_true ..)] at hrun

structure Exact (o : Optimizers) : Prop where
  booked : Booked o.tracked
  tags : ∀ tag, o.tracked.recorded tag = outstanding tag o.tracked.unmatched
  current : o.tracked.tracker.getStats.current = (o.tracked.unmatched.map fun e => (e.1 : ℤ)).sum

theorem start_exact : Exact .start := ⟨start_booked,fun _ => rfl,rfl⟩

theorem track_enable_exact (h : Exact o) : Exact (o.track .enable) := by
  have hcovered : Covered o.tracked .enable := trivial
  exact ⟨booked_step h.booked hcovered,h.tags,h.current⟩

theorem track_disable_exact (h : Exact o) : Exact (o.track .disable) := by
  have hcovered : Covered o.tracked .disable := trivial
  exact ⟨booked_step h.booked hcovered,h.tags,h.current⟩

theorem mark_exact (h : Exact o) (f : Framework) (on : Bool) : Exact (o.mark f on) :=
  ⟨h.booked,h.tags,h.current⟩

theorem enable_exact (h : Exact o) (raises : Bool) (f : Framework) :
    Exact (o.enable installed raises f) := by
  have hon := track_enable_exact h
  unfold Optimizers.enable
  cases f with
  | pytorch =>
    dsimp only
    split_ifs
    · exact h
    · exact mark_exact hon .pytorch true
    · exact h
  | tensorflow =>
    dsimp only
    split_ifs
    · exact hon
    · exact mark_exact hon .tensorflow true
    · exact h
  | onnxruntime => exact track_enable_exact (mark_exact h .onnxruntime true)

theorem disable_exact (h : Exact o) (f : Framework) : Exact (o.disable f) :=
  track_disable_exact (mark_exact h f false)

theorem outstanding_cons (tag other : String) (size : ℕ) (unmatched : List (ℕ × String)) :
    outstanding other ((size,tag) :: unmatched) =
      (if tag = other then (size : ℤ) else 0) + outstanding other unmatched := rfl

theorem outstanding_nonneg (tag : String) (unmatched : List (ℕ × String)) :
    0 ≤ outstanding tag unmatched := by
  apply List.sum_nonneg
  intro x hx
  obtain ⟨e,_,rfl⟩ := List.mem_map.mp hx
  split <;> omega

theorem sum_erase {e : ℕ × String} {unmatched : List (ℕ × String)} (h : e ∈ unmatched)
    (f : ℕ × String → ℤ) :
    f e + ((unmatched.erase e).map f).sum = (unmatched.map f).sum := by
  have hperm := (List.perm_cons_erase h).map f
  rw [hperm.sum_eq,List.map_cons,List.sum_cons]

theorem outstanding_erase {size : ℕ} {tag : String} {unmatched : List (ℕ × String)}
    (h : (size,tag) ∈ unmatched) (other : String) :
    (if tag = other then (size : ℤ) else 0) + outstanding other (unmatched.erase (size,tag)) =
      outstanding other unmatched :=
  sum_erase h fun e => if e.2 = other then (e.1 : ℤ) else 0

theorem recorded_add (hon : o.tracked.tracker.enabled = true) (amount : ℤ) (tag other : String) :
    o.tracked.record amount tag other =
      (if tag = other then amount else 0) + o.tracked.recorded other := by
  unfold Tracked.record
  by_cases hother : tag = other
  · rw [if_pos ⟨hon,hother.symm⟩,if_pos hother]
    omega
  · rw [if_neg fun h => hother h.2.symm,if_neg hother]
    omega

theorem allocation_exact (h : Exact o) (hon : o.tracked.tracker.enabled = true) (size : ℕ)
    (tag : String) : Exact (o.track (.recordAllocation size tag)) := by
  refine ⟨booked_allocation h.booked size tag,fun other => ?_,?_⟩
  · change o.tracked.record size tag other = outstanding other ((size,tag) :: o.tracked.unmatched)
    rw [recorded_add hon,h.tags,outstanding_cons]
  · have hcurrent := h.current
    simp only [Optimizers.track,Tracked.step,UroamMemoryTracker.recordAllocation,hon,if_true,
      UroamMemoryTracker.getStats,List.map_cons,List.sum_cons] at hcurrent ⊢
    omega

theorem free_exact (h : Exact o) (hon : o.tracked.tracker.enabled = true) {size : ℕ} {tag : String}
    (hmem : (size,tag) ∈ o.tracked.unmatched) : Exact (o.track (.recordFree size tag)) := by
  have herase := outstanding_erase hmem
  have hcovered : (size : ℤ) ≤ o.tracked.recorded tag := by
    have hself := herase tag
    have hrest := outstanding_nonneg tag (o.tracked.unmatched.erase (size,tag))
    rw [if_pos rfl] at hself
    rw [h.tags]
    omega
  refine ⟨booked_free h.booked fun _ => hcovered,fun other => ?_,?_⟩
  · have hother := herase other
    change o.tracked.record (-size) tag other =
      outstanding other (o.tracked.unmatched.erase (size,tag))
    rw [recorded_add hon,h.tags]
    split_ifs at hother ⊢ <;> omega
  · have hcurrent := h.current
    have hsum := sum_erase hmem fun e => (e.1 : ℤ)
    simp only [Optimizers.track,Tracked.step,UroamMemoryTracker.recordFree,hon,if_true,
      UroamMemoryTracker.getStats] at hcurrent ⊢
    omega

theorem step_exact (h : Exact o) (hrec : Recording o) {c : OptimizerCall} (hc : MadeEnabled o c) :
    Exact (o.step installed c) := by
  cases c with
  | enable f raises => exact enable_exact h raises f
  | disable f => exact disable_exact h f
  | enableAll framework raises =>
    simp only [Optimizers.step,Optimizers.enableAll]
    generalize chosen installed framework = fs
    clear hrec hc
    induction fs generalizing o with
    | nil => exact h
    | cons f fs ih => exact ih (enable_exact h (raises f) f)
  | disableAll =>
    exact disable_exact (disable_exact (disable_exact h .pytorch) .tensorflow) .onnxruntime
  | recordAllocation f size tag => exact allocation_exact h (hrec f hc) size tag
  | recordFree f size tag => exact free_exact h (hrec f hc.1) hc.2

theorem tracker_exact (installed : Installed) (calls : List OptimizerCall)
    (halone : Along (Optimizers.step installed) SwitchedOffAlone .start calls)
    (hmade : Along (Optimizers.step installed) MadeEnabled .start calls) :
    let tracked := (exec (Optimizers.step installed) .start calls).tracked
    tracked.tracker.getStats.current = (tracked.unmatched.map fun e => (e.1 : ℤ)).sum ∧
    ∀ tag, Dict.value tracked.tracker.getStats.allocations tag = outstanding tag tracked.unmatched := by
  have hgood : ∀ o c, Recording o ∧ Exact o → SwitchedOffAlone o c ∧ MadeEnabled o c →
      Recording (o.step installed c) ∧ Exact (o.step installed c) := fun o c hg hc =>
    ⟨(step_recording_iff hg.1 c).mpr hc.1,step_exact hg.2 hg.1 hc.2⟩
  have hboth := (along_and (Optimizers.step installed) calls .start).mpr ⟨halone,hmade⟩
  obtain ⟨_,hexact⟩ := invariant (Optimizers.step installed) hgood calls .start
    ⟨(fun _ h => by cases h),start_exact⟩ hboth
  refine ⟨hexact.current,fun tag => ?_⟩
  rw [← hexact.tags tag]
  exact hexact.booked.tags tag

def onnxOnly : Installed := ⟨false,false,true⟩

def onnxCalls : List OptimizerCall :=
  [.enableAll "auto" fun _ => false,.recordAllocation .onnxruntime 4096 "kv",
    .recordAllocation .onnxruntime 64 "kv",.recordFree .onnxruntime 4096 "kv"]

theorem tracker_exact_onnx :
    let tracked := (exec (Optimizers.step onnxOnly) .start onnxCalls).tracked
    tracked.tracker.getStats.current = (tracked.unmatched.map fun e => (e.1 : ℤ)).sum ∧
    ∀ tag, Dict.value tracked.tracker.getStats.allocations tag = outstanding tag tracked.unmatched :=
  tracker_exact onnxOnly onnxCalls ⟨trivial,trivial,trivial,trivial,trivial⟩
    ⟨trivial,rfl,rfl,⟨rfl,by decide⟩,trivial⟩

end Uroam.Integrations
