import Mathlib.Data.List.TakeWhile
import Uroam.Library.Runs
import Uroam.Tuning.Idle

namespace Uroam.Tuning.Idle
open Runs

structure Attempts where
  optimizer : IdleOptimizer
  last : Option Bool

def IdleOptimizer.attempt (o : IdleOptimizer) (files : Files) : List Write × Bool :=
  let writes := levelWrites o.config.optimizationLevel files
  let written := writes.takeWhile files.writeOk
  (written,written.length == writes.length)

def Attempts.step (w : Attempts) (c : Timed) : Attempts :=
  { optimizer := w.optimizer.step c
    last := match c.call with
      | .checkIdle _ _ => w.last
      | .applyIdleOptimizations files =>
        if w.optimizer.isOptimizing then w.last else some (w.optimizer.attempt files).2
      | .cancelWithin100ms | .reset => none }

def Attempts.start (config : IdleConfig) : Attempts := ⟨.withConfig config,none⟩

def FlagSound (w : Attempts) : Prop := w.optimizer.isOptimizing = true → w.last = some true

structure Retried (w : Attempts) (files : Files) : Prop where
  cleared : (w.optimizer.applyIdleOptimizations files).ok = false →
    (w.optimizer.applyIdleOptimizations files).optimizer.isOptimizing = false
  again : w.last = some false →
    ((w.optimizer.applyIdleOptimizations files).written,
      (w.optimizer.applyIdleOptimizations files).ok) = w.optimizer.attempt files

def RetriedAt (w : Attempts) (c : Timed) : Prop :=
  match c.call with
  | .applyIdleOptimizations files => Retried w files
  | _ => True

def AllWritten (w : Attempts) (c : Timed) : Prop :=
  match c.call with
  | .applyIdleOptimizations files =>
    w.optimizer.isOptimizing = false →
      ∀ x ∈ levelWrites w.optimizer.config.optimizationLevel files, files.writeOk x = true
  | _ => True

theorem attempt_ok_iff (o : IdleOptimizer) (files : Files) :
    (o.attempt files).2 = true ↔
      ∀ x ∈ levelWrites o.config.optimizationLevel files, files.writeOk x = true := by
  unfold IdleOptimizer.attempt
  dsimp only
  rw [beq_iff_eq,← List.takeWhile_eq_self_iff]
  constructor
  · intro h
    exact (List.takeWhile_prefix files.writeOk).eq_of_length h
  · intro h
    rw [h]

theorem apply_attempts {o : IdleOptimizer} (h : o.isOptimizing = false) (files : Files) :
    o.applyIdleOptimizations files =
      ⟨{ o with isOptimizing := true },(o.attempt files).1,(o.attempt files).2⟩ := by
  rw [IdleOptimizer.applyIdleOptimizations,if_neg (by simp [h])]
  rfl

theorem apply_guarded {o : IdleOptimizer} (h : o.isOptimizing = true) (files : Files) :
    o.applyIdleOptimizations files = ⟨o,[],true⟩ := by
  rw [IdleOptimizer.applyIdleOptimizations,if_pos h]

structure Succeeded (w : Attempts) : Prop where
  sound : FlagSound w
  noFailure : w.last ≠ some false

theorem retried_written {w : Attempts} {files : Files} (h : Retried w files)
    (hflag : w.optimizer.isOptimizing = false) : (w.optimizer.attempt files).2 = true := by
  have hcleared := h.cleared
  rw [apply_attempts hflag] at hcleared
  cases hok : (w.optimizer.attempt files).2 with
  | true => rfl
  | false => exact (hcleared hok).symm

theorem succeeded_apply {w : Attempts} {files : Files} (h : Succeeded w)
    (hall : w.optimizer.isOptimizing = false → (w.optimizer.attempt files).2 = true) (time : Nat) :
    Succeeded (w.step ⟨time,.applyIdleOptimizations files⟩) ∧ Retried w files := by
  cases hflag : w.optimizer.isOptimizing with
  | true =>
    have hsame : w.step ⟨time,.applyIdleOptimizations files⟩ = w := by
      simp [Attempts.step,IdleOptimizer.step,apply_guarded hflag,hflag]
    rw [hsame]
    refine ⟨h,?_,fun hlast => absurd hlast h.noFailure⟩
    rw [apply_guarded hflag]
    intro herr
    cases herr
  | false =>
    have hok := hall hflag
    have hlast : (w.step ⟨time,.applyIdleOptimizations files⟩).last = some true := by
      simp [Attempts.step,hflag,hok]
    refine ⟨⟨fun _ => hlast,by simp [hlast]⟩,?_,fun hfailed => absurd hfailed h.noFailure⟩
    rw [apply_attempts hflag,hok]
    intro herr
    cases herr

theorem succeeded_lowered {w : Attempts} (hflag : w.optimizer.isOptimizing = false)
    (hlast : w.last = none) : Succeeded w := by
  constructor
  · intro hraised
    rw [hflag] at hraised
    cases hraised
  · simp [hlast]

theorem succeeded_step (w : Attempts) (c : Timed) (h : Succeeded w) (hall : AllWritten w c) :
    Succeeded (w.step c) ∧ RetriedAt w c := by
  obtain ⟨time,call⟩ := c
  cases call with
  | applyIdleOptimizations files =>
    exact succeeded_apply h (fun hflag => (attempt_ok_iff ..).mpr (hall hflag)) time
  | checkIdle memory processes =>
    have hkept : (w.optimizer.checkIdle time memory processes).1.isOptimizing =
        w.optimizer.isOptimizing := by
      cases hidle : isIdle memory processes <;> simp [IdleOptimizer.checkIdle,hidle]
    refine ⟨⟨?_,h.noFailure⟩,trivial⟩
    intro hflag
    exact h.sound (hkept ▸ hflag)
  | cancelWithin100ms => exact ⟨succeeded_lowered rfl rfl,trivial⟩
  | reset => exact ⟨succeeded_lowered rfl rfl,trivial⟩

theorem idle_retry_iff (config : IdleConfig) (calls : List Timed) :
    Throughout Attempts.step FlagSound (.start config) calls ∧
        Along Attempts.step RetriedAt (.start config) calls ↔
      Along Attempts.step AllWritten (.start config) calls := by
  refine exact_condition Attempts.step (E := fun _ _ => True) (fun w h => h.sound)
    (fun w c h _ hall => succeeded_step w c h hall) ?_ calls (.start config)
    (succeeded_lowered rfl rfl) (along_true ..)
  intro w c _ _ _ hretried
  obtain ⟨time,call⟩ := c
  cases call with
  | applyIdleOptimizations files =>
    intro hflag
    exact (attempt_ok_iff ..).mp (retried_written hretried hflag)
  | checkIdle | cancelWithin100ms | reset => trivial

section Sample

def refusedSwappiness : Files :=
  { present := fun _ => false
    writeOk := fun w => w ≠ .tunable .swappiness (.num 90)
    meminfo := none }

def writableFiles : Files := { refusedSwappiness with writeOk := fun _ => true }

theorem failed_attempt_blocks_next :
    (Attempts.start .default).optimizer.attempt refusedSwappiness = ([],false) ∧
    let w := Attempts.step (.start .default) ⟨0,.applyIdleOptimizations refusedSwappiness⟩
    (w.optimizer.applyIdleOptimizations writableFiles).written = [] ∧
      (w.optimizer.applyIdleOptimizations writableFiles).ok = true ∧
      w.optimizer.isOptimizing = true ∧ w.last = some false := by
  decide +kernel

end Sample

end Uroam.Tuning.Idle
