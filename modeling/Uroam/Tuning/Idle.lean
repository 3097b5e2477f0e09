import Mathlib.Algebra.Group.Nat.Defs
import Mathlib.Algebra.Ring.Rat
import Uroam.Library.Lines
import Uroam.Library.Runs
import Uroam.Tuning.Classifier
import Uroam.Tuning.Daemon

namespace Uroam.Tuning.Idle

open Daemon (Double)

inductive OptimizationLevel where
  | minimal
  | normal
  | aggressive
  deriving DecidableEq, Repr

structure IdleConfig where
  idleThresholdSecs : UInt64
  optimizationLevel : OptimizationLevel
  preloadEnabled : Bool
  deriving DecidableEq

def IdleConfig.default : IdleConfig := ⟨300,.normal,false⟩

structure IdleOptimizer where
  config : IdleConfig
  idleStart : Option Nat
  isOptimizing : Bool
  cancelPending : Bool
  deriving DecidableEq

def IdleOptimizer.withConfig (config : IdleConfig) : IdleOptimizer := ⟨config,none,false,false⟩

def asSecs (nanos : Nat) : Nat := nanos / 1000000000

-- The percentage is single precision; its comparison with 40.0 is that of the exact values.
def isIdle (memoryUsagePercent : Double) (activeProcesses : UInt32) : Bool :=
  memoryUsagePercent.lt 40 && decide (activeProcesses < 10)

def IdleOptimizer.checkIdle (o : IdleOptimizer) (now : Nat) (memoryUsagePercent : Double)
    (activeProcesses : UInt32) : IdleOptimizer × Bool :=
  if isIdle memoryUsagePercent activeProcesses then
    let start := o.idleStart.getD now
    ({ o with idleStart := some start },
      decide (o.config.idleThresholdSecs.toNat ≤ asSecs (now - start)))
  else ({ o with idleStart := none },false)

structure Files where
  present : Tunable → Bool
  writeOk : Write → Bool
  meminfo : Option (List Char)

def getSwapUsedKb (meminfo : Option (List Char)) : Nat :=
  match meminfo with
  | none => 0
  | some text =>
    let totals := Lines.eachLine (fun (totals : Nat × Nat) line =>
      if line.1 = "SwapTotal:".toList then (parseU64 line.2,totals.2)
      else if line.1 = "SwapFree:".toList then (totals.1,parseU64 line.2)
      else totals) (0,0) text
    totals.1 - totals.2

def applyMinimalOptimizations (files : Files) : List Write :=
  (if files.present .ksmRun then [.tunable .ksmRun (.num 1)] else []) ++
  (if files.present .thpEnabled then [.tunable .thpEnabled (.word "[madvise]")] else [])

def applyNormalOptimizations (files : Files) : List Write :=
  applyMinimalOptimizations files ++
  [.tunable .swappiness (.num 90),.tunable .vfsCachePressure (.num 25)] ++
  (if files.present .ksmPagesToScan then [.tunable .ksmPagesToScan (.num 5000)] else [])

def applyAggressiveOptimizations (files : Files) : List Write :=
  applyNormalOptimizations files ++
  (if getSwapUsedKb files.meminfo > 512 * 1024 then [.dropCaches 3] else []) ++
  [.tunable .pageCluster (.num 3)]

def levelWrites (level : OptimizationLevel) (files : Files) : List Write :=
  match level with
  | .minimal => applyMinimalOptimizations files
  | .normal => applyNormalOptimizations files
  | .aggressive => applyAggressiveOptimizations files

structure Applied where
  optimizer : IdleOptimizer
  written : List Write
  ok : Bool

def IdleOptimizer.applyIdleOptimizations (o : IdleOptimizer) (files : Files) : Applied :=
  if o.isOptimizing then ⟨o,[],true⟩
  else
    let writes := levelWrites o.config.optimizationLevel files
    let written := writes.takeWhile files.writeOk
    ⟨{ o with isOptimizing := true },written,written.length == writes.length⟩

def IdleOptimizer.cancelWithin100ms (o : IdleOptimizer) : IdleOptimizer :=
  { o with cancelPending := true, isOptimizing := false, idleStart := none }

def IdleOptimizer.reset (o : IdleOptimizer) : IdleOptimizer :=
  { o with isOptimizing := false, cancelPending := false, idleStart := none }

inductive Call where
  | checkIdle (memoryUsagePercent : Double) (activeProcesses : UInt32)
  | applyIdleOptimizations (files : Files)
  | cancelWithin100ms
  | reset

structure Timed where
  time : Nat
  call : Call

def IdleOptimizer.step (o : IdleOptimizer) (c : Timed) : IdleOptimizer :=
  match c.call with
  | .checkIdle memoryUsagePercent activeProcesses =>
    (o.checkIdle c.time memoryUsagePercent activeProcesses).1
  | .applyIdleOptimizations files => (o.applyIdleOptimizations files).optimizer
  | .cancelWithin100ms => o.cancelWithin100ms
  | .reset => o.reset

def Call.Unbroken : Call → Prop
  | .checkIdle memoryUsagePercent activeProcesses =>
    isIdle memoryUsagePercent activeProcesses = true
  | .applyIdleOptimizations _ => True
  | .cancelWithin100ms | .reset => False

def Call.IsCheck : Call → Prop
  | .checkIdle _ _ => True
  | _ => False

def IdleSince (start : Nat) (calls : List Timed) : Prop :=
  ∃ earlier first rest, calls = earlier ++ first :: rest ∧ first.time = start ∧
    first.call.IsCheck ∧ ∀ c ∈ first :: rest, c.call.Unbroken

theorem idle_since_snoc {start : Nat} {calls : List Timed} {c : Timed} :
    IdleSince start (calls ++ [c]) ↔
      c.call.Unbroken ∧ (IdleSince start calls ∨ c.time = start ∧ c.call.IsCheck) := by
  constructor
  · rintro ⟨earlier,first,rest,hsplit,htime,hcheck,hrest⟩
    rcases List.eq_nil_or_concat rest with rfl | ⟨middle,last,rfl⟩
    · obtain ⟨-,hlast⟩ := List.append_inj' hsplit rfl
      cases hlast
      exact ⟨hrest c List.mem_cons_self,.inr ⟨htime,hcheck⟩⟩
    · have hsplit' : calls ++ [c] = (earlier ++ first :: middle) ++ [last] := by
        simpa using hsplit
      obtain ⟨rfl,hlast⟩ := List.append_inj' hsplit' rfl
      cases hlast
      refine ⟨hrest c (by simp),.inl ⟨earlier,first,middle,rfl,htime,hcheck,?_⟩⟩
      intro d hd
      apply hrest d
      rcases List.mem_cons.mp hd with rfl | hd
      · exact List.mem_cons_self
      · simp [hd]
  · rintro ⟨hc,⟨earlier,first,rest,rfl,htime,hcheck,hrest⟩ | ⟨htime,hcheck⟩⟩
    · refine ⟨earlier,first,rest ++ [c],by simp,htime,hcheck,?_⟩
      intro d hd
      rw [← List.cons_append,List.mem_append,List.mem_singleton] at hd
      rcases hd with hd | rfl
      · exact hrest d hd
      · exact hc
    · refine ⟨calls,c,[],rfl,htime,hcheck,?_⟩
      intro d hd
      rw [List.mem_singleton.mp hd]
      exact hc

theorem idle_since_mem {start : Nat} {calls : List Timed} (h : IdleSince start calls) :
    ∃ c ∈ calls, c.time = start := by
  obtain ⟨earlier,first,rest,rfl,htime,-⟩ := h
  exact ⟨first,by simp,htime⟩

structure Started (o : IdleOptimizer) (calls : List Timed) : Prop where
  sound : ∀ start, o.idleStart = some start → IdleSince start calls
  earliest : ∀ start, IdleSince start calls → ∃ first ≤ start, o.idleStart = some first

theorem started_broken {o : IdleOptimizer} {calls : List Timed} {c : Timed}
    (hc : ¬ c.call.Unbroken) (ho : o.idleStart = none) : Started o (calls ++ [c]) := by
  constructor
  · intro start hstart
    rw [ho] at hstart
    cases hstart
  · intro start hsince
    exact absurd (idle_since_snoc.mp hsince).1 hc

theorem started_check {o : IdleOptimizer} {calls : List Timed} {now : Nat} {memory : Double}
    {processes : UInt32} (h : Started o calls) (hnow : ∀ c ∈ calls, c.time ≤ now) :
    Started (o.checkIdle now memory processes).1 (calls ++ [⟨now,.checkIdle memory processes⟩]) := by
  by_cases hidle : isIdle memory processes = true
  · have hstart : (o.checkIdle now memory processes).1.idleStart = some (o.idleStart.getD now) := by
      simp [IdleOptimizer.checkIdle,hidle]
    constructor
    · intro start hs
      obtain rfl := Option.some.inj (hstart.symm.trans hs)
      refine idle_since_snoc.mpr ⟨hidle,?_⟩
      cases ho : o.idleStart with
      | none => exact .inr ⟨rfl,trivial⟩
      | some first => exact .inl (h.sound first ho)
    · intro start hs
      refine ⟨_,?_,hstart⟩
      rcases (idle_since_snoc.mp hs).2 with hbefore | ⟨rfl,-⟩
      · obtain ⟨first,hle,hfirst⟩ := h.earliest start hbefore
        rw [hfirst]
        exact hle
      · cases ho : o.idleStart with
        | none => exact Nat.le_refl now
        | some first =>
          obtain ⟨c,hc,rfl⟩ := idle_since_mem (h.sound first ho)
          exact hnow c hc
  · refine started_broken ?_ ?_
    · exact hidle
    · simp [IdleOptimizer.checkIdle,hidle]

theorem started_apply {o : IdleOptimizer} {calls : List Timed} {now : Nat} {files : Files}
    (h : Started o calls) :
    Started (o.applyIdleOptimizations files).optimizer
      (calls ++ [⟨now,.applyIdleOptimizations files⟩]) := by
  have hkept : (o.applyIdleOptimizations files).optimizer.idleStart = o.idleStart := by
    cases ho : o.isOptimizing <;> simp [IdleOptimizer.applyIdleOptimizations,ho]
  constructor
  · intro start hs
    exact idle_since_snoc.mpr ⟨trivial,.inl (h.sound start (hkept ▸ hs))⟩
  · intro start hs
    rw [hkept]
    rcases (idle_since_snoc.mp hs).2 with hbefore | ⟨-,hcheck⟩
    · exact h.earliest start hbefore
    · cases hcheck

theorem started_step {o : IdleOptimizer} {calls : List Timed} {c : Timed} (h : Started o calls)
    (hc : ∀ d ∈ calls, d.time ≤ c.time) : Started (o.step c) (calls ++ [c]) := by
  obtain ⟨now,call⟩ := c
  cases call with
  | checkIdle memory processes => exact started_check h hc
  | applyIdleOptimizations files => exact started_apply h
  | cancelWithin100ms => exact started_broken id rfl
  | reset => exact started_broken id rfl

def Sorted (calls : List Timed) : Prop := calls.Pairwise fun c d => c.time ≤ d.time

theorem started_run (config : IdleConfig) (calls : List Timed) (h : Sorted calls) :
    Started (Runs.exec IdleOptimizer.step (.withConfig config) calls) calls := by
  induction calls using List.reverseRecOn with
  | nil =>
    constructor
    · intro start hs
      cases hs
    · rintro start ⟨earlier,first,rest,hsplit,-⟩
      simp at hsplit
  | append_singleton calls c ih =>
    obtain ⟨hbefore,-,hlast⟩ := List.pairwise_append.mp h
    rw [Runs.exec_append]
    exact started_step (ih hbefore) fun d hd => hlast d hd c List.mem_cons_self

theorem step_config (o : IdleOptimizer) (c : Timed) : (o.step c).config = o.config := by
  obtain ⟨now,call⟩ := c
  cases call with
  | checkIdle memory processes =>
    cases h : isIdle memory processes <;> simp [IdleOptimizer.step,IdleOptimizer.checkIdle,h]
  | applyIdleOptimizations files =>
    cases h : o.isOptimizing <;>
      simp [IdleOptimizer.step,IdleOptimizer.applyIdleOptimizations,h]
  | cancelWithin100ms => rfl
  | reset => rfl

theorem run_config (calls : List Timed) (o : IdleOptimizer) :
    (Runs.exec IdleOptimizer.step o calls).config = o.config := by
  induction calls generalizing o with
  | nil => rfl
  | cons c calls ih => rw [Runs.exec_cons,ih,step_config]

theorem check_idle_start (o : IdleOptimizer) (now : Nat) (memory : Double) (processes : UInt32) :
    (o.checkIdle now memory processes).2 = true ↔
      ∃ start, (o.checkIdle now memory processes).1.idleStart = some start ∧
        o.config.idleThresholdSecs.toNat ≤ asSecs (now - start) := by
  cases h : isIdle memory processes <;> simp [IdleOptimizer.checkIdle,h]

theorem threshold_le_asSecs {threshold start now : Nat} (h : start ≤ now) :
    threshold ≤ asSecs (now - start) ↔ start + threshold * 1000000000 ≤ now := by
  unfold asSecs
  rw [Nat.le_div_iff_mul_le (by decide)]
  omega

theorem check_idle_iff (config : IdleConfig) (before : List Timed) (now : Nat) (memory : Double)
    (processes : UInt32) (hsorted : Sorted (before ++ [⟨now,.checkIdle memory processes⟩])) :
    ((Runs.exec IdleOptimizer.step (.withConfig config) before).checkIdle now memory
        processes).2 = true ↔
      ∃ start, IdleSince start (before ++ [⟨now,.checkIdle memory processes⟩]) ∧
        start + config.idleThresholdSecs.toNat * 1000000000 ≤ now := by
  obtain ⟨hbefore,-,hlast⟩ := List.pairwise_append.mp hsorted
  have hnow : ∀ c ∈ before, c.time ≤ now := fun c hc => hlast c hc _ List.mem_cons_self
  have hrun : Started
      ((Runs.exec IdleOptimizer.step (.withConfig config) before).checkIdle now memory processes).1
      (before ++ [⟨now,.checkIdle memory processes⟩]) :=
    started_check (started_run config before hbefore) hnow
  rw [check_idle_start,run_config]
  have hle : ∀ start, IdleSince start (before ++ [⟨now,.checkIdle memory processes⟩]) →
      start ≤ now := by
    intro start hs
    obtain ⟨c,hc,rfl⟩ := idle_since_mem hs
    rcases List.mem_append.mp hc with hc | hc
    · exact hnow c hc
    · rw [List.mem_singleton.mp hc]
  constructor
  · rintro ⟨start,hstart,hthreshold⟩
    have hsince := hrun.sound start hstart
    exact ⟨start,hsince,(threshold_le_asSecs (hle start hsince)).mp hthreshold⟩
  · rintro ⟨start,hsince,hthreshold⟩
    obtain ⟨first,hfirst,heq⟩ := hrun.earliest start hsince
    refine ⟨first,heq,(threshold_le_asSecs (Nat.le_trans hfirst (hle start hsince))).mpr ?_⟩
    change first + config.idleThresholdSecs.toNat * 1000000000 ≤ now
    omega

section Sample

def quietMinutes : List Timed :=
  [⟨0,.checkIdle (.finite 20) 12⟩,⟨1000000000,.checkIdle (.finite 20) 3⟩,
    ⟨1000000000,.applyIdleOptimizations ⟨fun _ => true,fun _ => true,none⟩⟩,
    ⟨200000000000,.checkIdle (.finite 35) 9⟩]

theorem check_idle_iff_sample :
    ∃ start, IdleSince start (quietMinutes ++ [⟨301000000000,.checkIdle (.finite 30) 3⟩]) ∧
      start + IdleConfig.default.idleThresholdSecs.toNat * 1000000000 ≤ 301000000000 :=
  (check_idle_iff .default quietMinutes 301000000000 (.finite 30) 3
    (by simp [Sorted,quietMinutes])).mp (by decide +kernel)

end Sample

end Uroam.Tuning.Idle
