import Uroam.Library.Lines
import Uroam.Tuning.Effective

namespace Uroam.Tuning.Memopt
open Runs Lines Daemon

inductive Workload where
  | inference
  | training
  | gaming
  | general
  deriving DecidableEq, Repr

def enableOptimization : List Write :=
  writeSysfs .ksmRun (.num 1) ++ writeSysfs .zswapEnabled (.word "Y") ++
  writeSysfs .thpEnabled (.word "always") ++ writeSysfs .swappiness (.num 10)

def disableOptimization : List Write :=
  writeSysfs .ksmRun (.num 0) ++ writeSysfs .zswapEnabled (.word "N") ++
  writeSysfs .thpEnabled (.word "madvise") ++ writeSysfs .swappiness (.num 60)

def tuneWorkload : Workload → List Write
  | .inference =>
    writeSysfs .swappiness (.num 5) ++ writeSysfs .ksmPagesToScan (.num 500) ++
    writeSysfs .thpDefrag (.word "always")
  | .training =>
    writeSysfs .swappiness (.num 20) ++ writeSysfs .ksmPagesToScan (.num 2000) ++
    writeSysfs .thpDefrag (.word "defer+madvise")
  | .gaming =>
    writeSysfs .swappiness (.num 1) ++ writeSysfs .ksmRun (.num 0) ++
    writeSysfs .thpDefrag (.word "always")
  | .general => writeSysfs .swappiness (.num 60) ++ writeSysfs .ksmPagesToScan (.num 1000)

def runDaemonWrites : List Write :=
  writeSysfs .thpEnabled (.word "always") ++ writeSysfs .ksmSleepMillisecs (.num 10)

abbrev Pid := { pid : ℕ // 0 < pid ∧ pid < 2 ^ 22 }

def atoi (text : List Char) : ℤ :=
  let number (sign : ℤ) (digits : List Char) : ℤ :=
    if digits ≠ [] ∧ digits.all Char.isDigit = true then
      max (-2 ^ 63) (min (2 ^ 63 - 1) (sign * Nat.ofDigitChars 10 digits 0))
    else 0
  match text with
  | '-' :: rest => number (-1) rest
  | '+' :: rest => number 1 rest
  | rest => number 1 rest

structure MemoptDaemon where
  pid : Pid
  isIdle : Bool
  deriving DecidableEq

structure Process where
  pid : Pid
  cmdline : List Char
  deriving DecidableEq

structure World where
  store : Store
  daemons : List MemoptDaemon
  others : List Process

def World.pids (w : World) : List Pid := w.daemons.map MemoptDaemon.pid

-- Process.Kill refuses the pid 0; another pid may belong to a daemon.
def World.kill (w : World) (pid : ℤ) : World :=
  if pid = 0 then w else
    { w with
      daemons := w.daemons.filter fun d => (d.pid.val : ℤ) ≠ pid
      others := w.others.filter fun p => (p.pid.val : ℤ) ≠ pid }

def stopDaemon (out : Option (List Char)) (w : World) : World :=
  match out with
  | none => w
  | some text => w.kill (atoi (trimmed text))

inductive Turn where
  | enable
  | disable
  | tune (workload : Workload)
  | startDaemon (pid : Option Pid)
  | stopDaemon (out : Option (List Char))
  | tick (pid : Pid) (state : Option SystemState)
  | appear (p : Process)
  | vanish (p : Process)

section Steps

variable (quotient : UInt64 → UInt64 → Double)

-- A state that cannot be collected skips the tick.
def World.tick (w : World) (pid : Pid) (state : Option SystemState) : World :=
  match w.daemons.find? fun d => d.pid = pid, state with
  | some d, some state =>
    let done := Memoptd.pass quotient ⟨d.isIdle,w.store⟩ state
    { w with
      store := done.store
      daemons := w.daemons.map fun d => if d.pid = pid then { d with isIdle := done.isIdle } else d }
  | _, _ => w

def World.step (w : World) : Turn → World
  | .enable => { w with store := w.store.write enableOptimization }
  | .disable => { w with store := w.store.write disableOptimization }
  | .tune workload => { w with store := w.store.write (tuneWorkload workload) }
  | .startDaemon none => w
  | .startDaemon (some pid) =>
    { w with store := w.store.write runDaemonWrites, daemons := w.daemons ++ [⟨pid,false⟩] }
  | .stopDaemon out => Memopt.stopDaemon out w
  | .tick pid state => w.tick quotient pid state
  | .appear p => { w with others := p :: w.others }
  | .vanish p => { w with others := w.others.erase p }

end Steps

theorem newline_blank : Blanks whitespace ['\n'] := blanks_one rfl

section Runs

variable (quotient : UInt64 → UInt64 → Double)

theorem tick_pids (w : World) (pid : Pid) (state : Option SystemState) :
    (w.tick quotient pid state).pids = w.pids := by
  unfold World.tick
  split
  · simp only [World.pids,List.map_map]
    apply List.map_congr_left
    intro d _
    dsimp only [Function.comp]
    split <;> rfl
  · rfl

def World.observed (w : World) (ticks : List (Pid × Option SystemState)) : List SystemState :=
  ticks.filterMap fun t => if t.1 ∈ w.pids then t.2 else none

def passWrites (state : SystemState) : List Write :=
  (applyOptimizations quotient false state).writes

def World.ticked (w : World) (t : Pid × Option SystemState) : World := w.tick quotient t.1 t.2

theorem tick_store (w : World) (pid : Pid) (state : Option SystemState) :
    (w.tick quotient pid state).store =
      w.store.write ((w.observed [(pid,state)]).flatMap (passWrites quotient)) := by
  have hpids : pid ∈ w.pids ↔ (w.daemons.find? fun d => d.pid = pid).isSome = true := by
    simp [World.pids]
  unfold World.tick World.observed
  cases hd : w.daemons.find? fun d => d.pid = pid with
  | none =>
    have hno : pid ∉ w.pids := by simp [hpids,hd]
    simp [hno,Store.write]
  | some d =>
    have hyes : pid ∈ w.pids := by simp [hpids,hd]
    cases state with
    | none => simp [hyes,Store.write]
    | some state =>
      simp only [List.filterMap_cons,hyes,if_true,List.filterMap_nil,List.flatMap_cons,
        List.flatMap_nil,List.append_nil]
      rfl

theorem write_append (store : Store) (ws vs : List Write) :
    store.write (ws ++ vs) = (store.write ws).write vs := List.foldl_append

theorem ticks_store (w : World) (ticks : List (Pid × Option SystemState)) :
    (exec (World.ticked quotient) w ticks).store =
      w.store.write ((w.observed ticks).flatMap (passWrites quotient)) := by
  induction ticks generalizing w with
  | nil => rfl
  | cons t ticks ih =>
    have hsame : (w.ticked quotient t).observed ticks = w.observed ticks := by
      simp only [World.observed,World.ticked,tick_pids]
    have hsplit : w.observed (t :: ticks) = w.observed [t] ++ w.observed ticks :=
      List.filterMap_append (l := [t])
    rw [exec_cons,ih,hsame,hsplit,List.flatMap_append,write_append]
    exact congrArg (fun store => Store.write store _) (tick_store quotient w t.1 t.2)

theorem lastWritten_flatMap (t : Tunable) (f : SystemState → List Write) (states : List SystemState) :
    lastWritten t (states.flatMap f) = Settings.lastSome (fun state => lastWritten t (f state)) states := by
  induction states with
  | nil => rfl
  | cons state states ih => rw [List.flatMap_cons,lastWritten_append,ih,Settings.lastSome_cons]

def passKsm (state : SystemState) : ℕ :=
  if detectIdle state || hasAI state then 1
  else if hasGaming state then 0
  else if critical state || elevated state then 1
  else 0

theorem pass_swappiness_written (state : SystemState) :
    lastWritten .swappiness (passWrites quotient state) =
      some (.num (passSwappiness quotient state)) := by
  simp only [passWrites,applyOptimizations,lastWritten_append,(smartSwap_sets quotient state).1]
  cases hidle : detectIdle state <;> simp [applyIdleOptimization,passSwappiness,hidle,writeSysfs]

theorem pool_ksm (isIdle : Bool) (state : SystemState) :
    lastWritten .ksmRun (poolWrites isIdle state) = none := by
  unfold poolWrites
  split_ifs <;> rfl

theorem pass_ksm_written (state : SystemState) :
    lastWritten .ksmRun (passWrites quotient state) = some (.num (passKsm state)) := by
  have hswap := smartSwap_lastWritten quotient state (t := .ksmRun) (by decide) (by decide)
  have hcache := cache_lastWritten (detectIdle state) state (t := .ksmRun) (by decide)
  simp only [passWrites,applyOptimizations,lastWritten_append,hswap,hcache,pool_ksm,Option.none_or]
  unfold passKsm
  cases detectIdle state <;> cases hasAI state <;> cases hasGaming state <;>
    cases hcritical : critical state <;> cases helevated : elevated state <;>
    simp [hcritical,helevated,applyIdleOptimization,applyAIOptimizations,Daemon.applyGamingOptimizations,
      pressureWrites,writeSysfs]

theorem passSwappiness_ne (state : SystemState) : passSwappiness quotient state ≠ 60 := by
  unfold passSwappiness swapSettings
  split_ifs <;> decide

theorem disabled_after (w : World) (ticks : List (Pid × Option SystemState)) (t : Tunable) :
    (exec (World.ticked quotient) (w.step quotient .disable) ticks).store t =
      (Settings.lastSome (fun state => lastWritten t (passWrites quotient state))
        (w.observed ticks)).getD ((w.store.write disableOptimization) t) := by
  rw [ticks_store,write_apply,lastWritten_flatMap]
  rfl

theorem disable_kept_iff (w : World) (ticks : List (Pid × Option SystemState)) :
    let kept := (exec (World.ticked quotient) (w.step quotient .disable) ticks).store
    (kept .zswapEnabled = .word "N" ↔ ∀ state ∈ w.observed ticks, detectIdle state = false) ∧
    (kept .thpEnabled = .word "madvise" ↔
      ∀ state ∈ w.observed ticks, hasAI state = false ∧ hasGaming state = false) ∧
    (kept .swappiness = .num 60 ↔ w.observed ticks = []) ∧
    (kept .ksmRun = .num 0 ↔ ∀ state, (w.observed ticks).getLast? = some state → passKsm state = 0) := by
  intro kept
  have hkept : ∀ t, kept t = (Settings.lastSome
      (fun state => lastWritten t (passWrites quotient state)) (w.observed ticks)).getD
        ((w.store.write disableOptimization) t) := disabled_after quotient w ticks
  generalize w.observed ticks = seen at hkept
  refine ⟨?_,?_,?_,?_⟩
  · have hpass : ∀ state, lastWritten .zswapEnabled (passWrites quotient state) =
        if detectIdle state = true then some (.word "Y") else none :=
      fun state => applyOptimizations_lastWritten quotient state false .zswapEnabled
    rw [hkept]
    exact Settings.kept_iff hpass (show Setting.word "Y" ≠ .word "N" by decide) seen
  · have hpass : ∀ state, lastWritten .thpEnabled (passWrites quotient state) =
        if (hasAI state || hasGaming state) = true then some (.word "always") else none :=
      fun state => applyOptimizations_lastWritten quotient state false .thpEnabled
    simp only [hkept,← Bool.or_eq_false_iff]
    exact Settings.kept_iff hpass (show Setting.word "always" ≠ .word "madvise" by decide) seen
  · simp only [hkept,pass_swappiness_written,Settings.lastSome_always]
    cases hlast : seen.getLast? with
    | none => exact iff_of_true rfl (List.getLast?_eq_none_iff.mp hlast)
    | some state =>
      have hne : seen ≠ [] := by
        rintro rfl
        cases hlast
      refine iff_of_false ?_ hne
      simpa using passSwappiness_ne quotient state
  · simp only [hkept,pass_ksm_written,Settings.lastSome_always]
    cases hlast : seen.getLast? with
    | none => exact iff_of_true rfl fun state hs => by cases hs
    | some state => simp

end Runs

end Uroam.Tuning.Memopt
