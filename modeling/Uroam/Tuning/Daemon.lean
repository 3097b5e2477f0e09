import Mathlib.Algebra.Ring.Rat
import Uroam.Library.Runs
import Uroam.Tuning.Tunable

namespace Uroam.Tuning.Daemon

inductive Double where
  | finite (q : Rat)
  | infinite
  | negInfinite
  | nan
  deriving DecidableEq

def Double.gt : Double → Rat → Bool
  | .finite q, bound => decide (bound < q)
  | .infinite, _ => true
  | .negInfinite, _ | .nan, _ => false

def Double.lt : Double → Rat → Bool
  | .finite q, bound => decide (q < bound)
  | .negInfinite, _ => true
  | .infinite, _ | .nan, _ => false

inductive WorkloadType where
  | general
  | aiInference
  | aiTraining
  | gaming
  | background
  deriving DecidableEq, Repr

structure PSIStats where
  some10 : Double
  full10 : Double
  deriving DecidableEq

structure ProcessInfo where
  pid : Int
  rss : UInt64
  swap : UInt64
  workloadType : WorkloadType
  priority : Int
  deriving DecidableEq

structure SystemState where
  usedPercent : Double
  processes : List ProcessInfo
  swapUsed : UInt64
  psi : PSIStats
  deriving DecidableEq

abbrev priorityP0 : Int := 0

abbrev priorityP1 : Int := 1

abbrev priorityP2 : Int := 2

def writeSysfs (t : Tunable) (value : Setting) : List Write := [.tunable t value]

def detectIdle (state : SystemState) : Bool :=
  let interactiveCount := state.processes.countP fun p => p.priority ≤ priorityP1
  interactiveCount == 0 && state.usedPercent.lt 40 && state.psi.full10.lt 1 && state.psi.some10.lt 5

def protectHighPriorityProcesses (state : SystemState) : List Write :=
  state.processes.flatMap fun p =>
    if p.priority ≤ priorityP1 then
      if p.priority = priorityP0 then [.oomScoreAdj p.pid (-900)]
      else if p.priority = priorityP1 then [.oomScoreAdj p.pid (-500)]
      else []
    else if p.priority ≥ priorityP2 then [.oomScoreAdj p.pid 300]
    else []

structure SwapTotals where
  lowPriSwap : UInt64
  highPriSwap : UInt64
  lowPriTotal : UInt64
  highPriTotal : UInt64
  deriving DecidableEq

def SwapTotals.add (totals : SwapTotals) (p : ProcessInfo) : SwapTotals :=
  if p.priority ≥ priorityP2 then
    { totals with
      lowPriSwap := totals.lowPriSwap + p.swap
      lowPriTotal := totals.lowPriTotal + (p.rss + p.swap) }
  else
    { totals with
      highPriSwap := totals.highPriSwap + p.swap
      highPriTotal := totals.highPriTotal + (p.rss + p.swap) }

-- The constants 0.15 and 0.3 as the doubles nearest to them; `quotient` divides two converted
-- integers.
def applySmartSwapPrioritization (quotient : UInt64 → UInt64 → Double) (state : SystemState) :
    List Write :=
  let totals := state.processes.foldl SwapTotals.add ⟨0,0,0,0⟩
  let highPriSwapRatio :=
    if totals.highPriTotal > 0 then quotient totals.highPriSwap totals.highPriTotal else .finite 0
  let lowPriSwapRatio :=
    if totals.lowPriTotal > 0 then quotient totals.lowPriSwap totals.lowPriTotal else .finite 0
  (if highPriSwapRatio.gt (5404319552844595 / 2 ^ 55) then
    writeSysfs .swappiness (.num 5) ++ writeSysfs .pageCluster (.num 0)
  else if lowPriSwapRatio.lt (5404319552844595 / 2 ^ 54) &&
      totals.lowPriSwap > 1024 * 1024 * 500 then
    writeSysfs .swappiness (.num 80) ++ writeSysfs .pageCluster (.num 3)
  else if state.usedPercent.gt 80 then
    writeSysfs .swappiness (.num 20) ++ writeSysfs .pageCluster (.num 1)
  else
    writeSysfs .swappiness (.num 40) ++ writeSysfs .pageCluster (.num 2)) ++
  protectHighPriorityProcesses state

def lowPrioritySwap (state : SystemState) : UInt64 :=
  state.processes.foldl (fun used p =>
    if p.priority = priorityP2 ∧ p.swap > 0 then used + p.swap else used) 0

def applyIdleOptimization (isIdle : Bool) (state : SystemState) : SystemState × List Write :=
  if isIdle then
    let state := { state with swapUsed := lowPrioritySwap state }
    (state,
      writeSysfs .swappiness (.num 90) ++ writeSysfs .vfsCachePressure (.num 50) ++
      writeSysfs .ksmRun (.num 1) ++ writeSysfs .ksmPagesToScan (.num 5000) ++
      writeSysfs .ksmSleepMillisecs (.num 5) ++ writeSysfs .zswapMaxPoolPercent (.num 40) ++
      writeSysfs .zswapEnabled (.word "Y") ++ writeSysfs .zswapCompressor (.word "zstd") ++
      (if state.swapUsed > 1024 * 1024 * 500 then [.dropCaches 3] else []) ++
      writeSysfs .thpDefrag (.word "always"))
  else
    (state,writeSysfs .vfsCachePressure (.num 100) ++ writeSysfs .zswapCompressor (.word "lz4"))

def applyGamingOptimizations : List Write :=
  writeSysfs .swappiness (.num 10) ++ writeSysfs .dirtyRatio (.num 5) ++
  writeSysfs .dirtyBackgroundRatio (.num 2) ++ writeSysfs .vfsCachePressure (.num 50) ++
  writeSysfs .thpEnabled (.word "always") ++ writeSysfs .thpDefrag (.word "always") ++
  writeSysfs .ksmRun (.num 0) ++ writeSysfs .pageCluster (.num 0) ++
  writeSysfs .minFreeKbytes (.num 65536)

def applyAIOptimizations : List Write :=
  writeSysfs .thpEnabled (.word "always") ++ writeSysfs .thpDefrag (.word "defer+madvise") ++
  writeSysfs .ksmRun (.num 1) ++ writeSysfs .ksmPagesToScan (.num 3000) ++
  writeSysfs .ksmSleepMillisecs (.num 10) ++ writeSysfs .pageCluster (.num 3) ++
  writeSysfs .dirtyRatio (.num 30) ++ writeSysfs .dirtyBackgroundRatio (.num 10) ++
  writeSysfs .vfsCachePressure (.num 100)

def applyCacheOptimizations (isIdle : Bool) (state : SystemState) : List Write :=
  if state.usedPercent.gt 90 then [.dropCaches 3]
  else if state.usedPercent.gt 80 && state.psi.full10.gt 5 then [.dropCaches 2]
  else if state.usedPercent.lt 50 && isIdle then writeSysfs .vfsCachePressure (.num 25)
  else []

def critical (state : SystemState) : Bool := state.psi.full10.gt 10 || state.usedPercent.gt 85

def elevated (state : SystemState) : Bool := state.psi.some10.gt 5 || state.usedPercent.gt 70

def hasAI (state : SystemState) : Bool :=
  state.processes.any fun p => p.workloadType = .aiInference || p.workloadType = .aiTraining

def hasGaming (state : SystemState) : Bool :=
  state.processes.any fun p => p.workloadType = .gaming

def pressureWrites (isIdle : Bool) (state : SystemState) : List Write :=
  if critical state then
    writeSysfs .swappiness (.num 5) ++ writeSysfs .ksmRun (.num 1) ++
    writeSysfs .ksmPagesToScan (.num 3000)
  else if elevated state then
    writeSysfs .swappiness (.num 20) ++ writeSysfs .ksmRun (.num 1)
  else
    (if !isIdle then writeSysfs .swappiness (.num 60) else []) ++ writeSysfs .ksmRun (.num 0)

def poolWrites (isIdle : Bool) (state : SystemState) : List Write :=
  if hasAI state || hasGaming state then writeSysfs .zswapMaxPoolPercent (.num 30)
  else if !isIdle then writeSysfs .zswapMaxPoolPercent (.num 20)
  else []

structure Applied where
  isIdle : Bool
  log : List String
  writes : List Write

def applyOptimizations (quotient : UInt64 → UInt64 → Double) (wasIdle : Bool)
    (state : SystemState) : Applied :=
  let isIdle := detectIdle state
  { isIdle
    log :=
      if isIdle && !wasIdle then ["Entering idle mode - aggressive memory optimization"]
      else if !isIdle && wasIdle then ["Exiting idle mode - restoring normal operation"]
      else []
    writes :=
      pressureWrites isIdle state ++ poolWrites isIdle state ++
      (if hasGaming state then applyGamingOptimizations else []) ++
      (if hasAI state then applyAIOptimizations else []) ++
      applyCacheOptimizations isIdle state ++ applySmartSwapPrioritization quotient state ++
      (applyIdleOptimization isIdle state).2 }

structure Memoptd where
  isIdle : Bool
  store : Store

def Memoptd.pass (quotient : UInt64 → UInt64 → Double) (d : Memoptd) (state : SystemState) :
    Memoptd :=
  let applied := applyOptimizations quotient d.isIdle state
  ⟨applied.isIdle,d.store.write applied.writes⟩

end Uroam.Tuning.Daemon
