import Uroam.Library.Runs
import Uroam.Tuning.Tunable
import Uroam.Tuning.Classifier

namespace Uroam.Tuning

inductive OptimizationMode where
  | ai
  | gaming
  | balanced
  | powerSaver
  deriving DecidableEq, Repr

structure WorkloadProfile where
  swappiness : Nat
  ksmEnabled : Bool
  ksmPagesToScan : Nat
  thpMode : String
  cachePressure : Nat
  deriving DecidableEq, Repr

def WorkloadProfile.ai : WorkloadProfile := ⟨5,true,5000,"always",100⟩

def WorkloadProfile.gaming : WorkloadProfile := ⟨1,false,0,"always",50⟩

def WorkloadProfile.balanced : WorkloadProfile := ⟨60,true,1000,"madvise",100⟩

def WorkloadProfile.powersaver : WorkloadProfile := ⟨90,true,3000,"always",25⟩

structure ProfilesConfig where
  ai : WorkloadProfile
  gaming : WorkloadProfile
  balanced : WorkloadProfile
  powersaver : WorkloadProfile
  deriving DecidableEq, Repr

structure Config where
  profiles : ProfilesConfig
  deriving DecidableEq, Repr

def Config.default : Config :=
  ⟨⟨WorkloadProfile.ai,WorkloadProfile.gaming,WorkloadProfile.balanced,WorkloadProfile.powersaver⟩⟩

def Config.getProfile (cfg : Config) : OptimizationMode → WorkloadProfile
  | .ai => cfg.profiles.ai
  | .gaming => cfg.profiles.gaming
  | .balanced => cfg.profiles.balanced
  | .powerSaver => cfg.profiles.powersaver

def setSwappiness (value : Nat) : List Write := [.tunable .swappiness (.num value)]

def setVfsCachePressure (value : Nat) : List Write := [.tunable .vfsCachePressure (.num value)]

def setPageCluster (value : Nat) : List Write := [.tunable .pageCluster (.num value)]

def setMinFreeKbytes (value : Nat) : List Write := [.tunable .minFreeKbytes (.num value)]

def enableKsm (enable : Bool) : List Write := [.tunable .ksmRun (.num (if enable then 1 else 0))]

def setKsmPagesToScan (pages : Nat) : List Write := [.tunable .ksmPagesToScan (.num pages)]

def setThpMode (mode : String) : List Write :=
  [.tunable .thpEnabled (.word mode),.tunable .thpDefrag (.word mode)]

def dropCaches (level : Nat) : List Write := if level > 3 then [] else [.dropCaches level]

def setOomScoreAdj (adj : Int) (pids : List Nat) : List Write := pids.map fun pid => .oomScoreAdj pid adj

def applyAiOptimizations (cfg : Config) (c : Classifier) : List Write :=
  let profile := cfg.getProfile .ai
  setSwappiness profile.swappiness ++ setVfsCachePressure profile.cachePressure ++
    (if profile.ksmEnabled then enableKsm true ++ setKsmPagesToScan profile.ksmPagesToScan
      else []) ++
    setThpMode profile.thpMode ++
    setOomScoreAdj (-900) c.getHighPriorityPids ++ setOomScoreAdj 300 c.getLowPriorityPids

def applyGamingOptimizations (c : Classifier) : List Write :=
  setSwappiness 1 ++ setVfsCachePressure 50 ++ setPageCluster 0 ++ setMinFreeKbytes 65536 ++
    enableKsm false ++ setThpMode "always" ++
    setOomScoreAdj (-900) c.getHighPriorityPids ++ setOomScoreAdj 500 c.getLowPriorityPids

def applyCompilationOptimizations : List Write :=
  setSwappiness 20 ++ setVfsCachePressure 50 ++ enableKsm true ++ setThpMode "always"

def applyBalancedOptimizations (cfg : Config) : List Write :=
  let profile := cfg.getProfile .balanced
  setSwappiness profile.swappiness ++ setVfsCachePressure profile.cachePressure ++
    (if profile.ksmEnabled then enableKsm true ++ setKsmPagesToScan profile.ksmPagesToScan
      else enableKsm false) ++
    setThpMode profile.thpMode

def applyIdleOptimizations (c : Classifier) : List Write :=
  setSwappiness 90 ++ setVfsCachePressure 25 ++ enableKsm true ++ setKsmPagesToScan 5000 ++
    (if c.systemInfo.swapUsedKb > 512 * 1024 then dropCaches 3 else []) ++
    setThpMode "always"

inductive Mode where
  | idle
  | ai
  | gaming
  | compilation
  | balanced
  deriving DecidableEq, Repr

def Classifier.mode (prim : Primitives) (c : Classifier) (walk : MapOrder) : Mode :=
  if c.isIdle prim then .idle
  else
    match c.getCurrentWorkload walk with
    | .aiInference | .aiTraining => .ai
    | .gaming => .gaming
    | .compilation => .compilation
    | _ => .balanced

def applyMode (cfg : Config) (c : Classifier) : Mode → List Write
  | .idle => applyIdleOptimizations c
  | .ai => applyAiOptimizations cfg c
  | .gaming => applyGamingOptimizations c
  | .compilation => applyCompilationOptimizations
  | .balanced => applyBalancedOptimizations cfg

structure Pass where
  seen : Observation
  walk : MapOrder

-- A failed read ends the pass; a failed walk of /proc comes after the process list is cleared.
def runOptimizationPass (prim : Primitives) (cfg : Config) (c : Classifier) (p : Pass) :
    Classifier × List Write :=
  match c.detectSystemInfo p.seen with
  | none => (c,[])
  | some detected =>
    match detected.scanProcesses prim p.seen with
    | none => (detected.clear,[])
    | some scanned => (scanned,applyMode cfg scanned (scanned.mode prim p.walk))

structure System where
  classifier : Classifier
  store : Store

def System.pass (prim : Primitives) (cfg : Config) (s : System) (p : Pass) : System :=
  let done := runOptimizationPass prim cfg s.classifier p
  ⟨done.1,s.store.write done.2⟩

def start (init : Store) : System := ⟨Classifier.new,init⟩

section Settings

variable (cfg : Config)

def Config.swappiness : Mode → Nat
  | .idle => 90
  | .ai => cfg.profiles.ai.swappiness
  | .gaming => 1
  | .compilation => 20
  | .balanced => cfg.profiles.balanced.swappiness

def Config.cachePressure : Mode → Nat
  | .idle => 25
  | .ai => cfg.profiles.ai.cachePressure
  | .gaming => 50
  | .compilation => 50
  | .balanced => cfg.profiles.balanced.cachePressure

def Config.thpMode : Mode → String
  | .ai => cfg.profiles.ai.thpMode
  | .balanced => cfg.profiles.balanced.thpMode
  | _ => "always"

def Config.ksmRun : Mode → Option Nat
  | .idle => some 1
  | .ai => if cfg.profiles.ai.ksmEnabled then some 1 else none
  | .gaming => some 0
  | .compilation => some 1
  | .balanced => some (if cfg.profiles.balanced.ksmEnabled then 1 else 0)

def Config.ksmPagesToScan : Mode → Option Nat
  | .idle => some 5000
  | .ai => if cfg.profiles.ai.ksmEnabled then some cfg.profiles.ai.ksmPagesToScan else none
  | .balanced =>
    if cfg.profiles.balanced.ksmEnabled then some cfg.profiles.balanced.ksmPagesToScan else none
  | .gaming | .compilation => none

def Config.sets : Tunable → Mode → Option Setting
  | .swappiness, m => some (.num (cfg.swappiness m))
  | .vfsCachePressure, m => some (.num (cfg.cachePressure m))
  | .thpEnabled, m => some (.word (cfg.thpMode m))
  | .thpDefrag, m => some (.word (cfg.thpMode m))
  | .ksmRun, m => (cfg.ksmRun m).map .num
  | .ksmPagesToScan, m => (cfg.ksmPagesToScan m).map .num
  | .pageCluster, .gaming => some (.num 0)
  | .minFreeKbytes, .gaming => some (.num 65536)
  | _, _ => none

theorem lastWritten_oom (t : Tunable) (adj : Int) (pids : List Nat) :
    lastWritten t (setOomScoreAdj adj pids) = none := by
  apply lastWritten_none
  intro w hw value hv
  subst hv
  simp [setOomScoreAdj] at hw

theorem applyMode_lastWritten (c : Classifier) (m : Mode) (t : Tunable) :
    lastWritten t (applyMode cfg c m) = cfg.sets t m := by
  cases m with
  | idle =>
    change lastWritten t (applyIdleOptimizations c) = _
    unfold applyIdleOptimizations
    split <;> cases t <;> rfl
  | ai =>
    unfold applyMode applyAiOptimizations
    rw [lastWritten_append,lastWritten_append,lastWritten_oom,lastWritten_oom]
    cases hk : cfg.profiles.ai.ksmEnabled <;> cases t <;>
      simp [Config.getProfile,Config.sets,hk,Config.ksmRun,Config.ksmPagesToScan,setSwappiness,
        setVfsCachePressure,enableKsm,setKsmPagesToScan,setThpMode,Config.swappiness,
        Config.cachePressure,Config.thpMode]
  | gaming =>
    unfold applyMode applyGamingOptimizations
    rw [lastWritten_append,lastWritten_append,lastWritten_oom,lastWritten_oom]
    cases t <;> rfl
  | compilation => cases t <;> rfl
  | balanced =>
    unfold applyMode applyBalancedOptimizations
    cases hk : cfg.profiles.balanced.ksmEnabled <;> cases t <;>
      simp [Config.getProfile,Config.sets,hk,Config.ksmRun,Config.ksmPagesToScan,setSwappiness,
        setVfsCachePressure,enableKsm,setKsmPagesToScan,setThpMode,Config.swappiness,
        Config.cachePressure,Config.thpMode]

end Settings

end Uroam.Tuning
