import Uroam.Tuning.Engine

namespace Uroam.Service

structure GeneralConfig where
  enabled : Bool
  logLevel : String
  logFile : String
  socketPath : String
  pollingIntervalMs : UInt64
  deriving DecidableEq

structure ZramConfig where
  enabled : Bool
  sizePercent : UInt32
  numDevices : String
  defaultAlgorithm : String
  deriving DecidableEq

structure ZswapConfig where
  enabled : Bool
  maxPoolPercent : UInt32
  deriving DecidableEq

structure WorkloadProfile where
  swappiness : UInt32
  zramAlgorithm : String
  zramSizePercent : UInt32
  ksmEnabled : Bool
  ksmPagesToScan : UInt32
  thpMode : String
  cachePressure : UInt32
  backgroundCgroupLimit : String
  deriving DecidableEq

structure ProfilesConfig where
  ai : WorkloadProfile
  gaming : WorkloadProfile
  balanced : WorkloadProfile
  powersaver : WorkloadProfile
  deriving DecidableEq

structure TmpfsConfig where
  buildDir : String
  buildSize : String
  aiCacheDir : String
  aiCacheSize : String
  deriving DecidableEq

structure IdleConfig where
  idleThresholdSecs : UInt64
  optimizationLevel : String
  preloadEnabled : Bool
  deriving DecidableEq

structure Config where
  general : GeneralConfig
  zram : ZramConfig
  zswap : ZswapConfig
  profiles : ProfilesConfig
  tmpfs : TmpfsConfig
  idle : IdleConfig
  deriving DecidableEq

def defaultEnabled : Bool := true

def defaultLogLevel : String := "info"

def defaultPollingInterval : UInt64 := 500

def defaultTrue : Bool := true

def defaultFalse : Bool := false

def defaultZramSizePercent : UInt32 := 50

def defaultAlgorithm : String := "lz4"

def defaultZswapSizePercent : UInt32 := 20

def defaultSwappiness : UInt32 := 60

def defaultKsmPages : UInt32 := 1000

def defaultCachePressure : UInt32 := 100

def defaultIdleThreshold : UInt64 := 300

def GeneralConfig.default : GeneralConfig :=
  { enabled := defaultEnabled
    logLevel := defaultLogLevel
    logFile := "/var/log/uroam/uroamd.log"
    socketPath := "/run/uroam/uroamd.sock"
    pollingIntervalMs := defaultPollingInterval }

def ZramConfig.default : ZramConfig :=
  { enabled := defaultTrue
    sizePercent := defaultZramSizePercent
    numDevices := "auto"
    defaultAlgorithm := Service.defaultAlgorithm }

def ZswapConfig.default : ZswapConfig :=
  { enabled := defaultTrue, maxPoolPercent := defaultZswapSizePercent }

def WorkloadProfile.default : WorkloadProfile :=
  { swappiness := defaultSwappiness
    zramAlgorithm := defaultAlgorithm
    zramSizePercent := defaultZramSizePercent
    ksmEnabled := defaultTrue
    ksmPagesToScan := defaultKsmPages
    thpMode := "madvise"
    cachePressure := defaultCachePressure
    backgroundCgroupLimit := "4G" }

def WorkloadProfile.ai : WorkloadProfile := ⟨5,"zstd",50,true,5000,"always",100,"2G"⟩

def WorkloadProfile.gaming : WorkloadProfile := ⟨1,"lz4",30,false,0,"always",50,"4G"⟩

def WorkloadProfile.balanced : WorkloadProfile := ⟨60,"lz4",25,true,1000,"madvise",100,"4G"⟩

def WorkloadProfile.powersaver : WorkloadProfile := ⟨90,"zstd",60,true,3000,"always",25,"1G"⟩

def ProfilesConfig.default : ProfilesConfig := ⟨.ai,.gaming,.balanced,.powersaver⟩

def TmpfsConfig.default : TmpfsConfig := ⟨"/tmp/uroam-build","8G","/tmp/uroam-ai-cache","16G"⟩

def IdleConfig.default : IdleConfig := ⟨defaultIdleThreshold,"normal",defaultFalse⟩

def Config.default : Config := ⟨.default,.default,.default,.default,.default,.default⟩

def GeneralConfig.attributes : GeneralConfig :=
  { enabled := defaultEnabled
    logLevel := defaultLogLevel
    logFile := ""
    socketPath := ""
    pollingIntervalMs := defaultPollingInterval }

def ZramConfig.attributes : ZramConfig :=
  { enabled := defaultTrue
    sizePercent := defaultZramSizePercent
    numDevices := ""
    defaultAlgorithm := Service.defaultAlgorithm }

def ZswapConfig.attributes : ZswapConfig :=
  { enabled := defaultTrue, maxPoolPercent := defaultZswapSizePercent }

def WorkloadProfile.attributes : WorkloadProfile :=
  { swappiness := defaultSwappiness
    zramAlgorithm := ""
    zramSizePercent := defaultZramSizePercent
    ksmEnabled := defaultTrue
    ksmPagesToScan := defaultKsmPages
    thpMode := ""
    cachePressure := defaultCachePressure
    backgroundCgroupLimit := "" }

def TmpfsConfig.attributes : TmpfsConfig := ⟨"","","",""⟩

def IdleConfig.attributes : IdleConfig := ⟨defaultIdleThreshold,"",defaultFalse⟩

-- A TOML document as the keys it sets, each to a value of the key's type.
structure GeneralTable where
  enabled : Option Bool
  logLevel : Option String
  logFile : Option String
  socketPath : Option String
  pollingIntervalMs : Option UInt64

structure ZramTable where
  enabled : Option Bool
  sizePercent : Option UInt32
  numDevices : Option String
  defaultAlgorithm : Option String

structure ZswapTable where
  enabled : Option Bool
  maxPoolPercent : Option UInt32

structure WorkloadTable where
  swappiness : Option UInt32
  zramAlgorithm : Option String
  zramSizePercent : Option UInt32
  ksmEnabled : Option Bool
  ksmPagesToScan : Option UInt32
  thpMode : Option String
  cachePressure : Option UInt32
  backgroundCgroupLimit : Option String

structure ProfilesTable where
  ai : Option WorkloadTable
  gaming : Option WorkloadTable
  balanced : Option WorkloadTable
  powersaver : Option WorkloadTable

structure TmpfsTable where
  buildDir : Option String
  buildSize : Option String
  aiCacheDir : Option String
  aiCacheSize : Option String

structure IdleTable where
  idleThresholdSecs : Option UInt64
  optimizationLevel : Option String
  preloadEnabled : Option Bool

structure Document where
  general : Option GeneralTable
  zram : Option ZramTable
  zswap : Option ZswapTable
  profiles : Option ProfilesTable
  tmpfs : Option TmpfsTable
  idle : Option IdleTable

def GeneralTable.over (t : GeneralTable) (base : GeneralConfig) : GeneralConfig :=
  { enabled := t.enabled.getD base.enabled
    logLevel := t.logLevel.getD base.logLevel
    logFile := t.logFile.getD base.logFile
    socketPath := t.socketPath.getD base.socketPath
    pollingIntervalMs := t.pollingIntervalMs.getD base.pollingIntervalMs }

def ZramTable.over (t : ZramTable) (base : ZramConfig) : ZramConfig :=
  { enabled := t.enabled.getD base.enabled
    sizePercent := t.sizePercent.getD base.sizePercent
    numDevices := t.numDevices.getD base.numDevices
    defaultAlgorithm := t.defaultAlgorithm.getD base.defaultAlgorithm }

def ZswapTable.over (t : ZswapTable) (base : ZswapConfig) : ZswapConfig :=
  { enabled := t.enabled.getD base.enabled
    maxPoolPercent := t.maxPoolPercent.getD base.maxPoolPercent }

def WorkloadTable.over (t : WorkloadTable) (base : WorkloadProfile) : WorkloadProfile :=
  { swappiness := t.swappiness.getD base.swappiness
    zramAlgorithm := t.zramAlgorithm.getD base.zramAlgorithm
    zramSizePercent := t.zramSizePercent.getD base.zramSizePercent
    ksmEnabled := t.ksmEnabled.getD base.ksmEnabled
    ksmPagesToScan := t.ksmPagesToScan.getD base.ksmPagesToScan
    thpMode := t.thpMode.getD base.thpMode
    cachePressure := t.cachePressure.getD base.cachePressure
    backgroundCgroupLimit := t.backgroundCgroupLimit.getD base.backgroundCgroupLimit }

def TmpfsTable.over (t : TmpfsTable) (base : TmpfsConfig) : TmpfsConfig :=
  { buildDir := t.buildDir.getD base.buildDir
    buildSize := t.buildSize.getD base.buildSize
    aiCacheDir := t.aiCacheDir.getD base.aiCacheDir
    aiCacheSize := t.aiCacheSize.getD base.aiCacheSize }

def IdleTable.over (t : IdleTable) (base : IdleConfig) : IdleConfig :=
  { idleThresholdSecs := t.idleThresholdSecs.getD base.idleThresholdSecs
    optimizationLevel := t.optimizationLevel.getD base.optimizationLevel
    preloadEnabled := t.preloadEnabled.getD base.preloadEnabled }

def WorkloadTable.fill (t : Option WorkloadTable) : WorkloadProfile :=
  match t with
  | none => .default
  | some t => t.over .attributes

def ProfilesTable.fill (t : ProfilesTable) : ProfilesConfig :=
  { ai := WorkloadTable.fill t.ai
    gaming := WorkloadTable.fill t.gaming
    balanced := WorkloadTable.fill t.balanced
    powersaver := WorkloadTable.fill t.powersaver }

def Document.fill (doc : Document) : Config :=
  { general := (doc.general.map fun t => t.over .attributes).getD .default
    zram := (doc.zram.map fun t => t.over .attributes).getD .default
    zswap := (doc.zswap.map fun t => t.over .attributes).getD .default
    profiles := (doc.profiles.map ProfilesTable.fill).getD .default
    tmpfs := (doc.tmpfs.map fun t => t.over .attributes).getD .default
    idle := (doc.idle.map fun t => t.over .attributes).getD .default }

def WorkloadTable.replace (t : Option WorkloadTable) (base : WorkloadProfile) : WorkloadProfile :=
  (t.map fun t => t.over base).getD base

def ProfilesTable.replace (t : ProfilesTable) (base : ProfilesConfig) : ProfilesConfig :=
  { ai := WorkloadTable.replace t.ai base.ai
    gaming := WorkloadTable.replace t.gaming base.gaming
    balanced := WorkloadTable.replace t.balanced base.balanced
    powersaver := WorkloadTable.replace t.powersaver base.powersaver }

def Document.replace (doc : Document) (base : Config) : Config :=
  { general := (doc.general.map fun t => t.over base.general).getD base.general
    zram := (doc.zram.map fun t => t.over base.zram).getD base.zram
    zswap := (doc.zswap.map fun t => t.over base.zswap).getD base.zswap
    profiles := (doc.profiles.map fun t => t.replace base.profiles).getD base.profiles
    tmpfs := (doc.tmpfs.map fun t => t.over base.tmpfs).getD base.tmpfs
    idle := (doc.idle.map fun t => t.over base.idle).getD base.idle }

inductive ConfigFile where
  | missing
  | unreadable
  | text (content : String)

def Config.load (parse : String → Except String Document) (file : ConfigFile) :
    Except String Config :=
  match file with
  | .missing => .ok .default
  | .unreadable => .error "Failed to read config file"
  | .text content =>
    match parse content with
    | .error _ => .error "Failed to parse config file"
    | .ok doc => .ok doc.fill

def Config.validate (cfg : Config) : Except String Unit :=
  if cfg.general.pollingIntervalMs < 100 then
    .error "polling_interval must be at least 100ms"
  else if cfg.zram.sizePercent > 100 then .error "zram.size_percent cannot exceed 100"
  else .ok ()

def WorkloadProfile.tuning (profile : WorkloadProfile) : Tuning.WorkloadProfile :=
  { swappiness := profile.swappiness.toNat
    ksmEnabled := profile.ksmEnabled
    ksmPagesToScan := profile.ksmPagesToScan.toNat
    thpMode := profile.thpMode
    cachePressure := profile.cachePressure.toNat }

def Config.tuning (cfg : Config) : Tuning.Config :=
  { profiles :=
      { ai := cfg.profiles.ai.tuning
        gaming := cfg.profiles.gaming.tuning
        balanced := cfg.profiles.balanced.tuning
        powersaver := cfg.profiles.powersaver.tuning } }

theorem default_tuning : Config.default.tuning = Tuning.Config.default := rfl

end Uroam.Service
