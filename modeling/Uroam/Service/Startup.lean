import Uroam.Service.Config

namespace Uroam.Service

structure StartEnv where
  seen : Tuning.Observation
  bound : Bool

inductive Stage where
  | loadConfig (message : String)
  | detectSystemInfo
  | startIpcServer
  deriving DecidableEq, Repr

inductive Startup where
  | failed (stage : Stage)
  | looping (cfg : Config) (classifier : Tuning.Classifier)

def runDaemon (cfg : Config) (env : StartEnv) : Startup :=
  match Tuning.Classifier.new.detectSystemInfo env.seen with
  | none => .failed .detectSystemInfo
  | some classifier => if env.bound then .looping cfg classifier else .failed .startIpcServer

def main (parse : String → Except String Document) (file : ConfigFile) (env : StartEnv) : Startup :=
  match Config.load parse file with
  | .error message => .failed (.loadConfig message)
  | .ok cfg => runDaemon cfg env

-- The engine's first pass starts from a classifier of its own, not from run_daemon's.
def Startup.written (prim : Tuning.Primitives) (pass : Tuning.Pass) : Startup → List Tuning.Write
  | .failed _ => []
  | .looping cfg _ => (Tuning.runOptimizationPass prim cfg.tuning Tuning.Classifier.new pass).2

structure WorkloadProfile.Valid (profile : WorkloadProfile) : Prop where
  swappiness : profile.swappiness ≤ 200
  zramSizePercent : profile.zramSizePercent ≤ 100
  thpMode : profile.thpMode ∈ ["always","madvise","never"]

def ProfilesConfig.Valid (profiles : ProfilesConfig) : Prop :=
  profiles.ai.Valid ∧ profiles.gaming.Valid ∧ profiles.balanced.Valid ∧ profiles.powersaver.Valid

structure Config.Valid (cfg : Config) : Prop where
  pollingIntervalMs : 100 ≤ cfg.general.pollingIntervalMs
  sizePercent : cfg.zram.sizePercent ≤ 100
  profiles : cfg.profiles.Valid

structure StartsValid (parse : String → Except String Document) (file : ConfigFile)
    (env : StartEnv) : Prop where
  loops : ∀ cfg classifier, main parse file env = .looping cfg classifier → cfg.Valid
  fails : ∀ cfg, Config.load parse file = .ok cfg → ¬ cfg.Valid →
    (∃ stage, main parse file env = .failed stage) ∧
      ∀ prim pass, (main parse file env).written prim pass = []

def StartEnv.Passes (env : StartEnv) : Prop :=
  env.seen.meminfo.isSome = true ∧ env.bound = true

-- A present profile table without thp_mode is refused: its attribute's value is the empty text.
def WorkloadTable.Passes (t : WorkloadTable) : Prop :=
  (∀ v, t.swappiness = some v → v ≤ 200) ∧ (∀ v, t.zramSizePercent = some v → v ≤ 100) ∧
  ∃ mode, t.thpMode = some mode ∧ mode ∈ ["always","madvise","never"]

def ProfilesTable.Passes (t : ProfilesTable) : Prop :=
  (∀ p, t.ai = some p → p.Passes) ∧ (∀ p, t.gaming = some p → p.Passes) ∧
  (∀ p, t.balanced = some p → p.Passes) ∧ (∀ p, t.powersaver = some p → p.Passes)

structure Document.Passes (doc : Document) : Prop where
  general : ∀ t, doc.general = some t → ∀ v, t.pollingIntervalMs = some v → 100 ≤ v
  zram : ∀ t, doc.zram = some t → ∀ v, t.sizePercent = some v → v ≤ 100
  profiles : ∀ t, doc.profiles = some t → t.Passes

theorem getD_iff {A : Type} (P : A → Prop) {b : A} (hb : P b) (o : Option A) :
    P (o.getD b) ↔ ∀ v, o = some v → P v := by
  cases o <;> simp [hb]

theorem table_iff {T V : Type} (P : V → Prop) {b : V} (hb : P b) (table : Option T)
    (fill : T → V) : P ((table.map fill).getD b) ↔ ∀ t, table = some t → P (fill t) := by
  cases table <;> simp [hb]

theorem over_valid_iff (t : WorkloadTable) : (t.over .attributes).Valid ↔ t.Passes := by
  have hswappiness := getD_iff (· ≤ 200) (b := defaultSwappiness) (by decide) t.swappiness
  have hsize := getD_iff (· ≤ 100) (b := defaultZramSizePercent) (by decide) t.zramSizePercent
  have hmode : t.thpMode.getD "" ∈ ["always","madvise","never"] ↔
      ∃ mode, t.thpMode = some mode ∧ mode ∈ ["always","madvise","never"] := by
    cases t.thpMode <;> simp
  constructor
  · intro h
    exact ⟨hswappiness.mp h.swappiness,hsize.mp h.zramSizePercent,hmode.mp h.thpMode⟩
  · rintro ⟨h1,h2,h3⟩
    exact ⟨hswappiness.mpr h1,hsize.mpr h2,hmode.mpr h3⟩

theorem profile_valid_iff (t : Option WorkloadTable) :
    (WorkloadTable.fill t).Valid ↔ ∀ p, t = some p → p.Passes := by
  cases t with
  | none =>
    have hvalid : (WorkloadTable.fill none).Valid := ⟨by decide,by decide,by decide⟩
    simp [hvalid]
  | some p => simpa [WorkloadTable.fill] using over_valid_iff p

theorem default_profiles_valid : ProfilesConfig.default.Valid :=
  ⟨⟨by decide,by decide,by decide⟩,⟨by decide,by decide,by decide⟩,
    ⟨by decide,by decide,by decide⟩,⟨by decide,by decide,by decide⟩⟩

theorem profiles_valid_iff (t : ProfilesTable) : t.fill.Valid ↔ t.Passes := by
  simp only [ProfilesConfig.Valid,ProfilesTable.fill,ProfilesTable.Passes,profile_valid_iff]

theorem fill_valid_iff (doc : Document) : doc.fill.Valid ↔ doc.Passes := by
  have hgeneral := table_iff (fun g : GeneralConfig => 100 ≤ g.pollingIntervalMs)
    (b := .default) (by decide) doc.general fun t => t.over .attributes
  have hzram := table_iff (fun z : ZramConfig => z.sizePercent ≤ 100) (b := .default)
    (by decide) doc.zram fun t => t.over .attributes
  have hprofiles := table_iff ProfilesConfig.Valid default_profiles_valid doc.profiles
    ProfilesTable.fill
  have hpolling : ∀ t : GeneralTable, 100 ≤ (t.over .attributes).pollingIntervalMs ↔
      ∀ v, t.pollingIntervalMs = some v → 100 ≤ v :=
    fun t => getD_iff (100 ≤ ·) (b := defaultPollingInterval) (by decide) t.pollingIntervalMs
  have hsize : ∀ t : ZramTable, (t.over .attributes).sizePercent ≤ 100 ↔
      ∀ v, t.sizePercent = some v → v ≤ 100 :=
    fun t => getD_iff (· ≤ 100) (b := defaultZramSizePercent) (by decide) t.sizePercent
  simp only [hpolling] at hgeneral
  simp only [hsize] at hzram
  simp only [profiles_valid_iff] at hprofiles
  constructor
  · intro h
    exact ⟨hgeneral.mp h.pollingIntervalMs,hzram.mp h.sizePercent,hprofiles.mp h.profiles⟩
  · intro h
    exact ⟨hgeneral.mpr h.general,hzram.mpr h.zram,hprofiles.mpr h.profiles⟩

theorem default_valid : Config.default.Valid :=
  ⟨by decide,by decide,default_profiles_valid⟩

theorem main_total (parse : String → Except String Document) (file : ConfigFile)
    (env : StartEnv) :
    (∃ stage, main parse file env = .failed stage) ∨
      ∃ cfg classifier, main parse file env = .looping cfg classifier := by
  cases main parse file env with
  | failed stage => exact .inl ⟨stage,rfl⟩
  | looping cfg classifier => exact .inr ⟨cfg,classifier,rfl⟩

section Main

variable {parse : String → Except String Document} {file : ConfigFile} {env : StartEnv}
  {cfg : Config}

theorem main_looping {classifier : Tuning.Classifier}
    (h : main parse file env = .looping cfg classifier) :
    Config.load parse file = .ok cfg ∧ env.Passes := by
  unfold main runDaemon Tuning.Classifier.detectSystemInfo at h
  unfold StartEnv.Passes
  cases hload : Config.load parse file with
  | error message =>
    rw [hload] at h
    cases h
  | ok loaded =>
    cases hseen : env.seen.meminfo with
    | none =>
      rw [hload,hseen] at h
      cases h
    | some lines =>
      cases hbound : env.bound with
      | false =>
        rw [hload,hseen,hbound] at h
        cases h
      | true =>
        rw [hload,hseen,hbound] at h
        cases h
        exact ⟨rfl,rfl,rfl⟩

theorem main_passes (hload : Config.load parse file = .ok cfg) (henv : env.Passes) :
    ∃ classifier, main parse file env = .looping cfg classifier := by
  obtain ⟨hseen,hbound⟩ := henv
  obtain ⟨lines,hlines⟩ := Option.isSome_iff_exists.mp hseen
  simp [main,hload,runDaemon,Tuning.Classifier.detectSystemInfo,hlines,hbound]

theorem starts_valid_of (h : env.Passes → ∀ cfg, Config.load parse file = .ok cfg → cfg.Valid) :
    StartsValid parse file env := by
  constructor
  · intro cfg classifier hloop
    obtain ⟨hload,henv⟩ := main_looping hloop
    exact h henv cfg hload
  · intro cfg hload hinvalid
    rcases main_total parse file env with ⟨stage,hstage⟩ | ⟨started,classifier,hloop⟩
    · refine ⟨⟨stage,hstage⟩,?_⟩
      intro prim pass
      rw [hstage]
      rfl
    · obtain ⟨hstarted,henv⟩ := main_looping hloop
      exact absurd (h henv cfg hload) hinvalid

end Main

theorem starts_valid_iff (parse : String → Except String Document) (file : ConfigFile)
    (env : StartEnv) :
    StartsValid parse file env ↔
      ∀ content doc, env.Passes → file = .text content → parse content = .ok doc → doc.Passes := by
  constructor
  · rintro h content doc henv rfl hparse
    have hload : Config.load parse (.text content) = .ok doc.fill := by simp [Config.load,hparse]
    obtain ⟨classifier,hloop⟩ := main_passes hload henv
    exact (fill_valid_iff doc).mp (h.loops _ _ hloop)
  · intro h
    apply starts_valid_of
    intro henv cfg hload
    cases file with
    | missing =>
      cases hload
      exact default_valid
    | unreadable => cases hload
    | text content =>
      cases hparse : parse content with
      | error message => simp [Config.load,hparse] at hload
      | ok doc =>
        simp only [Config.load,hparse,Except.ok.injEq] at hload
        rw [← hload]
        exact (fill_valid_iff doc).mpr (h content doc henv rfl hparse)

section Sample

def zeroIntervalText : String := "[general]\npolling_interval_ms = 0\n"

def zeroInterval : Document := ⟨some ⟨none,none,none,none,some 0⟩,none,none,none,none,none⟩

def generalParse (content : String) : Except String Document :=
  if content = zeroIntervalText then .ok zeroInterval else .error "expected a table"

def bootEnv : StartEnv := ⟨⟨some [],none⟩,true⟩

theorem zero_interval_starts :
    zeroInterval.fill.validate = .error "polling_interval must be at least 100ms" ∧
      ¬ StartsValid generalParse (.text zeroIntervalText) bootEnv := by
  refine ⟨rfl,?_⟩
  intro h
  have hload : Config.load generalParse (.text zeroIntervalText) = .ok zeroInterval.fill := by
    simp [Config.load,generalParse]
  have henv : bootEnv.Passes := ⟨rfl,rfl⟩
  obtain ⟨classifier,hloop⟩ := main_passes hload henv
  exact absurd (h.loops _ _ hloop).pollingIntervalMs (by decide)

end Sample

end Uroam.Service
