import Uroam.Service.Config

namespace Uroam.Service

theorem getD_eq_iff {A : Type} (o : Option A) (a b : A) :
    o.getD a = o.getD b ↔ o.isSome = true ∨ a = b := by
  cases o <;> simp

def GeneralTable.Complete (t : GeneralTable) : Prop :=
  t.logFile.isSome = true ∧ t.socketPath.isSome = true

def ZramTable.Complete (t : ZramTable) : Prop := t.numDevices.isSome = true

def TmpfsTable.Complete (t : TmpfsTable) : Prop :=
  t.buildDir.isSome = true ∧ t.buildSize.isSome = true ∧ t.aiCacheDir.isSome = true ∧
    t.aiCacheSize.isSome = true

def IdleTable.Complete (t : IdleTable) : Prop := t.optimizationLevel.isSome = true

def WorkloadTable.SetsTexts (t : WorkloadTable) : Prop :=
  t.zramAlgorithm.isSome = true ∧ t.thpMode.isSome = true ∧ t.backgroundCgroupLimit.isSome = true

def WorkloadTable.CompleteAi (t : WorkloadTable) : Prop :=
  t.SetsTexts ∧ t.swappiness.isSome = true ∧ t.ksmPagesToScan.isSome = true

def WorkloadTable.CompleteGaming (t : WorkloadTable) : Prop :=
  t.SetsTexts ∧ t.swappiness.isSome = true ∧ t.zramSizePercent.isSome = true ∧
    t.ksmEnabled.isSome = true ∧ t.ksmPagesToScan.isSome = true ∧ t.cachePressure.isSome = true

def WorkloadTable.CompleteBalanced (t : WorkloadTable) : Prop :=
  t.SetsTexts ∧ t.zramSizePercent.isSome = true

def WorkloadTable.CompletePowersaver (t : WorkloadTable) : Prop :=
  t.SetsTexts ∧ t.swappiness.isSome = true ∧ t.zramSizePercent.isSome = true ∧
    t.ksmPagesToScan.isSome = true ∧ t.cachePressure.isSome = true

def ProfilesTable.Complete (t : ProfilesTable) : Prop :=
  (∃ p, t.ai = some p ∧ p.CompleteAi) ∧ (∃ p, t.gaming = some p ∧ p.CompleteGaming) ∧
  (∃ p, t.balanced = some p ∧ p.CompleteBalanced) ∧
  (∃ p, t.powersaver = some p ∧ p.CompletePowersaver)

structure Document.Complete (doc : Document) : Prop where
  general : ∀ t, doc.general = some t → t.Complete
  zram : ∀ t, doc.zram = some t → t.Complete
  profiles : ∀ t, doc.profiles = some t → t.Complete
  tmpfs : ∀ t, doc.tmpfs = some t → t.Complete
  idle : ∀ t, doc.idle = some t → t.Complete

theorem table_eq_iff {T V : Type} (table : Option T) (fill replace : T → V) (base : V) :
    (table.map fill).getD base = (table.map replace).getD base ↔
      ∀ t, table = some t → fill t = replace t := by
  cases table <;> simp

theorem general_eq_iff (t : GeneralTable) :
    t.over .attributes = t.over .default ↔ t.Complete := by
  simp [GeneralTable.over,getD_eq_iff,GeneralConfig.attributes,GeneralConfig.default,
    GeneralTable.Complete]

theorem zram_eq_iff (t : ZramTable) : t.over .attributes = t.over .default ↔ t.Complete := by
  simp [ZramTable.over,getD_eq_iff,ZramConfig.attributes,ZramConfig.default,ZramTable.Complete]

theorem tmpfs_eq_iff (t : TmpfsTable) : t.over .attributes = t.over .default ↔ t.Complete := by
  simp [TmpfsTable.over,getD_eq_iff,TmpfsConfig.attributes,TmpfsConfig.default,
    TmpfsTable.Complete]

theorem idle_eq_iff (t : IdleTable) : t.over .attributes = t.over .default ↔ t.Complete := by
  simp [IdleTable.over,getD_eq_iff,IdleConfig.attributes,IdleConfig.default,IdleTable.Complete]

theorem workload_eq_iff (t : WorkloadTable) (a b : WorkloadProfile) :
    t.over a = t.over b ↔
      (t.swappiness.isSome = true ∨ a.swappiness = b.swappiness) ∧
      (t.zramAlgorithm.isSome = true ∨ a.zramAlgorithm = b.zramAlgorithm) ∧
      (t.zramSizePercent.isSome = true ∨ a.zramSizePercent = b.zramSizePercent) ∧
      (t.ksmEnabled.isSome = true ∨ a.ksmEnabled = b.ksmEnabled) ∧
      (t.ksmPagesToScan.isSome = true ∨ a.ksmPagesToScan = b.ksmPagesToScan) ∧
      (t.thpMode.isSome = true ∨ a.thpMode = b.thpMode) ∧
      (t.cachePressure.isSome = true ∨ a.cachePressure = b.cachePressure) ∧
      (t.backgroundCgroupLimit.isSome = true ∨
        a.backgroundCgroupLimit = b.backgroundCgroupLimit) := by
  simp [WorkloadTable.over,getD_eq_iff]

theorem profile_eq_iff {base : WorkloadProfile} {Complete : WorkloadTable → Prop}
    (hbase : WorkloadProfile.default ≠ base)
    (hcomplete : ∀ t : WorkloadTable, t.over .attributes = t.over base ↔ Complete t)
    (t : Option WorkloadTable) :
    WorkloadTable.fill t = WorkloadTable.replace t base ↔ ∃ p, t = some p ∧ Complete p := by
  cases t with
  | none => simpa [WorkloadTable.fill,WorkloadTable.replace] using hbase
  | some p => simpa [WorkloadTable.fill,WorkloadTable.replace] using hcomplete p

theorem ai_eq_iff (t : WorkloadTable) :
    t.over .attributes = t.over .ai ↔ t.CompleteAi := by
  rw [workload_eq_iff]
  simp [WorkloadProfile.attributes,WorkloadProfile.ai,WorkloadTable.CompleteAi,
    WorkloadTable.SetsTexts,defaultSwappiness,defaultZramSizePercent,defaultTrue,defaultKsmPages,
    defaultCachePressure]
  tauto

theorem gaming_eq_iff (t : WorkloadTable) :
    t.over .attributes = t.over .gaming ↔ t.CompleteGaming := by
  rw [workload_eq_iff]
  simp [WorkloadProfile.attributes,WorkloadProfile.gaming,WorkloadTable.CompleteGaming,
    WorkloadTable.SetsTexts,defaultSwappiness,defaultZramSizePercent,defaultTrue,defaultKsmPages,
    defaultCachePressure]
  tauto

theorem balanced_eq_iff (t : WorkloadTable) :
    t.over .attributes = t.over .balanced ↔ t.CompleteBalanced := by
  rw [workload_eq_iff]
  simp [WorkloadProfile.attributes,WorkloadProfile.balanced,WorkloadTable.CompleteBalanced,
    WorkloadTable.SetsTexts,defaultSwappiness,defaultZramSizePercent,defaultTrue,defaultKsmPages,
    defaultCachePressure]
  tauto

theorem powersaver_eq_iff (t : WorkloadTable) :
    t.over .attributes = t.over .powersaver ↔ t.CompletePowersaver := by
  rw [workload_eq_iff]
  simp [WorkloadProfile.attributes,WorkloadProfile.powersaver,WorkloadTable.CompletePowersaver,
    WorkloadTable.SetsTexts,defaultSwappiness,defaultZramSizePercent,defaultTrue,defaultKsmPages,
    defaultCachePressure]
  tauto

theorem profiles_eq_iff (t : ProfilesTable) : t.fill = t.replace .default ↔ t.Complete := by
  have hai := profile_eq_iff (by decide) ai_eq_iff t.ai
  have hgaming := profile_eq_iff (by decide) gaming_eq_iff t.gaming
  have hbalanced := profile_eq_iff (by decide) balanced_eq_iff t.balanced
  have hpowersaver := profile_eq_iff (by decide) powersaver_eq_iff t.powersaver
  simp [ProfilesTable.fill,ProfilesTable.replace,ProfilesConfig.default,ProfilesTable.Complete,hai,
    hgaming,hbalanced,hpowersaver]

theorem fill_eq_iff (doc : Document) : doc.fill = doc.replace .default ↔ doc.Complete := by
  have hzswap : ∀ t, doc.zswap = some t → t.over .attributes = t.over .default := fun _ _ => rfl
  have hfields : doc.fill = doc.replace .default ↔
      (∀ t, doc.general = some t → t.Complete) ∧ (∀ t, doc.zram = some t → t.Complete) ∧
      (∀ t, doc.profiles = some t → t.Complete) ∧ (∀ t, doc.tmpfs = some t → t.Complete) ∧
      (∀ t, doc.idle = some t → t.Complete) := by
    simp only [Document.fill,Document.replace,Config.default,Config.mk.injEq,table_eq_iff,
      general_eq_iff,zram_eq_iff,profiles_eq_iff,tmpfs_eq_iff,idle_eq_iff,and_iff_right hzswap]
  rw [hfields]
  exact ⟨fun ⟨hg,hz,hp,ht,hi⟩ => ⟨hg,hz,hp,ht,hi⟩,
    fun h => ⟨h.general,h.zram,h.profiles,h.tmpfs,h.idle⟩⟩

theorem load_replaces_iff (parse : String → Except String Document) (content : String)
    (doc : Document) (hparse : parse content = .ok doc) :
    Config.load parse (.text content) = .ok (doc.replace .default) ↔ doc.Complete := by
  rw [← fill_eq_iff]
  simp [Config.load,hparse]

section Sample

def emptyDocument : Document := ⟨none,none,none,none,none,none⟩

def gamingSwappinessSet : Document :=
  { emptyDocument with
    profiles := some ⟨none,some ⟨some 10,none,none,none,none,none,none,none⟩,none,none⟩ }

def gamingText : String := "[profiles.gaming]\nswappiness = 10\n"

def siteDocument : Document :=
  { emptyDocument with
    general := some ⟨none,none,some "/tmp/uroamd.log",some "/tmp/uroamd.sock",some 250⟩
    zram := some ⟨none,some 75,some "2",none⟩
    idle := some ⟨none,some "aggressive",none⟩ }

def siteText : String :=
  "[general]\nlog_file = '/tmp/uroamd.log'\nsocket_path = '/tmp/uroamd.sock'\n" ++
  "polling_interval_ms = 250\n[zram]\nsize_percent = 75\nnum_devices = '2'\n" ++
  "[idle]\noptimization_level = 'aggressive'\n"

def siteParse (content : String) : Except String Document :=
  if content = siteText then .ok siteDocument else .error "expected a table"

def sampleParse (content : String) : Except String Document :=
  if content = gamingText then .ok gamingSwappinessSet else .error "expected a table"

theorem siteDocument_complete : siteDocument.Complete := by
  constructor <;> simp [siteDocument,emptyDocument,GeneralTable.Complete,ZramTable.Complete,
    IdleTable.Complete]

theorem load_replaces_iff_sample :
    Config.load siteParse (.text siteText) = .ok (siteDocument.replace .default) :=
  (load_replaces_iff siteParse siteText siteDocument (if_pos rfl)).mpr siteDocument_complete

theorem gaming_swappiness_resets_profiles :
    sampleParse gamingText = .ok gamingSwappinessSet ∧
      Config.load sampleParse (.text gamingText) ≠ .ok (gamingSwappinessSet.replace .default) := by
  have hparse : sampleParse gamingText = .ok gamingSwappinessSet := if_pos rfl
  refine ⟨hparse,?_⟩
  intro hload
  have hfill : gamingSwappinessSet.fill = gamingSwappinessSet.replace .default := by
    simpa [Config.load,hparse] using hload
  exact absurd (congrArg (fun cfg => cfg.profiles.ai.swappiness) hfill) (by decide)

end Sample

end Uroam.Service
