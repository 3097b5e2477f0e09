import Uroam.Tuning.Engine

namespace Uroam.Tuning

section Modes

variable (prim : Primitives) (cfg : Config)

def modeOf (c : Classifier) (p : Pass) : Option Mode :=
  ((c.detectSystemInfo p.seen).bind (·.scanProcesses prim p.seen)).map (·.mode prim p.walk)

def modes : System → List Pass → List Mode
  | _, [] => []
  | s, p :: ps => (modeOf prim s.classifier p).toList ++ modes (s.pass prim cfg p) ps

theorem pass_lastWritten (c : Classifier) (p : Pass) (t : Tunable) :
    lastWritten t (runOptimizationPass prim cfg c p).2 =
      Settings.lastSome (cfg.sets t) (modeOf prim c p).toList := by
  unfold runOptimizationPass modeOf
  cases c.detectSystemInfo p.seen with
  | none => rfl
  | some detected =>
    cases hs : detected.scanProcesses prim p.seen with
    | none => simp [hs]
    | some scanned => simp [hs,applyMode_lastWritten]

theorem pass_store (s : System) (p : Pass) (t : Tunable) :
    (s.pass prim cfg p).store t =
      (Settings.lastSome (cfg.sets t) (modeOf prim s.classifier p).toList).getD (s.store t) := by
  change s.store.write (runOptimizationPass prim cfg s.classifier p).2 t = _
  rw [write_apply,pass_lastWritten]

theorem run_store (ps : List Pass) (s : System) (t : Tunable) :
    (Runs.exec (System.pass prim cfg) s ps).store t =
      (Settings.lastSome (cfg.sets t) (modes prim cfg s ps)).getD (s.store t) := by
  induction ps generalizing s with
  | nil => rfl
  | cons p ps ih =>
    rw [Runs.exec_cons,ih,pass_store,modes,Settings.lastSome_append,Option.getD_or]

theorem modes_concat (ps : List Pass) (s : System) (p : Pass) :
    modes prim cfg s (ps ++ [p]) = modes prim cfg s ps ++
      (modeOf prim (Runs.exec (System.pass prim cfg) s ps).classifier p).toList := by
  induction ps generalizing s with
  | nil => simp [modes]
  | cons q ps ih => simp [modes,ih]

end Modes

structure Snapshot where
  meminfo : List (List Char × List Char)
  proc : List ProcEntry

def Snapshot.pass (seen : Snapshot) (walk : MapOrder) : Pass :=
  ⟨⟨some seen.meminfo,some seen.proc⟩,walk⟩

def Snapshot.mode (prim : Primitives) (c : Classifier) (seen : Snapshot) (walk : MapOrder) : Mode :=
  let detected := { c with systemInfo := c.systemInfo.detect seen.meminfo }
  (detected.clear.scanned prim seen.proc).mode prim walk

structure SameSettings (cfg : Config) (init : Store) (earlierA : List Mode) (lastA : Mode)
    (earlierB : List Mode) (lastB : Mode) : Prop where
  swappiness : cfg.swappiness lastA = cfg.swappiness lastB
  cachePressure : cfg.cachePressure lastA = cfg.cachePressure lastB
  thpMode : cfg.thpMode lastA = cfg.thpMode lastB
  gaming : (Mode.gaming ∈ earlierA ++ [lastA] ↔ Mode.gaming ∈ earlierB ++ [lastB]) ∨
    (init .pageCluster = .num 0 ∧ init .minFreeKbytes = .num 65536)
  ksmRun : ((Settings.lastSome cfg.ksmRun (earlierA ++ [lastA])).map .num).getD (init .ksmRun) =
    ((Settings.lastSome cfg.ksmRun (earlierB ++ [lastB])).map .num).getD (init .ksmRun)
  ksmPagesToScan :
    ((Settings.lastSome cfg.ksmPagesToScan (earlierA ++ [lastA])).map .num).getD
        (init .ksmPagesToScan) =
      ((Settings.lastSome cfg.ksmPagesToScan (earlierB ++ [lastB])).map .num).getD
        (init .ksmPagesToScan)

section Final

variable (cfg : Config)

def Config.final (init : Store) (ms : List Mode) (t : Tunable) : Setting :=
  (Settings.lastSome (cfg.sets t) ms).getD (init t)

theorem final_always {t : Tunable} {f : Mode → Setting} (h : ∀ m, cfg.sets t m = some (f m))
    (init : Store) (ms : List Mode) (m : Mode) : cfg.final init (ms ++ [m]) t = f m := by
  unfold Config.final
  rw [Settings.lastSome_concat,h m]
  rfl

theorem final_gaming {t : Tunable} {v : Setting}
    (h : ∀ m, cfg.sets t m = if m = .gaming then some v else none) (init : Store) (ms : List Mode) :
    cfg.final init ms t = if .gaming ∈ ms then v else init t := by
  unfold Config.final
  rw [Settings.lastSome_const h]
  by_cases hg : Mode.gaming ∈ ms <;> simp [hg]

theorem final_never {t : Tunable} (h : ∀ m, cfg.sets t m = none) (init : Store) (ms : List Mode) :
    cfg.final init ms t = init t := by
  unfold Config.final
  rw [Settings.lastSome_none.mpr (fun m _ => h m)]
  rfl

theorem final_pageCluster (init : Store) (ms : List Mode) :
    cfg.final init ms .pageCluster = if .gaming ∈ ms then .num 0 else init .pageCluster :=
  final_gaming cfg (fun m => by cases m <;> rfl) init ms

theorem final_minFreeKbytes (init : Store) (ms : List Mode) :
    cfg.final init ms .minFreeKbytes = if .gaming ∈ ms then .num 65536 else init .minFreeKbytes :=
  final_gaming cfg (fun m => by cases m <;> rfl) init ms

theorem final_ksmRun (init : Store) (ms : List Mode) :
    cfg.final init ms .ksmRun =
      ((Settings.lastSome cfg.ksmRun ms).map .num).getD (init .ksmRun) := by
  rw [← Settings.lastSome_value]
  rfl

theorem final_ksmPagesToScan (init : Store) (ms : List Mode) :
    cfg.final init ms .ksmPagesToScan =
      ((Settings.lastSome cfg.ksmPagesToScan ms).map .num).getD (init .ksmPagesToScan) := by
  rw [← Settings.lastSome_value]
  rfl

theorem conditional_agree_iff {P Q : Prop} [Decidable P] [Decidable Q] {v w : Setting} :
    ((if P then v else w) = if Q then v else w) ↔ w = v ∨ (P ↔ Q) := by
  split_ifs with hp hq hq
  · simp [hp,hq]
  · simp [hp,hq,eq_comm]
  · simp [hp,hq]
  · simp [hp,hq]

theorem final_agree_iff (init : Store) (earlierA earlierB : List Mode) (lastA lastB : Mode) :
    (∀ t, cfg.final init (earlierA ++ [lastA]) t = cfg.final init (earlierB ++ [lastB]) t) ↔
      SameSettings cfg init earlierA lastA earlierB lastB := by
  have hsw := final_always cfg (t := .swappiness) (fun _ => rfl) init
  have hcp := final_always cfg (t := .vfsCachePressure) (fun _ => rfl) init
  have hte := final_always cfg (t := .thpEnabled) (fun _ => rfl) init
  have htd := final_always cfg (t := .thpDefrag) (fun _ => rfl) init
  constructor
  · intro h
    refine ⟨?_,?_,?_,?_,?_,?_⟩
    · simpa only [hsw,Setting.num.injEq] using h .swappiness
    · simpa only [hcp,Setting.num.injEq] using h .vfsCachePressure
    · simpa only [hte,Setting.word.injEq] using h .thpEnabled
    · have hpc := h .pageCluster
      have hmf := h .minFreeKbytes
      rw [final_pageCluster,final_pageCluster,conditional_agree_iff] at hpc
      rw [final_minFreeKbytes,final_minFreeKbytes,conditional_agree_iff] at hmf
      rcases hpc with hpc | hsame
      · rcases hmf with hmf | hsame
        · exact .inr ⟨hpc,hmf⟩
        · exact .inl hsame
      · exact .inl hsame
    · simpa only [final_ksmRun] using h .ksmRun
    · simpa only [final_ksmPagesToScan] using h .ksmPagesToScan
  · intro h t
    cases t with
    | swappiness => rw [hsw,hsw,h.swappiness]
    | vfsCachePressure => rw [hcp,hcp,h.cachePressure]
    | thpEnabled => rw [hte,hte,h.thpMode]
    | thpDefrag => rw [htd,htd,h.thpMode]
    | pageCluster =>
      rw [final_pageCluster,final_pageCluster,conditional_agree_iff]
      exact h.gaming.symm.imp_left And.left
    | minFreeKbytes =>
      rw [final_minFreeKbytes,final_minFreeKbytes,conditional_agree_iff]
      exact h.gaming.symm.imp_left And.right
    | ksmRun => rw [final_ksmRun,final_ksmRun,h.ksmRun]
    | ksmPagesToScan => rw [final_ksmPagesToScan,final_ksmPagesToScan,h.ksmPagesToScan]
    | dirtyRatio | dirtyBackgroundRatio | ksmSleepMillisecs | zswapEnabled | zswapMaxPoolPercent
    | zswapCompressor =>
      rw [final_never cfg (fun _ => rfl),final_never cfg (fun _ => rfl)]

end Final

section Runs

variable (prim : Primitives) (cfg : Config)

theorem run_final (init : Store) (earlier : List Pass) (seen : Snapshot) (walk : MapOrder)
    (t : Tunable) :
    (Runs.exec (System.pass prim cfg) (start init) (earlier ++ [seen.pass walk])).store t =
      cfg.final init (modes prim cfg (start init) earlier ++
        [seen.mode prim (Runs.exec (System.pass prim cfg) (start init) earlier).classifier walk])
        t := by
  rw [run_store,modes_concat]
  rfl

theorem same_observation_same_settings_iff (init : Store) (earlierA earlierB : List Pass)
    (seen : Snapshot) (walkA walkB : MapOrder) :
    (∀ t, (Runs.exec (System.pass prim cfg) (start init) (earlierA ++ [seen.pass walkA])).store t =
        (Runs.exec (System.pass prim cfg) (start init) (earlierB ++ [seen.pass walkB])).store t) ↔
      SameSettings cfg init
        (modes prim cfg (start init) earlierA)
        (seen.mode prim (Runs.exec (System.pass prim cfg) (start init) earlierA).classifier walkA)
        (modes prim cfg (start init) earlierB)
        (seen.mode prim (Runs.exec (System.pass prim cfg) (start init) earlierB).classifier walkB) := by
  rw [← final_agree_iff]
  exact forall_congr' fun t => by rw [run_final,run_final]

end Runs

section Sample

def asciiPrimitives : Primitives :=
  { toLowercase := List.map Char.toLower
    percentBelow40 := fun used total => decide (100 * used < 40 * total) }

def sampleWalk : MapOrder :=
  { order := [.general,.aiInference,.aiTraining,.gaming,.compilation,.rendering,.interactive,
      .background,.idle]
    nodup := by decide
    complete := fun w => by cases w <;> decide }

def sampleStore : Store
  | .swappiness => .num 60
  | .vfsCachePressure => .num 100
  | .pageCluster => .num 3
  | .minFreeKbytes => .num 67584
  | .ksmPagesToScan => .num 100
  | .thpEnabled | .thpDefrag => .word "madvise"
  | _ => .num 0

def halfUsed : List (List Char × List Char) :=
  [("MemTotal:".toList,"16000".toList),("MemAvailable:".toList,"8000".toList)]

def gamePass : Pass :=
  Snapshot.pass ⟨halfUsed,[⟨100,"steam".toList,"/usr/bin/steam".toList⟩]⟩ sampleWalk

def plainPass : Pass :=
  Snapshot.pass ⟨halfUsed,[⟨200,"bash".toList,"-bash".toList⟩]⟩ sampleWalk

theorem game_settings_stay :
    (Runs.exec (System.pass asciiPrimitives Config.default) (start sampleStore)
      [gamePass,plainPass]).store .pageCluster = .num 0 ∧
    (Runs.exec (System.pass asciiPrimitives Config.default) (start sampleStore)
      [plainPass]).store .pageCluster = .num 3 := by
  decide +kernel

end Sample

end Uroam.Tuning
