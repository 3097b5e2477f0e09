import Mathlib.Data.List.Count
import Uroam.Tuning.Selection

namespace Uroam.Tuning

def Write.oomTarget : Write → Option (ℤ × ℤ)
  | .oomScoreAdj pid adj => some (pid,adj)
  | .tunable _ _ | .dropCaches _ => none

def oomScores (files : ℤ → ℤ) (writes : List Write) : ℤ → ℤ :=
  writes.foldl (Settings.perform Write.oomTarget) files

def oomWrites (pid : ℤ) (writes : List Write) : ℕ :=
  writes.countP fun w => (Settings.valueOn Write.oomTarget pid w).isSome

section Lists

variable {A : Type} {f : A → ℕ} {q : A → Bool} {as : List A}

theorem key_mem_iff (h : (as.map f).Nodup) {a : A} (ha : a ∈ as) :
    f a ∈ (as.filter q).map f ↔ q a = true := by
  constructor
  · intro hmem
    obtain ⟨b,hb,hkey⟩ := List.mem_map.mp hmem
    obtain ⟨hb,hq⟩ := List.mem_filter.mp hb
    rwa [← List.inj_on_of_nodup_map h hb ha hkey]
  · intro hq
    exact List.mem_map_of_mem (List.mem_filter.mpr ⟨ha,hq⟩)

theorem key_count (h : (as.map f).Nodup) {a : A} (ha : a ∈ as) :
    ((as.filter q).map f).count (f a) = if q a = true then 1 else 0 := by
  have hnodup : ((as.filter q).map f).Nodup := (List.filter_sublist.map f).nodup h
  rw [hnodup.count]
  simp only [key_mem_iff h ha]

end Lists

section Writes

variable (adj : ℤ) (pid : ℕ)

theorem setOom_cons (p : ℕ) (pids : List ℕ) :
    setOomScoreAdj adj (p :: pids) = .oomScoreAdj p adj :: setOomScoreAdj adj pids := rfl

theorem valueOn_oom (p : ℕ) :
    Settings.valueOn Write.oomTarget pid (.oomScoreAdj p adj) =
      if p = pid then some adj else none := by
  change (if (p : ℤ) = pid then some adj else none) = _
  simp only [Int.natCast_inj]

theorem setOom_last (pids : List ℕ) :
    Settings.lastSome (Settings.valueOn Write.oomTarget pid) (setOomScoreAdj adj pids) =
      if pid ∈ pids then some adj else none := by
  induction pids with
  | nil => rfl
  | cons p pids ih =>
    rw [setOom_cons,Settings.lastSome_cons,ih,valueOn_oom]
    by_cases hp : p = pid
    · by_cases hrest : pid ∈ pids <;> simp [hp,hrest]
    · have hne : pid ≠ p := fun h => hp h.symm
      simp [hp,hne]

theorem setOom_count (pids : List ℕ) :
    oomWrites pid (setOomScoreAdj adj pids) = pids.count pid := by
  induction pids with
  | nil => rfl
  | cons p pids ih =>
    rw [oomWrites] at ih
    rw [oomWrites,setOom_cons,List.countP_cons,ih,valueOn_oom,List.count_cons]
    by_cases hp : p = pid <;> simp [hp]

def aiTunables (cfg : Config) : List Write :=
  let profile := cfg.getProfile .ai
  setSwappiness profile.swappiness ++ setVfsCachePressure profile.cachePressure ++
    (if profile.ksmEnabled then enableKsm true ++ setKsmPagesToScan profile.ksmPagesToScan
      else []) ++
    setThpMode profile.thpMode

theorem applyAi_eq (cfg : Config) (c : Classifier) :
    applyAiOptimizations cfg c = aiTunables cfg ++ setOomScoreAdj (-900) c.getHighPriorityPids ++
      setOomScoreAdj 300 c.getLowPriorityPids := rfl

theorem aiTunables_oom (cfg : Config) :
    Settings.lastSome (Settings.valueOn Write.oomTarget pid) (aiTunables cfg) = none ∧
      oomWrites pid (aiTunables cfg) = 0 := by
  unfold aiTunables
  dsimp only
  cases (cfg.getProfile .ai).ksmEnabled <;> exact ⟨rfl,rfl⟩

theorem ai_scores (cfg : Config) (c : Classifier) (files : ℤ → ℤ) :
    oomScores files (applyAiOptimizations cfg c) pid =
      if pid ∈ c.getLowPriorityPids then 300
      else if pid ∈ c.getHighPriorityPids then -900
      else files pid := by
  rw [oomScores,Settings.perform_all,applyAi_eq,Settings.lastSome_append,Settings.lastSome_append,
    setOom_last,setOom_last,(aiTunables_oom pid cfg).1]
  split_ifs <;> rfl

theorem ai_writes (cfg : Config) (c : Classifier) :
    oomWrites pid (applyAiOptimizations cfg c) =
      c.getHighPriorityPids.count pid + c.getLowPriorityPids.count pid := by
  have htunables := (aiTunables_oom pid cfg).2
  have hhigh := setOom_count (-900) pid c.getHighPriorityPids
  have hlow := setOom_count 300 pid c.getLowPriorityPids
  unfold oomWrites at *
  rw [applyAi_eq,List.countP_append,List.countP_append,htunables,hhigh,hlow,Nat.zero_add]

end Writes

def Priority.low : Priority → Bool
  | .p0 | .p1 => false
  | .p2 | .p3 => true

section Passes

variable (prim : Primitives) (cfg : Config)

theorem process_score (c : Classifier) (files : ℤ → ℤ)
    (hdistinct : (c.processes.map ProcessInfo.pid).Nodup) {p : ProcessInfo} (hp : p ∈ c.processes) :
    oomScores files (applyAiOptimizations cfg c) p.pid = (if p.priority.low then 300 else -900) ∧
      oomWrites p.pid (applyAiOptimizations cfg c) = 1 := by
  rw [ai_scores,ai_writes]
  unfold Classifier.getLowPriorityPids Classifier.getHighPriorityPids
  rw [key_count hdistinct hp,key_count hdistinct hp]
  simp only [key_mem_iff hdistinct hp]
  cases p.priority <;> exact ⟨rfl,rfl⟩

theorem shielded_low {w : WorkloadType}
    (hw : w ∈ [WorkloadType.aiInference,.aiTraining,.gaming,.interactive]) (hne : w ≠ .aiTraining) :
    (determinePriority w).low = false := by
  cases w <;> first | rfl | simp at hw hne

theorem exposed_low {w : WorkloadType} (hw : w ∈ [WorkloadType.background,.general]) :
    (determinePriority w).low = true := by
  cases w <;> first | rfl | simp at hw

structure OomByClass (processes : List ProcessInfo) (files : ℤ → ℤ) (writes : List Write) :
    Prop where
  shielded : ∀ p ∈ processes,
    p.workloadType ∈ [.aiInference,.aiTraining,.gaming,.interactive] →
      oomScores files writes p.pid = -900
  exposed : ∀ p ∈ processes, p.workloadType ∈ [.background,.general] →
    oomScores files writes p.pid = 300
  once : ∀ p ∈ processes, oomWrites p.pid writes = 1

theorem ai_oom_scores_iff (c : Classifier) (seen : Snapshot) (walk : MapOrder) (files : ℤ → ℤ)
    (hdistinct : (seen.proc.map ProcEntry.pid).Nodup)
    (hai : (seen.scanned prim c).mode prim walk = .ai) :
    OomByClass (runOptimizationPass prim cfg c (seen.pass walk)).1.processes files
        (runOptimizationPass prim cfg c (seen.pass walk)).2 ↔
      ∀ e ∈ seen.proc, classifyProcess prim e.comm e.cmdline ≠ .aiTraining := by
  rw [pass_scanned,hai]
  change OomByClass (seen.proc.map (scanEntry prim)) files
    (applyAiOptimizations cfg (seen.scanned prim c)) ↔ _
  have hpids : ((seen.proc.map (scanEntry prim)).map ProcessInfo.pid).Nodup := by
    rwa [List.map_map]
  have hscore : ∀ p ∈ seen.proc.map (scanEntry prim),
      oomScores files (applyAiOptimizations cfg (seen.scanned prim c)) p.pid =
          (if p.priority.low then 300 else -900) ∧
        oomWrites p.pid (applyAiOptimizations cfg (seen.scanned prim c)) = 1 :=
    fun p hp => process_score cfg (seen.scanned prim c) files hpids hp
  constructor
  · intro h e he htraining
    have hp : scanEntry prim e ∈ seen.proc.map (scanEntry prim) := List.mem_map_of_mem he
    have hshielded := h.shielded _ hp (by simp [scanEntry,htraining])
    rw [(hscore _ hp).1] at hshielded
    simp [scanEntry,htraining,determinePriority,Priority.low] at hshielded
  · intro hnone
    refine ⟨?_,?_,fun p hp => (hscore p hp).2⟩
    · intro p hp hclass
      rw [(hscore p hp).1]
      obtain ⟨e,he,rfl⟩ := List.mem_map.mp hp
      have hlow : (scanEntry prim e).priority.low = false := shielded_low hclass (hnone e he)
      rw [hlow]
      rfl
    · intro p hp hclass
      rw [(hscore p hp).1]
      obtain ⟨e,he,rfl⟩ := List.mem_map.mp hp
      have hlow : (scanEntry prim e).priority.low = true := exposed_low hclass
      rw [hlow]
      rfl

end Passes

def modelServer : Snapshot :=
  ⟨halfUsed,[⟨100,"ollama".toList,"ollama serve".toList⟩,⟨101,"ollama".toList,"ollama run".toList⟩,
    ⟨200,"bash".toList,"-bash".toList⟩]⟩

def trainingHost : Snapshot :=
  ⟨halfUsed,[⟨300,"python3".toList,"python3 train.py".toList⟩]⟩

theorem ai_oom_scores_iff_server :
    OomByClass (runOptimizationPass asciiPrimitives Config.default Classifier.new
          (modelServer.pass sampleWalk)).1.processes (fun _ => 0)
        (runOptimizationPass asciiPrimitives Config.default Classifier.new
          (modelServer.pass sampleWalk)).2 ↔
      ∀ e ∈ modelServer.proc, classifyProcess asciiPrimitives e.comm e.cmdline ≠ .aiTraining :=
  ai_oom_scores_iff asciiPrimitives Config.default Classifier.new modelServer sampleWalk
    (fun _ => 0) (by decide +kernel) (by decide +kernel)

theorem training_preferred_victim :
    ¬ ∀ (prim : Primitives) (cfg : Config) (c : Classifier) (seen : Snapshot) (walk : MapOrder)
      (files : ℤ → ℤ), (seen.proc.map ProcEntry.pid).Nodup →
        (seen.scanned prim c).mode prim walk = .ai →
          OomByClass (runOptimizationPass prim cfg c (seen.pass walk)).1.processes files
            (runOptimizationPass prim cfg c (seen.pass walk)).2 := by
  intro h
  have hscores := h asciiPrimitives Config.default Classifier.new trainingHost sampleWalk
    (fun _ => 0) (by decide +kernel) (by decide +kernel)
  have hshielded := hscores.shielded ⟨300,.aiTraining,.p2⟩ (by decide +kernel) (by decide)
  exact absurd hshielded (by decide +kernel)

end Uroam.Tuning
