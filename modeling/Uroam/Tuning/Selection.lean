import Mathlib.Data.List.Nodup
import Uroam.Library.Selection
import Uroam.Tuning.History

namespace Uroam.Tuning

structure CountMap where
  entries : List (WorkloadType × ℕ)
  distinct : (entries.map Prod.fst).Nodup

def currentWorkload (order : List (WorkloadType × ℕ)) : WorkloadType :=
  let best := order.foldl (fun (best : ℕ × WorkloadType) entry =>
    if entry.2 > best.1 then (entry.2,entry.1) else best) (0,.general)
  if best.1 = 0 then .idle else best.2

theorem currentWorkload_eq (order : List (WorkloadType × ℕ)) :
    currentWorkload order =
      let best := Selection.select Prod.snd Prod.fst (0,.general) order
      if best.1 = 0 then .idle else best.2 := rfl

theorem getCurrentWorkload_eq (c : Classifier) (walk : MapOrder) :
    c.getCurrentWorkload walk =
      currentWorkload ((walk.order.filter fun w => c.workloadCounts w > 0).map fun w =>
        (w,c.workloadCounts w)) := by
  unfold currentWorkload
  rw [List.foldl_map]
  rfl

def Leads (entries : List (WorkloadType × ℕ)) (entry : WorkloadType × ℕ) : Prop :=
  entry ∈ entries ∧ 0 < entry.2 ∧ ∀ other ∈ entries, other.2 ≤ entry.2

theorem currentWorkload_zero {order : List (WorkloadType × ℕ)} (h : ∀ e ∈ order, e.2 = 0) :
    currentWorkload order = .idle := by
  rw [currentWorkload_eq,Selection.select_eq_start]
  · rfl
  · intro e he
    exact Nat.le_of_eq (h e he)

theorem currentWorkload_leads {order : List (WorkloadType × ℕ)} (h : ∃ e ∈ order, 0 < e.2) :
    ∃ e, Leads order e ∧ currentWorkload order = e.1 := by
  obtain ⟨e,he,hpos,hmax,hsel⟩ := Selection.select_maximal Prod.snd Prod.fst (0,.general) h
  refine ⟨e,⟨he,hpos,hmax⟩,?_⟩
  rw [currentWorkload_eq,hsel]
  exact if_neg (Nat.ne_of_gt hpos)

theorem currentWorkload_front {e : WorkloadType × ℕ} {rest : List (WorkloadType × ℕ)}
    (h : Leads (e :: rest) e) : currentWorkload (e :: rest) = e.1 := by
  have hmax : ∀ b ∈ rest, b.2 ≤ e.2 := fun b hb => h.2.2 b (List.mem_cons_of_mem e hb)
  rw [currentWorkload_eq,Selection.select_front Prod.snd Prod.fst h.2.1 hmax]
  exact if_neg (Nat.ne_of_gt h.2.1)

theorem leads_perm {as bs : List (WorkloadType × ℕ)} (h : as.Perm bs) {e : WorkloadType × ℕ} :
    Leads as e ↔ Leads bs e := by
  unfold Leads
  simp only [h.mem_iff]

theorem exists_order {entries : List (WorkloadType × ℕ)} {e : WorkloadType × ℕ}
    (h : Leads entries e) : ∃ order : List (WorkloadType × ℕ),
      order.Perm entries ∧ currentWorkload order = e.1 := by
  have hperm := (List.perm_cons_erase h.1).symm
  exact ⟨e :: entries.erase e,hperm,currentWorkload_front ((leads_perm hperm).mpr h)⟩

structure Chosen (entries : List (WorkloadType × ℕ)) (w : WorkloadType) : Prop where
  idle : w = .idle ↔ ∀ e ∈ entries, e.2 = 0
  maximal : (∃ e ∈ entries, 0 < e.2) → ∃ e, Leads entries e ∧ e.1 = w

structure OneChoice (counts : CountMap) : Prop where
  chosen : ∀ order : List (WorkloadType × ℕ),
    order.Perm counts.entries → Chosen counts.entries (currentWorkload order)
  same : ∀ order order' : List (WorkloadType × ℕ), order.Perm counts.entries →
    order'.Perm counts.entries → currentWorkload order = currentWorkload order'

theorem one_choice {counts : CountMap} {w : WorkloadType}
    (hcurrent : ∀ order : List (WorkloadType × ℕ),
      order.Perm counts.entries → currentWorkload order = w)
    (hchosen : Chosen counts.entries w) : OneChoice counts where
  chosen order hperm := by rwa [hcurrent order hperm]
  same order order' hperm hperm' := by rw [hcurrent order hperm,hcurrent order' hperm']

theorem current_workload_iff (counts : CountMap) :
    OneChoice counts ↔
      ∀ e, Leads counts.entries e → e.1 ≠ .idle ∧ ∀ f, Leads counts.entries f → f = e := by
  constructor
  · intro h e he
    obtain ⟨order,hperm,hcurrent⟩ := exists_order he
    refine ⟨?_,?_⟩
    · intro hidle
      have hzero := (h.chosen order hperm).idle.mp (hcurrent.trans hidle)
      exact absurd (hzero e he.1) (Nat.ne_of_gt he.2.1)
    · intro f hf
      obtain ⟨order',hperm',hcurrent'⟩ := exists_order hf
      have hkey : f.1 = e.1 := by
        rw [← hcurrent,← hcurrent']
        exact h.same order' order hperm' hperm
      exact List.inj_on_of_nodup_map counts.distinct hf.1 he.1 hkey
  · intro h
    by_cases hpos : ∃ e ∈ counts.entries, 0 < e.2
    · obtain ⟨e,he,_⟩ := currentWorkload_leads hpos
      have hcurrent : ∀ order : List (WorkloadType × ℕ), order.Perm counts.entries →
          currentWorkload order = e.1 := by
        intro order hperm
        obtain ⟨f,hf,hsel⟩ := currentWorkload_leads ⟨e,hperm.mem_iff.mpr he.1,he.2.1⟩
        rw [hsel,(h e he).2 f ((leads_perm hperm).mp hf)]
      refine one_choice hcurrent ⟨⟨fun hidle => absurd hidle (h e he).1,?_⟩,fun _ => ⟨e,he,rfl⟩⟩
      intro hzero
      exact absurd (hzero e he.1) (Nat.ne_of_gt he.2.1)
    · have hzero : ∀ e ∈ counts.entries, e.2 = 0 := by
        intro e he
        exact Nat.eq_zero_of_not_pos fun hlt => hpos ⟨e,he,hlt⟩
      refine one_choice ?_ ⟨⟨fun _ => hzero,fun _ => rfl⟩,fun hsome => absurd hsome hpos⟩
      intro order hperm
      exact currentWorkload_zero fun e he => hzero e (hperm.mem_iff.mp he)

theorem tie_follows_order :
    ¬ ∀ counts : CountMap, OneChoice counts := by
  intro h
  have hsame := (h ⟨[(.gaming,1),(.aiTraining,1)],by decide⟩).same
    [(.gaming,1),(.aiTraining,1)] [(.aiTraining,1),(.gaming,1)] (List.Perm.refl _)
    (List.Perm.swap ..)
  exact absurd hsame (by decide)

section Walks

variable (c : Classifier) (walk : MapOrder)

theorem getCurrentWorkload_leads {w : WorkloadType} (h : 0 < c.workloadCounts w) :
    0 < c.workloadCounts (c.getCurrentWorkload walk) ∧
      ∀ u, c.workloadCounts u ≤ c.workloadCounts (c.getCurrentWorkload walk) := by
  have hentry : ∀ u, 0 < c.workloadCounts u → (u,c.workloadCounts u) ∈
      (walk.order.filter fun w => c.workloadCounts w > 0).map fun w => (w,c.workloadCounts w) := by
    intro u hu
    exact List.mem_map.mpr ⟨u,List.mem_filter.mpr ⟨walk.complete u,by simpa using hu⟩,rfl⟩
  obtain ⟨e,⟨he,hpos,hmax⟩,hcurrent⟩ := currentWorkload_leads ⟨_,hentry w h,h⟩
  obtain ⟨v,_,rfl⟩ := List.mem_map.mp he
  rw [getCurrentWorkload_eq,hcurrent]
  refine ⟨hpos,fun u => ?_⟩
  rcases Nat.eq_zero_or_pos (c.workloadCounts u) with hzero | hu
  · rw [hzero]
    exact Nat.zero_le _
  · exact hmax _ (hentry u hu)

theorem getCurrentWorkload_idle (h : ∀ w, c.workloadCounts w = 0) :
    c.getCurrentWorkload walk = .idle := by
  rw [getCurrentWorkload_eq]
  apply currentWorkload_zero
  intro e he
  obtain ⟨w,_,rfl⟩ := List.mem_map.mp he
  exact h w

def MapOrder.front (walk : MapOrder) (w : WorkloadType) : MapOrder where
  order := w :: walk.order.erase w
  nodup := (List.perm_cons_erase (walk.complete w)).nodup_iff.mp walk.nodup
  complete u := (List.perm_cons_erase (walk.complete w)).mem_iff.mp (walk.complete u)

theorem getCurrentWorkload_front {w : WorkloadType} (hpos : 0 < c.workloadCounts w)
    (hmax : ∀ u, c.workloadCounts u ≤ c.workloadCounts w) :
    c.getCurrentWorkload (walk.front w) = w := by
  rw [getCurrentWorkload_eq,MapOrder.front,List.filter_cons_of_pos (by simpa using hpos),
    List.map_cons]
  apply currentWorkload_front
  refine ⟨List.mem_cons_self ..,hpos,?_⟩
  intro other hother
  rcases List.mem_cons.mp hother with rfl | hother
  · exact Nat.le_refl _
  · obtain ⟨u,_,rfl⟩ := List.mem_map.mp hother
    exact hmax u

end Walks

section Profiles

variable (prim : Primitives) (cfg : Config)

def profileOf : WorkloadType → Option Mode
  | .aiInference | .aiTraining => some .ai
  | .gaming => some .gaming
  | .compilation => some .compilation
  | _ => none

def AppliesProfile (done : Classifier × List Write) (walk : MapOrder) : Prop :=
  ∀ m, profileOf (done.1.getCurrentWorkload walk) = some m →
    done.2 = applyMode cfg done.1 m ∧ done.2 ≠ applyIdleOptimizations done.1

def classCount (proc : List ProcEntry) (w : WorkloadType) : ℕ :=
  proc.countP fun e => classifyProcess prim e.comm e.cmdline = w

def SystemInfo.below40 (info : SystemInfo) : Bool :=
  match info.memoryPercent with
  | none => true
  | some (used,total) => prim.percentBelow40 used total

structure IdleTakesOver (info : SystemInfo) (proc : List ProcEntry) : Prop where
  memory : info.below40 prim = true
  gaming : classCount prim proc .gaming = 0
  aiInference : classCount prim proc .aiInference = 0
  interactive : classCount prim proc .interactive = 0
  leads : ∃ w, (w = .aiTraining ∨ w = .compilation) ∧ 0 < classCount prim proc w ∧
    ∀ u, classCount prim proc u ≤ classCount prim proc w

def Snapshot.scanned (c : Classifier) (seen : Snapshot) : Classifier :=
  Classifier.scanned prim { c with systemInfo := c.systemInfo.detect seen.meminfo }.clear seen.proc

theorem pass_scanned (c : Classifier) (seen : Snapshot) (walk : MapOrder) :
    runOptimizationPass prim cfg c (seen.pass walk) =
      (seen.scanned prim c,
        applyMode cfg (seen.scanned prim c) ((seen.scanned prim c).mode prim walk)) := rfl

theorem scanned_counts (c : Classifier) (seen : Snapshot) (w : WorkloadType) :
    (seen.scanned prim c).workloadCounts w = classCount prim seen.proc w := by
  change (seen.proc.map (scanEntry prim)).countP _ = _
  rw [List.countP_map]
  rfl

theorem scanned_idle_iff (c : Classifier) (seen : Snapshot) :
    (seen.scanned prim c).isIdle prim = true ↔
      (c.systemInfo.detect seen.meminfo).below40 prim = true ∧
        classCount prim seen.proc .gaming = 0 ∧ classCount prim seen.proc .aiInference = 0 ∧
        classCount prim seen.proc .interactive = 0 := by
  have hidle : (seen.scanned prim c).isIdle prim =
      ((c.systemInfo.detect seen.meminfo).below40 prim &&
        (seen.scanned prim c).workloadCounts .gaming == 0 &&
        (seen.scanned prim c).workloadCounts .aiInference == 0 &&
        (seen.scanned prim c).workloadCounts .interactive == 0) := rfl
  rw [hidle,scanned_counts,scanned_counts,scanned_counts]
  simp [and_assoc]

theorem mem_setOomScoreAdj {adj : ℤ} {pids : List ℕ} {pid : ℕ} (h : pid ∈ pids) :
    .oomScoreAdj pid adj ∈ setOomScoreAdj adj pids :=
  List.mem_map.mpr ⟨pid,List.mem_flatMap.mpr ⟨pid,h,List.mem_singleton.mpr rfl⟩,rfl⟩

theorem oom_written (c : Classifier) {p : ProcessInfo} (h : p ∈ c.processes) :
    ∃ adj, .oomScoreAdj p.pid adj ∈ applyAiOptimizations cfg c := by
  by_cases hp : p.priority = .p0 ∨ p.priority = .p1
  · have hhigh : p.pid ∈ c.getHighPriorityPids :=
      List.mem_map.mpr ⟨p,List.mem_filter.mpr ⟨h,by simpa using hp⟩,rfl⟩
    exact ⟨-900,List.mem_append_left _ (List.mem_append_right _ (mem_setOomScoreAdj hhigh))⟩
  · have hlow : p.pid ∈ c.getLowPriorityPids := by
      refine List.mem_map.mpr ⟨p,List.mem_filter.mpr ⟨h,?_⟩,rfl⟩
      cases hq : p.priority <;> simp_all
    exact ⟨300,List.mem_append_right _ (mem_setOomScoreAdj hlow)⟩

theorem idle_no_oom (c : Classifier) (pid adj : ℤ) :
    .oomScoreAdj pid adj ∉ applyIdleOptimizations c := by
  unfold applyIdleOptimizations
  split <;>
    simp [setSwappiness,setVfsCachePressure,enableKsm,setKsmPagesToScan,setThpMode,dropCaches]

theorem apply_ne_idle (c : Classifier) {w : WorkloadType} {m : Mode} (hw : profileOf w = some m)
    (hsome : c.processes ≠ []) : applyMode cfg c m ≠ applyIdleOptimizations c := by
  intro heq
  have hswappiness : cfg.sets .swappiness m = cfg.sets .swappiness .idle := by
    rw [← applyMode_lastWritten cfg c m,← applyMode_lastWritten cfg c .idle,heq]
    rfl
  cases m with
  | ai =>
    obtain ⟨p,hp⟩ := List.exists_mem_of_ne_nil _ hsome
    obtain ⟨adj,hadj⟩ := oom_written cfg c hp
    exact idle_no_oom c p.pid adj (heq ▸ hadj)
  | gaming => cases hswappiness
  | compilation => cases hswappiness
  | idle => cases w <;> cases hw
  | balanced => cases w <;> cases hw

theorem mode_of_profile (c : Classifier) (walk : MapOrder) {m : Mode}
    (hidle : c.isIdle prim = false) (hm : profileOf (c.getCurrentWorkload walk) = some m) :
    c.mode prim walk = m := by
  unfold Classifier.mode
  rw [hidle]
  revert hm
  cases c.getCurrentWorkload walk <;> intro hm <;> cases hm <;> rfl

theorem profile_leads (c : Classifier) (walk : MapOrder) {m : Mode}
    (hm : profileOf (c.getCurrentWorkload walk) = some m) :
    0 < c.workloadCounts (c.getCurrentWorkload walk) ∧
      ∀ u, c.workloadCounts u ≤ c.workloadCounts (c.getCurrentWorkload walk) := by
  by_cases hsome : ∃ w, 0 < c.workloadCounts w
  · obtain ⟨w,hw⟩ := hsome
    exact getCurrentWorkload_leads c walk hw
  · have hnone : ∀ w, c.workloadCounts w = 0 :=
      fun w => Nat.eq_zero_of_not_pos fun hpos => hsome ⟨w,hpos⟩
    rw [getCurrentWorkload_idle c walk hnone] at hm
    cases hm

theorem training_or_compilation {w : WorkloadType} {m : Mode} {counts : WorkloadType → ℕ}
    (hw : profileOf w = some m) (hpos : 0 < counts w) (hgaming : counts .gaming = 0)
    (hinference : counts .aiInference = 0) : w = .aiTraining ∨ w = .compilation := by
  cases w with
  | aiTraining => exact .inl rfl
  | compilation => exact .inr rfl
  | gaming => exact absurd hpos (Nat.not_lt_of_ge (Nat.le_of_eq hgaming))
  | aiInference => exact absurd hpos (Nat.not_lt_of_ge (Nat.le_of_eq hinference))
  | general | rendering | interactive | background | idle => cases hw

theorem profile_applied_iff (c : Classifier) (seen : Snapshot) :
    (∀ walk, AppliesProfile cfg (runOptimizationPass prim cfg c (seen.pass walk)) walk) ↔
      ¬ IdleTakesOver prim (c.systemInfo.detect seen.meminfo) seen.proc := by
  have hcount := scanned_counts prim c seen
  constructor
  · intro h ht
    obtain ⟨w,hw,hpos,hmax⟩ := ht.leads
    have hidle : (seen.scanned prim c).isIdle prim = true :=
      (scanned_idle_iff prim c seen).mpr ⟨ht.memory,ht.gaming,ht.aiInference,ht.interactive⟩
    have hfront : (seen.scanned prim c).getCurrentWorkload (sampleWalk.front w) = w :=
      getCurrentWorkload_front _ _ (by rwa [hcount]) fun u => by rw [hcount,hcount]; exact hmax u
    have happlied := h (sampleWalk.front w)
    rw [pass_scanned,Classifier.mode,hidle] at happlied
    obtain ⟨m,hm⟩ : ∃ m, profileOf w = some m := by
      rcases hw with rfl | rfl <;> exact ⟨_,rfl⟩
    refine (happlied m ?_).2 rfl
    change profileOf ((seen.scanned prim c).getCurrentWorkload (sampleWalk.front w)) = some m
    rw [hfront,hm]
  · intro ht walk m hm
    rw [pass_scanned] at hm ⊢
    obtain ⟨hpos,hmax⟩ := profile_leads _ walk hm
    have hsome : (seen.scanned prim c).processes ≠ [] := by
      intro hnil
      rw [hcount] at hpos
      obtain ⟨e,he,_⟩ := List.countP_pos_iff.mp hpos
      have hscanned : scanEntry prim e ∈ (seen.scanned prim c).processes := List.mem_map_of_mem he
      rw [hnil] at hscanned
      cases hscanned
    have hidle : (seen.scanned prim c).isIdle prim = false := by
      rw [← Bool.not_eq_true]
      intro hidle
      obtain ⟨hmemory,hgaming,hinference,hinteractive⟩ := (scanned_idle_iff prim c seen).mp hidle
      simp only [hcount] at hpos hmax
      exact ht ⟨hmemory,hgaming,hinference,hinteractive,_,
        training_or_compilation hm hpos hgaming hinference,hpos,hmax⟩
    have hmode := mode_of_profile prim _ walk hidle hm
    rw [hmode]
    exact ⟨rfl,apply_ne_idle cfg _ hm hsome⟩

end Profiles

def quarterUsed : List (List Char × List Char) :=
  [("MemTotal:".toList,"16000".toList),("MemAvailable:".toList,"12000".toList)]

def trainingRun : Snapshot :=
  ⟨quarterUsed,[⟨300,"python3".toList,"python3 train.py".toList⟩]⟩

theorem training_gets_idle_profile :
    ¬ ∀ (prim : Primitives) (cfg : Config) (c : Classifier) (seen : Snapshot) (walk : MapOrder),
      AppliesProfile cfg (runOptimizationPass prim cfg c (seen.pass walk)) walk := by
  intro h
  have happlied := h asciiPrimitives Config.default Classifier.new trainingRun sampleWalk .ai
    (by decide +kernel)
  exact absurd happlied.1 (by decide +kernel)

end Uroam.Tuning
