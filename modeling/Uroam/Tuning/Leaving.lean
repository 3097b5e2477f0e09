import Mathlib.Tactic.Tauto
import Uroam.Tuning.Daemon

namespace Uroam.Tuning.Daemon

inductive Modal : Tunable → Prop where
  | dirtyRatio : Modal .dirtyRatio
  | dirtyBackgroundRatio : Modal .dirtyBackgroundRatio
  | minFreeKbytes : Modal .minFreeKbytes
  | thpEnabled : Modal .thpEnabled
  | thpDefrag : Modal .thpDefrag
  | ksmPagesToScan : Modal .ksmPagesToScan
  | ksmSleepMillisecs : Modal .ksmSleepMillisecs
  | zswapEnabled : Modal .zswapEnabled

def leaves (state : SystemState) : Tunable → Option Setting
  | .dirtyRatio =>
    if hasAI state then some (.num 30) else if hasGaming state then some (.num 5) else none
  | .dirtyBackgroundRatio =>
    if hasAI state then some (.num 10) else if hasGaming state then some (.num 2) else none
  | .minFreeKbytes => if hasGaming state then some (.num 65536) else none
  | .thpEnabled => if hasAI state || hasGaming state then some (.word "always") else none
  | .thpDefrag =>
    if detectIdle state then some (.word "always")
    else if hasAI state then some (.word "defer+madvise")
    else if hasGaming state then some (.word "always")
    else none
  | .ksmPagesToScan =>
    if detectIdle state then some (.num 5000)
    else if hasAI state || critical state then some (.num 3000)
    else none
  | .ksmSleepMillisecs =>
    if detectIdle state then some (.num 5) else if hasAI state then some (.num 10) else none
  | .zswapEnabled => if detectIdle state then some (.word "Y") else none
  | _ => none

section Writes

variable (quotient : UInt64 → UInt64 → Double) (isIdle : Bool) (state : SystemState)

theorem protect_lastWritten (t : Tunable) :
    lastWritten t (protectHighPriorityProcesses state) = none := by
  apply lastWritten_none
  intro w hw value hv
  subst hv
  obtain ⟨p,_,hp⟩ := List.mem_flatMap.mp hw
  split_ifs at hp <;> simp at hp

theorem pressure_lastWritten {t : Tunable} (h : Modal t) :
    lastWritten t (pressureWrites isIdle state) =
      if t = .ksmPagesToScan ∧ critical state = true then some (.num 3000) else none := by
  unfold pressureWrites
  cases critical state <;> cases elevated state <;> cases isIdle <;> cases h <;> rfl

theorem pool_lastWritten {t : Tunable} (h : Modal t) :
    lastWritten t (poolWrites isIdle state) = none := by
  unfold poolWrites
  split_ifs <;> cases h <;> rfl

theorem cache_lastWritten {t : Tunable} (h : .vfsCachePressure ≠ t) :
    lastWritten t (applyCacheOptimizations isIdle state) = none := by
  unfold applyCacheOptimizations
  split_ifs
  · rfl
  · rfl
  · simp [writeSysfs,h]
  · rfl

theorem smartSwap_lastWritten {t : Tunable} (hs : .swappiness ≠ t) (hp : .pageCluster ≠ t) :
    lastWritten t (applySmartSwapPrioritization quotient state) = none := by
  unfold applySmartSwapPrioritization
  rw [lastWritten_append,protect_lastWritten,Option.none_or]
  split_ifs <;> simp [writeSysfs,hs,hp]

theorem Modal.others {t : Tunable} (h : Modal t) :
    .vfsCachePressure ≠ t ∧ .swappiness ≠ t ∧ .pageCluster ≠ t := by
  cases h <;> decide

def idleSetting : Tunable → Option Setting
  | .ksmPagesToScan => some (.num 5000)
  | .ksmSleepMillisecs => some (.num 5)
  | .zswapEnabled => some (.word "Y")
  | .thpDefrag => some (.word "always")
  | _ => none

theorem idle_lastWritten {t : Tunable} (h : Modal t) :
    lastWritten t (applyIdleOptimization true state).2 = idleSetting t := by
  cases h <;> simp [applyIdleOptimization,idleSetting,writeSysfs]

theorem applyOptimizations_lastWritten (wasIdle : Bool) {t : Tunable} (h : Modal t) :
    lastWritten t (applyOptimizations quotient wasIdle state).writes = leaves state t := by
  obtain ⟨hcache,hswap,hcluster⟩ := h.others
  simp only [applyOptimizations,lastWritten_append,
    smartSwap_lastWritten quotient state hswap hcluster,cache_lastWritten _ state hcache,
    pool_lastWritten _ state h,pressure_lastWritten _ state h,Option.none_or]
  unfold leaves
  cases detectIdle state with
  | false =>
    cases hasAI state <;> cases hasGaming state <;> cases critical state <;> cases h <;> rfl
  | true =>
    rw [idle_lastWritten state h]
    cases hasAI state <;> cases hasGaming state <;> cases critical state <;> cases h <;> rfl

theorem leaves_normal {t : Tunable} (hidle : detectIdle state = false) (hai : hasAI state = false)
    (hgaming : hasGaming state = false) (h : Modal t) :
    leaves state t =
      if t = .ksmPagesToScan ∧ critical state = true then some (.num 3000) else none := by
  cases h <;> simp [leaves,hidle,hai,hgaming]

theorem pressure_writes :
    ∃ value, lastWritten .ksmRun (pressureWrites isIdle state) = some value := by
  unfold pressureWrites
  split_ifs <;> exact ⟨_,rfl⟩

theorem pool_writes :
    ∃ value, lastWritten .zswapMaxPoolPercent (poolWrites false state) = some value := by
  unfold poolWrites
  cases hasAI state <;> cases hasGaming state <;> exact ⟨_,rfl⟩

theorem smartSwap_writes {t : Tunable} (h : t = .swappiness ∨ t = .pageCluster) :
    ∃ value, lastWritten t (applySmartSwapPrioritization quotient state) = some value := by
  unfold applySmartSwapPrioritization
  rw [lastWritten_append,protect_lastWritten,Option.none_or]
  rcases h with rfl | rfl <;> split_ifs <;> exact ⟨_,rfl⟩

theorem normal_writes {t : Tunable} (h : ¬ Modal t) :
    (∃ value, lastWritten t (pressureWrites false state) = some value) ∨
    (∃ value, lastWritten t (poolWrites false state) = some value) ∨
    (∃ value, lastWritten t (applySmartSwapPrioritization quotient state) = some value) ∨
    ∃ value, lastWritten t (applyIdleOptimization false state).2 = some value := by
  cases t with
  | ksmRun => exact .inl (pressure_writes false state)
  | zswapMaxPoolPercent => exact .inr (.inl (pool_writes state))
  | swappiness => exact .inr (.inr (.inl (smartSwap_writes quotient state (.inl rfl))))
  | pageCluster => exact .inr (.inr (.inl (smartSwap_writes quotient state (.inr rfl))))
  | vfsCachePressure => exact .inr (.inr (.inr ⟨_,rfl⟩))
  | zswapCompressor => exact .inr (.inr (.inr ⟨_,rfl⟩))
  | dirtyRatio => exact absurd .dirtyRatio h
  | dirtyBackgroundRatio => exact absurd .dirtyBackgroundRatio h
  | minFreeKbytes => exact absurd .minFreeKbytes h
  | thpEnabled => exact absurd .thpEnabled h
  | thpDefrag => exact absurd .thpDefrag h
  | ksmPagesToScan => exact absurd .ksmPagesToScan h
  | ksmSleepMillisecs => exact absurd .ksmSleepMillisecs h
  | zswapEnabled => exact absurd .zswapEnabled h

theorem normal_rewrites (wasIdle : Bool) {t : Tunable} (hidle : detectIdle state = false)
    (h : ¬ Modal t) :
    ∃ value, lastWritten t (applyOptimizations quotient wasIdle state).writes = some value := by
  have hwrites : ∀ w, w ∈ pressureWrites false state ∨ w ∈ poolWrites false state ∨
      w ∈ applySmartSwapPrioritization quotient state ∨ w ∈ (applyIdleOptimization false state).2 →
      w ∈ (applyOptimizations quotient wasIdle state).writes := by
    intro w hw
    simp only [applyOptimizations,hidle,List.mem_append]
    tauto
  rcases normal_writes quotient state h with hpart | hpart | hpart | hpart
  · exact lastWritten_of_part (fun w hw => hwrites w (.inl hw)) hpart
  · exact lastWritten_of_part (fun w hw => hwrites w (.inr (.inl hw))) hpart
  · exact lastWritten_of_part (fun w hw => hwrites w (.inr (.inr (.inl hw)))) hpart
  · exact lastWritten_of_part (fun w hw => hwrites w (.inr (.inr (.inr hw)))) hpart

end Writes

section Runs

variable (quotient : UInt64 → UInt64 → Double)

theorem pass_store (d : Memoptd) (state : SystemState) (t : Tunable) :
    (d.pass quotient state).store t =
      (lastWritten t (applyOptimizations quotient d.isIdle state).writes).getD (d.store t) :=
  write_apply ..

theorem run_modal {t : Tunable} (h : Modal t) (states : List SystemState) (d : Memoptd) :
    (Runs.exec (Memoptd.pass quotient) d states).store t =
      (Settings.lastSome (leaves · t) states).getD (d.store t) := by
  induction states generalizing d with
  | nil => rfl
  | cons state states ih =>
    rw [Runs.exec_cons,ih,pass_store,applyOptimizations_lastWritten _ _ _ h,
      Settings.lastSome_cons,Option.getD_or]

theorem run_concat (states : List SystemState) (d : Memoptd) (last : SystemState) (t : Tunable) :
    (Runs.exec (Memoptd.pass quotient) d (states ++ [last])).store t =
      (lastWritten t (applyOptimizations quotient
        (Runs.exec (Memoptd.pass quotient) d states).isIdle last).writes).getD
          ((Runs.exec (Memoptd.pass quotient) d states).store t) := by
  rw [Runs.exec_append,Runs.exec_cons,Runs.exec_nil,pass_store]

theorem writes_wasIdle (wasIdle wasIdle' : Bool) (state : SystemState) :
    (applyOptimizations quotient wasIdle state).writes =
      (applyOptimizations quotient wasIdle' state).writes := rfl

def Unrestored (last : SystemState) (t : Tunable) : Prop :=
  Modal t ∧ ¬ (t = .ksmPagesToScan ∧ critical last = true)

theorem normal_operation_restored_iff (d : Memoptd) (earlier : List SystemState)
    (last : SystemState) (hidle : detectIdle last = false) (hai : hasAI last = false)
    (hgaming : hasGaming last = false) :
    (∀ t, (Runs.exec (Memoptd.pass quotient) d (earlier ++ [last])).store t =
        (d.pass quotient last).store t) ↔
      ∀ t, Unrestored last t →
        ∀ v, Settings.lastSome (leaves · t) earlier = some v → v = d.store t := by
  apply forall_congr'
  intro t
  rw [run_concat,pass_store,writes_wasIdle quotient _ d.isIdle]
  by_cases hm : Modal t
  · rw [applyOptimizations_lastWritten quotient last d.isIdle hm,
      leaves_normal last hidle hai hgaming hm,run_modal quotient hm]
    by_cases hc : t = .ksmPagesToScan ∧ critical last = true
    · simp [hc,Unrestored]
    · have hu : Unrestored last t := ⟨hm,hc⟩
      rw [if_neg hc,Option.getD_none,Option.getD_none]
      cases Settings.lastSome (leaves · t) earlier with
      | none => simp
      | some v => simp [hu]
  · obtain ⟨v,hv⟩ := normal_rewrites quotient last d.isIdle hidle hm
    have hu : ¬ Unrestored last t := fun h => hm h.1
    simp [hv,hu]

end Runs

section Sample

def sampleQuotient (a b : UInt64) : Double := .finite (a.toNat / b.toNat)

def bootStore : Store
  | .swappiness => .num 60
  | .vfsCachePressure => .num 100
  | .pageCluster => .num 3
  | .minFreeKbytes => .num 67584
  | .dirtyRatio => .num 20
  | .dirtyBackgroundRatio => .num 10
  | .ksmRun => .num 0
  | .ksmPagesToScan => .num 100
  | .ksmSleepMillisecs => .num 20
  | .thpEnabled | .thpDefrag => .word "madvise"
  | .zswapEnabled => .word "N"
  | .zswapMaxPoolPercent => .num 20
  | .zswapCompressor => .word "lzo"

def gameState : SystemState :=
  ⟨.finite 50,[⟨100,1000000,0,.gaming,1⟩],0,⟨.finite 0,.finite 0⟩⟩

def plainState : SystemState :=
  ⟨.finite 50,[⟨200,1000000,0,.general,2⟩],0,⟨.finite 0,.finite 0⟩⟩

theorem normal_operation_restored_iff_sample :
    (∀ t, (Runs.exec (Memoptd.pass sampleQuotient) ⟨false,bootStore⟩
        ([gameState] ++ [plainState])).store t =
        (Memoptd.pass sampleQuotient ⟨false,bootStore⟩ plainState).store t) ↔
      ∀ t, Unrestored plainState t →
        ∀ v, Settings.lastSome (leaves · t) [gameState] = some v → v = bootStore t :=
  normal_operation_restored_iff sampleQuotient ⟨false,bootStore⟩ [gameState] plainState
    (by decide +kernel) (by decide +kernel) (by decide +kernel)

theorem dirty_ratio_stays :
    (detectIdle plainState = false ∧ hasAI plainState = false ∧ hasGaming plainState = false) ∧
    (Runs.exec (Memoptd.pass sampleQuotient) ⟨false,bootStore⟩ [gameState,plainState]).store
      .dirtyRatio = .num 5 ∧
    (Memoptd.pass sampleQuotient ⟨false,bootStore⟩ plainState).store .dirtyRatio = .num 20 := by
  decide +kernel

end Sample

end Uroam.Tuning.Daemon
