import Mathlib.Algebra.Order.Ring.Int
import Uroam.Tuning.Leaving

namespace Uroam.Tuning.Daemon

def Double.le : Double → Double → Prop
  | .finite p, .finite q => p ≤ q
  | .negInfinite, .finite _ | .negInfinite, .negInfinite | .negInfinite, .infinite => True
  | .finite _, .infinite | .infinite, .infinite => True
  | _, _ => False

theorem Double.gt_mono {x y : Double} {bound : Rat} (h : x.le y) (hx : x.gt bound = true) :
    y.gt bound = true := by
  cases x with
  | finite p =>
    cases y with
    | finite q =>
      have hle : p ≤ q := h
      have hlt : bound < p := of_decide_eq_true hx
      exact decide_eq_true (by grind)
    | infinite => rfl
    | negInfinite | nan => cases h
  | infinite =>
    cases y with
    | infinite => rfl
    | finite q | negInfinite | nan => cases h
  | negInfinite | nan => cases hx

theorem Double.lt_mono {x y : Double} {bound : Rat} (h : x.le y) (hy : y.lt bound = true) :
    x.lt bound = true := by
  cases y with
  | finite q =>
    cases x with
    | finite p =>
      have hle : p ≤ q := h
      have hlt : q < bound := of_decide_eq_true hy
      exact decide_eq_true (by grind)
    | negInfinite => rfl
    | infinite | nan => cases h
  | negInfinite =>
    cases x with
    | negInfinite => rfl
    | finite p | infinite | nan => cases h
  | infinite | nan => cases hy

section Swap

variable (quotient : UInt64 → UInt64 → Double) (state : SystemState)

def highPriSwapped : Bool :=
  let totals := state.processes.foldl SwapTotals.add ⟨0,0,0,0⟩
  (if totals.highPriTotal > 0 then quotient totals.highPriSwap totals.highPriTotal
    else .finite 0).gt (5404319552844595 / 2 ^ 55)

def lowPriUnswapped : Bool :=
  let totals := state.processes.foldl SwapTotals.add ⟨0,0,0,0⟩
  (if totals.lowPriTotal > 0 then quotient totals.lowPriSwap totals.lowPriTotal
    else .finite 0).lt (5404319552844595 / 2 ^ 54) && totals.lowPriSwap > 1024 * 1024 * 500

def swapSettings : ℕ × ℕ :=
  if highPriSwapped quotient state then (5,0)
  else if lowPriUnswapped quotient state then (80,3)
  else if state.usedPercent.gt 80 then (20,1)
  else (40,2)

theorem smartSwap_sets :
    lastWritten .swappiness (applySmartSwapPrioritization quotient state) =
        some (.num (swapSettings quotient state).1) ∧
      lastWritten .pageCluster (applySmartSwapPrioritization quotient state) =
        some (.num (swapSettings quotient state).2) := by
  unfold applySmartSwapPrioritization swapSettings
  rw [lastWritten_append,lastWritten_append,protect_lastWritten,protect_lastWritten,
    Option.none_or,Option.none_or]
  unfold highPriSwapped lowPriUnswapped
  dsimp only
  split_ifs <;> exact ⟨rfl,rfl⟩

theorem swapSettings_le : (swapSettings quotient state).1 ≤ 90 := by
  unfold swapSettings
  split_ifs <;> decide

end Swap

section Pass

variable (quotient : UInt64 → UInt64 → Double)

def passSwappiness (state : SystemState) : ℕ :=
  if detectIdle state then 90 else (swapSettings quotient state).1

theorem pass_swappiness (d : Memoptd) (state : SystemState) :
    (d.pass quotient state).store .swappiness = .num (passSwappiness quotient state) := by
  rw [pass_store]
  simp only [applyOptimizations,lastWritten_append,(smartSwap_sets quotient state).1]
  cases hidle : detectIdle state <;> simp [applyIdleOptimization,passSwappiness,hidle,writeSysfs]

structure Heavier (lo hi : SystemState) : Prop where
  processes : hi.processes = lo.processes
  usedPercent : lo.usedPercent.le hi.usedPercent
  full10 : lo.psi.full10.le hi.psi.full10
  some10 : lo.psi.some10.le hi.psi.some10

theorem Heavier.idle {lo hi : SystemState} (h : Heavier lo hi) (hidle : detectIdle hi = true) :
    detectIdle lo = true := by
  unfold detectIdle at hidle ⊢
  simp only [Bool.and_eq_true,h.processes] at hidle ⊢
  obtain ⟨⟨⟨hcount,hused⟩,hfull⟩,hsome⟩ := hidle
  exact ⟨⟨⟨hcount,Double.lt_mono h.usedPercent hused⟩,Double.lt_mono h.full10 hfull⟩,
    Double.lt_mono h.some10 hsome⟩

theorem Heavier.swapSettings {lo hi : SystemState} (h : Heavier lo hi) :
    (swapSettings quotient hi).1 ≤ (swapSettings quotient lo).1 := by
  have hhigh : highPriSwapped quotient hi = highPriSwapped quotient lo := by
    simp only [highPriSwapped,h.processes]
  have hlow : lowPriUnswapped quotient hi = lowPriUnswapped quotient lo := by
    simp only [lowPriUnswapped,h.processes]
  unfold Daemon.swapSettings
  rw [hhigh,hlow]
  split_ifs with _ _ hused_hi hused_lo
  · exact le_refl 5
  · exact le_refl 80
  · exact le_refl 20
  · decide
  · exact absurd (Double.gt_mono h.usedPercent ‹_›) hused_hi
  · exact le_refl 40

theorem swappiness_antitone (d d' : Memoptd) {lo hi : SystemState} (h : Heavier lo hi) :
    ∃ m n, (d.pass quotient lo).store .swappiness = .num m ∧
      (d'.pass quotient hi).store .swappiness = .num n ∧ n ≤ m := by
  refine ⟨_,_,pass_swappiness quotient d lo,pass_swappiness quotient d' hi,?_⟩
  unfold passSwappiness
  cases hlo : detectIdle lo with
  | true =>
    split
    · exact le_refl 90
    · exact swapSettings_le quotient hi
  | false =>
    have hhi : detectIdle hi ≠ true := fun hidle => by simp [h.idle hidle] at hlo
    rw [if_neg hhi]
    exact h.swapSettings quotient

def keepsGaming (state : SystemState) : Tunable → Bool
  | .swappiness => false
  | .vfsCachePressure => detectIdle state
  | .dirtyRatio | .dirtyBackgroundRatio => !hasAI state
  | .thpDefrag => detectIdle state || !hasAI state
  | .ksmRun => !detectIdle state && !hasAI state
  | .pageCluster => (swapSettings quotient state).2 == 0
  | _ => true

theorem pass_vfsCachePressure (d : Memoptd) (state : SystemState) :
    (d.pass quotient state).store .vfsCachePressure =
      .num (if detectIdle state then 50 else 100) := by
  rw [pass_store]
  simp only [applyOptimizations,lastWritten_append]
  cases detectIdle state <;> simp [applyIdleOptimization,writeSysfs]

theorem pass_pageCluster (d : Memoptd) (state : SystemState) :
    (d.pass quotient state).store .pageCluster = .num (swapSettings quotient state).2 := by
  rw [pass_store]
  simp only [applyOptimizations,lastWritten_append,(smartSwap_sets quotient state).2]
  cases detectIdle state <;> simp [applyIdleOptimization,writeSysfs]

theorem pass_ksmRun (d : Memoptd) {state : SystemState} (hgaming : hasGaming state = true) :
    (d.pass quotient state).store .ksmRun =
      .num (if detectIdle state || hasAI state then 1 else 0) := by
  rw [pass_store]
  have hswap := smartSwap_lastWritten quotient state (t := .ksmRun) (by decide) (by decide)
  have hcache := cache_lastWritten (detectIdle state) state (t := .ksmRun) (by decide)
  simp only [applyOptimizations,lastWritten_append,hswap,hcache,Option.none_or]
  cases detectIdle state <;> cases hasAI state <;>
    simp [hgaming,applyIdleOptimization,applyAIOptimizations,applyGamingOptimizations,writeSysfs]

theorem gaming_kept_modal (d : Memoptd) {state : SystemState} (hgaming : hasGaming state = true)
    {t : Tunable} (hm : Modal t) {v : Setting}
    (hv : lastWritten t applyGamingOptimizations = some v) :
    (d.pass quotient state).store t = v ↔ keepsGaming quotient state t = true := by
  rw [pass_store,applyOptimizations_lastWritten quotient state d.isIdle hm]
  unfold leaves keepsGaming
  cases hm <;> cases hv <;> cases detectIdle state <;> cases hasAI state <;> simp [hgaming]

theorem gaming_kept_iff (d : Memoptd) {state : SystemState} (hgaming : hasGaming state = true)
    {t : Tunable} {v : Setting} (hv : lastWritten t applyGamingOptimizations = some v) :
    (d.pass quotient state).store t = v ↔ keepsGaming quotient state t = true := by
  cases t with
  | swappiness =>
    cases hv
    rw [pass_swappiness]
    unfold passSwappiness swapSettings keepsGaming
    split_ifs <;> simp
  | vfsCachePressure =>
    cases hv
    rw [pass_vfsCachePressure,keepsGaming]
    cases detectIdle state <;> simp
  | pageCluster =>
    cases hv
    rw [pass_pageCluster,keepsGaming]
    simp
  | ksmRun =>
    cases hv
    rw [pass_ksmRun quotient d hgaming,keepsGaming]
    cases detectIdle state <;> cases hasAI state <;> simp
  | minFreeKbytes => exact gaming_kept_modal quotient d hgaming .minFreeKbytes hv
  | dirtyRatio => exact gaming_kept_modal quotient d hgaming .dirtyRatio hv
  | dirtyBackgroundRatio => exact gaming_kept_modal quotient d hgaming .dirtyBackgroundRatio hv
  | thpEnabled => exact gaming_kept_modal quotient d hgaming .thpEnabled hv
  | thpDefrag => exact gaming_kept_modal quotient d hgaming .thpDefrag hv
  | ksmPagesToScan | ksmSleepMillisecs | zswapEnabled | zswapMaxPoolPercent | zswapCompressor =>
    cases hv

theorem gaming_profile_undone (d : Memoptd) (state : SystemState)
    (hgaming : hasGaming state = true) :
    ¬ ∀ t v, lastWritten t applyGamingOptimizations = some v →
      (d.pass quotient state).store t = v := by
  intro h
  have hkept := (gaming_kept_iff quotient d hgaming rfl).mp (h .swappiness (.num 10) rfl)
  cases hkept

end Pass

def loadedState : SystemState :=
  { plainState with usedPercent := .finite 85, psi := ⟨.finite 6,.finite 2⟩ }

theorem loaded_heavier : Heavier plainState loadedState where
  processes := rfl
  usedPercent := by
    change (50 : Rat) ≤ 85
    decide
  full10 := by
    change (0 : Rat) ≤ 2
    decide
  some10 := by
    change (0 : Rat) ≤ 6
    decide

theorem swappiness_antitone_loaded :
    ∃ m n, (Memoptd.pass sampleQuotient ⟨false,bootStore⟩ plainState).store .swappiness = .num m ∧
      (Memoptd.pass sampleQuotient ⟨true,bootStore⟩ loadedState).store .swappiness = .num n ∧
      n ≤ m :=
  swappiness_antitone sampleQuotient ⟨false,bootStore⟩ ⟨true,bootStore⟩ loaded_heavier

theorem gaming_profile_undone_sample :
    ¬ ∀ t v, lastWritten t applyGamingOptimizations = some v →
      (Memoptd.pass sampleQuotient ⟨false,bootStore⟩ gameState).store t = v :=
  gaming_profile_undone sampleQuotient ⟨false,bootStore⟩ gameState (by decide +kernel)

theorem game_swappiness_lost :
    ¬ ∀ (quotient : UInt64 → UInt64 → Double) (d : Memoptd) (state : SystemState),
      hasGaming state = true → ∀ t v, lastWritten t applyGamingOptimizations = some v →
        (d.pass quotient state).store t = v := by
  intro h
  have hswappiness := h sampleQuotient ⟨false,bootStore⟩ gameState (by decide +kernel)
    .swappiness (.num 10) rfl
  exact absurd hswappiness (by decide +kernel)

end Uroam.Tuning.Daemon
