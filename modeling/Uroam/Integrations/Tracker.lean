import Uroam.Library.Dict
import Uroam.Library.Runs

namespace Uroam.Integrations
open Runs

structure UroamMemoryTracker where
  enabled : Bool
  allocations : List (String × ℤ)
  totalAllocated : ℤ
  totalFreed : ℤ
  deriving DecidableEq, Repr

structure TrackerStats where
  totalAllocated : ℤ
  totalFreed : ℤ
  current : ℤ
  allocations : List (String × ℤ)
  deriving DecidableEq, Repr

namespace UroamMemoryTracker

def init : UroamMemoryTracker := ⟨false,[],0,0⟩

def enable (t : UroamMemoryTracker) : UroamMemoryTracker := { t with enabled := true }

def disable (t : UroamMemoryTracker) : UroamMemoryTracker := { t with enabled := false }

def recordAllocation (t : UroamMemoryTracker) (size : ℤ) (tag : String) : UroamMemoryTracker :=
  if t.enabled then
    { t with
      totalAllocated := t.totalAllocated + size
      allocations := Dict.set t.allocations tag (Dict.value t.allocations tag + size) }
  else t

def recordFree (t : UroamMemoryTracker) (size : ℤ) (tag : String) : UroamMemoryTracker :=
  if t.enabled then
    { t with
      totalFreed := t.totalFreed + size
      allocations := Dict.set t.allocations tag (max 0 (Dict.value t.allocations tag - size)) }
  else t

def getStats (t : UroamMemoryTracker) : TrackerStats :=
  { totalAllocated := t.totalAllocated
    totalFreed := t.totalFreed
    current := t.totalAllocated - t.totalFreed
    allocations := t.allocations }

end UroamMemoryTracker

inductive TrackerCall where
  | enable
  | disable
  | recordAllocation (size : ℕ) (tag : String)
  | recordFree (size : ℕ) (tag : String)

structure Tracked where
  tracker : UroamMemoryTracker
  unmatched : List (ℕ × String)
  recorded : String → ℤ

def Tracked.start : Tracked := ⟨.init,[],fun _ => 0⟩

def Tracked.record (w : Tracked) (amount : ℤ) (tag : String) : String → ℤ := fun other =>
  if w.tracker.enabled ∧ other = tag then w.recorded other + amount else w.recorded other

def Tracked.step (w : Tracked) : TrackerCall → Tracked
  | .enable => { w with tracker := w.tracker.enable }
  | .disable => { w with tracker := w.tracker.disable }
  | .recordAllocation size tag =>
    { tracker := w.tracker.recordAllocation size tag
      unmatched := (size,tag) :: w.unmatched
      recorded := w.record size tag }
  | .recordFree size tag =>
    { tracker := w.tracker.recordFree size tag
      unmatched := w.unmatched.erase (size,tag)
      recorded := w.record (-size) tag }

def Matched (w : Tracked) : TrackerCall → Prop
  | .recordFree size tag => (size,tag) ∈ w.unmatched
  | _ => True

structure StatsAgree (w : Tracked) : Prop where
  sum : w.tracker.getStats.current = Dict.total w.tracker.getStats.allocations
  nonneg : 0 ≤ w.tracker.getStats.current

def Covered (w : Tracked) : TrackerCall → Prop
  | .recordFree size tag => w.tracker.enabled = true → size ≤ w.recorded tag
  | _ => True

structure Booked (w : Tracked) : Prop where
  sum : w.tracker.totalAllocated - w.tracker.totalFreed = Dict.total w.tracker.allocations
  tags : ∀ tag, Dict.value w.tracker.allocations tag = w.recorded tag
  nonneg : ∀ e ∈ w.tracker.allocations, 0 ≤ e.2

theorem start_booked : Booked .start := by
  refine ⟨rfl,fun _ => rfl,?_⟩
  intro e he
  cases he

theorem booked_agree {w : Tracked} (h : Booked w) : StatsAgree w := by
  have hsum : w.tracker.getStats.current = Dict.total w.tracker.getStats.allocations := h.sum
  refine ⟨hsum,?_⟩
  rw [hsum]
  exact Dict.total_nonneg h.nonneg

theorem record_disabled {w : Tracked} (h : w.tracker.enabled = false) (amount : ℤ)
    (tag : String) : w.record amount tag = w.recorded := by
  funext other
  simp [Tracked.record,h]

theorem booked_set {w : Tracked} (h : Booked w) (henabled : w.tracker.enabled = true)
    {amount : ℤ} {tag : String} (hleft : 0 ≤ w.recorded tag + amount) {t : UroamMemoryTracker}
    (hsum : t.totalAllocated - t.totalFreed =
      w.tracker.totalAllocated - w.tracker.totalFreed + amount)
    (hset : t.allocations = Dict.set w.tracker.allocations tag (w.recorded tag + amount))
    (unmatched : List (ℕ × String)) : Booked ⟨t,unmatched,w.record amount tag⟩ := by
  constructor
  · dsimp only
    rw [hsum,hset,Dict.total_set,h.sum,h.tags]
    omega
  · intro other
    dsimp only
    rw [hset,Dict.value_set]
    by_cases hother : other = tag
    · simp [Tracked.record,henabled,hother]
    · simp [Tracked.record,hother,h.tags]
  · dsimp only
    rw [hset]
    exact Dict.forall_set h.nonneg tag hleft

theorem booked_allocation {w : Tracked} (h : Booked w) (size : ℕ) (tag : String) :
    Booked (w.step (.recordAllocation size tag)) := by
  have hkept : 0 ≤ w.recorded tag := by
    rw [← h.tags tag]
    exact Dict.value_nonneg h.nonneg tag
  cases henabled : w.tracker.enabled with
  | false =>
    have hsame : w.step (.recordAllocation size tag) =
        { w with unmatched := (size,tag) :: w.unmatched } := by
      simp [Tracked.step,UroamMemoryTracker.recordAllocation,henabled,record_disabled henabled]
    rw [hsame]
    exact ⟨h.sum,h.tags,h.nonneg⟩
  | true =>
    refine booked_set h henabled (by omega) ?_ ?_ _
    · simp only [UroamMemoryTracker.recordAllocation,henabled,if_true]
      omega
    · simp only [UroamMemoryTracker.recordAllocation,henabled,if_true,h.tags]

theorem booked_free {w : Tracked} (h : Booked w) {size : ℕ} {tag : String}
    (hcovered : Covered w (.recordFree size tag)) : Booked (w.step (.recordFree size tag)) := by
  cases henabled : w.tracker.enabled with
  | false =>
    have hsame : w.step (.recordFree size tag) =
        { w with unmatched := w.unmatched.erase (size,tag) } := by
      simp [Tracked.step,UroamMemoryTracker.recordFree,henabled,record_disabled henabled]
    rw [hsame]
    exact ⟨h.sum,h.tags,h.nonneg⟩
  | true =>
    have hsize := hcovered henabled
    refine booked_set h henabled (by omega) ?_ ?_ _
    · simp only [UroamMemoryTracker.recordFree,henabled,if_true]
      omega
    · simp only [UroamMemoryTracker.recordFree,henabled,if_true,h.tags]
      rw [max_eq_right (by omega),Int.sub_eq_add_neg]

theorem agree_covered {w : Tracked} (h : Booked w) {call : TrackerCall}
    (hagree : StatsAgree (w.step call)) : Covered w call := by
  cases call with
  | recordFree size tag =>
    intro henabled
    have hsum : w.tracker.totalAllocated - (w.tracker.totalFreed + size) =
        Dict.total (Dict.set w.tracker.allocations tag
          (max 0 (Dict.value w.tracker.allocations tag - size))) := by
      have hafter := hagree.sum
      simpa only [Tracked.step,UroamMemoryTracker.recordFree,UroamMemoryTracker.getStats,henabled,
        if_true] using hafter
    rw [Dict.total_set,h.tags tag,← h.sum] at hsum
    omega
  | enable | disable | recordAllocation size tag => trivial

theorem booked_step {w : Tracked} {call : TrackerCall} (h : Booked w) (hcovered : Covered w call) :
    Booked (w.step call) := by
  cases call with
  | enable => exact ⟨h.sum,h.tags,h.nonneg⟩
  | disable => exact ⟨h.sum,h.tags,h.nonneg⟩
  | recordAllocation size tag => exact booked_allocation h size tag
  | recordFree size tag => exact booked_free h hcovered

theorem stats_agree_iff (calls : List TrackerCall) :
    Throughout Tracked.step StatsAgree .start calls ↔
      Along Tracked.step Covered .start calls := by
  have hrun := exact_condition Tracked.step (G := Booked) (P := StatsAgree) (C := Covered)
    (Q := fun _ _ => True) (E := fun _ _ => True) (fun w h => booked_agree h)
    (fun w call h _ hcovered => ⟨booked_step h hcovered,trivial⟩)
    (fun w call h _ hagree _ => agree_covered h hagree) calls .start start_booked (along_true ..)
  rwa [and_iff_left (along_true ..)] at hrun

section Sample

theorem late_enable_goes_negative :
    Along Tracked.step Matched .start [.recordAllocation 4096 "kv",.enable,.recordFree 4096 "kv"] ∧
      let w := exec Tracked.step .start [.recordAllocation 4096 "kv",.enable,.recordFree 4096 "kv"]
      w.tracker.getStats.current = -4096 ∧ Dict.total w.tracker.getStats.allocations = 0 := by
  refine ⟨⟨trivial,trivial,?_,trivial⟩,by decide⟩
  change (4096,"kv") ∈ [(4096,"kv")]
  exact List.mem_singleton_self _

end Sample

end Uroam.Integrations
