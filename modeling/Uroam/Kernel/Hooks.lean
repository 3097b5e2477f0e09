import Uroam.Kernel.State
import Uroam.Library.Tally

namespace Uroam.Kernel.Hooks
open Runs Tally

def gfpKernel : U32 := 0xcc0

structure AllocRecord where
  type : ℤ
  size : U64
  gfpFlags : U32
  numaNode : ℤ
  pid : ℤ
  timestamp : U64
  deriving DecidableEq, Repr

structure HookState where
  totalMmapBytes : U64
  totalBrkBytes : U64
  allocRecords : ℕ → AllocRecord
  globalState : GlobalState
  brk : ℕ → U64

structure BrkCall where
  mm : ℕ
  pid : ℤ
  cpu : ℕ
  ktime : U64
  brk : U64
  granted : Bool
  deriving DecidableEq, Repr

def originalSysBrk (c : BrkCall) (h : HookState) : U64 × HookState :=
  if c.granted then (c.brk, { h with brk := Function.update h.brk c.mm c.brk })
  else (h.brk c.mm, h)

def uroamRecordAllocation (h : HookState) : HookState :=
  { h with globalState :=
      { h.globalState with allocationCount := h.globalState.allocationCount + 1 } }

def uroamRecordAllocEvent (c : BrkCall) (type : ℤ) (size : U64) (gfpFlags : U32) (numaNode : ℤ)
    (h : HookState) : HookState :=
  let record : AllocRecord := ⟨type, size, gfpFlags, numaNode, c.pid, c.ktime⟩
  { h with allocRecords := Function.update h.allocRecords c.cpu record }

def brkSize (oldBrk brk : U64) : U64 := if oldBrk < brk then brk - oldBrk else 0

def countBrk (c : BrkCall) (size : U64) (h : HookState) : HookState :=
  uroamRecordAllocEvent c 1 size gfpKernel 0
    (uroamRecordAllocation { h with totalBrkBytes := h.totalBrkBytes + size })

def uroamHookedBrk (c : BrkCall) (h : HookState) : U64 × HookState :=
  let oldBrk := h.brk c.mm
  let called := originalSysBrk c h
  if 0 ≤ called.1.toInt ∧ called.2.globalState.enabled = true then
    let size := brkSize oldBrk c.brk
    (called.1, if 0 < size then countBrk c size called.2 else called.2)
  else called

structure AllocStats where
  mmapBytes : U64
  brkBytes : U64
  totalBytes : U64
  deriving DecidableEq, Repr

def uroamGetAllocStats (h : HookState) : AllocStats where
  mmapBytes := h.totalMmapBytes
  brkBytes := h.totalBrkBytes
  totalBytes := h.totalMmapBytes + h.totalBrkBytes

def HookState.call (h : HookState) (c : BrkCall) : HookState := (uroamHookedBrk c h).2

def HookState.NeverNegative (h : HookState) (c : BrkCall) : Prop := 0 ≤ (originalSysBrk c h).1.toInt

def grownBytes (h : HookState) (c : BrkCall) : ℕ := (uroamHookedBrk c h).1.toNat - (h.brk c.mm).toNat

def grownCalls (h : HookState) (c : BrkCall) : ℕ := if 0 < grownBytes h c then 1 else 0

def BrkCounted (h : HookState) (calls : List BrkCall) : Prop :=
  (uroamGetAllocStats (exec HookState.call h calls)).brkBytes.toNat =
      (uroamGetAllocStats h).brkBytes.toNat + total HookState.call grownBytes h calls ∧
    (exec HookState.call h calls).globalState.allocationCount.toNat =
      h.globalState.allocationCount.toNat + total HookState.call grownCalls h calls

def GrowthGranted (h : HookState) (c : BrkCall) : Prop :=
  h.brk c.mm < c.brk → c.granted = true ∧
    h.totalBrkBytes.toNat + (c.brk.toNat - (h.brk c.mm).toNat) < 2 ^ 64 ∧
    h.globalState.allocationCount.toNat + 1 < 2 ^ 64

def StepCounted (h : HookState) (c : BrkCall) : Prop :=
  (uroamGetAllocStats (h.call c)).brkBytes.toNat =
      (uroamGetAllocStats h).brkBytes.toNat + grownBytes h c ∧
    (h.call c).globalState.allocationCount.toNat =
      h.globalState.allocationCount.toNat + grownCalls h c

theorem sys_brk_enabled (c : BrkCall) (h : HookState) :
    (originalSysBrk c h).2.globalState = h.globalState := by
  unfold originalSysBrk
  split <;> rfl

theorem sys_brk_total (c : BrkCall) (h : HookState) :
    (originalSysBrk c h).2.totalBrkBytes = h.totalBrkBytes := by
  unfold originalSysBrk
  split <;> rfl

theorem hooked_result (c : BrkCall) (h : HookState) :
    (uroamHookedBrk c h).1 = (originalSysBrk c h).1 := by
  unfold uroamHookedBrk
  dsimp only
  split <;> rfl

theorem size_of_growth {old brk : U64} (h : old < brk) :
    (brkSize old brk).toNat = brk.toNat - old.toNat ∧ 0 < brkSize old brk := by
  have hlt := BitVec.lt_def.mp h
  have hsub : (brk - old).toNat = brk.toNat - old.toNat := BitVec.toNat_sub_of_le (by bv_omega)
  rw [brkSize,if_pos h]
  refine ⟨hsub,BitVec.lt_def.mpr ?_⟩
  rw [hsub]
  change 0 < _
  omega

section Step

variable {h : HookState} {c : BrkCall} (henabled : h.globalState.enabled = true)
  (hnonneg : h.NeverNegative c)

include henabled hnonneg

theorem call_growth (hgrow : h.brk c.mm < c.brk) :
    h.call c = countBrk c (brkSize (h.brk c.mm) c.brk) (originalSysBrk c h).2 := by
  have hbranch : 0 ≤ (originalSysBrk c h).1.toInt ∧
      (originalSysBrk c h).2.globalState.enabled = true :=
    ⟨hnonneg,by rw [sys_brk_enabled,henabled]⟩
  simp only [HookState.call,uroamHookedBrk,if_pos hbranch,if_pos (size_of_growth hgrow).2]

theorem call_no_growth (hgrow : ¬ h.brk c.mm < c.brk) : h.call c = (originalSysBrk c h).2 := by
  have hbranch : 0 ≤ (originalSysBrk c h).1.toInt ∧
      (originalSysBrk c h).2.globalState.enabled = true :=
    ⟨hnonneg,by rw [sys_brk_enabled,henabled]⟩
  have hsize : ¬ 0 < brkSize (h.brk c.mm) c.brk := by
    rw [brkSize,if_neg hgrow]
    decide
  simp only [HookState.call,uroamHookedBrk,if_pos hbranch,if_neg hsize]

theorem call_enabled : (h.call c).globalState.enabled = true := by
  by_cases hgrow : h.brk c.mm < c.brk
  · rw [call_growth henabled hnonneg hgrow]
    simp [countBrk,uroamRecordAllocEvent,uroamRecordAllocation,sys_brk_enabled,henabled]
  · rw [call_no_growth henabled hnonneg hgrow,sys_brk_enabled,henabled]

theorem step_counted_iff : StepCounted h c ↔ GrowthGranted h c := by
  by_cases hgrow : h.brk c.mm < c.brk
  · obtain ⟨hsize,hpos⟩ := size_of_growth hgrow
    have hlt := BitVec.lt_def.mp hgrow
    have hone : (1 : U64).toNat = 1 := rfl
    have hbrk := c.brk.isLt
    simp only [StepCounted,GrowthGranted,call_growth henabled hnonneg hgrow,uroamGetAllocStats,
      countBrk,uroamRecordAllocEvent,uroamRecordAllocation,sys_brk_enabled,sys_brk_total,
      BitVec.toNat_add,hsize,hone,grownCalls,grownBytes,hooked_result,hgrow,forall_const]
    cases hgranted : c.granted with
    | true =>
      have hresult : (originalSysBrk c h).1 = c.brk := by simp [originalSysBrk,hgranted]
      have hgrown : 0 < c.brk.toNat - (h.brk c.mm).toNat := by omega
      rw [hresult,if_pos hgrown]
      simp only [true_and]
      omega
    | false =>
      have hresult : (originalSysBrk c h).1 = h.brk c.mm := by simp [originalSysBrk,hgranted]
      rw [hresult]
      simp only [Bool.false_eq_true,false_and,iff_false,Nat.sub_self]
      omega
  · have hgrown : grownBytes h c = 0 := by
      have hle := BitVec.not_lt.mp hgrow
      rw [grownBytes,hooked_result,originalSysBrk]
      split
      · exact Nat.sub_eq_zero_of_le (BitVec.le_def.mp hle)
      · exact Nat.sub_self _
    refine iff_of_true ?_ (fun h => absurd h hgrow)
    simp [StepCounted,call_no_growth henabled hnonneg hgrow,uroamGetAllocStats,sys_brk_enabled,
      sys_brk_total,grownCalls,hgrown]

end Step

theorem counted_steps (h : HookState) (calls : List BrkCall) :
    (∀ pre, pre <+: calls → BrkCounted h pre) ↔ Along HookState.call StepCounted h calls := by
  have hbytes := accumulated_iff HookState.call
    (f := fun h => (uroamGetAllocStats h).brkBytes.toNat) (g := grownBytes) calls h
  have hcalls := accumulated_iff HookState.call
    (f := fun h => h.globalState.allocationCount.toNat) (g := grownCalls) calls h
  refine Iff.trans ?_ (along_and HookState.call calls h).symm
  rw [← hbytes,← hcalls]
  constructor
  · exact fun hcounted =>
      ⟨fun pre hpre => (hcounted pre hpre).1,fun pre hpre => (hcounted pre hpre).2⟩
  · exact fun hboth pre hpre => ⟨hboth.1 pre hpre,hboth.2 pre hpre⟩

theorem brk_counted_iff (h : HookState) (henabled : h.globalState.enabled = true)
    (calls : List BrkCall) (hnonneg : Along HookState.call HookState.NeverNegative h calls) :
    (∀ pre, pre <+: calls → BrkCounted h pre) ↔ Along HookState.call GrowthGranted h calls := by
  rw [counted_steps]
  exact exact_steps HookState.call (G := fun h => h.globalState.enabled = true)
    (fun _ _ => call_enabled) (fun _ _ => step_counted_iff) calls h henabled hnonneg

def freshHooks : HookState where
  totalMmapBytes := 0
  totalBrkBytes := 0
  allocRecords := fun _ => ⟨0, 0, 0, 0, 0, 0⟩
  globalState := (Module.loaded true).globalState
  brk := fun _ => 4096

def request (brk : U64) (granted : Bool) : BrkCall := ⟨0, 7, 0, 100, brk, granted⟩

theorem brk_counted_iff_sample :
    (∀ pre, pre <+: [request 8192 true,request 0 false,request 4096 true] →
        BrkCounted freshHooks pre) ↔
      Along HookState.call GrowthGranted freshHooks
        [request 8192 true,request 0 false,request 4096 true] := by
  refine brk_counted_iff freshHooks rfl _ ⟨?_,?_,?_,trivial⟩
  all_goals simp only [HookState.NeverNegative]; decide +kernel

theorem refused_growth_counted :
    ¬ ∀ (h : HookState), h.globalState.enabled = true → ∀ calls : List BrkCall,
      Along HookState.call HookState.NeverNegative h calls → BrkCounted h calls := by
  intro hall
  have hnonneg : freshHooks.NeverNegative (request 8192 false) := by
    simp only [HookState.NeverNegative]
    decide +kernel
  have hcounted := hall freshHooks rfl [request 8192 false] ⟨hnonneg,trivial⟩
  exact absurd hcounted.1 (by decide +kernel)

end Uroam.Kernel.Hooks
