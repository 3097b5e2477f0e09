import Uroam.Library.ByteOrder
import Uroam.Aal.Detect

namespace Uroam.Aal
open ByteOrder

structure Registers where
  eax : U32
  ebx : U32
  ecx : U32
  edx : U32
  deriving DecidableEq, Repr

abbrev Leaves := U32 → Registers

inductive Arch where
  | x8664
  | arm64
  | arm32
  | riscv64
  | ppc64le
  | s390x
  | loongarch64
  | unknown
  deriving DecidableEq, Repr

structure CpuInfo where
  arch : Arch
  family : U32
  model : U32
  stepping : U32
  vendor : List Byte
  brand : List Byte
  deriving DecidableEq, Repr

structure SimdInfo where
  simdLevel : U32
  hasSse : Bool
  hasSse2 : Bool
  hasSse3 : Bool
  hasSsse3 : Bool
  hasSse41 : Bool
  hasSse42 : Bool
  hasAvx : Bool
  hasAvx2 : Bool
  hasAvx512f : Bool
  hasAvx512bw : Bool
  hasAvx512dq : Bool
  hasAvx512vl : Bool
  hasAvx512cd : Bool
  deriving DecidableEq, Repr

structure Cpu where
  cpu : CpuInfo
  simd : SimdInfo
  deriving DecidableEq, Repr

-- `__get_cpuid` asks for the highest leaf of the range first, and fails if there is none.
def getCpuid (leaves : Leaves) (leaf : U32) : Option Registers :=
  let maxLevel := (leaves (leaf &&& 0x80000000)).eax
  if maxLevel = 0 ∨ maxLevel < leaf then none else some (leaves leaf)

def flag (register : U32) (i : ℕ) : Bool := (register >>> i) &&& 1 ≠ 0

def vendorBytes (r : Registers) : List Byte :=
  [r.ebx, r.ecx, r.edx].flatMap fun register => (List.range 4).map (byte register)

def CpuInfo.leaf1 (cpu : CpuInfo) (r : Registers) : CpuInfo :=
  { cpu with
    family := ((r.eax >>> 8) &&& 0xF) + ((r.eax >>> 20) &&& 0xFF)
    model := ((r.eax >>> 4) &&& 0xF) ||| ((r.eax >>> 12) &&& 0xF0)
    stepping := r.eax &&& 0xF }

def SimdInfo.leaf1 (simd : SimdInfo) (r : Registers) : SimdInfo :=
  { simd with
    hasSse := flag r.edx 25
    hasSse2 := flag r.edx 26
    hasSse3 := flag r.ecx 0
    hasSsse3 := flag r.ecx 9
    hasSse41 := flag r.ecx 19
    hasSse42 := flag r.ecx 20
    hasAvx := flag r.ecx 28 }

def SimdInfo.leaf7 (simd : SimdInfo) (r : Registers) : SimdInfo :=
  { simd with
    hasAvx2 := flag r.ebx 5
    hasAvx512f := flag r.ebx 16
    hasAvx512bw := flag r.ebx 30
    hasAvx512dq := flag r.ebx 17
    hasAvx512vl := flag r.ebx 1
    hasAvx512cd := flag r.ebx 28 }

def SimdInfo.level (simd : SimdInfo) : U32 :=
  if simd.hasAvx512f then 9
  else if simd.hasAvx2 then 8
  else if simd.hasAvx then 7
  else if simd.hasSse42 then 6
  else if simd.hasSse41 then 5
  else if simd.hasSsse3 then 4
  else if simd.hasSse3 then 3
  else if simd.hasSse2 then 2
  else if simd.hasSse then 1
  else 0

def firstLeaf (leaves : Leaves) (eax : U32) : U32 × List Byte :=
  match getCpuid leaves 0 with
  | some r => (r.eax, vendorBytes r ++ List.replicate 4 0)
  | none => (eax, List.replicate 16 0)

-- `eax` is what the variable holds before the first query: the source does not set it.
def aalDetectCpuX8664 (leaves : Leaves) (eax : U32) (before : Cpu) : Cpu :=
  let first := firstLeaf leaves eax
  let cpu : CpuInfo := ⟨.x8664, 0, 0, 0, first.2, List.replicate 64 0⟩
  if 1 ≤ first.1 then
    let r := leaves 1
    let simd := before.simd.leaf1 r
    let simd := if 7 ≤ r.eax then simd.leaf7 (leaves 7) else simd
    { cpu := cpu.leaf1 r, simd := { simd with simdLevel := simd.level } }
  else { before with cpu }

def aalDetectCpu (leaves : Leaves) (eax : U32) : Cpu :=
  aalDetectCpuX8664 leaves eax
    { cpu := ⟨.x8664, 0, 0, 0, List.replicate 16 0, List.replicate 64 0⟩
      simd := ⟨0, false, false, false, false, false, false, false, false, false, false, false,
        false, false⟩ }

def Cpu.features (c : Cpu) : U32 × U32 × U32 × SimdInfo :=
  (c.cpu.family, c.cpu.model, c.cpu.stepping, c.simd)

def Agree (f g : Leaves) : Prop := ∀ leaf, leaf ≤ (f 0).eax → g leaf = f leaf

def StaysBelowMax (f : Leaves) (eax : U32) : Prop :=
  ((f 0).eax = 0 → eax = 0) ∧ ((f 0).eax ≠ 0 → 7 ≤ (f 0).eax ∨ (f 1).eax < 7)

theorem flag_eq (register : U32) (i : ℕ) : flag register i = register.getLsbD i := by
  change decide ((register >>> i) &&& 1#32 ≠ 0) = _
  rw [BitVec.and_one_eq_setWidth_ofBool_getLsbD,BitVec.getLsbD_ushiftRight,Nat.add_zero]
  cases register.getLsbD i <;> rfl

theorem firstLeaf_level (leaves : Leaves) (eax : U32) :
    (firstLeaf leaves eax).1 = if (leaves 0).eax = 0 then eax else (leaves 0).eax := by
  have hrange : (0 : U32) &&& 0x80000000 = 0 := rfl
  have hleast : ¬ (leaves 0).eax < 0 := BitVec.not_lt_zero
  unfold firstLeaf getCpuid
  rw [hrange]
  by_cases h : (leaves 0).eax = 0
  · rw [if_pos (.inl h),if_pos h]
  · rw [if_neg (not_or.mpr ⟨h,hleast⟩),if_neg h]

theorem firstLeaf_agree {f g : Leaves} (h : g 0 = f 0) (eax : U32) :
    firstLeaf g eax = firstLeaf f eax := by
  have hrange : (0 : U32) &&& 0x80000000 = 0 := rfl
  simp only [firstLeaf,getCpuid,hrange,h]

theorem zero_le_leaf {w : U32} : 0 ≤ w := BitVec.le_def.mpr (Nat.zero_le _)

theorem one_le_iff (w : U32) : 1 ≤ w ↔ w ≠ 0 := by
  rw [BitVec.le_def,← BitVec.toNat_inj.ne]
  exact Nat.one_le_iff_ne_zero

theorem features_of_agree {f g : Leaves} {eax : U32} (before : Cpu) (h : Agree f g)
    (hmax : StaysBelowMax f eax) :
    aalDetectCpuX8664 g eax before = aalDetectCpuX8664 f eax before := by
  have h0 : g 0 = f 0 := h 0 zero_le_leaf
  unfold aalDetectCpuX8664
  rw [firstLeaf_agree h0]
  by_cases hzero : (f 0).eax = 0
  · have hnone : ¬ 1 ≤ (firstLeaf f eax).1 := by
      rw [firstLeaf_level,if_pos hzero,hmax.1 hzero]
      decide
    simp only [hnone,if_false]
  · have h1 : g 1 = f 1 := h 1 ((one_le_iff _).mpr hzero)
    rw [h1]
    rcases hmax.2 hzero with hseven | hlow
    · rw [h 7 hseven]
    · have hno : ¬ 7 ≤ (f 1).eax := BitVec.not_le.mpr hlow
      simp only [hno,if_false]

def withLeaf (f : Leaves) (leaf : U32) (r : Registers) : Leaves := Function.update f leaf r

theorem agree_withLeaf (f : Leaves) {leaf : U32} (h : (f 0).eax < leaf) (r : Registers) :
    Agree f (withLeaf f leaf r) := by
  intro l hl
  have hne : l ≠ leaf := fun he => absurd h (BitVec.not_lt.mpr (he ▸ hl))
  exact Function.update_of_ne hne r f

theorem features_level (leaves : Leaves) (eax : U32) (before : Cpu)
    (h : (if (leaves 0).eax = 0 then eax else (leaves 0).eax) ≠ 0) :
    (aalDetectCpuX8664 leaves eax before).cpu.stepping = (leaves 1).eax &&& 0xF ∧
      (7 ≤ (leaves 1).eax →
        (aalDetectCpuX8664 leaves eax before).simd.hasAvx2 = flag (leaves 7).ebx 5) := by
  have hlevel : 1 ≤ (firstLeaf leaves eax).1 := by
    rw [one_le_iff,firstLeaf_level]
    exact h
  unfold aalDetectCpuX8664
  simp only [hlevel,if_true]
  refine ⟨rfl,?_⟩
  intro hseven
  simp only [hseven,if_true]
  rfl

theorem stepping_changes (w : U32) : (w ^^^ 1) &&& 0xF ≠ w &&& 0xF := by
  intro h
  have hbit := congrArg (fun v : U32 => v.getLsbD 0) h
  simp at hbit

theorem flag_changes (w : U32) : flag (w ^^^ 0x20) 5 ≠ flag w 5 := by
  rw [flag_eq,flag_eq]
  simp

theorem features_independent_iff (f : Leaves) (eax : U32) (before : Cpu) :
    (∀ g, Agree f g →
      (aalDetectCpuX8664 g eax before).features = (aalDetectCpuX8664 f eax before).features) ↔
      StaysBelowMax f eax := by
  constructor
  · intro h
    refine ⟨?_,?_⟩
    · intro hzero
      by_contra heax
      let g := withLeaf f 1 { f 1 with eax := (f 1).eax ^^^ 1 }
      have hagree : Agree f g := agree_withLeaf f (by rw [hzero]; decide) _
      have hf := (features_level f eax before (by rwa [if_pos hzero])).1
      have hg := (features_level g eax before (by rwa [hagree 0 zero_le_leaf,if_pos hzero])).1
      have hsame := congrArg (fun c : U32 × U32 × U32 × SimdInfo => c.2.2.1) (h g hagree)
      have hone : (g 1).eax = (f 1).eax ^^^ 1 := by simp [g,withLeaf]
      rw [hone] at hg
      exact stepping_changes (f 1).eax (hg.symm.trans (hsame.trans hf))
    · intro hpos
      by_contra hreach
      obtain ⟨hmax,hsignature⟩ := not_or.mp hreach
      have hseven := BitVec.not_lt.mp hsignature
      let g := withLeaf f 7 { f 7 with ebx := (f 7).ebx ^^^ 0x20 }
      have hagree : Agree f g := agree_withLeaf f (BitVec.not_le.mp hmax) _
      have hf := (features_level f eax before (by rwa [if_neg hpos])).2 hseven
      have h1 : g 1 = f 1 := hagree 1 ((one_le_iff _).mpr hpos)
      have hg := (features_level g eax before
        (by rwa [hagree 0 zero_le_leaf,if_neg hpos])).2 (h1 ▸ hseven)
      have hsame := congrArg (fun c : U32 × U32 × U32 × SimdInfo => c.2.2.2.hasAvx2) (h g hagree)
      have hebx : (g 7).ebx = (f 7).ebx ^^^ 0x20 := by simp [g,withLeaf]
      rw [hebx] at hg
      exact flag_changes (f 7).ebx (hg.symm.trans (hsame.trans hf))
  · intro hmax g hg
    rw [features_of_agree before hg hmax]

def oldProcessor (leaf7 : Registers) : Leaves := fun leaf =>
  if leaf = 0 then ⟨4, 0x756E6547, 0x6C65746E, 0x49656E69⟩
  else if leaf = 1 then ⟨0x000006F6, 0, 0, 0⟩
  else if leaf = 7 then leaf7
  else ⟨0, 0, 0, 0⟩

theorem features_depend_on_leaf7 :
    ¬ ∀ (f g : Leaves) (eax : U32) (before : Cpu), Agree f g →
      (aalDetectCpuX8664 g eax before).features = (aalDetectCpuX8664 f eax before).features := by
  intro h
  let f := oldProcessor ⟨0, 0, 0, 0⟩
  have hagree : Agree f (withLeaf f 7 ⟨0, 0x20, 0, 0⟩) := agree_withLeaf f (by decide) _
  have hsame := h f _ 0 (aalDetectCpu f 0) hagree
  exact absurd hsame (by decide +kernel)

end Uroam.Aal
