import Mathlib.Algebra.Ring.Rat
import Mathlib.Algebra.Field.Rat
import Mathlib.Algebra.Order.Ring.Unbundled.Rat
import Uroam.Library.Lines

namespace Uroam.Tuning.Zram
open Lines

structure CompressionStats where
  zramTotalKb : Nat
  zramUsedKb : Nat
  zramCompressedKb : Nat
  zramRatio : ℚ
  zswapEnabled : Bool
  zswapPoolKb : Nat
  deriving DecidableEq, Repr

structure ZramDevice where
  disksize : Option (List Char)
  mmStat : Option (List Char)
  deriving DecidableEq, Repr

def parseU64 (text : List Char) : Option Nat := parseUnsigned 64 text

-- Release builds wrap: `panic = "abort"` with no overflow checks.
def wrap64 (n : Nat) : Nat := n % 2 ^ 64

def ZramDevice.parts (d : ZramDevice) : Option (List (List Char)) :=
  d.mmStat.map fun s => splitWhitespace (trimmed s)

def ZramDevice.sizeKb (d : ZramDevice) : Nat :=
  ((d.disksize.bind fun s => parseU64 (trimmed s)).map fun b => b / 1024).getD 0

def ZramDevice.pagesUsed (d : ZramDevice) : Nat :=
  (d.parts.bind fun parts =>
    if parts.length ≥ 4 then (getElem? parts 3).bind parseU64 else none).getD 0

def ZramDevice.comprSizeKb (d : ZramDevice) : Nat :=
  ((d.parts.bind fun parts =>
    if parts ≠ [] then (getElem? parts 0).bind parseU64 else none).map fun b => b / 1024).getD 0

def ZramDevice.usedKb (d : ZramDevice) : Nat := wrap64 (d.pagesUsed * 4)

def ZramDevice.compressionRatio (d : ZramDevice) : ℚ :=
  if d.comprSizeKb > 0 then d.usedKb / d.comprSizeKb else 1

def getStats (d : ZramDevice) : CompressionStats :=
  { zramTotalKb := d.sizeKb
    zramUsedKb := d.usedKb
    zramCompressedKb := d.comprSizeKb
    zramRatio := d.compressionRatio
    zswapEnabled := false
    zswapPoolKb := 0 }

structure Number where
  gap : List Char
  value : Nat
  gap_blank : Gap whitespace gap
  small : value < 2 ^ 64

structure MmStat where
  lead : List Char
  origDataSize : Nat
  comprDataSize : Number
  memUsedTotal : Number
  memLimit : Number
  further : List Number
  trail : List Char
  lead_blank : Blanks whitespace lead
  orig_small : origDataSize < 2 ^ 64
  trail_blank : Blanks whitespace trail

def MmStat.numbers (m : MmStat) : List Number :=
  m.comprDataSize :: m.memUsedTotal :: m.memLimit :: m.further

def Number.field (n : Number) : List Char × List Char := (n.gap,Nat.toDigits 10 n.value)

def MmStat.text (m : MmStat) : List Char :=
  m.lead ++ (Nat.toDigits 10 m.origDataSize ++ (spaced (m.numbers.map Number.field) ++ m.trail))

theorem mmStat_words (m : MmStat) :
    splitWhitespace (trimmed m.text) = Nat.toDigits 10 m.origDataSize ::
      m.numbers.map fun n => Nat.toDigits 10 n.value := by
  have hfields : ∀ f ∈ m.numbers.map Number.field,
      Gap whitespace f.1 ∧ Word whitespace f.2 := by
    intro f hf
    obtain ⟨n,-,rfl⟩ := List.mem_map.mp hf
    exact ⟨n.gap_blank,digits_word n.value⟩
  have hhead := spaced_head (fun f hf => (hfields f hf).1) m.trail_blank
  calc splitWhitespace (trimmed m.text)
      = words whitespace m.text := words_trim m.text
    _ = words whitespace (Nat.toDigits 10 m.origDataSize ++
          (spaced (m.numbers.map Number.field) ++ m.trail)) := words_lead m.lead_blank _
    _ = Nat.toDigits 10 m.origDataSize ::
          words whitespace (spaced (m.numbers.map Number.field) ++ m.trail) :=
        words_word (digits_word m.origDataSize) hhead
    _ = _ := by
        rw [words_spaced hfields m.trail_blank,List.map_map]
        rfl

section Columns

variable (m : MmStat) (disksize : Option (List Char))

theorem pagesUsed_column : ZramDevice.pagesUsed ⟨disksize,some m.text⟩ = m.memLimit.value := by
  unfold ZramDevice.pagesUsed ZramDevice.parts
  rw [Option.map_some,mmStat_words,Option.bind_some,if_pos (by simp [MmStat.numbers])]
  change ((some (Nat.toDigits 10 m.memLimit.value)).bind parseU64).getD 0 = _
  rw [Option.bind_some,parseU64,parseUnsigned_digits m.memLimit.small]
  rfl

theorem comprSizeKb_column :
    ZramDevice.comprSizeKb ⟨disksize,some m.text⟩ = m.origDataSize / 1024 := by
  unfold ZramDevice.comprSizeKb ZramDevice.parts
  rw [Option.map_some,mmStat_words,Option.bind_some,if_pos (by simp)]
  change (((some (Nat.toDigits 10 m.origDataSize)).bind parseU64).map _).getD 0 = _
  rw [Option.bind_some,parseU64,parseUnsigned_digits m.orig_small]
  rfl

structure Reported (s : CompressionStats) : Prop where
  used : s.zramUsedKb = m.origDataSize / 1024
  compressed : s.zramCompressedKb = m.comprDataSize.value / 1024
  ratio : 1024 ≤ m.comprDataSize.value →
    s.zramRatio = (m.origDataSize : ℚ) / m.comprDataSize.value

theorem equal_columns_ratio {d : ZramDevice} (hpos : 0 < d.comprSizeKb)
    (h : d.usedKb = d.comprSizeKb) : (getStats d).zramRatio = 1 := by
  change d.compressionRatio = 1
  rw [ZramDevice.compressionRatio,if_pos hpos,h]
  exact div_self (Nat.cast_ne_zero.mpr (Nat.ne_of_gt hpos))

theorem one_eq_ratio_iff {x y : Nat} (hy : 0 < y) : 1 = (x : ℚ) / y ↔ x = y := by
  have hne : (y : ℚ) ≠ 0 := Nat.cast_ne_zero.mpr (Nat.ne_of_gt hy)
  rw [eq_comm,div_eq_one_iff_eq hne,Nat.cast_inj]

theorem getStats_reported_iff :
    Reported m (getStats ⟨disksize,some m.text⟩) ↔
      wrap64 (m.memLimit.value * 4) = m.origDataSize / 1024 ∧
      m.origDataSize / 1024 = m.comprDataSize.value / 1024 ∧
      (1024 ≤ m.comprDataSize.value → m.origDataSize = m.comprDataSize.value) := by
  have hused : ZramDevice.usedKb ⟨disksize,some m.text⟩ = wrap64 (m.memLimit.value * 4) :=
    congrArg (fun n => wrap64 (n * 4)) (pagesUsed_column m disksize)
  have hcompr := comprSizeKb_column m disksize
  have hratio : wrap64 (m.memLimit.value * 4) = m.origDataSize / 1024 →
      m.origDataSize / 1024 = m.comprDataSize.value / 1024 → 1024 ≤ m.comprDataSize.value →
      (getStats ⟨disksize,some m.text⟩).zramRatio = 1 := by
    intro hfirst hsecond hlarge
    apply equal_columns_ratio
    · rw [hcompr,hsecond]
      exact Nat.div_pos hlarge (by decide)
    · rw [hused,hcompr,hfirst]
  constructor
  · rintro ⟨hu,hc,hr⟩
    have hfirst : wrap64 (m.memLimit.value * 4) = m.origDataSize / 1024 := hused.symm.trans hu
    have hsecond : m.origDataSize / 1024 = m.comprDataSize.value / 1024 := hcompr.symm.trans hc
    refine ⟨hfirst,hsecond,?_⟩
    intro hlarge
    have hone := (hratio hfirst hsecond hlarge).symm.trans (hr hlarge)
    exact (one_eq_ratio_iff (Nat.lt_of_lt_of_le (by decide) hlarge)).mp hone
  · rintro ⟨hfirst,hsecond,hsame⟩
    refine ⟨hused.trans hfirst,hcompr.trans hsecond,?_⟩
    intro hlarge
    rw [hratio hfirst hsecond hlarge]
    exact (one_eq_ratio_iff (Nat.lt_of_lt_of_le (by decide) hlarge)).mpr (hsame hlarge)

end Columns

section Sample

def spacedNumber (value : Nat) (h : value < 2 ^ 64) : Number :=
  ⟨[' '],value,gap_one rfl,h⟩

def busyDevice : MmStat :=
  { lead := []
    origDataSize := 8388608
    comprDataSize := spacedNumber 2097152 (by decide)
    memUsedTotal := spacedNumber 2359296 (by decide)
    memLimit := spacedNumber 0 (by decide)
    further := [spacedNumber 2359296 (by decide),spacedNumber 0 (by decide)]
    trail := ['\n']
    lead_blank := blanks_nil
    orig_small := by decide
    trail_blank := blanks_one rfl }

theorem busy_device_misreported :
    getStats ⟨some ['1','0','7','3','7','4','1','8','2','4'],some busyDevice.text⟩ =
      { zramTotalKb := 1048576
        zramUsedKb := 0
        zramCompressedKb := 8192
        zramRatio := 0
        zswapEnabled := false
        zswapPoolKb := 0 } ∧
    busyDevice.origDataSize / 1024 = 8192 ∧ busyDevice.comprDataSize.value / 1024 = 2048 := by
  decide +kernel

end Sample

end Uroam.Tuning.Zram
