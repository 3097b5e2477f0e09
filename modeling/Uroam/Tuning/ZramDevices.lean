import Mathlib.Data.Finset.Card
import Mathlib.Data.Finset.Image
import Mathlib.Data.Finset.Range
import Uroam.Tuning.Zram

namespace Uroam.Tuning.Zram
open Lines

-- The names under /sys/block; their number fits the u32 that they are counted in.
structure BlockDir where
  names : Finset (List Char)
  few : names.card < 2 ^ 32

def isZram (name : List Char) : Bool := "zram".toList.isPrefixOf name

def zramName (id : ℕ) : List Char := "zram".toList ++ Nat.toDigits 10 id

def detectDevices (dir : BlockDir) : ℕ := (dir.names.filter (isZram · = true)).card % 2 ^ 32

structure ZramManager where
  numDevices : ℕ
  defaultAlgorithm : List Char
  deriving DecidableEq, Repr

def ZramManager.new (dir : BlockDir) : ZramManager := ⟨detectDevices dir,"lz4".toList⟩

def ZramManager.getDevices (m : ZramManager) : List ℕ := List.range m.numDevices

def zramActive (dir : BlockDir) : Bool := zramName 0 ∈ dir.names

def DevicesExact (dir : BlockDir) : Prop :=
  ∀ id, id ∈ (ZramManager.new dir).getDevices ↔ zramName id ∈ dir.names

def Numbered (dir : BlockDir) : Prop :=
  ∃ n, dir.names.filter (isZram · = true) = (Finset.range n).image zramName

theorem zramName_injective : Function.Injective zramName := by
  intro i j h
  have hdigits : Nat.toDigits 10 i = Nat.toDigits 10 j := List.append_cancel_left h
  have hvalue := congrArg (fun digits => Nat.ofDigitChars 10 digits 0) hdigits
  simpa only [Nat.ofDigitChars_ten_toDigits] using hvalue

theorem zramName_zram (id : ℕ) : isZram (zramName id) = true := by
  rw [isZram,List.isPrefixOf_iff_prefix]
  exact List.prefix_append _ _

theorem detect_card (dir : BlockDir) :
    detectDevices dir = (dir.names.filter (isZram · = true)).card := by
  have hle : (dir.names.filter (isZram · = true)).card ≤ dir.names.card := Finset.card_filter_le ..
  exact Nat.mod_eq_of_lt (lt_of_le_of_lt hle dir.few)

theorem mem_getDevices (dir : BlockDir) (id : ℕ) :
    id ∈ (ZramManager.new dir).getDevices ↔ id < (dir.names.filter (isZram · = true)).card := by
  rw [ZramManager.getDevices,List.mem_range,ZramManager.new,detect_card]

theorem devices_exact_iff (dir : BlockDir) :
    (DevicesExact dir ↔ Numbered dir) ∧
      (DevicesExact dir → (zramActive dir = true ↔ (ZramManager.new dir).getDevices ≠ [])) := by
  have hmem : ∀ id, zramName id ∈ dir.names ↔ zramName id ∈ dir.names.filter (isZram · = true) := by
    intro id
    rw [Finset.mem_filter,zramName_zram]
    exact (and_iff_left rfl).symm
  refine ⟨⟨fun h => ?_,?_⟩,fun h => ?_⟩
  · refine ⟨(dir.names.filter (isZram · = true)).card,(Finset.eq_of_subset_of_card_le ?_ ?_).symm⟩
    · intro name hname
      obtain ⟨id,hid,rfl⟩ := Finset.mem_image.mp hname
      exact (hmem id).mp ((h id).mp ((mem_getDevices dir id).mpr (Finset.mem_range.mp hid)))
    · rw [Finset.card_image_of_injective _ zramName_injective,Finset.card_range]
  · rintro ⟨n,hn⟩ id
    rw [mem_getDevices,hmem,hn,Finset.card_image_of_injective _ zramName_injective,
      Finset.card_range,zramName_injective.mem_finset_image,Finset.mem_range]
  · rw [zramActive,decide_eq_true_iff,← h 0]
    constructor
    · exact List.ne_nil_of_mem
    · intro hne
      rw [ZramManager.getDevices,List.mem_range]
      exact Nat.pos_of_ne_zero fun h0 => hne (by rw [ZramManager.getDevices,h0,List.range_zero])

structure Driver where
  store : ℕ → ℕ
  pages : ∀ bytes, 4096 ∣ store bytes
  exact : ∀ bytes, bytes < 2 ^ 64 → 4096 ∣ bytes → store bytes = bytes
  small : ∀ bytes, store bytes < 2 ^ 64

def pageAlign : Driver where
  store bytes := wrap64 ((bytes + 4095) / 4096 * 4096)
  pages bytes := by
    unfold wrap64
    omega
  exact bytes hsmall hpages := by
    unfold wrap64
    omega
  small bytes := Nat.mod_lt _ (by decide)

def sizeText (sizeKb : ℕ) : List Char := Nat.toDigits 10 (wrap64 (sizeKb * 1024))

def Driver.show (driver : Driver) (written : List Char) : Option (List Char) :=
  (parseU64 written).map fun bytes => Nat.toDigits 10 (driver.store bytes) ++ ['\n']

def setSize (driver : Driver) (d : ZramDevice) (sizeKb : ℕ) : ZramDevice :=
  { d with disksize := driver.show (sizeText sizeKb) }

theorem setSize_sizeKb (driver : Driver) (d : ZramDevice) (sizeKb : ℕ) :
    (setSize driver d sizeKb).sizeKb = driver.store (wrap64 (sizeKb * 1024)) / 1024 := by
  have hwritten : wrap64 (sizeKb * 1024) < 2 ^ 64 := Nat.mod_lt _ (by decide)
  have hread : parseU64 (Nat.toDigits 10 (driver.store (wrap64 (sizeKb * 1024)))) = some _ :=
    parseUnsigned_digits (driver.small _)
  simp only [ZramDevice.sizeKb,setSize,Driver.show,sizeText,parseU64] at hread ⊢
  rw [parseUnsigned_digits hwritten,Option.map_some,Option.bind_some,trimmed_numeral,hread]
  rfl

theorem size_read_back_iff (driver : Driver) (d : ZramDevice) (sizeKb : ℕ) :
    (setSize driver d sizeKb).sizeKb = sizeKb ↔ 4 ∣ sizeKb ∧ sizeKb < 2 ^ 54 := by
  rw [setSize_sizeKb]
  have hpages := driver.pages (wrap64 (sizeKb * 1024))
  have hsmall := driver.small (wrap64 (sizeKb * 1024))
  constructor
  · intro h
    omega
  · rintro ⟨hfour,hfits⟩
    have hword : wrap64 (sizeKb * 1024) = sizeKb * 1024 := Nat.mod_eq_of_lt (by omega)
    rw [hword,driver.exact _ (by omega) (by omega)]
    exact Nat.mul_div_cancel sizeKb (by decide)

end Uroam.Tuning.Zram
