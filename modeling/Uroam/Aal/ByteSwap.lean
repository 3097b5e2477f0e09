import Mathlib.Tactic.IntervalCases
import Uroam.Library.ByteOrder

namespace Uroam.Aal
open Loops ByteOrder

section Words

-- The operands are promoted to `int` and the result is cut to 16 bits.
def swap16 (w : BitVec 16) : BitVec 16 :=
  let p := w.setWidth 32
  (((p &&& 0xFF00) >>> 8) ||| ((p &&& 0x00FF) <<< 8)).setWidth 16

def swap32 (w : BitVec 32) : BitVec 32 :=
  ((w &&& 0xFF000000) >>> 24) ||| ((w &&& 0x00FF0000) >>> 8) ||| ((w &&& 0x0000FF00) <<< 8) |||
    ((w &&& 0x000000FF) <<< 24)

def swap64 (w : BitVec 64) : BitVec 64 :=
  ((w &&& 0xFF00000000000000) >>> 56) ||| ((w &&& 0x00FF000000000000) >>> 40) |||
    ((w &&& 0x0000FF0000000000) >>> 24) ||| ((w &&& 0x000000FF00000000) >>> 8) |||
    ((w &&& 0x00000000FF000000) <<< 8) ||| ((w &&& 0x0000000000FF0000) <<< 24) |||
    ((w &&& 0x000000000000FF00) <<< 40) ||| ((w &&& 0x00000000000000FF) <<< 56)

end Words

section Buffers

variable (host : Order) (len : ℕ)

def aalByteSwap16 (data : Memory) : Memory :=
  upTo (len / 2) (fun m i =>
    let p := m.load host 16 i
    p.2.store host 16 i (swap16 p.1)) data

def aalByteSwap32 (data : Memory) : Memory :=
  upTo (len / 4) (fun m i =>
    let p := m.load host 32 i
    p.2.store host 32 i (swap32 p.1)) data

def aalByteSwap64 (data : Memory) : Memory :=
  upTo (len / 8) (fun m i =>
    let p := m.load host 64 i
    p.2.store host 64 i (swap64 p.1)) data

def aalByteSwap128 (data : Memory) : Memory :=
  upBy 2 (len / 8) (fun m i =>
    let t0 := m.load host 64 i
    let t1 := t0.2.load host 64 (i + 1)
    (t1.2.store host 64 i (swap64 t1.1)).store host 64 (i + 1) (swap64 t0.1)) data

end Buffers

theorem byte_swap16 (w : BitVec 16) (j : ℕ) (h : j < 2) : byte (swap16 w) j = byte w (1 - j) := by
  have hw : swap16 w = (moved (w.setWidth 32) 1 0 ||| moved (w.setWidth 32) 0 1).setWidth 16 := by
    rw [← mask_down _ (Nat.zero_le 1) (by decide),← mask_up _ (Nat.zero_le 1) (by decide)]
    rfl
  rw [hw,byte_setWidth _ (by omega),byte_or,byte_moved _ _ (by decide),byte_moved _ _ (by decide),
    byte_setWidth _ (by decide),byte_setWidth _ (by decide)]
  interval_cases j <;> simp

theorem byte_swap32 (w : BitVec 32) (j : ℕ) (h : j < 4) : byte (swap32 w) j = byte w (3 - j) := by
  have hw : swap32 w = moved w 3 0 ||| moved w 2 1 ||| moved w 1 2 ||| moved w 0 3 := by
    rw [← mask_down w (Nat.zero_le 3) (by decide),← mask_down w (by decide : 1 ≤ 2) (by decide),
      ← mask_up w (by decide : 1 ≤ 2) (by decide),← mask_up w (Nat.zero_le 3) (by decide)]
    rfl
  rw [hw]
  interval_cases j <;> simp [byte_moved]

theorem byte_swap64 (w : BitVec 64) (j : ℕ) (h : j < 8) : byte (swap64 w) j = byte w (7 - j) := by
  have hw : swap64 w = moved w 7 0 ||| moved w 6 1 ||| moved w 5 2 ||| moved w 4 3 |||
      moved w 3 4 ||| moved w 2 5 ||| moved w 1 6 ||| moved w 0 7 := by
    rw [← mask_down w (by decide : 0 ≤ 7) (by decide),← mask_down w (by decide : 1 ≤ 6) (by decide),
      ← mask_down w (by decide : 2 ≤ 5) (by decide),← mask_down w (by decide : 3 ≤ 4) (by decide),
      ← mask_up w (by decide : 3 ≤ 4) (by decide),← mask_up w (by decide : 2 ≤ 5) (by decide),
      ← mask_up w (by decide : 1 ≤ 6) (by decide),← mask_up w (by decide : 0 ≤ 7) (by decide)]
    rfl
  rw [hw]
  interval_cases j <;> simp [byte_moved]

theorem double_word_reversed (host : Order) (m : Memory) (q : ℕ) :
    ReversesGroup 16 q m
      (let t0 := m.load host 64 (2 * q)
       let t1 := t0.2.load host 64 (2 * q + 1)
       (t1.2.store host 64 (2 * q) (swap64 t1.1)).store host 64 (2 * q + 1) (swap64 t0.1)) := by
  have hn : 64 = 8 * 8 := rfl
  constructor
  · intro r hr
    dsimp only
    by_cases hlow : r < 8
    · have hfrom : 16 * q + (16 - 1 - r) = 8 * (2 * q + 1) + (7 - r) := by omega
      have hto : 16 * q + r = 8 * (2 * q) + r := by omega
      have hplace := host.place_lt hlow
      rw [hfrom,hto,store_outside host _ hn _ _ (by omega),store_inside host _ hn _ _ hlow,
        byte_swap64 _ _ hplace,byte_load host _ hn _ (by omega),load_bytes,host.place_mirror hlow]
    · have hhigh : r - 8 < 8 := by omega
      have hfrom : 16 * q + (16 - 1 - r) = 8 * (2 * q) + (7 - (r - 8)) := by omega
      have hto : 16 * q + r = 8 * (2 * q + 1) + (r - 8) := by omega
      have hplace := host.place_lt hhigh
      rw [hfrom,hto,store_inside host _ hn _ _ hhigh,byte_swap64 _ _ hplace,
        byte_load host _ hn _ (by omega),host.place_mirror hhigh]
  · intro a ha
    dsimp only
    rw [store_outside host _ hn _ _ (by omega),store_outside host _ hn _ _ (by omega),load_bytes,
      load_bytes]
  · intro a
    have hwords : 16 * q ≤ a ∧ a < 16 * q + 16 ↔
        8 * (2 * q) ≤ a ∧ a < 8 * (2 * q) + 8 ∨
          8 * (2 * q + 1) ≤ a ∧ a < 8 * (2 * q + 1) + 8 := by omega
    have hloads : a ∈ ((m.load host 64 (2 * q)).2.load host 64 (2 * q + 1)).2.touched ↔
        a ∈ m.touched ∨ 16 * q ≤ a ∧ a < 16 * q + 16 := by
      rw [load_touched host _ hn,load_touched host _ hn,or_assoc,← hwords]
    rw [store_touched host _ hn,store_touched host _ hn,or_assoc,← hwords,hloads,or_assoc,or_self]

structure SwapsGroups (k count limit : ℕ) (f : Memory → Memory) (bytes : ℕ → Byte) : Prop where
  within : ∀ a ∈ (f ⟨bytes,[]⟩).touched, a < limit
  reversed : Reversed k count bytes (f ⟨bytes,[]⟩).bytes
  involution : (f ⟨(f ⟨bytes,[]⟩).bytes,[]⟩).bytes = bytes

theorem groups_swapped {k count limit : ℕ} {body : Memory → ℕ → Memory} (hk : 0 < k)
    (hbody : ∀ m i, ReversesGroup k i m (body m i)) (hlimit : k * count ≤ limit)
    (bytes : ℕ → Byte) : SwapsGroups k count limit (upTo count body) bytes := by
  have hfirst := groups_reversed hbody count ⟨bytes,[]⟩
  have hsecond := groups_reversed hbody count ⟨(upTo count body ⟨bytes,[]⟩).bytes,[]⟩
  refine ⟨?_,hfirst.1,hfirst.1.twice hk hsecond.1⟩
  intro a ha
  rcases (hfirst.2 a).mp ha with hnone | ha
  · cases hnone
  · exact Nat.lt_of_lt_of_le ha hlimit

theorem byte_swaps_reverse (host : Order) (len : ℕ) (bytes : ℕ → Byte) :
    SwapsGroups 2 (len / 2) (2 * (len / 2)) (aalByteSwap16 host len) bytes ∧
    SwapsGroups 4 (len / 4) (4 * (len / 4)) (aalByteSwap32 host len) bytes ∧
    SwapsGroups 8 (len / 8) (8 * (len / 8)) (aalByteSwap64 host len) bytes := by
  refine ⟨?_,?_,?_⟩
  · exact groups_swapped (by decide) (word_reversed host rfl byte_swap16) (Nat.le_refl _) bytes
  · exact groups_swapped (by decide) (word_reversed host rfl byte_swap32) (Nat.le_refl _) bytes
  · exact groups_swapped (by decide) (word_reversed host rfl byte_swap64) (Nat.le_refl _) bytes

-- The loop's bound counts words but a round takes two: it makes a round too many where the number
-- of words is odd.
theorem swap128_rounds (host : Order) (len : ℕ) :
    aalByteSwap128 host len = upTo ((len / 8 + 1) / 2) fun m q =>
      let t0 := m.load host 64 (2 * q)
      let t1 := t0.2.load host 64 (2 * q + 1)
      (t1.2.store host 64 (2 * q) (swap64 t1.1)).store host 64 (2 * q + 1) (swap64 t0.1) := by
  funext data
  exact upBy_eq 2 (len / 8) _ data

theorem byte_swap128_iff (host : Order) (len : ℕ) (bytes : ℕ → Byte) :
    SwapsGroups 16 (len / 16) len (aalByteSwap128 host len) bytes ↔ len % 16 < 8 := by
  rw [swap128_rounds]
  constructor
  · intro h
    by_contra hodd
    have htouched := (groups_reversed (double_word_reversed host) ((len / 8 + 1) / 2) ⟨bytes,[]⟩).2
    have hpast := h.within (16 * (len / 16) + 15) ((htouched _).mpr (.inr (by omega)))
    omega
  · intro heven
    have hrounds : (len / 8 + 1) / 2 = len / 16 := by omega
    rw [hrounds]
    exact groups_swapped (by decide) (double_word_reversed host) (Nat.mul_div_le len 16) bytes

theorem byte_swap128_overruns :
    ¬ ∀ (host : Order) (len : ℕ) (bytes : ℕ → Byte),
      SwapsGroups 16 (len / 16) len (aalByteSwap128 host len) bytes := by
  intro h
  have hpast := (h .little 8 fun a => .ofNat 8 a).within 15 (by decide +kernel)
  exact absurd hpast (by decide)

end Uroam.Aal
