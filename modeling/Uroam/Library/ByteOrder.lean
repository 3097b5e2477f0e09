import Uroam.Library.Loops
namespace ByteOrder
open Loops

abbrev Byte := BitVec 8

section Words

variable {n : ℕ}

def byte (w : BitVec n) (j : ℕ) : Byte := (w >>> (8 * j)).setWidth 8

def mask (n a : ℕ) : BitVec n := (BitVec.allOnes 8).setWidth n <<< (8 * a)

def moved (w : BitVec n) (a b : ℕ) : BitVec n := (byte w a).setWidth n <<< (8 * b)

theorem getLsbD_byte (w : BitVec n) (j i : ℕ) :
    (byte w j).getLsbD i = (decide (i < 8) && w.getLsbD (8 * j + i)) := by
  simp [byte]

theorem getLsbD_mask (n a i : ℕ) :
    (mask n a).getLsbD i = decide (i < n ∧ 8 * a ≤ i ∧ i < 8 * a + 8) := by
  simp only [mask,BitVec.getLsbD_shiftLeft,BitVec.getLsbD_setWidth,BitVec.getLsbD_allOnes]
  grind

theorem getLsbD_moved (w : BitVec n) (a b i : ℕ) :
    (moved w a b).getLsbD i =
      (decide (i < n ∧ 8 * b ≤ i ∧ i < 8 * b + 8) && w.getLsbD (8 * a + (i - 8 * b))) := by
  simp only [moved,BitVec.getLsbD_shiftLeft,BitVec.getLsbD_setWidth,getLsbD_byte]
  grind

theorem mask_down (w : BitVec n) {a b : ℕ} (h : b ≤ a) (ha : 8 * a + 8 ≤ n) :
    (w &&& mask n a) >>> (8 * (a - b)) = moved w a b := by
  apply BitVec.eq_of_getLsbD_eq
  intro i hi
  rw [BitVec.getLsbD_ushiftRight,BitVec.getLsbD_and,getLsbD_mask,getLsbD_moved]
  by_cases hin : 8 * b ≤ i ∧ i < 8 * b + 8
  · have hbit : 8 * (a - b) + i = 8 * a + (i - 8 * b) := by omega
    have hmask : 8 * a + (i - 8 * b) < n ∧ 8 * a ≤ 8 * a + (i - 8 * b) ∧
        8 * a + (i - 8 * b) < 8 * a + 8 := by omega
    rw [hbit,decide_eq_true hmask,decide_eq_true ⟨hi,hin⟩,Bool.and_true,Bool.true_and]
  · have hmask : ¬ (8 * (a - b) + i < n ∧ 8 * a ≤ 8 * (a - b) + i ∧
        8 * (a - b) + i < 8 * a + 8) := by omega
    rw [decide_eq_false hmask,decide_eq_false fun h => hin h.2,Bool.and_false,Bool.false_and]

theorem mask_up (w : BitVec n) {a b : ℕ} (h : a ≤ b) (hb : 8 * b + 8 ≤ n) :
    (w &&& mask n a) <<< (8 * (b - a)) = moved w a b := by
  apply BitVec.eq_of_getLsbD_eq
  intro i hi
  rw [BitVec.getLsbD_shiftLeft,BitVec.getLsbD_and,getLsbD_mask,getLsbD_moved]
  grind

@[simp] theorem byte_or (v w : BitVec n) (j : ℕ) : byte (v ||| w) j = byte v j ||| byte w j := by
  simp [byte,BitVec.ushiftRight_or_distrib]

theorem byte_moved (w : BitVec n) (a : ℕ) {b j : ℕ} (hb : 8 * b + 8 ≤ n) :
    byte (moved w a b) j = if j = b then byte w a else 0 := by
  apply BitVec.eq_of_getLsbD_eq
  intro i hi
  rw [getLsbD_byte,getLsbD_moved]
  split
  · next h =>
    subst h
    rw [getLsbD_byte]
    grind
  · next h =>
    have hmiss : ¬ (8 * j + i < n ∧ 8 * b ≤ 8 * j + i ∧ 8 * j + i < 8 * b + 8) := by omega
    simp [hmiss]

theorem byte_setWidth {m : ℕ} (w : BitVec n) {j : ℕ} (h : 8 * j + 8 ≤ m) :
    byte (w.setWidth m) j = byte w j := by
  apply BitVec.eq_of_getLsbD_eq
  intro i hi
  rw [getLsbD_byte,getLsbD_byte,BitVec.getLsbD_setWidth]
  grind

def join (n : ℕ) : List Byte → BitVec n
  | [] => 0
  | b :: bs => b.setWidth n ||| join n bs <<< 8

theorem byte_low (b : Byte) {j : ℕ} (h : 8 * j + 8 ≤ n) :
    byte (b.setWidth n) j = if j = 0 then b else 0 := by
  rw [byte_setWidth b h]
  apply BitVec.eq_of_getLsbD_eq
  intro i hi
  rw [getLsbD_byte]
  split
  · next h0 => simp [h0,hi]
  · next h0 => simp [BitVec.getLsbD_of_ge b (8 * j + i) (by omega)]

theorem byte_shifted (w : BitVec n) {j : ℕ} (h : 8 * j + 8 ≤ n) :
    byte (w <<< 8) j = if j = 0 then 0 else byte w (j - 1) := by
  apply BitVec.eq_of_getLsbD_eq
  intro i hi
  rw [getLsbD_byte,BitVec.getLsbD_shiftLeft]
  split
  · next h0 => simp [h0,hi]
  · next h0 =>
    rw [getLsbD_byte]
    grind

theorem byte_join (bs : List Byte) {j : ℕ} (h : 8 * j + 8 ≤ n) :
    byte (join n bs) j = bs.getD j 0 := by
  induction bs generalizing j with
  | nil => simp [join,byte]
  | cons b bs ih =>
    rw [join,byte_or,byte_low b h,byte_shifted _ h]
    cases j with
    | zero => simp
    | succ j => simp [ih (show 8 * j + 8 ≤ n by omega)]

end Words

inductive Order where
  | little
  | big
  deriving DecidableEq, Repr

def Order.place (k j : ℕ) : Order → ℕ
  | .little => j
  | .big => k - 1 - j

structure Memory where
  bytes : ℕ → Byte
  touched : List ℕ

def Memory.load (order : Order) (n i : ℕ) (m : Memory) : BitVec n × Memory :=
  let k := n / 8
  (join n ((List.range k).map fun j => m.bytes (k * i + order.place k j)),
    { m with touched := m.touched ++ List.range' (k * i) k })

def Memory.store (order : Order) (n i : ℕ) (w : BitVec n) (m : Memory) : Memory :=
  let k := n / 8
  { bytes := fun a =>
      if k * i ≤ a ∧ a < k * i + k then byte w (order.place k (a - k * i)) else m.bytes a
    touched := m.touched ++ List.range' (k * i) k }

section Access

variable {n k : ℕ} (order : Order) (m : Memory)

theorem Order.place_lt {j : ℕ} (h : j < k) : order.place k j < k := by
  cases order with
  | little => exact h
  | big => exact Nat.lt_of_le_of_lt (Nat.sub_le (k - 1) j) (Nat.sub_one_lt (Nat.ne_zero_of_lt h))

theorem Order.place_mirror {j : ℕ} (h : j < k) :
    order.place k (k - 1 - order.place k j) = k - 1 - j := by
  cases order with
  | little => rfl
  | big =>
    simp only [Order.place]
    omega

@[simp] theorem load_bytes (i : ℕ) : (m.load order n i).2.bytes = m.bytes := rfl

theorem byte_load (hn : n = 8 * k) (i : ℕ) {j : ℕ} (h : j < k) :
    byte (m.load order n i).1 j = m.bytes (k * i + order.place k j) := by
  have hk : n / 8 = k := by omega
  simp only [Memory.load,hk]
  rw [byte_join _ (by omega),List.getD_eq_getElem?_getD]
  simp [h]

theorem store_inside (hn : n = 8 * k) (i : ℕ) (w : BitVec n) {r : ℕ} (h : r < k) :
    (m.store order n i w).bytes (k * i + r) = byte w (order.place k r) := by
  have hk : n / 8 = k := by omega
  simp only [Memory.store,hk]
  rw [if_pos (by omega),Nat.add_sub_cancel_left]

theorem store_outside (hn : n = 8 * k) (i : ℕ) (w : BitVec n) {a : ℕ}
    (h : a < k * i ∨ k * i + k ≤ a) : (m.store order n i w).bytes a = m.bytes a := by
  have hk : n / 8 = k := by omega
  simp only [Memory.store,hk]
  rw [if_neg (by omega)]

theorem load_touched (hn : n = 8 * k) (i a : ℕ) :
    a ∈ (m.load order n i).2.touched ↔ a ∈ m.touched ∨ k * i ≤ a ∧ a < k * i + k := by
  have hk : n / 8 = k := by omega
  simp [Memory.load,hk]

theorem store_touched (hn : n = 8 * k) (i : ℕ) (w : BitVec n) (a : ℕ) :
    a ∈ (m.store order n i w).touched ↔ a ∈ m.touched ∨ k * i ≤ a ∧ a < k * i + k := by
  have hk : n / 8 = k := by omega
  simp [Memory.store,hk]

end Access

section Groups

variable {n k : ℕ}

structure Reversed (k count : ℕ) (b b' : ℕ → Byte) : Prop where
  inside : ∀ i r, i < count → r < k → b' (k * i + r) = b (k * i + (k - 1 - r))
  outside : ∀ a, k * count ≤ a → b' a = b a

theorem Reversed.twice {count : ℕ} {b b' b'' : ℕ → Byte} (hk : 0 < k)
    (h : Reversed k count b b') (h' : Reversed k count b' b'') : b'' = b := by
  funext a
  by_cases ha : k * count ≤ a
  · rw [h'.outside a ha,h.outside a ha]
  · have hr := Nat.mod_lt a hk
    have hi : a / k < count := Nat.div_lt_of_lt_mul (Nat.lt_of_not_le ha)
    have hback : k - 1 - (k - 1 - a % k) = a % k := by omega
    have hmirror : k - 1 - a % k < k := by omega
    rw [← Nat.div_add_mod a k,h'.inside _ _ hi hr,h.inside _ _ hi hmirror,hback]

structure ReversesGroup (k i : ℕ) (m m' : Memory) : Prop where
  inside : ∀ r, r < k → m'.bytes (k * i + r) = m.bytes (k * i + (k - 1 - r))
  outside : ∀ a, a < k * i ∨ k * i + k ≤ a → m'.bytes a = m.bytes a
  touched : ∀ a, a ∈ m'.touched ↔ a ∈ m.touched ∨ k * i ≤ a ∧ a < k * i + k

theorem Reversed.next {i : ℕ} {b : ℕ → Byte} {m m' : Memory} (h : Reversed k i b m.bytes)
    (hstep : ReversesGroup k i m m') : Reversed k (i + 1) b m'.bytes where
  inside j r hj hr := by
    rcases Nat.lt_succ_iff_lt_or_eq.mp hj with hlt | rfl
    · have hbelow : k * j + k ≤ k * i := Nat.mul_succ k j ▸ Nat.mul_le_mul_left k hlt
      rw [hstep.outside _ (.inl (by omega)),h.inside j r hlt hr]
    · rw [hstep.inside r hr,h.outside _ (Nat.le_add_right ..)]
  outside a ha := by
    rw [Nat.mul_succ] at ha
    rw [hstep.outside a (.inr ha),h.outside a (by omega)]

theorem groups_reversed {body : Memory → ℕ → Memory}
    (hbody : ∀ m i, ReversesGroup k i m (body m i)) (count : ℕ) (m : Memory) :
    Reversed k count m.bytes (upTo count body m).bytes ∧
      ∀ a, a ∈ (upTo count body m).touched ↔ a ∈ m.touched ∨ a < k * count := by
  apply upTo_invariant (I := fun i (s : Memory) => Reversed k i m.bytes s.bytes ∧
    ∀ a, a ∈ s.touched ↔ a ∈ m.touched ∨ a < k * i)
  · exact ⟨⟨fun i r hi => absurd hi (Nat.not_lt_zero i),fun a _ => rfl⟩,by simp⟩
  · rintro i s _ ⟨hrev,htouched⟩
    refine ⟨hrev.next (hbody s i),?_⟩
    intro a
    have hsplit : a < k * (i + 1) ↔ a < k * i ∨ k * i ≤ a ∧ a < k * i + k := by
      rw [Nat.mul_succ]
      omega
    rw [(hbody s i).touched a,htouched a,hsplit,or_assoc]

theorem word_reversed (order : Order) (hn : n = 8 * k) {f : BitVec n → BitVec n}
    (hf : ∀ w j, j < k → byte (f w) j = byte w (k - 1 - j)) (m : Memory) (i : ℕ) :
    ReversesGroup k i m ((m.load order n i).2.store order n i (f (m.load order n i).1)) where
  inside r hr := by
    have hplace := order.place_lt hr
    rw [store_inside order _ hn i _ hr,hf _ _ hplace,byte_load order m hn i (by omega),
      order.place_mirror hr]
  outside a ha := by rw [store_outside order _ hn i _ ha,load_bytes]
  touched a := by
    rw [store_touched order _ hn,load_touched order _ hn,or_assoc,or_self]

end Groups

end ByteOrder
