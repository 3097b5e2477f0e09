import Mathlib.Data.List.Infix

namespace Utf8

def replacement : Char := '\uFFFD'

structure Pending where
  owed : Nat
  value : Nat
  low : Nat
  high : Nat
  deriving DecidableEq, Repr

def Pending.Takes (p : Pending) (b : UInt8) : Prop := p.low ≤ b.toNat ∧ b.toNat ≤ p.high

instance (p : Pending) (b : UInt8) : Decidable (p.Takes b) :=
  inferInstanceAs (Decidable (p.low ≤ b.toNat ∧ b.toNat ≤ p.high))

def Pending.shifted (p : Pending) (b : UInt8) : Nat := 64 * p.value + (b.toNat - 0x80)

def first (b : UInt8) : List Char × Option Pending :=
  let n := b.toNat
  if n < 0x80 then ([Char.ofNat n],none)
  else if 0xC2 ≤ n ∧ n ≤ 0xDF then ([],some ⟨0,n - 0xC0,0x80,0xBF⟩)
  else if n = 0xE0 then ([],some ⟨1,0,0xA0,0xBF⟩)
  else if n = 0xED then ([],some ⟨1,0xD,0x80,0x9F⟩)
  else if 0xE1 ≤ n ∧ n ≤ 0xEF then ([],some ⟨1,n - 0xE0,0x80,0xBF⟩)
  else if n = 0xF0 then ([],some ⟨2,0,0x90,0xBF⟩)
  else if 0xF1 ≤ n ∧ n ≤ 0xF3 then ([],some ⟨2,n - 0xF0,0x80,0xBF⟩)
  else if n = 0xF4 then ([],some ⟨2,4,0x80,0x8F⟩)
  else ([replacement],none)

def step : Option Pending → UInt8 → List Char × Option Pending
  | none, b => first b
  | some p, b =>
    if p.Takes b then
      match p.owed with
      | 0 => ([Char.ofNat (p.shifted b)],none)
      | owed + 1 => ([],some ⟨owed,p.shifted b,0x80,0xBF⟩)
    else (replacement :: (first b).1,(first b).2)

def decodeFrom : Option Pending → List UInt8 → List Char
  | none, [] => []
  | some _, [] => [replacement]
  | p, b :: bs => (step p b).1 ++ decodeFrom (step p b).2 bs

def lossy (bs : List UInt8) : List Char := decodeFrom none bs

def encode (text : List Char) : List UInt8 := text.flatMap String.utf8EncodeChar

inductive Completes : Pending → Nat → List UInt8 → Prop where
  | last {p : Pending} {b : UInt8} : p.Takes b → p.owed = 0 → Completes p (p.shifted b) [b]
  | more {p : Pending} {b : UInt8} {owed value : Nat} {bs : List UInt8} : p.Takes b →
      p.owed = owed + 1 → Completes ⟨owed,p.shifted b,0x80,0xBF⟩ value bs →
      Completes p value (b :: bs)

theorem decode_step {p q : Option Pending} {b : UInt8} {out : List Char}
    (h : step p b = (out,q)) (bs : List UInt8) :
    decodeFrom p (b :: bs) = out ++ decodeFrom q bs := by
  cases p <;> rw [decodeFrom,h]

theorem step_last {p : Pending} {b : UInt8} (htakes : p.Takes b) (howed : p.owed = 0) :
    step (some p) b = ([Char.ofNat (p.shifted b)],none) := by
  rw [step,if_pos htakes,howed]

theorem step_more {p : Pending} {b : UInt8} {owed : Nat} (htakes : p.Takes b)
    (howed : p.owed = owed + 1) :
    step (some p) b = ([],some ⟨owed,p.shifted b,0x80,0xBF⟩) := by
  rw [step,if_pos htakes,howed]

theorem decode_completes {p : Pending} {value : Nat} {bs : List UInt8} (h : Completes p value bs)
    (rest : List UInt8) :
    decodeFrom (some p) (bs ++ rest) = Char.ofNat value :: decodeFrom none rest := by
  induction h with
  | last htakes howed =>
    rw [List.cons_append,decode_step (step_last htakes howed)]
    rfl
  | more htakes howed _ ih =>
    rw [List.cons_append,decode_step (step_more htakes howed),ih]
    rfl

theorem decode_cut {p : Pending} {value : Nat} {bs : List UInt8} (h : Completes p value bs)
    {k : Nat} (hk : k < bs.length) : decodeFrom (some p) (bs.take k) = [replacement] := by
  induction h generalizing k with
  | last htakes howed =>
    obtain rfl : k = 0 := Nat.lt_one_iff.mp hk
    rfl
  | more htakes howed _ ih =>
    cases k with
    | zero => rfl
    | succ k =>
      rw [List.take_succ_cons,decode_step (step_more htakes howed),ih (Nat.lt_of_succ_lt_succ hk)]
      rfl

theorem completes_last {p : Pending} {b : UInt8} {value : Nat} (htakes : p.Takes b)
    (howed : p.owed = 0) (hvalue : p.shifted b = value) : Completes p value [b] :=
  hvalue ▸ .last htakes howed

theorem toNat_ofNat {n : Nat} (h : n < 256) : (UInt8.ofNat n).toNat = n :=
  UInt8.toNat_ofNat_of_lt' h

theorem takes_tail {owed value n : Nat} :
    (⟨owed,value,0x80,0xBF⟩ : Pending).Takes (UInt8.ofNat (n % 64 + 0x80)) := by
  unfold Pending.Takes
  rw [toNat_ofNat (by omega)]
  dsimp only
  omega

theorem shifted_tail {p : Pending} {n : Nat} :
    p.shifted (UInt8.ofNat (n % 64 + 0x80)) = 64 * p.value + n % 64 := by
  unfold Pending.shifted
  rw [toNat_ofNat (by omega)]
  omega

theorem first_three {v : Nat} (hlow : 0x7FF < v) (hhigh : v ≤ 0xFFFF)
    (hvalid : v < 0xD800 ∨ 0xDFFF < v) :
    ∃ p : Pending, first (UInt8.ofNat (v / 4096 % 16 + 0xE0)) = ([],some p) ∧ p.owed = 1 ∧
      p.value = v / 4096 ∧ p.Takes (UInt8.ofNat (v / 64 % 64 + 0x80)) := by
  unfold first Pending.Takes
  rw [toNat_ofNat (n := v / 4096 % 16 + 0xE0) (by omega),toNat_ofNat (by omega)]
  dsimp only
  by_cases hzero : v / 4096 = 0
  · rw [if_neg (by omega),if_neg (by omega),if_pos (by omega)]
    refine ⟨_,rfl,rfl,hzero.symm,?_⟩
    dsimp only
    omega
  by_cases hsurrogate : v / 4096 = 0xD
  · rw [if_neg (by omega),if_neg (by omega),if_neg (by omega),if_pos (by omega)]
    refine ⟨_,rfl,rfl,hsurrogate.symm,?_⟩
    dsimp only
    omega
  · rw [if_neg (by omega),if_neg (by omega),if_neg (by omega),if_neg (by omega),
      if_pos (by omega)]
    refine ⟨_,rfl,rfl,?_,?_⟩ <;> dsimp only <;> omega

theorem first_four {v : Nat} (hlow : 0xFFFF < v) (hhigh : v < 0x110000) :
    ∃ p : Pending, first (UInt8.ofNat (v / 262144 % 8 + 0xF0)) = ([],some p) ∧ p.owed = 2 ∧
      p.value = v / 262144 ∧ p.Takes (UInt8.ofNat (v / 4096 % 64 + 0x80)) := by
  unfold first Pending.Takes
  rw [toNat_ofNat (n := v / 262144 % 8 + 0xF0) (by omega),toNat_ofNat (by omega)]
  dsimp only
  by_cases hzero : v / 262144 = 0
  · rw [if_neg (by omega),if_neg (by omega),if_neg (by omega),if_neg (by omega),
      if_neg (by omega),if_pos (by omega)]
    refine ⟨_,rfl,rfl,hzero.symm,?_⟩
    dsimp only
    omega
  by_cases htop : v / 262144 = 4
  · rw [if_neg (by omega),if_neg (by omega),if_neg (by omega),if_neg (by omega),
      if_neg (by omega),if_neg (by omega),if_neg (by omega),if_pos (by omega)]
    refine ⟨_,rfl,rfl,htop.symm,?_⟩
    dsimp only
    omega
  · rw [if_neg (by omega),if_neg (by omega),if_neg (by omega),if_neg (by omega),
      if_neg (by omega),if_neg (by omega),if_pos (by omega)]
    refine ⟨_,rfl,rfl,?_,?_⟩ <;> dsimp only <;> omega

theorem first_two {v : Nat} (hlow : 0x7F < v) (hhigh : v ≤ 0x7FF) :
    first (UInt8.ofNat (v / 64 % 32 + 0xC0)) = ([],some ⟨0,v / 64,0x80,0xBF⟩) := by
  unfold first
  rw [toNat_ofNat (by omega)]
  dsimp only
  have hvalue : v / 64 % 32 + 0xC0 - 0xC0 = v / 64 := by omega
  rw [if_neg (by omega),if_pos (by omega),hvalue]

theorem first_one {v : Nat} (h : v ≤ 0x7F) : first (UInt8.ofNat v) = ([Char.ofNat v],none) := by
  unfold first
  rw [toNat_ofNat (by omega)]
  dsimp only
  rw [if_pos (by omega)]

theorem encodeChar_cases (c : Char) :
    (∃ b, String.utf8EncodeChar c = [b] ∧ first b = ([c],none)) ∨
    ∃ b bs p, String.utf8EncodeChar c = b :: bs ∧ first b = ([],some p) ∧
      Completes p c.toNat bs := by
  have hvalid : c.toNat < 0xD800 ∨ 0xDFFF < c.toNat ∧ c.toNat < 0x110000 := c.valid
  have hval : c.val.toNat = c.toNat := rfl
  simp only [String.utf8EncodeChar,hval]
  by_cases h1 : c.toNat ≤ 0x7F
  · rw [if_pos h1]
    refine .inl ⟨_,rfl,?_⟩
    rw [first_one h1,Char.ofNat_toNat]
  by_cases h2 : c.toNat ≤ 0x7FF
  · rw [if_neg h1,if_pos h2]
    refine .inr ⟨_,_,_,rfl,first_two (by omega) h2,?_⟩
    apply completes_last takes_tail rfl
    rw [shifted_tail]
    dsimp only
    omega
  by_cases h3 : c.toNat ≤ 0xFFFF
  · rw [if_neg h1,if_neg h2,if_pos h3]
    obtain ⟨p,hfirst,howed,hvalue,htakes⟩ := first_three (by omega) h3 (hvalid.imp_right And.left)
    refine .inr ⟨_,_,p,rfl,hfirst,.more htakes howed (completes_last takes_tail rfl ?_)⟩
    rw [shifted_tail]
    dsimp only
    rw [shifted_tail,hvalue]
    omega
  · rw [if_neg h1,if_neg h2,if_neg h3]
    obtain ⟨p,hfirst,howed,hvalue,htakes⟩ := first_four (v := c.toNat) (by omega) (by omega)
    refine .inr ⟨_,_,p,rfl,hfirst,.more htakes howed (.more takes_tail rfl
      (completes_last takes_tail rfl ?_))⟩
    rw [shifted_tail]
    dsimp only
    rw [shifted_tail]
    dsimp only
    rw [shifted_tail,hvalue]
    omega

theorem lossy_char (c : Char) (rest : List UInt8) :
    lossy (String.utf8EncodeChar c ++ rest) = c :: lossy rest := by
  unfold lossy
  rcases encodeChar_cases c with ⟨b,hbytes,hfirst⟩ | ⟨b,bs,p,hbytes,hfirst,hcompletes⟩
  · have hstep : step none b = ([c],none) := hfirst
    rw [hbytes,List.cons_append,decode_step hstep]
    rfl
  · have hstep : step none b = ([],some p) := hfirst
    rw [hbytes,List.cons_append,decode_step hstep,decode_completes hcompletes,Char.ofNat_toNat]
    rfl

theorem lossy_cut (c : Char) {bs : List UInt8} (h : bs <+: String.utf8EncodeChar c)
    (hne : bs ≠ []) (hproper : bs ≠ String.utf8EncodeChar c) : lossy bs = [replacement] := by
  rcases encodeChar_cases c with ⟨b,hbytes,hfirst⟩ | ⟨b,tail,p,hbytes,hfirst,hcompletes⟩
  · rw [hbytes] at h hproper
    cases bs with
    | nil => exact absurd rfl hne
    | cons d ds =>
      obtain ⟨rfl,hds⟩ := List.cons_prefix_cons.mp h
      rw [List.prefix_nil.mp hds] at hproper
      exact absurd rfl hproper
  · rw [hbytes] at h hproper
    cases bs with
    | nil => exact absurd rfl hne
    | cons d ds =>
      obtain ⟨rfl,hds⟩ := List.cons_prefix_cons.mp h
      have hlt : ds.length < tail.length := by
        refine Nat.lt_of_le_of_ne hds.length_le fun heq => hproper ?_
        rw [hds.eq_of_length heq]
      have hcut := decode_cut hcompletes hlt
      rw [← List.prefix_iff_eq_take.mp hds] at hcut
      have hstep : step none d = ([],some p) := hfirst
      rw [lossy,decode_step hstep,hcut]
      rfl

theorem encode_cons (c : Char) (text : List Char) :
    encode (c :: text) = String.utf8EncodeChar c ++ encode text := List.flatMap_cons

theorem lossy_encode (text : List Char) (rest : List UInt8) :
    lossy (encode text ++ rest) = text ++ lossy rest := by
  induction text with
  | nil => rfl
  | cons c text ih =>
    rw [encode_cons,List.append_assoc,lossy_char,ih,List.cons_append]

theorem prefix_cases {A : Type} {part left right : List A} (h : part <+: left ++ right) :
    part <+: left ∧ part ≠ left ∨ ∃ rest, part = left ++ rest ∧ rest <+: right := by
  rcases List.prefix_or_prefix_of_prefix h (List.prefix_append left right) with hpart | hleft
  · by_cases heq : part = left
    · exact .inr ⟨[],by simpa using heq,List.nil_prefix⟩
    · exact .inl ⟨hpart,heq⟩
  · obtain ⟨rest,rfl⟩ := hleft
    exact .inr ⟨rest,rfl,(List.prefix_append_right_inj left).mp h⟩

def Cut (text part : List Char) : Prop :=
  ∃ kept, kept <+: text ∧ kept ≠ text ∧ (part = kept ∨ part = kept ++ [replacement])

theorem cut_cons {text part : List Char} (c : Char) (h : Cut text part) :
    Cut (c :: text) (c :: part) := by
  obtain ⟨kept,hkept,hne,hpart⟩ := h
  refine ⟨c :: kept,List.cons_prefix_cons.mpr ⟨rfl,hkept⟩,?_,?_⟩
  · simpa using hne
  · rcases hpart with rfl | rfl
    · exact .inl rfl
    · exact .inr rfl

theorem lossy_prefix {text : List Char} {bs : List UInt8} (h : bs <+: encode text)
    (hproper : bs ≠ encode text) : Cut text (lossy bs) := by
  induction text generalizing bs with
  | nil => exact absurd (List.prefix_nil.mp h) hproper
  | cons c text ih =>
    rw [encode_cons] at h hproper
    rcases prefix_cases h with ⟨hchar,hne⟩ | ⟨rest,rfl,hrest⟩
    · refine ⟨[],List.nil_prefix,by simp,?_⟩
      cases bs with
      | nil => exact .inl rfl
      | cons b bs => exact .inr (lossy_cut c hchar (by simp) hne)
    · rw [lossy_char]
      exact cut_cons c (ih hrest fun heq => hproper (by rw [heq]))

end Utf8
