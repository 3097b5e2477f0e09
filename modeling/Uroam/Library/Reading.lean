import Uroam.Library.Utf8

namespace Reading

open Utf8 (Cut replacement)

abbrev Reader (V : Type) := List Char → Option (V × List Char)

variable {V W : Type}

structure Reads (r : Reader V) (text : List Char) (value : V) : Prop where
  whole : ∀ rest, r (text ++ rest) = some (value,rest)
  cut : ∀ part, Cut text part → r part = none

def literal (expected : List Char) : Reader Unit := fun input =>
  if expected <+: input then some ((),input.drop expected.length) else none

def andThen (r : Reader V) (next : V → Reader W) : Reader W := fun input =>
  (r input).bind fun out => next out.1 out.2

def give (value : Option V) : Reader V := fun input => value.map fun v => (v,input)

def onHead (c : Char) (r s : Reader V) : Reader V := fun input =>
  if input.head? = some c then r input else s input

theorem cut_append {left right part : List Char} (h : Cut (left ++ right) part) :
    Cut left part ∨ ∃ rest, part = left ++ rest ∧ Cut right rest := by
  obtain ⟨kept,hkept,hne,hpart⟩ := h
  rcases Utf8.prefix_cases hkept with ⟨hleft,hproper⟩ | ⟨rest,rfl,hrest⟩
  · exact .inl ⟨kept,hleft,hproper,hpart⟩
  · have hproper : rest ≠ right := fun heq => hne (by rw [heq])
    rcases hpart with rfl | rfl
    · exact .inr ⟨rest,rfl,rest,hrest,hproper,.inl rfl⟩
    · exact .inr ⟨rest ++ [replacement],List.append_assoc ..,rest,hrest,hproper,.inr rfl⟩

theorem reads_literal {expected : List Char} (h : replacement ∉ expected) :
    Reads (literal expected) expected () := by
  constructor
  · intro rest
    simp [literal]
  · rintro part ⟨kept,hkept,hne,hpart⟩
    apply if_neg
    intro hexpected
    rcases hpart with rfl | rfl
    · exact hne (hkept.eq_of_length (Nat.le_antisymm hkept.length_le hexpected.length_le))
    · rcases Utf8.prefix_cases hexpected with ⟨hpre,-⟩ | ⟨rest,rfl,hrest⟩
      · exact hne (hkept.eq_of_length (Nat.le_antisymm hkept.length_le hpre.length_le))
      · cases rest with
        | nil => simp at hne
        | cons c rest =>
          obtain ⟨rfl,-⟩ := List.cons_prefix_cons.mp hrest
          simp at h

theorem reads_andThen {r : Reader V} {next : V → Reader W} {left right : List Char} {v : V} {w : W}
    (hr : Reads r left v) (hnext : Reads (next v) right w) :
    Reads (andThen r next) (left ++ right) w := by
  constructor
  · intro rest
    simp [andThen,List.append_assoc,hr.whole,hnext.whole]
  · intro part hcut
    rcases cut_append hcut with hleft | ⟨rest,rfl,hright⟩
    · simp [andThen,hr.cut part hleft]
    · simp [andThen,hr.whole,hnext.cut rest hright]

theorem reads_give (v : V) : Reads (give (some v)) [] v := by
  constructor
  · intro rest
    rfl
  · rintro part ⟨kept,hkept,hne,-⟩
    exact absurd (List.prefix_nil.mp hkept) hne

theorem cut_head {c : Char} {text part : List Char} (h : Cut (c :: text) part) :
    part.head? = some c ∨ part = [] ∨ part = [replacement] := by
  obtain ⟨kept,hkept,-,hpart⟩ := h
  cases kept with
  | nil => exact .inr hpart
  | cons d kept =>
    obtain ⟨rfl,-⟩ := List.cons_prefix_cons.mp hkept
    rcases hpart with rfl | rfl
    · exact .inl rfl
    · exact .inl rfl

theorem reads_onHead {c : Char} {r s : Reader V} {text : List Char} {v : V}
    (hr : Reads r (c :: text) v) (hempty : s [] = none) (hreplaced : s [replacement] = none) :
    Reads (onHead c r s) (c :: text) v := by
  constructor
  · intro rest
    exact (if_pos rfl).trans (hr.whole rest)
  · intro part hcut
    unfold onHead
    split_ifs with hhead
    · exact hr.cut part hcut
    · rcases (cut_head hcut).resolve_left hhead with rfl | rfl
      · exact hempty
      · exact hreplaced

theorem reads_onHead_other {c d : Char} {r s : Reader V} {text : List Char} {v : V}
    (hs : Reads s (d :: text) v) (hd : d ≠ c) (hc : replacement ≠ c) :
    Reads (onHead c r s) (d :: text) v := by
  constructor
  · intro rest
    exact (if_neg (by simpa using hd)).trans (hs.whole rest)
  · intro part hcut
    refine (if_neg ?_).trans (hs.cut part hcut)
    rcases cut_head hcut with hhead | rfl | rfl
    · rw [hhead]
      simpa using hd
    · simp
    · simpa using hc

end Reading
