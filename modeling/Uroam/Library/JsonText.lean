import Mathlib.Data.List.TakeWhile
import Uroam.Library.Lines
import Uroam.Library.Reading

namespace JsonText

open Utf8 (Cut replacement)
open Reading

def hexDigit (n : Nat) : Char :=
  if n < 10 then Char.ofNat ('0'.toNat + n) else Char.ofNat ('a'.toNat + (n - 10))

def hexValue (c : Char) : Option Nat :=
  if '0' ≤ c ∧ c ≤ '9' then some (c.toNat - '0'.toNat)
  else if 'a' ≤ c ∧ c ≤ 'f' then some (c.toNat - 'a'.toNat + 10)
  else if 'A' ≤ c ∧ c ≤ 'F' then some (c.toNat - 'A'.toNat + 10)
  else none

def escapeControl (n : Nat) : List Char :=
  ['\\','u','0','0',hexDigit (n / 16),hexDigit (n % 16)]

def escapeChar (c : Char) : List Char :=
  if c = '"' then ['\\','"']
  else if c = '\\' then ['\\','\\']
  else if c.toNat = 0x08 then ['\\','b']
  else if c.toNat = 0x0C then ['\\','f']
  else if c = '\n' then ['\\','n']
  else if c = '\r' then ['\\','r']
  else if c = '\t' then ['\\','t']
  else if c.toNat < 0x20 then escapeControl c.toNat
  else [c]

def escape (text : List Char) : List Char := text.flatMap escapeChar

def unescape (c : Char) : Option Char :=
  if c = '"' ∨ c = '\\' ∨ c = '/' then some c
  else if c = 'b' then some (Char.ofNat 0x08)
  else if c = 'f' then some (Char.ofNat 0x0C)
  else if c = 'n' then some '\n'
  else if c = 'r' then some '\r'
  else if c = 't' then some '\t'
  else none

def hexChar (a b c d : Char) : Option Char := do
  let n := 4096 * (← hexValue a) + 256 * (← hexValue b) + 16 * (← hexValue c) + (← hexValue d)
  if n.isValidChar then some (Char.ofNat n) else none

def stringBody : Reader (List Char)
  | [] => none
  | '"' :: rest => some ([],rest)
  | '\\' :: 'u' :: a :: b :: c :: d :: rest =>
    (hexChar a b c d).bind fun ch => (stringBody rest).map fun out => (ch :: out.1,out.2)
  | '\\' :: e :: rest =>
    (unescape e).bind fun ch => (stringBody rest).map fun out => (ch :: out.1,out.2)
  | c :: rest =>
    if c.toNat < 0x20 ∨ c = '\\' then none
    else (stringBody rest).map fun out => (c :: out.1,out.2)

def quoted (text : List Char) : List Char := ['"'] ++ (escape text ++ ['"'])

def string : Reader (List Char) := andThen (literal ['"']) fun _ => stringBody

theorem hexValue_hexDigit : ∀ n < 16, hexValue (hexDigit n) = some n := by decide

theorem body_escaped {e ch : Char} (h : unescape e = some ch) (rest : List Char) :
    stringBody ('\\' :: e :: rest) =
      (stringBody rest).map fun out => (ch :: out.1,out.2) := by
  have hu : e ≠ 'u' := by
    rintro rfl
    cases h
  rw [stringBody]
  · simp [h]
  · exact fun _ _ _ _ _ he => absurd he hu

theorem body_unicode (a b c d : Char) (rest : List Char) :
    stringBody ('\\' :: 'u' :: a :: b :: c :: d :: rest) =
      (hexChar a b c d).bind fun ch => (stringBody rest).map fun out => (ch :: out.1,out.2) := by
  rw [stringBody]

theorem body_plain {c : Char} (hquote : c ≠ '"') (hslash : c ≠ '\\') (hplain : ¬ c.toNat < 0x20)
    (rest : List Char) :
    stringBody (c :: rest) = (stringBody rest).map fun out => (c :: out.1,out.2) := by
  rw [stringBody]
  · simp [hplain,hslash]
  · exact hquote
  · exact fun _ _ _ _ _ h => absurd h hslash
  · exact fun _ _ h => absurd h hslash

theorem char_ofNat {c : Char} {n : Nat} (h : c.toNat = n) : Char.ofNat n = c := by
  rw [← h,Char.ofNat_toNat]

theorem hexChar_control {c : Char} (h : c.toNat < 0x20) :
    hexChar '0' '0' (hexDigit (c.toNat / 16)) (hexDigit (c.toNat % 16)) = some c := by
  have hzero : hexValue '0' = some 0 := rfl
  have hvalue : 16 * (c.toNat / 16) + c.toNat % 16 = c.toNat := by omega
  have hvalid : c.toNat.isValidChar := c.valid
  simp [hexChar,hzero,hexValue_hexDigit (c.toNat / 16) (by omega),
    hexValue_hexDigit (c.toNat % 16) (by omega),hvalue,hvalid]

structure Escapes (c : Char) (text : List Char) : Prop where
  whole : ∀ rest, stringBody (text ++ rest) = (stringBody rest).map fun out => (c :: out.1,out.2)
  cut : ∀ part, Cut text part → stringBody part = none

theorem cut_singleton {c : Char} {part : List Char} (h : Cut [c] part) :
    part = [] ∨ part = [replacement] := by
  obtain ⟨kept,hkept,hne,hpart⟩ := h
  cases kept with
  | nil => exact hpart
  | cons d rest =>
    obtain ⟨rfl,hrest⟩ := List.cons_prefix_cons.mp hkept
    rw [List.prefix_nil.mp hrest] at hne
    exact absurd rfl hne

theorem body_cut : ∀ part, part = [] ∨ part = [replacement] → stringBody part = none := by
  rintro part (rfl | rfl)
  · rfl
  · rfl

theorem escapes_short {c e : Char} (h : unescape e = some c) : Escapes c ['\\',e] := by
  refine ⟨fun rest => body_escaped h rest,?_⟩
  intro part hcut
  have hparts : Cut (['\\'] ++ [e]) part := hcut
  rcases cut_append hparts with hslash | ⟨rest,rfl,hrest⟩
  · exact body_cut part (cut_singleton hslash)
  · rcases cut_singleton hrest with rfl | rfl
    · rfl
    · rfl

theorem body_control_cut : ∀ n < 0x20, ∀ k < 6,
    stringBody ((escapeControl n).take k) = none ∧
      stringBody ((escapeControl n).take k ++ [replacement]) = none := by
  decide +kernel

theorem escapes_control {c : Char} (h : c.toNat < 0x20) : Escapes c (escapeControl c.toNat) := by
  constructor
  · intro rest
    refine (body_unicode ..).trans ?_
    rw [hexChar_control h]
    rfl
  · rintro part ⟨kept,hkept,hne,hpart⟩
    have hlt : kept.length < 6 :=
      Nat.lt_of_le_of_ne hkept.length_le fun heq => hne (hkept.eq_of_length heq)
    obtain ⟨hcut,hreplaced⟩ := body_control_cut c.toNat h kept.length hlt
    rw [← List.prefix_iff_eq_take.mp hkept] at hcut hreplaced
    rcases hpart with rfl | rfl
    · exact hcut
    · exact hreplaced

theorem escapes_char (c : Char) : Escapes c (escapeChar c) := by
  unfold escapeChar
  split_ifs with h1 h2 h3 h4 h5 h6 h7 h8
  · subst h1
    exact escapes_short rfl
  · subst h2
    exact escapes_short rfl
  · exact escapes_short (by rw [← char_ofNat h3]; rfl)
  · exact escapes_short (by rw [← char_ofNat h4]; rfl)
  · subst h5
    exact escapes_short rfl
  · subst h6
    exact escapes_short rfl
  · subst h7
    exact escapes_short rfl
  · exact escapes_control h8
  · exact ⟨body_plain h1 h2 h8,fun part hcut => body_cut part (cut_singleton hcut)⟩

theorem reads_body (text : List Char) : Reads stringBody (escape text ++ ['"']) text := by
  induction text with
  | nil => exact ⟨fun rest => rfl,fun part hcut => body_cut part (cut_singleton hcut)⟩
  | cons c text ih =>
    have hc := escapes_char c
    rw [escape,List.flatMap_cons,← escape,List.append_assoc]
    constructor
    · intro rest
      rw [List.append_assoc,hc.whole,ih.whole]
      rfl
    · intro part hcut
      rcases cut_append hcut with hleft | ⟨rest,rfl,hrest⟩
      · exact hc.cut part hleft
      · rw [hc.whole,ih.cut rest hrest]
        rfl

theorem reads_string (text : List Char) : Reads string (quoted text) text :=
  reads_andThen (reads_literal (by decide)) (reads_body text)

def numeral (width : Nat) (stop : Char) : Reader Nat := fun input =>
  match input.dropWhile Char.isDigit with
  | [] => none
  | c :: rest =>
    if c = stop then
      (Lines.parseUnsigned width (input.takeWhile Char.isDigit)).map fun n => (n,rest)
    else none

theorem digits_then {digits : List Char} (h : ∀ c ∈ digits, c.isDigit = true) {stop : Char}
    (hstop : stop.isDigit = false) (rest : List Char) :
    (digits ++ stop :: rest).takeWhile Char.isDigit = digits ∧
      (digits ++ stop :: rest).dropWhile Char.isDigit = stop :: rest := by
  rw [List.takeWhile_append_of_pos h,List.dropWhile_append_of_pos h]
  simp [hstop]

theorem numeral_cut {digits : List Char} (h : ∀ c ∈ digits, c.isDigit = true) {stop : Char}
    (hstop : replacement ≠ stop) (width : Nat) {part : List Char}
    (hpart : part = digits ∨ part = digits ++ [replacement]) : numeral width stop part = none := by
  unfold numeral
  rcases hpart with rfl | rfl
  · rw [List.dropWhile_eq_nil_iff.mpr h]
  · rw [(digits_then h (by decide) []).2]
    exact if_neg hstop

theorem reads_numeral {width n : Nat} (h : n < 2 ^ width) {stop : Char}
    (hdigit : stop.isDigit = false) (hstop : replacement ≠ stop) :
    Reads (numeral width stop) (Nat.toDigits 10 n ++ [stop]) n := by
  have hdigits : ∀ c ∈ Nat.toDigits 10 n, c.isDigit = true := Lines.toDigits_digit
  constructor
  · intro rest
    rw [List.append_assoc,List.singleton_append,numeral,(digits_then hdigits hdigit rest).2,
      (digits_then hdigits hdigit rest).1,Lines.parseUnsigned_digits h]
    exact if_pos rfl
  · intro part hcut
    rcases cut_append hcut with ⟨kept,hkept,-,hpart⟩ | ⟨rest,rfl,hrest⟩
    · exact numeral_cut (fun c hc => hdigits c (hkept.subset hc)) hstop width hpart
    · refine numeral_cut hdigits hstop width ?_
      rcases cut_singleton hrest with rfl | rfl
      · exact .inl (List.append_nil _)
      · exact .inr rfl

end JsonText
