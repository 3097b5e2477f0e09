import Mathlib.Tactic.IntervalCases
import Uroam.Library.Lines

namespace Scanf
open Lines

structure Token where
  buf : List Char
  rest : List Char
  deriving DecidableEq, Repr

def Token.accept (t : Token) (set : List Char) : Bool × Token :=
  match t.rest with
  | c :: rest => if c ∈ set then (true,⟨t.buf ++ [c],rest⟩) else (false,t)
  | [] => (false,t)

def Token.acceptAll (t : Token) : List (List Char) → Bool × Token
  | [] => (true,t)
  | set :: sets => if (t.accept set).1 then (t.accept set).2.acceptAll sets else (false,t)

def Token.span (t : Token) (set : List Char) : Token :=
  ⟨t.buf ++ t.rest.takeWhile (· ∈ set),t.rest.dropWhile (· ∈ set)⟩

def signs : List Char := ['+','-']

def decimalDigits : List Char := "0123456789_".toList

def hexDigits : List Char := "0123456789aAbBcCdDeEfF_".toList

def floatToken (text : List Char) : Token :=
  let nan := Token.acceptAll ⟨[],text⟩ [['n','N'],['a','A'],['n','N']]
  if nan.1 then nan.2
  else
    let signed := (nan.2.accept signs).2
    let inf := signed.acceptAll [['i','I'],['n','N'],['f','F']]
    if inf.1 then inf.2
    else
      let hex := inf.2.acceptAll [['0'],['x','X']]
      let digits := if hex.1 then hexDigits else decimalDigits
      let whole := hex.2.span digits
      let point := whole.accept ['.']
      let fraction := if point.1 then point.2.span digits else point.2
      let power := fraction.accept (if hex.1 then ['p','P'] else ['e','E','p','P'])
      if power.1 then (power.2.accept signs).2.span decimalDigits else power.2

inductive Item where
  | literal (c : Char)
  | space
  | float
  | word
  deriving DecidableEq, Repr

def items : List Char → List Item
  | '%' :: 'f' :: format => .float :: items format
  | '%' :: 's' :: format => .word :: items format
  | ' ' :: format => .space :: items format
  | c :: format => .literal c :: items format
  | [] => []

def inlineBlank (c : Char) : Bool := whitespace c && c != '\n'

def skipSpace (text : List Char) : Option (List Char) :=
  match text.dropWhile inlineBlank with
  | '\n' :: _ => none
  | rest => some rest

section Scan

variable {F : Type} (parse : List Char → Option F)

def sscanf : List Item → List Char → List F
  | [], _ => []
  | .literal c :: format, text =>
    match text with
    | [] => []
    | d :: rest => if c = d then sscanf format rest else []
  | .space :: format, text =>
    match text with
    | [] => sscanf format []
    | d :: rest => if inlineBlank d then sscanf format (rest.dropWhile inlineBlank) else []
  | .float :: format, text =>
    match skipSpace text with
    | none => []
    | some text =>
      match parse (floatToken text).buf with
      | none => []
      | some v => v :: sscanf format (floatToken text).rest
  | .word :: format, text =>
    match skipSpace text with
    | none => []
    | some text => sscanf format (text.dropWhile fun c => !whitespace c)

theorem sscanf_literals (literals : List Char) (format : List Item) (text : List Char) :
    sscanf parse (literals.map .literal ++ format) (literals ++ text) = sscanf parse format text := by
  induction literals with
  | nil => rfl
  | cons c literals ih => simpa [sscanf] using ih

def Inline (gap : List Char) : Prop := gap ≠ [] ∧ ∀ c ∈ gap, inlineBlank c = true

theorem sscanf_space {gap text : List Char} (h : Inline gap)
    (htext : ∀ c, text.head? = some c → inlineBlank c = false) (format : List Item) :
    sscanf parse (.space :: format) (gap ++ text) = sscanf parse format text := by
  obtain ⟨d,gap,rfl⟩ := List.exists_cons_of_ne_nil h.1
  have hgap : Blanks inlineBlank gap := fun c hc => h.2 c (List.mem_cons_of_mem d hc)
  rw [List.cons_append]
  simp only [sscanf,h.2 d List.mem_cons_self,if_true]
  rw [dropWhile_lead hgap,dropWhile_kept htext]

theorem sscanf_float {text : List Char} {t : Token} {v : F} (htoken : floatToken text = t)
    (hparse : parse t.buf = some v) (htext : ∀ c, text.head? = some c → whitespace c = false)
    (format : List Item) :
    sscanf parse (.float :: format) text = v :: sscanf parse format t.rest := by
  have hkept : text.dropWhile inlineBlank = text :=
    dropWhile_kept fun c hc => by simp [inlineBlank,htext c hc]
  have hskip : skipSpace text = some text := by
    unfold skipSpace
    rw [hkept]
    split
    · exact absurd (htext '\n' rfl) (by decide)
    · rfl
  simp only [sscanf,hskip,htoken,hparse]

end Scan

section Decimals

theorem accept_refused {t : Token} {set : List Char} (h : ∀ c, t.rest.head? = some c → c ∉ set) :
    t.accept set = (false,t) := by
  unfold Token.accept
  split
  · rename_i c rest hr
    exact if_neg (h c (by rw [hr]; rfl))
  · rfl

theorem acceptAll_refused {t : Token} {set : List Char} {sets : List (List Char)}
    (h : ∀ c, t.rest.head? = some c → c ∉ set) : t.acceptAll (set :: sets) = (false,t) := by
  rw [Token.acceptAll,accept_refused h]
  exact if_neg Bool.false_ne_true

theorem span_digits {set before digits after : List Char} (h : ∀ c ∈ digits, c ∈ set)
    (hafter : ∀ c, after.head? = some c → c ∉ set) :
    (Token.mk before (digits ++ after)).span set = ⟨before ++ digits,after⟩ := by
  have hkeep : after.takeWhile (· ∈ set) = [] ∧ after.dropWhile (· ∈ set) = after := by
    cases after with
    | nil => exact ⟨rfl,rfl⟩
    | cons c after =>
      have hc : ¬ decide (c ∈ set) = true := by simpa using hafter c rfl
      exact ⟨List.takeWhile_cons_of_neg hc,List.dropWhile_cons_of_neg hc⟩
  have hall : ∀ c ∈ digits, decide (c ∈ set) = true := fun c hc => decide_eq_true (h c hc)
  simp only [Token.span,List.takeWhile_append_of_pos hall,List.dropWhile_append_of_pos hall,hkeep,
    List.append_nil]

theorem not_hex (after : List Char) {digits : List Char} (h : ∀ c ∈ digits, c.isDigit = true)
    (hafter : ∀ c, after.head? = some c → c ∉ ['0'] ∧ c ∉ ['x','X']) :
    ∃ before rest, before ++ rest = digits ∧
      (Token.mk [] (digits ++ after)).acceptAll [['0'],['x','X']] =
        (false,⟨before,rest ++ after⟩) := by
  have hx : ∀ c, c.isDigit = true → c ∉ ['x','X'] := by
    rintro c hc hmem
    simp only [List.mem_cons,List.not_mem_nil,or_false] at hmem
    rcases hmem with rfl | rfl <;> exact absurd hc (by decide)
  cases digits with
  | nil => exact ⟨[],[],rfl,acceptAll_refused fun c hc => (hafter c hc).1⟩
  | cons d digits =>
    by_cases hd : d = '0'
    · subst hd
      refine ⟨['0'],digits,rfl,?_⟩
      have hnext : ∀ c, (digits ++ after).head? = some c → c ∉ ['x','X'] := by
        intro c hc
        cases digits with
        | nil => exact (hafter c hc).2
        | cons e digits =>
          obtain rfl : e = c := Option.some.inj hc
          exact hx e (h e (by simp))
      show (Token.mk ['0'] (digits ++ after)).acceptAll [['x','X']] = _
      exact acceptAll_refused hnext
    · refine ⟨[],d :: digits,rfl,acceptAll_refused fun c hc => ?_⟩
      obtain rfl : d = c := Option.some.inj hc
      simpa using hd

theorem digit_mem {c : Char} (h : c.isDigit = true) : c ∈ decimalDigits := by
  obtain ⟨hlow,hhigh⟩ := digit_range h
  have hc : c = Char.ofNat c.toNat := (Char.ofNat_toNat c).symm
  rw [hc]
  generalize c.toNat = n at hlow hhigh
  interval_cases n <;> decide

theorem blank_not_mem {set : List Char} (h : set.all (fun c => !whitespace c) = true) {c : Char}
    (hc : whitespace c = true) : c ∉ set := by
  intro hmem
  have hclean := clean_of_all h c hmem
  rw [hc] at hclean
  cases hclean

theorem digit_not_mem {set : List Char} (h : set.all (fun c => !c.isDigit) = true) {c : Char}
    (hc : c.isDigit = true) : c ∉ set := by
  intro hmem
  have hno := List.all_eq_true.mp h c hmem
  rw [hc] at hno
  cases hno

theorem floatToken_decimal {whole fraction rest : List Char} (hne : whole ≠ [])
    (hwhole : ∀ c ∈ whole, c.isDigit = true) (hfraction : ∀ c ∈ fraction, c.isDigit = true)
    (hrest : ∀ c, rest.head? = some c → whitespace c = true) :
    floatToken (whole ++ '.' :: (fraction ++ rest)) = ⟨whole ++ '.' :: fraction,rest⟩ := by
  obtain ⟨before,back,hsplit,hhex⟩ := not_hex ('.' :: (fraction ++ rest)) hwhole
    (fun c hc => by cases hc; decide)
  have hstart : ∀ set : List Char, set.all (fun c => !c.isDigit) = true → ∀ c,
      (whole ++ '.' :: (fraction ++ rest)).head? = some c → c ∉ set := by
    intro set hset c hc
    obtain ⟨d,digits,rfl⟩ := List.exists_cons_of_ne_nil hne
    obtain rfl : d = c := Option.some.inj hc
    exact digit_not_mem hset (hwhole d List.mem_cons_self)
  have hnan : (Token.mk [] (whole ++ '.' :: (fraction ++ rest))).acceptAll
      [['n','N'],['a','A'],['n','N']] = (false,⟨[],whole ++ '.' :: (fraction ++ rest)⟩) :=
    acceptAll_refused (hstart _ rfl)
  have hsign : (Token.mk [] (whole ++ '.' :: (fraction ++ rest))).accept signs =
      (false,⟨[],whole ++ '.' :: (fraction ++ rest)⟩) := accept_refused (hstart _ rfl)
  have hinf : (Token.mk [] (whole ++ '.' :: (fraction ++ rest))).acceptAll
      [['i','I'],['n','N'],['f','F']] = (false,⟨[],whole ++ '.' :: (fraction ++ rest)⟩) :=
    acceptAll_refused (hstart _ rfl)
  have hback : ∀ c ∈ back, c ∈ decimalDigits := fun c hc =>
    digit_mem (hwhole c (hsplit ▸ List.mem_append_right before hc))
  have hspan : (Token.mk before (back ++ '.' :: (fraction ++ rest))).span decimalDigits =
      ⟨whole,'.' :: (fraction ++ rest)⟩ := by
    rw [span_digits hback (fun c hc => by cases hc; decide),hsplit]
  have hpoint : (Token.mk whole ('.' :: (fraction ++ rest))).accept ['.'] =
      (true,⟨whole ++ ['.'],fraction ++ rest⟩) := rfl
  have hfractions : (Token.mk (whole ++ ['.']) (fraction ++ rest)).span decimalDigits =
      ⟨whole ++ '.' :: fraction,rest⟩ := by
    rw [span_digits (fun c hc => digit_mem (hfraction c hc))
      (fun c hc => blank_not_mem rfl (hrest c hc)),List.append_assoc]
    rfl
  have hpower : (Token.mk (whole ++ '.' :: fraction) rest).accept ['e','E','p','P'] =
      (false,⟨whole ++ '.' :: fraction,rest⟩) :=
    accept_refused fun c hc => blank_not_mem rfl (hrest c hc)
  simp only [floatToken,hnan,hsign,hinf,hhex,Bool.false_eq_true,if_false,hspan,hpoint,if_true,
    hfractions,hpower]

end Decimals

end Scanf
