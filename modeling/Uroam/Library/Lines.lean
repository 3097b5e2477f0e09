import Mathlib.Algebra.GroupWithZero.Nat
import Mathlib.Data.List.Basic
import Mathlib.Data.List.Infix

namespace Lines

section Words

variable {A : Type} (blank : A → Bool)

def words (text : List A) : List (List A) := (text.splitOnP blank).filter fun w => !w.isEmpty

def trim (text : List A) : List A := ((text.dropWhile blank).reverse.dropWhile blank).reverse

structure Word (w : List A) : Prop where
  some : w ≠ []
  clean : ∀ c ∈ w, blank c = false

def Blanks (gap : List A) : Prop := ∀ c ∈ gap, blank c = true

structure Gap (gap : List A) : Prop where
  some : gap ≠ []
  blanks : Blanks blank gap

def spaced (fields : List (List A × List A)) : List A := fields.flatMap fun f => f.1 ++ f.2

variable {blank}

theorem clean_of_all {w : List A} (h : w.all (fun c => !blank c) = true) :
    ∀ c ∈ w, blank c = false := by
  intro c hc
  have hkept := List.all_eq_true.mp h c hc
  rwa [Bool.not_eq_true'] at hkept

theorem blanks_nil : Blanks blank ([] : List A) := by simp [Blanks]

theorem blanks_one {c : A} (h : blank c = true) : Blanks blank [c] := by simp [Blanks,h]

theorem gap_one {c : A} (h : blank c = true) : Gap blank [c] :=
  ⟨List.cons_ne_nil c [],blanks_one h⟩

theorem words_nil : words blank ([] : List A) = [] := rfl

theorem words_split {c : A} (h : blank c = true) (before after : List A) :
    words blank (before ++ c :: after) = words blank before ++ words blank after := by
  rw [words,List.splitOnP_append_cons before after h,List.filter_append]
  rfl

theorem words_blank {c : A} (h : blank c = true) (text : List A) :
    words blank (c :: text) = words blank text :=
  words_split h [] text

theorem words_lead {gap : List A} (h : Blanks blank gap) (text : List A) :
    words blank (gap ++ text) = words blank text := by
  induction gap with
  | nil => rfl
  | cons c gap ih =>
    rw [List.cons_append,words_blank (h c List.mem_cons_self),ih]
    exact fun d hd => h d (List.mem_cons_of_mem c hd)

theorem words_blanks {gap : List A} (h : Blanks blank gap) : words blank gap = [] := by
  rw [← List.append_nil gap,words_lead h,words_nil]

theorem words_trail {gap : List A} (h : Blanks blank gap) (text : List A) :
    words blank (text ++ gap) = words blank text := by
  cases gap with
  | nil => rw [List.append_nil]
  | cons c gap =>
    have hrest : Blanks blank gap := fun d hd => h d (List.mem_cons_of_mem c hd)
    rw [words_split (h c List.mem_cons_self),words_blanks hrest,List.append_nil]

theorem takeWhile_blanks (text : List A) : Blanks blank (text.takeWhile blank) := by
  intro c hc
  exact List.all_eq_true.mp List.all_takeWhile c hc

theorem trim_split (blank : A → Bool) (text : List A) :
    ∃ lead trail, Blanks blank lead ∧ Blanks blank trail ∧
      text = lead ++ trim blank text ++ trail := by
  have hblank : Blanks blank ((text.dropWhile blank).reverse.takeWhile blank).reverse :=
    fun c hc => takeWhile_blanks _ c (List.mem_reverse.mp hc)
  refine ⟨text.takeWhile blank,_,takeWhile_blanks text,hblank,?_⟩
  rw [trim,List.append_assoc,← List.reverse_append,List.takeWhile_append_dropWhile,
    List.reverse_reverse,List.takeWhile_append_dropWhile]

theorem words_trim (text : List A) : words blank (trim blank text) = words blank text := by
  obtain ⟨lead,trail,hlead,htrail,hsplit⟩ := trim_split blank text
  conv_rhs => rw [hsplit]
  rw [words_trail htrail,words_lead hlead]

theorem words_word {w : List A} (hw : Word blank w) {rest : List A}
    (hrest : ∀ c, rest.head? = some c → blank c = true) :
    words blank (w ++ rest) = w :: words blank rest := by
  have hkept : w.isEmpty = false := by simp [hw.some]
  cases rest with
  | nil => simp [words,List.splitOnP_eq_singleton hw.clean,hkept]
  | cons c rest =>
    have hc := hrest c rfl
    rw [words_blank hc]
    simp [words,List.splitOnP_append_cons_of_forall_mem hw.clean c hc,hkept]

theorem spaced_head {fields : List (List A × List A)} (h : ∀ f ∈ fields, Gap blank f.1)
    {trail : List A} (htrail : Blanks blank trail) (c : A)
    (hc : (spaced fields ++ trail).head? = some c) : blank c = true := by
  cases fields with
  | nil => exact htrail c (List.mem_of_mem_head? hc)
  | cons f fields =>
    have hgap := h f List.mem_cons_self
    apply hgap.blanks c
    obtain ⟨d,gap,hd⟩ := List.exists_cons_of_ne_nil hgap.some
    rw [spaced,List.flatMap_cons,hd] at hc
    rw [hd]
    obtain rfl : d = c := Option.some.inj hc
    exact List.mem_cons_self

theorem words_spaced {fields : List (List A × List A)}
    (h : ∀ f ∈ fields, Gap blank f.1 ∧ Word blank f.2) {trail : List A}
    (htrail : Blanks blank trail) :
    words blank (spaced fields ++ trail) = fields.map Prod.snd := by
  induction fields with
  | nil => exact words_blanks htrail
  | cons f fields ih =>
    have hrest : ∀ g ∈ fields, Gap blank g.1 ∧ Word blank g.2 := fun g hg =>
      h g (List.mem_cons_of_mem f hg)
    obtain ⟨hgap,hword⟩ := h f List.mem_cons_self
    have hnext := spaced_head (fun g hg => (hrest g hg).1) htrail
    calc words blank (spaced (f :: fields) ++ trail)
        = words blank (f.1 ++ (f.2 ++ (spaced fields ++ trail))) := by
          rw [spaced,List.flatMap_cons,List.append_assoc,List.append_assoc]
          rfl
      _ = words blank (f.2 ++ (spaced fields ++ trail)) := words_lead hgap.blanks _
      _ = f.2 :: words blank (spaced fields ++ trail) := words_word hword hnext
      _ = (f :: fields).map Prod.snd := by rw [ih hrest,List.map_cons]

theorem dropWhile_lead {gap : List A} (h : Blanks blank gap) (text : List A) :
    (gap ++ text).dropWhile blank = text.dropWhile blank := by
  induction gap with
  | nil => rfl
  | cons c gap ih =>
    rw [List.cons_append,List.dropWhile_cons_of_pos (h c List.mem_cons_self)]
    exact ih fun d hd => h d (List.mem_cons_of_mem c hd)

theorem dropWhile_kept {text : List A} (h : ∀ c, text.head? = some c → blank c = false) :
    text.dropWhile blank = text := by
  cases text with
  | nil => rfl
  | cons c text => exact List.dropWhile_cons_of_neg (by simp [h c rfl])

theorem trim_padded {lead body trail : List A} (hlead : Blanks blank lead)
    (htrail : Blanks blank trail) (hfirst : ∀ c, body.head? = some c → blank c = false)
    (hlast : ∀ c, body.getLast? = some c → blank c = false) (hbody : body ≠ []) :
    trim blank (lead ++ body ++ trail) = body := by
  have hhead : ∀ c, (body ++ trail).head? = some c → blank c = false := by
    intro c hc
    obtain ⟨d,rest,rfl⟩ := List.exists_cons_of_ne_nil hbody
    exact hfirst c hc
  have htrail' : Blanks blank trail.reverse := fun c hc => htrail c (List.mem_reverse.mp hc)
  have hlast' : ∀ c, body.reverse.head? = some c → blank c = false := by
    intro c hc
    exact hlast c (by rwa [List.head?_reverse] at hc)
  unfold trim
  rw [List.append_assoc,dropWhile_lead hlead,dropWhile_kept hhead,List.reverse_append,
    dropWhile_lead htrail',dropWhile_kept hlast',List.reverse_reverse]

theorem spaced_last {fields : List (List A × List A)} (hne : fields ≠ [])
    (h : ∀ f ∈ fields, Word blank f.2) (start : List A) (c : A)
    (hc : (start ++ spaced fields).getLast? = some c) : blank c = false := by
  rcases List.eq_nil_or_concat fields with hnil | ⟨before,f,rfl⟩
  · exact absurd hnil hne
  · have hword := h f (by simp)
    have hsplit : start ++ spaced (before.concat f) = (start ++ spaced before ++ f.1) ++ f.2 := by
      simp [spaced]
    rw [hsplit,List.getLast?_append_of_ne_nil _ hword.some] at hc
    exact hword.clean c (List.mem_of_getLast? hc)

theorem trim_concat {c : A} (h : blank c = true) (text : List A) :
    trim blank (text ++ [c]) = trim blank text := by
  unfold trim
  rw [List.dropWhile_append]
  cases hdrop : text.dropWhile blank with
  | nil => simp [h]
  | cons d rest => simp [h]

end Words

section Splitting

variable {A : Type} [DecidableEq A]

def pieces (stop : A) : List A → List (List A)
  | [] => []
  | c :: text =>
    if c = stop then [c] :: pieces stop text
    else
      match pieces stop text with
      | [] => [[c]]
      | piece :: rest => (c :: piece) :: rest

def stripSuffix (c : A) (text : List A) : Option (List A) :=
  if text.getLast? = some c then some text.dropLast else none

def chomp (newline ret : A) (piece : List A) : List A :=
  match stripSuffix newline piece with
  | none => piece
  | some line => (stripSuffix ret line).getD line

def lines (newline ret : A) (text : List A) : List (List A) :=
  (pieces newline text).map (chomp newline ret)

theorem stripSuffix_concat (text : List A) (c : A) : stripSuffix c (text ++ [c]) = some text := by
  simp [stripSuffix]

theorem trim_stripSuffix {blank : A → Bool} {c : A} (h : blank c = true) (text : List A) :
    trim blank ((stripSuffix c text).getD text) = trim blank text := by
  unfold stripSuffix
  split
  · next hlast =>
    obtain ⟨before,rfl⟩ := List.getLast?_eq_some_iff.mp hlast
    simp [trim_concat h]
  · rfl

theorem pieces_line {stop : A} {line : List A} (h : stop ∉ line) (rest : List A) :
    pieces stop (line ++ stop :: rest) = (line ++ [stop]) :: pieces stop rest := by
  induction line with
  | nil => simp [pieces]
  | cons c line ih =>
    have hc : stop ≠ c := List.ne_of_not_mem_cons h
    have hline : stop ∉ line := List.not_mem_of_not_mem_cons h
    rw [List.cons_append,pieces,if_neg fun he => hc he.symm,ih hline]
    rfl

theorem pieces_open {stop : A} {line : List A} (h : stop ∉ line) (hne : line ≠ []) :
    pieces stop line = [line] := by
  induction line with
  | nil => exact absurd rfl hne
  | cons c line ih =>
    have hc : stop ≠ c := List.ne_of_not_mem_cons h
    have hline : stop ∉ line := List.not_mem_of_not_mem_cons h
    rw [pieces,if_neg fun he => hc he.symm]
    by_cases hnil : line = []
    · rw [hnil]
      rfl
    · rw [ih hline hnil]

variable {newline ret : A}

theorem lines_cons {line : List A} (h : newline ∉ line) (rest : List A) :
    lines newline ret (line ++ newline :: rest) =
      (stripSuffix ret line).getD line :: lines newline ret rest := by
  rw [lines,pieces_line h,List.map_cons,chomp,stripSuffix_concat]
  rfl

theorem lines_open {line : List A} (h : newline ∉ line) (hne : line ≠ []) :
    lines newline ret line = [line] := by
  have hopen : stripSuffix newline line = none := by
    refine if_neg fun hlast => h ?_
    exact List.mem_of_getLast? hlast
  rw [lines,pieces_open h hne,List.map_cons,chomp,hopen]
  rfl

end Splitting

section Slices

variable {A : Type} (size : A → Nat)

-- `&text[n..]`, an offset in bytes; `none` is the panic off a boundary or past the end.
def sliceFrom : Nat → List A → Option (List A)
  | 0, text => some text
  | _ + 1, [] => none
  | n + 1, c :: text => if size c ≤ n + 1 then sliceFrom (n + 1 - size c) text else none

variable {size}

theorem sliceFrom_start (hsize : ∀ c, 0 < size c) (start text : List A) :
    sliceFrom size (start.map size).sum (start ++ text) = some text := by
  induction start with
  | nil => cases text <;> rfl
  | cons c start ih =>
    obtain ⟨n,hn⟩ := Nat.exists_eq_succ_of_ne_zero (Nat.ne_of_gt (hsize c))
    rw [List.map_cons,List.sum_cons,hn,Nat.succ_add,List.cons_append,sliceFrom,
      if_pos (by omega),hn]
    rw [show n + (start.map size).sum + 1 - n.succ = (start.map size).sum by omega]
    exact ih

end Slices

section Starts

variable {A : Type} [DecidableEq A]

def dropStarts (start : List A) : Nat → List A → List A
  | 0, text => text
  | n + 1, text => if start <+: text then dropStarts start n (text.drop start.length) else text

def trimStartMatches (start text : List A) : List A := dropStarts start text.length text

theorem trimStartMatches_once {start text : List A} (hne : start ≠ []) (h : ¬ start <+: text) :
    trimStartMatches start (start ++ text) = text := by
  have hpos : 0 < start.length := List.length_pos_of_ne_nil hne
  obtain ⟨n,hn⟩ := Nat.exists_eq_succ_of_ne_zero (Nat.ne_of_gt hpos)
  rw [trimStartMatches,List.length_append,hn,Nat.succ_add,dropStarts,
    if_pos (List.prefix_append ..),List.drop_left]
  cases n + text.length with
  | zero => rfl
  | succ m => rw [dropStarts,if_neg h]

end Starts

section Unicode

def whitespace (c : Char) : Bool :=
  let n := c.toNat
  (9 ≤ n && n ≤ 13) || n == 0x20 || n == 0x85 || n == 0xA0 || n == 0x1680 ||
    (0x2000 ≤ n && n ≤ 0x200A) || n == 0x2028 || n == 0x2029 || n == 0x202F || n == 0x205F ||
    n == 0x3000

def splitWhitespace (text : List Char) : List (List Char) := words whitespace text

def trimmed (text : List Char) : List Char := trim whitespace text

def textLines (text : List Char) : List (List Char) := lines '\n' '\r' text

def keyedLines (text : List Char) : List (List Char × List Char) :=
  (textLines text).filterMap fun line =>
    match splitWhitespace line with
    | key :: value :: _ => some (key,value)
    | _ => none

def eachLine {S : Type} (step : S → List Char × List Char → S) (s : S) (text : List Char) : S :=
  (textLines text).foldl (fun s line =>
    match splitWhitespace line with
    | key :: value :: _ => step s (key,value)
    | _ => s) s

theorem eachLine_keyed {S : Type} (step : S → List Char × List Char → S) (s : S)
    (text : List Char) : eachLine step s text = (keyedLines text).foldl step s := by
  unfold eachLine keyedLines
  generalize textLines text = ls
  induction ls generalizing s with
  | nil => rfl
  | cons line ls ih =>
    rw [List.foldl_cons,List.filterMap_cons]
    split <;> exact ih _

theorem digit_range {c : Char} (h : c.isDigit = true) : 48 ≤ c.toNat ∧ c.toNat ≤ 57 := by
  simpa [Char.isDigit,UInt32.le_iff_toNat_le] using h

theorem digit_clean {c : Char} (h : c.isDigit = true) : whitespace c = false := by
  have hrange := digit_range h
  simp only [whitespace]
  simp
  omega

theorem toDigits_digit {n : ℕ} : ∀ c ∈ Nat.toDigits 10 n, c.isDigit = true := fun _ hc =>
  Nat.isDigit_of_mem_toDigits (by decide) (by decide) hc

theorem numeral_word {blank : Char → Bool} (h : ∀ c, c.isDigit = true → blank c = false) (n : ℕ) :
    Word blank (Nat.toDigits 10 n) :=
  ⟨Nat.toDigits_ne_nil,fun c hc => h c (toDigits_digit c hc)⟩

theorem digits_word (n : Nat) : Word whitespace (Nat.toDigits 10 n) :=
  numeral_word (fun _ => digit_clean) n

theorem trimmed_numeral (n : Nat) : trimmed (Nat.toDigits 10 n ++ ['\n']) = Nat.toDigits 10 n := by
  have hword := digits_word n
  have hblank : Blanks whitespace ['\n'] := blanks_one rfl
  exact trim_padded blanks_nil hblank (fun c hc => hword.clean c (List.mem_of_mem_head? hc))
    (fun c hc => hword.clean c (List.mem_of_getLast? hc)) hword.some

end Unicode

section Numerals

-- `str::parse` of an unsigned type; one leading plus is allowed.
def parseUnsigned (width : Nat) (text : List Char) : Option Nat :=
  let digits : List Char := match text with
    | '+' :: rest => rest
    | _ => text
  let value := Nat.ofDigitChars 10 digits 0
  if digits ≠ [] ∧ digits.all Char.isDigit = true ∧ value < 2 ^ width then some value else none

theorem parseUnsigned_digits {width n : Nat} (h : n < 2 ^ width) :
    parseUnsigned width (Nat.toDigits 10 n) = some n := by
  have hdigit : ∀ c ∈ Nat.toDigits 10 n, c.isDigit = true := toDigits_digit
  have hvalue : Nat.ofDigitChars 10 (Nat.toDigits 10 n) 0 = n := Nat.ofDigitChars_ten_toDigits
  have hne : Nat.toDigits 10 n ≠ [] := Nat.toDigits_ne_nil
  generalize Nat.toDigits 10 n = digits at hdigit hvalue hne
  unfold parseUnsigned
  split
  · exact absurd (hdigit '+' List.mem_cons_self) (by decide)
  · dsimp only
    rw [hvalue,if_pos ⟨hne,List.all_eq_true.mpr hdigit,h⟩]

end Numerals

end Lines
