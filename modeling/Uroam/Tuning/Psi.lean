import Mathlib.Algebra.Ring.Rat
import Mathlib.Tactic.NormNum
import Uroam.Library.Lines

namespace Uroam.Tuning.Psi
open Lines

structure MemoryPressure (F : Type) where
  someAvg10 : F
  someAvg60 : F
  someAvg300 : F
  fullAvg10 : F
  fullAvg60 : F
  fullAvg300 : F
  deriving DecidableEq, Repr

inductive Level where
  | some
  | full
  deriving DecidableEq, Repr

inductive Average where
  | avg10
  | avg60
  | avg300
  deriving DecidableEq, Repr

def Level.name : Level → List Char
  | .some => ['s','o','m','e']
  | .full => ['f','u','l','l']

def Average.key : Average → List Char
  | .avg10 => ['a','v','g','1','0','=']
  | .avg60 => ['a','v','g','6','0','=']
  | .avg300 => ['a','v','g','3','0','0','=']

structure F64 (F : Type) where
  parse : List Char → Option F
  zero : F

section Reading

variable {F : Type}

def MemoryPressure.set (p : MemoryPressure F) (level : Level) (a : Average) (v : F) :
    MemoryPressure F :=
  match level, a with
  | .some, .avg10 => { p with someAvg10 := v }
  | .some, .avg60 => { p with someAvg60 := v }
  | .some, .avg300 => { p with someAvg300 := v }
  | .full, .avg10 => { p with fullAvg10 := v }
  | .full, .avg60 => { p with fullAvg60 := v }
  | .full, .avg300 => { p with fullAvg300 := v }

variable (f64 : F64 F)

def MemoryPressure.default : MemoryPressure F :=
  ⟨f64.zero,f64.zero,f64.zero,f64.zero,f64.zero,f64.zero⟩

def parseAfter (a : Average) (part : List Char) : F :=
  (f64.parse (trimStartMatches a.key part)).getD f64.zero

def readPart (level : Level) (p : MemoryPressure F) (part : List Char) : MemoryPressure F :=
  if Average.avg10.key <+: part then p.set level .avg10 (parseAfter f64 .avg10 part)
  else if Average.avg60.key <+: part then p.set level .avg60 (parseAfter f64 .avg60 part)
  else if Average.avg300.key <+: part then p.set level .avg300 (parseAfter f64 .avg300 part)
  else p

def readRest (level : Level) (p : MemoryPressure F) (line : List Char) :
    Option (MemoryPressure F) := do
  let rest ← sliceFrom Char.utf8Size 4 line
  return (splitWhitespace rest).foldl (readPart f64 level) p

def readLine (p : MemoryPressure F) (line : List Char) : Option (MemoryPressure F) :=
  let line := trimmed line
  if Level.some.name <+: line then readRest f64 .some p line
  else if Level.full.name <+: line then readRest f64 .full p line
  else some p

-- `none` is a slice that panics; otherwise the call returns Ok, also when the file is unreadable.
def readPressure (content : Option (List Char)) : Option (MemoryPressure F) :=
  (textLines (content.getD [])).foldlM (readLine f64) (MemoryPressure.default f64)

end Reading

section Format

structure Decimal where
  whole : Nat
  hundredths : Nat
  small : hundredths < 100

def Decimal.render (d : Decimal) : List Char :=
  Nat.toDigits 10 d.whole ++
    ['.',Nat.digitChar (d.hundredths / 10),Nat.digitChar (d.hundredths % 10)]

structure Figures where
  avg10 : Decimal
  avg60 : Decimal
  avg300 : Decimal
  total : Nat

inductive Field where
  | average (a : Average) (value : Decimal)
  | total (value : Nat)

def Field.render : Field → List Char
  | .average a value => a.key ++ value.render
  | .total value => ['t','o','t','a','l','='] ++ Nat.toDigits 10 value

def Figures.fields (f : Figures) : List Field :=
  [.average .avg10 f.avg10,.average .avg60 f.avg60,.average .avg300 f.avg300,.total f.total]

def LineBlanks (gap : List Char) : Prop := Blanks whitespace gap ∧ '\n' ∉ gap

structure Layout (figures : Figures) where
  lead : List Char
  order : List (List Char × Field)
  trail : List Char
  lead_blank : LineBlanks lead
  gaps : ∀ f ∈ order, f.1 ≠ [] ∧ LineBlanks f.1
  trail_blank : LineBlanks trail
  all : (order.map Prod.snd).Perm figures.fields

def Layout.parts {figures : Figures} (l : Layout figures) : List (List Char × List Char) :=
  l.order.map fun f => (f.1,f.2.render)

def Layout.text {figures : Figures} (l : Layout figures) (level : Level) : List Char :=
  l.lead ++ (level.name ++ spaced l.parts) ++ l.trail

def report {a b : Figures} (someFirst ended : Bool) (s : Layout a) (f : Layout b) : List Char :=
  let some := s.text .some
  let full := f.text .full
  (if someFirst then some ++ '\n' :: full else full ++ '\n' :: some) ++
    if ended then ['\n'] else []

end Format

theorem digitChar_digit {n : Nat} (h : n < 10) : (Nat.digitChar n).isDigit = true := by
  revert n
  decide

theorem render_chars (d : Decimal) : ∀ c ∈ d.render, c.isDigit = true ∨ c = '.' := by
  intro c hc
  have hsmall := d.small
  rcases List.mem_append.mp hc with hwhole | hrest
  · exact .inl (toDigits_digit c hwhole)
  · simp only [List.mem_cons,List.not_mem_nil,or_false] at hrest
    rcases hrest with rfl | rfl | rfl
    · exact .inr rfl
    · exact .inl (digitChar_digit (by omega))
    · exact .inl (digitChar_digit (by omega))

theorem key_clean (a : Average) : ∀ c ∈ a.key, whitespace c = false := by
  cases a <;> exact clean_of_all rfl

theorem total_clean : ∀ c ∈ ['t','o','t','a','l','='], whitespace c = false :=
  clean_of_all rfl

theorem render_word (f : Field) : Word whitespace f.render := by
  cases f with
  | average a d =>
    refine ⟨?_,?_⟩
    · cases a <;> simp [Field.render,Average.key]
    · intro c hc
      rcases List.mem_append.mp hc with hkey | hvalue
      · exact key_clean a c hkey
      · rcases render_chars d c hvalue with hdigit | rfl
        · exact digit_clean hdigit
        · rfl
  | total n =>
    refine ⟨by simp [Field.render],?_⟩
    intro c hc
    rcases List.mem_append.mp hc with hkey | hvalue
    · exact total_clean c hkey
    · exact (digits_word n).clean c hvalue

theorem key_not_start (a : Average) (d : Decimal) : ¬ a.key <+: d.render := by
  intro h
  have hmem : 'a' ∈ d.render := by
    apply h.subset
    cases a <;> decide
  rcases render_chars d 'a' hmem with hdigit | hdot
  · exact absurd hdigit (by decide)
  · exact absurd hdot (by decide)

section RoundTrip

variable {F : Type} (f64 : F64 F) (value : Decimal → F)

def Field.apply (level : Level) (p : MemoryPressure F) : Field → MemoryPressure F
  | .average a d => p.set level a (value d)
  | .total _ => p

theorem readPart_average (level : Level) (p : MemoryPressure F) (a : Average) (rest : List Char) :
    readPart f64 level p (a.key ++ rest) = p.set level a (parseAfter f64 a (a.key ++ rest)) := by
  cases a <;> simp [readPart,Average.key]

theorem readPart_render (h : ∀ d : Decimal, f64.parse d.render = some (value d)) (level : Level)
    (p : MemoryPressure F) (f : Field) :
    readPart f64 level p f.render = f.apply value level p := by
  cases f with
  | average a d =>
    have hkey : a.key ≠ [] := by cases a <;> decide
    rw [Field.render,readPart_average,parseAfter,trimStartMatches_once hkey (key_not_start a d),
      h d]
    rfl
  | total n => simp [Field.render,Field.apply,readPart,Average.key]

theorem set_comm (level : Level) (p : MemoryPressure F) {a b : Average} (h : a ≠ b) (v w : F) :
    (p.set level a v).set level b w = (p.set level b w).set level a v := by
  cases level <;> cases a <;> cases b <;> first | rfl | exact absurd rfl h

theorem fields_comm (level : Level) (figures : Figures) {f g : Field} (hf : f ∈ figures.fields)
    (hg : g ∈ figures.fields) (p : MemoryPressure F) :
    g.apply value level (f.apply value level p) = f.apply value level (g.apply value level p) := by
  cases f with
  | total n => rfl
  | average a d =>
    cases g with
    | total n => rfl
    | average b e =>
      by_cases hab : a = b
      · subst hab
        have hsame : d = e := by
          cases a <;> simp [Figures.fields] at hf hg <;> rw [hf,hg]
        rw [hsame]
      · exact set_comm level p hab (value d) (value e)

def Figures.store (level : Level) (p : MemoryPressure F) (f : Figures) : MemoryPressure F :=
  ((p.set level .avg10 (value f.avg10)).set level .avg60 (value f.avg60)).set level .avg300
    (value f.avg300)

theorem layout_fields {figures : Figures} (l : Layout figures) :
    ∀ f ∈ l.parts, Gap whitespace f.1 ∧ Word whitespace f.2 := by
  intro f hf
  obtain ⟨g,hg,rfl⟩ := List.mem_map.mp hf
  obtain ⟨hne,hblank,-⟩ := l.gaps g hg
  exact ⟨⟨hne,hblank⟩,render_word g.2⟩

theorem layout_nonempty {figures : Figures} (l : Layout figures) : l.parts ≠ [] := by
  intro h
  have hlength := l.all.length_eq
  simp [List.map_eq_nil_iff.mp h,Figures.fields] at hlength

theorem trimmed_layout {figures : Figures} (l : Layout figures) (level : Level) :
    trimmed (l.text level) = level.name ++ spaced l.parts := by
  refine trim_padded l.lead_blank.1 l.trail_blank.1 ?_ ?_ ?_
  · intro c hc
    cases level <;> cases hc <;> rfl
  · exact spaced_last (layout_nonempty l) (fun f hf => (layout_fields l f hf).2) level.name
  · cases level <;> simp [Level.name]

theorem layout_one_line {figures : Figures} (l : Layout figures) (level : Level) :
    '\n' ∉ l.text level := by
  have hname : '\n' ∉ level.name := by cases level <;> decide
  have hparts : '\n' ∉ spaced l.parts := by
    intro h
    obtain ⟨f,hf,hc⟩ := List.mem_flatMap.mp h
    obtain ⟨g,hg,rfl⟩ := List.mem_map.mp hf
    rcases List.mem_append.mp hc with hgap | hword
    · exact (l.gaps g hg).2.2 hgap
    · have hclean := (render_word g.2).clean _ hword
      exact absurd hclean (by decide)
  simp [Layout.text,l.lead_blank.2,l.trail_blank.2,hname,hparts]

theorem readRest_level (level : Level) (p : MemoryPressure F) (rest : List Char) :
    readRest f64 level p (level.name ++ rest) =
      some ((splitWhitespace rest).foldl (readPart f64 level) p) := by
  have hslice : sliceFrom Char.utf8Size 4 (level.name ++ rest) = some rest := by
    have hsize : (level.name.map Char.utf8Size).sum = 4 := by cases level <;> decide
    rw [← hsize]
    exact sliceFrom_start Char.utf8Size_pos level.name rest
  rw [readRest,hslice]
  rfl

theorem readLine_level (level : Level) (p : MemoryPressure F) {line rest : List Char}
    (h : trimmed line = level.name ++ rest) :
    readLine f64 p line = some ((splitWhitespace rest).foldl (readPart f64 level) p) := by
  rw [← readRest_level,readLine,h]
  cases level <;> simp [Level.name]

theorem fields_any_order (level : Level) {figures : Figures} (l : Layout figures)
    (p : MemoryPressure F) :
    (l.order.map Prod.snd).foldl (Field.apply value level) p = figures.store value level p := by
  have hcomm : ∀ f ∈ l.order.map Prod.snd, ∀ g ∈ l.order.map Prod.snd, ∀ q,
      g.apply value level (f.apply value level q) = f.apply value level (g.apply value level q) := by
    intro f hf g hg q
    exact fields_comm value level figures (l.all.mem_iff.mp hf) (l.all.mem_iff.mp hg) q
  rw [l.all.foldl_eq' hcomm p]
  rfl

theorem readLine_layout (h : ∀ d : Decimal, f64.parse d.render = some (value d)) (level : Level)
    {figures : Figures} (l : Layout figures) (p : MemoryPressure F) :
    readLine f64 p (l.text level) = some (figures.store value level p) := by
  have hwords : splitWhitespace (spaced l.parts) =
      (l.order.map Prod.snd).map Field.render := by
    have hsplit := words_spaced (layout_fields l) blanks_nil
    rw [List.append_nil] at hsplit
    rw [splitWhitespace,hsplit]
    simp [Layout.parts]
  rw [readLine_level f64 level p (trimmed_layout l level),hwords,List.foldl_map,
    ← fields_any_order value level l p]
  simp only [readPart_render f64 value h]

theorem readLine_chomped (p : MemoryPressure F) (line : List Char) :
    readLine f64 p ((stripSuffix '\r' line).getD line) = readLine f64 p line := by
  have htrim : trimmed ((stripSuffix '\r' line).getD line) = trimmed line :=
    trim_stripSuffix (by decide) line
  unfold readLine
  rw [htrim]

theorem read_two_lines (p : MemoryPressure F) {first second : List Char} (ended : Bool)
    (hfirst : '\n' ∉ first) (hsecond : '\n' ∉ second) (hne : second ≠ []) :
    (textLines (first ++ '\n' :: second ++ if ended then ['\n'] else [])).foldlM (readLine f64) p =
      (readLine f64 p first).bind fun q => readLine f64 q second := by
  have hlast : ∀ q, (textLines (second ++ if ended then ['\n'] else [])).foldlM (readLine f64) q =
      readLine f64 q second := by
    intro q
    cases ended with
    | true =>
      rw [if_pos rfl,textLines,lines_cons hsecond,List.foldlM_cons,readLine_chomped]
      exact bind_pure _
    | false =>
      rw [if_neg Bool.false_ne_true,List.append_nil,textLines,lines_open hsecond hne]
      exact bind_pure _
  rw [List.append_assoc,List.cons_append,textLines,lines_cons hfirst,List.foldlM_cons,
    readLine_chomped]
  exact bind_congr hlast

end RoundTrip

theorem readLine_total {F : Type} (f64 : F64 F) (p : MemoryPressure F) (line : List Char) :
    ∃ q, readLine f64 p line = some q := by
  have hlevel : ∀ level : Level, level.name <+: trimmed line → ∃ q, readLine f64 p line = some q := by
    rintro level ⟨rest,hrest⟩
    exact ⟨_,readLine_level f64 level p hrest.symm⟩
  by_cases hsome : Level.some.name <+: trimmed line
  · exact hlevel .some hsome
  · by_cases hfull : Level.full.name <+: trimmed line
    · exact hlevel .full hfull
    · exact ⟨p,by rw [readLine,if_neg hsome,if_neg hfull]⟩

theorem readLines_total {F : Type} (f64 : F64 F) (ls : List (List Char)) (p : MemoryPressure F) :
    ∃ q, ls.foldlM (readLine f64) p = some q := by
  induction ls generalizing p with
  | nil => exact ⟨p,rfl⟩
  | cons line ls ih =>
    obtain ⟨q,hq⟩ := readLine_total f64 p line
    obtain ⟨r,hr⟩ := ih q
    exact ⟨r,by rw [List.foldlM_cons,hq]; exact hr⟩

theorem readPressure_exact {F : Type} (f64 : F64 F) :
    (∀ value : Decimal → F, (∀ d : Decimal, f64.parse d.render = some (value d)) →
      ∀ {a b : Figures} (someFirst ended : Bool) (s : Layout a) (f : Layout b),
        readPressure f64 (some (report someFirst ended s f)) =
          some ⟨value a.avg10,value a.avg60,value a.avg300,
            value b.avg10,value b.avg60,value b.avg300⟩) ∧
    ∀ content, ∃ p, readPressure f64 content = some p := by
  refine ⟨?_,fun content => readLines_total f64 _ _⟩
  intro value h a b someFirst ended s f
  have hne : ∀ {figures : Figures} (l : Layout figures) (level : Level), l.text level ≠ [] := by
    intro figures l level
    cases level <;> simp [Layout.text,Level.name]
  have hs := layout_one_line s .some
  have hf := layout_one_line f .full
  unfold readPressure report
  cases someFirst with
  | true =>
    refine (read_two_lines f64 _ ended hs hf (hne f .full)).trans ?_
    rw [readLine_layout f64 value h .some s]
    exact readLine_layout f64 value h .full f _
  | false =>
    refine (read_two_lines f64 _ ended hf hs (hne s .some)).trans ?_
    rw [readLine_layout f64 value h .full f]
    exact readLine_layout f64 value h .some s _

section Sample

def parseDecimal (text : List Char) : Option ℚ :=
  let whole := text.takeWhile Char.isDigit
  match text.dropWhile Char.isDigit with
  | '.' :: fraction =>
    if whole ≠ [] ∧ fraction.all Char.isDigit = true then
      some (Nat.ofDigitChars 10 whole 0 + Nat.ofDigitChars 10 fraction 0 / 10 ^ fraction.length)
    else none
  | _ => none

def rational : F64 ℚ := ⟨parseDecimal,0⟩

def Decimal.value (d : Decimal) : ℚ := d.whole + d.hundredths / 100

theorem two_digits : ∀ n < 100,
    Nat.ofDigitChars 10 [Nat.digitChar (n / 10),Nat.digitChar (n % 10)] 0 = n := by
  decide +kernel

theorem rational_render (d : Decimal) :
    rational.parse d.render = some d.value := by
  have hdigit : ∀ c ∈ Nat.toDigits 10 d.whole, c.isDigit = true := toDigits_digit
  have hdot : ¬ '.'.isDigit = true := by decide
  have hsmall := d.small
  have htens : (Nat.digitChar (d.hundredths / 10)).isDigit = true := digitChar_digit (by omega)
  have hones : (Nat.digitChar (d.hundredths % 10)).isDigit = true := digitChar_digit (by omega)
  change parseDecimal d.render = _
  unfold parseDecimal Decimal.render
  rw [List.takeWhile_append_of_pos hdigit,List.takeWhile_cons_of_neg hdot,List.append_nil,
    List.dropWhile_append_of_pos hdigit,List.dropWhile_cons_of_neg hdot]
  simp only [List.all_cons,List.all_nil,htens,hones,two_digits _ hsmall,Nat.ofDigitChars_ten_toDigits]
  rw [if_pos ⟨Nat.toDigits_ne_nil,rfl⟩,Decimal.value]
  norm_num

def calm : Figures := ⟨⟨0,0,by decide⟩,⟨0,12,by decide⟩,⟨1,5,by decide⟩,81723⟩

def stalled : Figures := ⟨⟨99,90,by decide⟩,⟨10,0,by decide⟩,⟨3,7,by decide⟩,0⟩

def behind (gap : Char) (fields : List Field) : List (List Char × Field) :=
  fields.map fun f => ([gap],f)

theorem behind_gaps {gap : Char} (hblank : whitespace gap = true) (hline : gap ≠ '\n')
    (fields : List Field) : ∀ f ∈ behind gap fields, f.1 ≠ [] ∧ LineBlanks f.1 := by
  intro f hf
  obtain ⟨g,-,rfl⟩ := List.mem_map.mp hf
  exact ⟨by simp,blanks_one hblank,by simp [hline.symm]⟩

def plainLayout : Layout calm where
  lead := []
  order := behind ' ' calm.fields
  trail := []
  lead_blank := ⟨blanks_nil,by simp⟩
  gaps := behind_gaps (by decide) (by decide) _
  trail_blank := ⟨blanks_nil,by simp⟩
  all := List.Perm.refl _

def shuffledLayout : Layout stalled where
  lead := ['\t']
  order := behind ' ' stalled.fields.reverse
  trail := [' ']
  lead_blank := ⟨blanks_one rfl,by simp⟩
  gaps := behind_gaps (by decide) (by decide) _
  trail_blank := ⟨blanks_one rfl,by simp⟩
  all := List.reverse_perm stalled.fields

theorem readPressure_exact_sample :
    readPressure rational (some (report false true plainLayout shuffledLayout)) =
      some ⟨calm.avg10.value,calm.avg60.value,calm.avg300.value,
        stalled.avg10.value,stalled.avg60.value,stalled.avg300.value⟩ :=
  (readPressure_exact rational).1 Decimal.value rational_render false true plainLayout shuffledLayout

end Sample

end Uroam.Tuning.Psi
