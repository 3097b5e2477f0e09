import Uroam.Library.Scanf
import Uroam.Tuning.Psi

namespace Uroam.Tuning.Psi
open Lines Scanf

section Scanning

variable {F : Type} (parseFloat : List Char → Option F) (zero : F)

def Level.format : Level → List Char
  | .some => "some avg10=%f avg60=%f avg300=%f %s".toList
  | .full => "full avg10=%f avg60=%f avg300=%f %s".toList

def MemoryPressure.scanned (p : MemoryPressure F) (level : Level) (values : List F) :
    MemoryPressure F :=
  ([Average.avg10,.avg60,.avg300].zip values).foldl (fun p av => p.set level av.1 av.2) p

def scanLine (p : MemoryPressure F) (line : List Char) : MemoryPressure F :=
  let line := trimmed line
  if Level.some.name <+: line then
    p.scanned .some (sscanf parseFloat (items Level.some.format) line)
  else if Level.full.name <+: line then
    p.scanned .full (sscanf parseFloat (items Level.full.format) line)
  else p

def readPSI (content : Option (List Char)) : MemoryPressure F :=
  let psi : MemoryPressure F := ⟨zero,zero,zero,zero,zero,zero⟩
  match content with
  | none => psi
  | some data => (data.splitOn '\n').foldl (scanLine parseFloat) psi

theorem format_items (level : Level) : items level.format =
    level.name.map .literal ++ .space :: (Average.avg10.key.map .literal ++ .float ::
      .space :: (Average.avg60.key.map .literal ++ .float ::
        .space :: (Average.avg300.key.map .literal ++ .float :: [.space,.word]))) := by
  cases level <;> decide

theorem inline_of_blanks {gap : List Char} (hne : gap ≠ []) (h : LineBlanks gap) : Inline gap := by
  refine ⟨hne,fun c hc => ?_⟩
  have hline : c ≠ '\n' := fun he => h.2 (he ▸ hc)
  simp [inlineBlank,h.1 c hc,hline]

variable {parseFloat} {value : Decimal → F}

theorem sscanf_average (h : ∀ d : Decimal, parseFloat d.render = some (value d)) (a : Average)
    (d : Decimal) {gap rest : List Char} (hgap : Inline gap)
    (hrest : ∀ c, rest.head? = some c → whitespace c = true) (format : List Item) :
    sscanf parseFloat (.space :: (a.key.map .literal ++ .float :: format))
        (gap ++ (a.key ++ (d.render ++ rest))) = value d :: sscanf parseFloat format rest := by
  have hkey : ∀ c, (a.key ++ (d.render ++ rest)).head? = some c → inlineBlank c = false := by
    intro c hc
    cases a <;> cases hc <;> decide
  have hsmall := d.small
  have hdigits : ∀ c ∈ [Nat.digitChar (d.hundredths / 10),Nat.digitChar (d.hundredths % 10)],
      c.isDigit = true := by
    intro c hc
    simp only [List.mem_cons,List.not_mem_nil,or_false] at hc
    rcases hc with rfl | rfl
    · exact digitChar_digit (by omega)
    · exact digitChar_digit (by omega)
  have htoken : floatToken (d.render ++ rest) = ⟨d.render,rest⟩ := by
    have hdecimal := floatToken_decimal Nat.toDigits_ne_nil (toDigits_digit (n := d.whole)) hdigits
      hrest
    simpa [Decimal.render] using hdecimal
  have hnumber : ∀ c, (d.render ++ rest).head? = some c → whitespace c = false := by
    intro c hc
    obtain ⟨e,digits,he⟩ := List.exists_cons_of_ne_nil (Nat.toDigits_ne_nil (n := d.whole) (b := 10))
    obtain rfl : e = c := by simpa [Decimal.render,he] using hc
    exact digit_clean (toDigits_digit e (he ▸ List.mem_cons_self))
  rw [sscanf_space parseFloat hgap hkey,sscanf_literals,
    sscanf_float parseFloat htoken (h d) hnumber]

theorem sscanf_ignored (text : List Char) : sscanf parseFloat [.space,.word] text = [] := by
  have hword : ∀ text, sscanf parseFloat [.word] text = [] := by
    intro text
    unfold sscanf
    split <;> rfl
  unfold sscanf
  split
  · exact hword []
  · split
    · exact hword _
    · rfl

def Layout.InOrder {figures : Figures} (l : Layout figures) : Prop :=
  l.order.map Prod.snd = figures.fields

theorem Layout.InOrder.parts {figures : Figures} {l : Layout figures} (h : l.InOrder) :
    ∃ g₁ g₂ g₃ g₄, Inline g₁ ∧ Inline g₂ ∧ Inline g₃ ∧ Inline g₄ ∧
      l.parts = [(g₁,Average.avg10.key ++ figures.avg10.render),
        (g₂,Average.avg60.key ++ figures.avg60.render),
        (g₃,Average.avg300.key ++ figures.avg300.render),(g₄,(Field.total figures.total).render)] := by
  obtain ⟨⟨g₁,f₁⟩,rest₁,horder,rfl,hrest₁⟩ := List.map_eq_cons_iff.mp h
  obtain ⟨⟨g₂,f₂⟩,rest₂,rfl,rfl,hrest₂⟩ := List.map_eq_cons_iff.mp hrest₁
  obtain ⟨⟨g₃,f₃⟩,rest₃,rfl,rfl,hrest₃⟩ := List.map_eq_cons_iff.mp hrest₂
  obtain ⟨⟨g₄,f₄⟩,rest₄,rfl,rfl,hrest₄⟩ := List.map_eq_cons_iff.mp hrest₃
  obtain rfl := List.map_eq_nil_iff.mp hrest₄
  have hgap : ∀ f ∈ l.order, Inline f.1 := fun f hf =>
    inline_of_blanks (l.gaps f hf).1 (l.gaps f hf).2
  rw [horder] at hgap
  refine ⟨g₁,g₂,g₃,g₄,hgap (g₁,.average .avg10 figures.avg10) (by simp),
    hgap (g₂,.average .avg60 figures.avg60) (by simp),
    hgap (g₃,.average .avg300 figures.avg300) (by simp),hgap (g₄,.total figures.total) (by simp),?_⟩
  rw [Layout.parts,horder]
  rfl

theorem blank_head {gap : List Char} (h : Inline gap) (text : List Char) (c : Char)
    (hc : (gap ++ text).head? = some c) : whitespace c = true := by
  obtain ⟨d,rest,rfl⟩ := List.exists_cons_of_ne_nil h.1
  obtain rfl : d = c := Option.some.inj hc
  have hblank := h.2 d List.mem_cons_self
  simp only [inlineBlank,Bool.and_eq_true] at hblank
  exact hblank.1

theorem scanLine_layout (h : ∀ d : Decimal, parseFloat d.render = some (value d)) (level : Level)
    {figures : Figures} {l : Layout figures} (hl : l.InOrder) (p : MemoryPressure F) :
    scanLine parseFloat p (l.text level) = figures.store value level p := by
  obtain ⟨g₁,g₂,g₃,g₄,h₁,h₂,h₃,h₄,hparts⟩ := hl.parts
  have hvalues : sscanf parseFloat (items level.format) (level.name ++ spaced l.parts) =
      [value figures.avg10,value figures.avg60,value figures.avg300] := by
    rw [format_items,sscanf_literals,hparts]
    simp only [spaced,List.flatMap_cons,List.append_assoc]
    rw [sscanf_average h .avg10 _ h₁ (blank_head h₂ _),sscanf_average h .avg60 _ h₂ (blank_head h₃ _),
      sscanf_average h .avg300 _ h₃ (blank_head h₄ _),sscanf_ignored]
  have hname : Level.some.name <+: Level.full.name ++ spaced l.parts → False := by
    rintro ⟨back,hback⟩
    cases hback
  unfold scanLine
  rw [trimmed_layout]
  cases level with
  | some =>
    dsimp only
    rw [if_pos (List.prefix_append _ _),hvalues]
    rfl
  | full =>
    dsimp only
    rw [if_neg hname,if_pos (List.prefix_append _ _),hvalues]
    rfl

theorem splitOn_line {line : List Char} (h : '\n' ∉ line) (rest : List Char) :
    (line ++ '\n' :: rest).splitOn '\n' = line :: rest.splitOn '\n' := by
  have hclean : ∀ c ∈ line, (c == '\n') = false := by
    intro c hc
    simpa using fun he : c = '\n' => h (he ▸ hc)
  simp [List.splitOn,List.splitOnP_append_cons_of_forall_mem hclean]

theorem splitOn_last {line : List Char} (h : '\n' ∉ line) : line.splitOn '\n' = [line] := by
  have hclean : ∀ c ∈ line, (c == '\n') = false := by
    intro c hc
    simpa using fun he : c = '\n' => h (he ▸ hc)
  simp [List.splitOn,List.splitOnP_eq_singleton hclean]

theorem scan_two_lines (p : MemoryPressure F) {first second : List Char} (ended : Bool)
    (hfirst : '\n' ∉ first) (hsecond : '\n' ∉ second) :
    ((first ++ '\n' :: second ++ if ended then ['\n'] else []).splitOn '\n').foldl
        (scanLine parseFloat) p =
      scanLine parseFloat (scanLine parseFloat p first) second := by
  rw [List.append_assoc,List.cons_append,splitOn_line hfirst,List.foldl_cons]
  cases ended with
  | true =>
    rw [if_pos rfl,splitOn_line hsecond]
    rfl
  | false =>
    rw [if_neg Bool.false_ne_true,List.append_nil,splitOn_last hsecond]
    rfl

theorem readPSI_agrees (f64 : F64 F) (h : ∀ d : Decimal, parseFloat d.render = some (value d))
    (hf64 : ∀ d : Decimal, f64.parse d.render = some (value d)) {a b : Figures}
    (someFirst ended : Bool) (s : Layout a) (f : Layout b) (hs : s.InOrder) (hf : f.InOrder) :
    readPressure f64 (some (report someFirst ended s f)) =
      some (readPSI parseFloat zero (some (report someFirst ended s f))) := by
  rw [(readPressure_exact f64).1 value hf64 someFirst ended s f]
  have hsline := layout_one_line s .some
  have hfline := layout_one_line f .full
  unfold readPSI report
  cases someFirst with
  | true =>
    simp only [if_true]
    rw [scan_two_lines _ ended hsline hfline,scanLine_layout h .some hs,scanLine_layout h .full hf]
    rfl
  | false =>
    simp only [Bool.false_eq_true,if_false]
    rw [scan_two_lines _ ended hfline hsline,scanLine_layout h .full hf,scanLine_layout h .some hs]
    rfl

end Scanning

theorem readPSI_agrees_plain :
    readPressure rational (some (report true true plainLayout plainLayout)) =
      some (readPSI rational.parse 0 (some (report true true plainLayout plainLayout))) :=
  readPSI_agrees 0 rational rational_render rational_render true true plainLayout plainLayout rfl rfl

end Uroam.Tuning.Psi
