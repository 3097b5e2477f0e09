import Mathlib
import Uroam.Tuning.Classifier
import Uroam.Tuning.History

namespace Uroam.Tuning

def Ascii (text : List Char) : Prop := ∀ c ∈ text, c.toNat < 128

instance (text : List Char) : Decidable (Ascii text) := List.decidableBAll _ _

structure LowersAscii (toLowercase : List Char → List Char) : Prop where
  ascii : ∀ text, Ascii text → toLowercase text = text.map Char.toLower
  noUpper : ∀ text, ∀ c ∈ toLowercase text, c.isUpper = false

def backgroundProcesses : List String := ["kworker", "ksoftirqd", "migration", "rcu_"]

section Reference

variable (prim : Primitives)

def occurs (text : List Char) (pattern : String) : Bool :=
  decide (prim.toLowercase pattern.toList <:+: prim.toLowercase text)

def occursAny (text : List Char) (patterns : List String) : Bool := patterns.any (occurs prim text)

def referenceClass (name cmdline : List Char) : WorkloadType :=
  if occursAny prim name aiProcesses || occursAny prim cmdline aiProcesses then
    if containsAny (prim.toLowercase cmdline) ["train", "fit"] then .aiTraining else .aiInference
  else if occursAny prim name gamingProcesses then .gaming
  else if occursAny prim name compilationProcesses then .compilation
  else if occursAny prim name interactiveProcesses then .interactive
  else if occursAny prim name backgroundProcesses then .background
  else .general

def listedMatch (name cmdline : List Char) : Bool :=
  let nameLower := prim.toLowercase name
  containsAny nameLower aiProcesses || containsAny (prim.toLowercase cmdline) aiProcesses ||
    containsAny nameLower gamingProcesses || containsAny nameLower compilationProcesses ||
    containsAny nameLower interactiveProcesses

end Reference

def backgroundTest (nameLower : List Char) : Bool :=
  "kworker".toList <+: nameLower || containsAny nameLower ["ksoftirqd", "rcu_"] ||
    nameLower = "migration".toList

structure PlainName (nameLower : List Char) : Prop where
  noX : containsAny nameLower ["xorg", "x11"] = false
  plain : containsAny nameLower ["kworker", "migration"] = true → backgroundTest nameLower = true

def LoweredTo (pattern lowered : String) : Prop :=
  Ascii pattern.toList ∧ pattern.toList.map Char.toLower = lowered.toList

instance (pattern lowered : String) : Decidable (LoweredTo pattern lowered) :=
  inferInstanceAs (Decidable (_ ∧ _))

theorem ai_lowered : ∀ p ∈ aiProcesses, LoweredTo p p := by decide +kernel

theorem gaming_lowered : ∀ p ∈ gamingProcesses, LoweredTo p p := by decide +kernel

theorem compilation_lowered : ∀ p ∈ compilationProcesses, LoweredTo p p := by decide +kernel

theorem background_lowered : ∀ p ∈ backgroundProcesses, LoweredTo p p := by decide +kernel

theorem interactive_cases : ∀ p ∈ interactiveProcesses, LoweredTo p p ∨ p = "Xorg" ∨ p = "X11" := by
  decide +kernel

section Lowering

variable {prim : Primitives} (h : LowersAscii prim.toLowercase)

include h

theorem occurs_lowered (text : List Char) {pattern lowered : String}
    (hp : LoweredTo pattern lowered) :
    occurs prim text pattern = contains (prim.toLowercase text) lowered := by
  unfold occurs contains
  rw [h.ascii _ hp.1,hp.2]

theorem occursAny_lowered (text : List Char) {patterns : List String}
    (hp : ∀ p ∈ patterns, LoweredTo p p) :
    occursAny prim text patterns = containsAny (prim.toLowercase text) patterns := by
  unfold occursAny containsAny
  rw [Bool.eq_iff_iff,List.any_eq_true,List.any_eq_true]
  refine exists_congr fun p => and_congr_right fun hmem => ?_
  rw [occurs_lowered h text (hp p hmem)]

theorem contains_upper (text : List Char) {pattern : String} {c : Char}
    (hc : c ∈ pattern.toList) (hupper : c.isUpper = true) :
    contains (prim.toLowercase text) pattern = false := by
  unfold contains
  apply decide_eq_false
  intro hmem
  have hlower := h.noUpper text c (hmem.subset hc)
  rw [hupper] at hlower
  cases hlower

theorem occursAny_interactive (text : List Char) :
    occursAny prim text interactiveProcesses =
      (containsAny (prim.toLowercase text) interactiveProcesses ||
        containsAny (prim.toLowercase text) ["xorg", "x11"]) := by
  have hxorg : occurs prim text "Xorg" = contains (prim.toLowercase text) "xorg" :=
    occurs_lowered h text (by decide +kernel)
  have hx11 : occurs prim text "X11" = contains (prim.toLowercase text) "x11" :=
    occurs_lowered h text (by decide +kernel)
  have hcapital : ∀ p, p = "Xorg" ∨ p = "X11" → contains (prim.toLowercase text) p = false := by
    rintro p (rfl | rfl)
    · exact contains_upper h text (c := 'X') (by decide +kernel) (by decide)
    · exact contains_upper h text (c := 'X') (by decide +kernel) (by decide)
  unfold occursAny containsAny
  rw [Bool.eq_iff_iff,Bool.or_eq_true,List.any_eq_true,List.any_eq_true,List.any_eq_true]
  constructor
  · rintro ⟨p,hmem,hp⟩
    rcases interactive_cases p hmem with hlow | rfl | rfl
    · exact .inl ⟨p,hmem,occurs_lowered h text hlow ▸ hp⟩
    · exact .inr ⟨"xorg",by decide,hxorg ▸ hp⟩
    · exact .inr ⟨"x11",by decide,hx11 ▸ hp⟩
  · rintro (⟨p,hmem,hp⟩ | ⟨p,hmem,hp⟩)
    · rcases interactive_cases p hmem with hlow | hcap
      · exact ⟨p,hmem,(occurs_lowered h text hlow).symm ▸ hp⟩
      · rw [hcapital p hcap] at hp
        cases hp
    · rcases List.mem_pair.mp hmem with rfl | rfl
      · exact ⟨"Xorg",by decide +kernel,hxorg.symm ▸ hp⟩
      · exact ⟨"X11",by decide +kernel,hx11.symm ▸ hp⟩

end Lowering

def groupClass (ai training gaming compilation interactive background : Bool) : WorkloadType :=
  if ai then
    if training then .aiTraining else .aiInference
  else if gaming then .gaming
  else if compilation then .compilation
  else if interactive then .interactive
  else if background then .background
  else .general

theorem groupClass_eq_iff : ∀ ai training gaming compilation interactive missed background full,
    groupClass ai training gaming compilation interactive background =
        groupClass ai training gaming compilation (interactive || missed) full ↔
      (ai || gaming || compilation || interactive) = true ∨ missed = false ∧ background = full := by
  decide

theorem containsAny_pairs (text : List Char) (a b c d : String) :
    containsAny text [a,b,c,d] = (containsAny text [a,c] || containsAny text [b,d]) := by
  simp [containsAny,Bool.or_assoc,Bool.or_left_comm]

theorem background_split (nameLower : List Char) :
    containsAny nameLower backgroundProcesses = true ↔
      containsAny nameLower ["kworker", "migration"] = true ∨
        containsAny nameLower ["ksoftirqd", "rcu_"] = true := by
  rw [backgroundProcesses,containsAny_pairs,Bool.or_eq_true]

theorem backgroundTest_iff (nameLower : List Char) :
    backgroundTest nameLower = true ↔
      ("kworker".toList <+: nameLower ∨ containsAny nameLower ["ksoftirqd", "rcu_"] = true) ∨
        nameLower = "migration".toList := by
  rw [backgroundTest,Bool.or_eq_true,Bool.or_eq_true,decide_eq_true_iff,decide_eq_true_iff]

theorem background_occurs {nameLower : List Char} (h : backgroundTest nameLower = true) :
    containsAny nameLower backgroundProcesses = true := by
  rw [background_split]
  rcases (backgroundTest_iff nameLower).mp h with (hstart | hother) | hname
  · left
    exact List.any_eq_true.mpr ⟨"kworker",by decide,decide_eq_true hstart.isInfix⟩
  · exact .inr hother
  · left
    refine List.any_eq_true.mpr ⟨"migration",by decide,decide_eq_true ?_⟩
    rw [hname]

theorem background_eq_iff (nameLower : List Char) :
    backgroundTest nameLower = containsAny nameLower backgroundProcesses ↔
      (containsAny nameLower ["kworker", "migration"] = true →
        backgroundTest nameLower = true) := by
  rw [Bool.eq_iff_iff]
  constructor
  · intro h hname
    exact h.mpr ((background_split nameLower).mpr (.inl hname))
  · intro h
    refine ⟨background_occurs,?_⟩
    intro hall
    rcases (background_split nameLower).mp hall with hname | hother
    · exact h hname
    · exact (backgroundTest_iff nameLower).mpr (.inl (.inr hother))

section Classes

variable (prim : Primitives) (name cmdline : List Char)

theorem classify_class :
    classifyProcess prim name cmdline =
      groupClass (containsAny (prim.toLowercase name) aiProcesses ||
          containsAny (prim.toLowercase cmdline) aiProcesses)
        (containsAny (prim.toLowercase cmdline) ["train", "fit"])
        (containsAny (prim.toLowercase name) gamingProcesses)
        (containsAny (prim.toLowercase name) compilationProcesses)
        (containsAny (prim.toLowercase name) interactiveProcesses)
        (backgroundTest (prim.toLowercase name)) := rfl

theorem reference_class (h : LowersAscii prim.toLowercase) :
    referenceClass prim name cmdline =
      groupClass (containsAny (prim.toLowercase name) aiProcesses ||
          containsAny (prim.toLowercase cmdline) aiProcesses)
        (containsAny (prim.toLowercase cmdline) ["train", "fit"])
        (containsAny (prim.toLowercase name) gamingProcesses)
        (containsAny (prim.toLowercase name) compilationProcesses)
        (containsAny (prim.toLowercase name) interactiveProcesses ||
          containsAny (prim.toLowercase name) ["xorg", "x11"])
        (containsAny (prim.toLowercase name) backgroundProcesses) := by
  unfold referenceClass groupClass
  rw [occursAny_lowered h name ai_lowered,occursAny_lowered h cmdline ai_lowered,
    occursAny_lowered h name gaming_lowered,occursAny_lowered h name compilation_lowered,
    occursAny_interactive h name,occursAny_lowered h name background_lowered]

theorem classify_reference_iff (h : LowersAscii prim.toLowercase) :
    classifyProcess prim name cmdline = referenceClass prim name cmdline ↔
      listedMatch prim name cmdline = true ∨ PlainName (prim.toLowercase name) := by
  rw [classify_class,reference_class prim name cmdline h,groupClass_eq_iff,background_eq_iff]
  refine or_congr Iff.rfl ⟨?_,?_⟩
  · rintro ⟨hx,hplain⟩
    exact ⟨hx,hplain⟩
  · rintro ⟨hx,hplain⟩
    exact ⟨hx,hplain⟩

end Classes

theorem ascii_lowers : LowersAscii asciiPrimitives.toLowercase := by
  refine ⟨fun _ _ => rfl,?_⟩
  intro text c hc
  obtain ⟨d,-,rfl⟩ := List.mem_map.mp hc
  exact Char.isUpper_toLower_eq_false d

theorem classify_reference_sample :
    classifyProcess asciiPrimitives ['G','C','C'] [] = referenceClass asciiPrimitives ['G','C','C'] [] :=
  (classify_reference_iff asciiPrimitives ['G','C','C'] [] ascii_lowers).mpr
    (.inl (by decide +kernel))

theorem xorg_not_interactive :
    LowersAscii asciiPrimitives.toLowercase ∧
      classifyProcess asciiPrimitives "Xorg".toList [] = .general ∧
      referenceClass asciiPrimitives "Xorg".toList [] = .interactive ∧
      classifyProcess asciiPrimitives "migration/0".toList [] = .general ∧
      referenceClass asciiPrimitives "migration/0".toList [] = .background := by
  refine ⟨ascii_lowers,?_⟩
  decide +kernel

end Uroam.Tuning
