import Mathlib.Data.List.Basic
import Mathlib.Data.List.Infix
import Uroam.Library.Lines

namespace Occurrence
open Lines

variable {A : Type}

structure Fold (isBreak : A → Bool) (fold : List A → List A) : Prop where
  empty : fold [] = []
  breaks : ∀ before c after, isBreak c = true →
    fold (before ++ c :: after) = fold before ++ c :: fold after

theorem infix_break {word before after : List A} {c : A} (h : c ∉ word) :
    word <:+: before ++ c :: after ↔ word <:+: before ∨ word <:+: after := by
  constructor
  · intro hword
    rcases List.infix_append_iff.mp hword with hbefore | hafter | ⟨first,second,rfl,hfirst,hsecond⟩
    · exact .inl hbefore
    · rcases List.infix_cons_iff.mp hafter with hlead | hafter
      · cases word with
        | nil => exact .inl List.nil_infix
        | cons d word =>
          have hd : d = c := (List.cons_prefix_cons.mp hlead).1
          exact absurd (hd ▸ List.mem_cons_self) h
      · exact .inr hafter
    · cases second with
      | nil => exact .inl (by simpa using hfirst.isInfix)
      | cons d second =>
        have hd : d = c := (List.cons_prefix_cons.mp hsecond).1
        exact absurd (List.mem_append_right first (hd ▸ List.mem_cons_self)) h
  · rintro (hbefore | hafter)
    · exact List.infix_append_of_infix_left hbefore
    · exact List.infix_append_of_infix_right (List.infix_cons hafter)

variable {isBreak : A → Bool} {fold : List A → List A} {word : List A}

section Folded

variable (hfold : Fold isBreak fold) (hword : ∀ c ∈ word, isBreak c = false)

include hfold hword

theorem occurs_break {c : A} (hc : isBreak c = true) (before after : List A) :
    word <:+: fold (before ++ c :: after) ↔ word <:+: fold before ∨ word <:+: fold after := by
  have hnot : c ∉ word := fun hmem => by simp [hword c hmem] at hc
  rw [hfold.breaks before c after hc,infix_break hnot]

theorem occurs_head {c : A} (hc : isBreak c = true) (text : List A) (hne : word ≠ []) :
    word <:+: fold (c :: text) ↔ word <:+: fold text := by
  have hsplit := occurs_break hfold hword hc [] text
  rwa [hfold.empty,List.infix_nil,or_iff_right hne] at hsplit

theorem occurs_last {c : A} (hc : isBreak c = true) (text : List A) (hne : word ≠ []) :
    word <:+: fold (text ++ [c]) ↔ word <:+: fold text := by
  have hsplit := occurs_break hfold hword hc text []
  rwa [hfold.empty,List.infix_nil,or_iff_left hne] at hsplit

theorem occurs_lead {gap : List A} (hgap : Blanks isBreak gap) (text : List A) (hne : word ≠ []) :
    word <:+: fold (gap ++ text) ↔ word <:+: fold text := by
  induction gap with
  | nil => exact Iff.rfl
  | cons c gap ih =>
    obtain ⟨hc,hrest⟩ := List.forall_mem_cons.mp hgap
    exact (occurs_head hfold hword hc _ hne).trans (ih hrest)

theorem occurs_trail {gap : List A} (hgap : Blanks isBreak gap) (text : List A) (hne : word ≠ []) :
    word <:+: fold (text ++ gap) ↔ word <:+: fold text := by
  induction gap using List.reverseRecOn with
  | nil => rw [List.append_nil]
  | append_singleton gap c ih =>
    have hc : isBreak c = true := hgap c (by simp)
    have hrest : Blanks isBreak gap := fun d hd => hgap d (List.mem_append_left [c] hd)
    rw [← List.append_assoc,occurs_last hfold hword hc _ hne,ih hrest]

theorem occurs_trim {blank : A → Bool} (hblank : ∀ c, blank c = true → isBreak c = true)
    (hne : word ≠ []) (text : List A) :
    word <:+: fold (trim blank text) ↔ word <:+: fold text := by
  obtain ⟨lead,trail,hlead,htrail,hsplit⟩ := trim_split blank text
  have hlead : Blanks isBreak lead := fun c hc => hblank c (hlead c hc)
  have htrail : Blanks isBreak trail := fun c hc => hblank c (htrail c hc)
  conv_rhs => rw [hsplit]
  rw [occurs_trail hfold hword htrail _ hne,occurs_lead hfold hword hlead _ hne]

theorem occurs_replace_after {replace : A → A}
    (hreplace : ∀ c, replace c = c ∨ isBreak c = true ∧ isBreak (replace c) = true)
    (before text : List A) :
    word <:+: fold (before ++ text.map replace) ↔ word <:+: fold (before ++ text) := by
  induction text generalizing before with
  | nil => rfl
  | cons c text ih =>
    rw [List.map_cons]
    rcases hreplace c with hsame | ⟨hc,hnew⟩
    · have hnext := ih (before ++ [c])
      rw [List.append_assoc,List.append_assoc,List.singleton_append,List.singleton_append]
        at hnext
      rwa [hsame]
    · have hnext := ih []
      rw [occurs_break hfold hword hnew,occurs_break hfold hword hc]
      exact or_congr_right hnext

theorem occurs_replace {replace : A → A}
    (hreplace : ∀ c, replace c = c ∨ isBreak c = true ∧ isBreak (replace c) = true)
    (text : List A) : word <:+: fold (text.map replace) ↔ word <:+: fold text :=
  occurs_replace_after hfold hword hreplace [] text

end Folded

end Occurrence
