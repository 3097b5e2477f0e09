import Mathlib.Data.List.Basic

namespace Selection

variable {A B : Type} (score : A → ℕ) (label : A → B)

def better (best : ℕ × B) (a : A) : ℕ × B := if score a > best.1 then (score a,label a) else best

def select (start : ℕ × B) (as : List A) : ℕ × B := as.foldl (better score label) start

theorem select_cons (start : ℕ × B) (a : A) (as : List A) :
    select score label start (a :: as) = select score label (better score label start a) as := rfl

theorem start_le_select (start : ℕ × B) (as : List A) :
    start.1 ≤ (select score label start as).1 := by
  induction as generalizing start with
  | nil => exact Nat.le_refl _
  | cons a as ih =>
    rw [select_cons]
    refine Nat.le_trans ?_ (ih _)
    unfold better
    split
    · next h => exact Nat.le_of_lt h
    · exact Nat.le_refl _

theorem le_select (start : ℕ × B) {as : List A} {a : A} (h : a ∈ as) :
    score a ≤ (select score label start as).1 := by
  induction as generalizing start with
  | nil => cases h
  | cons b as ih =>
    rw [select_cons]
    rcases List.mem_cons.mp h with rfl | h
    · refine Nat.le_trans ?_ (start_le_select score label _ as)
      unfold better
      split
      · exact Nat.le_refl _
      · next hlow => exact Nat.le_of_not_lt hlow
    · exact ih _ h

theorem select_attained (start : ℕ × B) (as : List A) :
    select score label start as = start ∨
      ∃ a ∈ as, start.1 < score a ∧ select score label start as = (score a,label a) := by
  induction as generalizing start with
  | nil => exact .inl rfl
  | cons b as ih =>
    rw [select_cons]
    by_cases hb : score b > start.1
    · rw [better,if_pos hb]
      right
      rcases ih (score b,label b) with hstay | ⟨a,ha,hlt,hsel⟩
      · exact ⟨b,List.mem_cons_self ..,hb,hstay⟩
      · exact ⟨a,List.mem_cons_of_mem b ha,Nat.lt_trans hb hlt,hsel⟩
    · rw [better,if_neg hb]
      rcases ih start with hstay | ⟨a,ha,hlt,hsel⟩
      · exact .inl hstay
      · exact .inr ⟨a,List.mem_cons_of_mem b ha,hlt,hsel⟩

theorem select_eq_start {start : ℕ × B} {as : List A} (h : ∀ a ∈ as, score a ≤ start.1) :
    select score label start as = start := by
  rcases select_attained score label start as with hstay | ⟨a,ha,hlt,_⟩
  · exact hstay
  · exact absurd (h a ha) (Nat.not_le_of_lt hlt)

theorem select_front {start : ℕ × B} {as : List A} {a : A} (hpos : start.1 < score a)
    (hmax : ∀ b ∈ as, score b ≤ score a) :
    select score label start (a :: as) = (score a,label a) := by
  rw [select_cons,better,if_pos hpos]
  exact select_eq_start score label hmax

theorem select_maximal (start : ℕ × B) {as : List A} (h : ∃ a ∈ as, start.1 < score a) :
    ∃ a ∈ as, start.1 < score a ∧ (∀ b ∈ as, score b ≤ score a) ∧
      select score label start as = (score a,label a) := by
  obtain ⟨c,hc,hlt⟩ := h
  rcases select_attained score label start as with hstay | ⟨a,ha,hpos,hsel⟩
  · have hle := le_select score label start hc
    rw [hstay] at hle
    exact absurd hle (Nat.not_le_of_lt hlt)
  · refine ⟨a,ha,hpos,?_,hsel⟩
    intro b hb
    have hle := le_select score label start hb
    rwa [hsel] at hle

end Selection
