import Mathlib.Logic.Function.Basic
import Uroam.Library.Tally

namespace Racing
open Runs Tally

inductive Move (I : Type) where
  | idle
  | load (i : I) (amount : ℕ)
  | store (i : I)

variable {S A I : Type} [DecidableEq I]

structure Counts (step : S → A → S) (value : S → ℕ) (loaded : S → I → Option (ℕ × ℕ))
    (move : S → A → Move I) (width : ℕ) : Prop where
  idle : ∀ s a, move s a = .idle → value (step s a) = value s ∧ loaded (step s a) = loaded s
  load : ∀ s a i amount, move s a = .load i amount → value (step s a) = value s ∧
    loaded (step s a) = Function.update (loaded s) i (some (value s,amount)) ∧ 0 < amount
  store : ∀ s a i, move s a = .store i → ∃ seen amount, loaded s i = some (seen,amount) ∧
    value (step s a) = (seen + amount) % 2 ^ width ∧
    loaded (step s a) = Function.update (loaded s) i none

def Move.added (loaded : I → Option (ℕ × ℕ)) : Move I → ℕ
  | .store i => ((loaded i).map Prod.snd).getD 0
  | _ => 0

def Move.Undisturbed (value : ℕ) (loaded : I → Option (ℕ × ℕ)) : Move I → Prop
  | .store i => ∀ seen amount, loaded i = some (seen,amount) → value = seen
  | _ => True

def Exact (value : ℕ) (loaded : I → Option (ℕ × ℕ)) (sum : ℕ) : Prop :=
  value = sum ∧ ∀ i seen amount, loaded i = some (seen,amount) → seen ≤ sum ∧ 0 < amount

def Short (value : ℕ) (loaded : I → Option (ℕ × ℕ)) (sum : ℕ) : Prop :=
  value < sum ∧ ∀ i seen amount, loaded i = some (seen,amount) → seen < sum ∧ 0 < amount

section Held

variable {loaded : I → Option (ℕ × ℕ)} {P Q : ℕ → ℕ → Prop} {i : I}

theorem update_some (h : ∀ j seen amount, loaded j = some (seen,amount) → P seen amount)
    {value amount : ℕ} (hnew : P value amount) :
    ∀ j seen n, Function.update loaded i (some (value,amount)) j = some (seen,n) → P seen n := by
  intro j seen n hj
  by_cases hji : j = i
  · rw [hji,Function.update_self] at hj
    cases hj
    exact hnew
  · rw [Function.update_of_ne hji] at hj
    exact h j seen n hj

theorem update_none (h : ∀ j seen amount, loaded j = some (seen,amount) → P seen amount)
    (hweak : ∀ seen amount, P seen amount → Q seen amount) :
    ∀ j seen n, Function.update loaded i none j = some (seen,n) → Q seen n := by
  intro j seen n hj
  by_cases hji : j = i
  · rw [hji,Function.update_self] at hj
    cases hj
  · rw [Function.update_of_ne hji] at hj
    exact hweak seen n (h j seen n hj)

end Held

section Steps

variable {step : S → A → S} {value : S → ℕ} {loaded : S → I → Option (ℕ × ℕ)}
  {move : S → A → Move I} {width sum : ℕ} {s : S} {a : A}
  (hcounts : Counts step value loaded move width)

include hcounts

theorem stored {i : I} (hmove : move s a = .store i)
    (hseen : ∀ seen amount, loaded s i = some (seen,amount) → seen ≤ sum)
    (hbound : sum + (move s a).added (loaded s) < 2 ^ width) :
    ∃ seen amount, loaded s i = some (seen,amount) ∧ (move s a).added (loaded s) = amount ∧
      value (step s a) = seen + amount ∧
      loaded (step s a) = Function.update (loaded s) i none := by
  obtain ⟨seen,amount,hi,hvalue,hloaded⟩ := hcounts.store s a i hmove
  have hadded : (move s a).added (loaded s) = amount := by
    rw [hmove,Move.added,hi]
    rfl
  have hle : seen ≤ sum := hseen seen amount hi
  rw [Nat.mod_eq_of_lt (by omega)] at hvalue
  exact ⟨seen,amount,hi,hadded,hvalue,hloaded⟩

theorem short_step (h : Short (value s) (loaded s) sum)
    (hbound : sum + (move s a).added (loaded s) < 2 ^ width) :
    Short (value (step s a)) (loaded (step s a)) (sum + (move s a).added (loaded s)) := by
  obtain ⟨hless,hheld⟩ := h
  cases hmove : move s a with
  | idle =>
    obtain ⟨hvalue,hloaded⟩ := hcounts.idle s a hmove
    rw [hvalue,hloaded]
    exact ⟨hless,hheld⟩
  | load i amount =>
    obtain ⟨hvalue,hloaded,hpos⟩ := hcounts.load s a i amount hmove
    rw [hvalue,hloaded]
    exact ⟨hless,update_some hheld ⟨hless,hpos⟩⟩
  | store i =>
    obtain ⟨seen,amount,hi,hadded,hvalue,hloaded⟩ := stored hcounts hmove
      (fun seen amount hi => (hheld i seen amount hi).1.le) hbound
    have hseen : seen < sum := (hheld i seen amount hi).1
    rw [← hmove,hadded,hvalue,hloaded]
    refine ⟨by omega,update_none hheld ?_⟩
    rintro other n ⟨hother,hn⟩
    exact ⟨by omega,hn⟩

theorem exact_step (h : Exact (value s) (loaded s) sum)
    (hbound : sum + (move s a).added (loaded s) < 2 ^ width)
    (hfree : (move s a).Undisturbed (value s) (loaded s)) :
    Exact (value (step s a)) (loaded (step s a)) (sum + (move s a).added (loaded s)) := by
  obtain ⟨hsum,hheld⟩ := h
  cases hmove : move s a with
  | idle =>
    obtain ⟨hvalue,hloaded⟩ := hcounts.idle s a hmove
    rw [hvalue,hloaded]
    exact ⟨hsum,hheld⟩
  | load i amount =>
    obtain ⟨hvalue,hloaded,hpos⟩ := hcounts.load s a i amount hmove
    rw [hvalue,hloaded]
    exact ⟨hsum,update_some hheld ⟨Nat.le_of_eq hsum,hpos⟩⟩
  | store i =>
    obtain ⟨seen,amount,hi,hadded,hvalue,hloaded⟩ := stored hcounts hmove
      (fun seen amount hi => (hheld i seen amount hi).1) hbound
    rw [hmove] at hfree
    have hseen : value s = seen := hfree seen amount hi
    rw [← hmove,hadded,hvalue,hloaded]
    refine ⟨by omega,update_none hheld ?_⟩
    rintro other n ⟨hother,hn⟩
    exact ⟨by omega,hn⟩

theorem disturbed_step (h : Exact (value s) (loaded s) sum)
    (hbound : sum + (move s a).added (loaded s) < 2 ^ width)
    (hbad : ¬ (move s a).Undisturbed (value s) (loaded s)) :
    Short (value (step s a)) (loaded (step s a)) (sum + (move s a).added (loaded s)) := by
  obtain ⟨hsum,hheld⟩ := h
  cases hmove : move s a with
  | idle =>
    rw [hmove] at hbad
    exact absurd trivial hbad
  | load i amount =>
    rw [hmove] at hbad
    exact absurd trivial hbad
  | store i =>
    obtain ⟨seen,amount,hi,hadded,hvalue,hloaded⟩ := stored hcounts hmove
      (fun seen amount hi => (hheld i seen amount hi).1) hbound
    have hseen : seen ≤ sum := (hheld i seen amount hi).1
    have hpos : 0 < amount := (hheld i seen amount hi).2
    have hne : value s ≠ seen := by
      intro heq
      rw [hmove] at hbad
      apply hbad
      intro other n hother
      cases hi.symm.trans hother
      exact heq
    rw [← hmove,hadded,hvalue,hloaded]
    refine ⟨by omega,update_none hheld ?_⟩
    rintro other n ⟨hother,hn⟩
    exact ⟨by omega,hn⟩

theorem short_run (as : List A) (h : Short (value s) (loaded s) sum)
    (hbound : sum + total step (fun s a => (move s a).added (loaded s)) s as < 2 ^ width) :
    value (exec step s as) < sum + total step (fun s a => (move s a).added (loaded s)) s as := by
  induction as generalizing s sum with
  | nil => exact h.1
  | cons a as ih =>
    rw [total,← Nat.add_assoc] at hbound ⊢
    exact ih (short_step hcounts h (by omega)) hbound

theorem exact_run (as : List A) (h : Exact (value s) (loaded s) sum)
    (hbound : sum + total step (fun s a => (move s a).added (loaded s)) s as < 2 ^ width) :
    Along step (fun s a => (move s a).Undisturbed (value s) (loaded s)) s as ∧
        value (exec step s as) =
          sum + total step (fun s a => (move s a).added (loaded s)) s as ∨
      ¬ Along step (fun s a => (move s a).Undisturbed (value s) (loaded s)) s as ∧
        value (exec step s as) <
          sum + total step (fun s a => (move s a).added (loaded s)) s as := by
  induction as generalizing s sum with
  | nil => exact .inl ⟨trivial,h.1⟩
  | cons a as ih =>
    rw [total,← Nat.add_assoc] at hbound ⊢
    by_cases hfree : (move s a).Undisturbed (value s) (loaded s)
    · rw [exec_cons,Along,and_iff_right hfree]
      exact ih (exact_step hcounts h (by omega) hfree) hbound
    · have hshort := short_run hcounts as (disturbed_step hcounts h (by omega) hfree) hbound
      exact .inr ⟨fun halong => hfree halong.1,hshort⟩

theorem exact_iff (as : List A) (h : Exact (value s) (loaded s) sum)
    (hbound : sum + total step (fun s a => (move s a).added (loaded s)) s as < 2 ^ width) :
    value (exec step s as) = sum + total step (fun s a => (move s a).added (loaded s)) s as ↔
      Along step (fun s a => (move s a).Undisturbed (value s) (loaded s)) s as := by
  rcases exact_run hcounts as h hbound with ⟨halong,heq⟩ | ⟨halong,hless⟩
  · exact iff_of_true heq halong
  · exact iff_of_false (Nat.ne_of_lt hless) halong

theorem run_le (as : List A) (h : Exact (value s) (loaded s) sum)
    (hbound : sum + total step (fun s a => (move s a).added (loaded s)) s as < 2 ^ width) :
    value (exec step s as) ≤ sum + total step (fun s a => (move s a).added (loaded s)) s as := by
  rcases exact_run hcounts as h hbound with ⟨-,heq⟩ | ⟨-,hless⟩
  · exact Nat.le_of_eq heq
  · exact Nat.le_of_lt hless

end Steps

end Racing
