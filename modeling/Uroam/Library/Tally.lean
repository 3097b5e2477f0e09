import Mathlib.Algebra.BigOperators.Group.List.Basic
import Mathlib.Algebra.GroupWithZero.Nat
import Uroam.Library.Runs

namespace Tally
open Runs

variable {S A : Type} (step : S → A → S)

def total (f : S → A → Nat) : S → List A → Nat
  | _, [] => 0
  | s, a :: as => f s a + total f (step s a) as

theorem total_add (f g : S → A → Nat) (as : List A) (s : S) :
    total step (fun s a => f s a + g s a) s as = total step f s as + total step g s as := by
  induction as generalizing s with
  | nil => rfl
  | cons a as ih =>
    simp only [total,ih]
    omega

theorem total_mul (k : Nat) (f : S → A → Nat) (as : List A) (s : S) :
    total step (fun s a => k * f s a) s as = k * total step f s as := by
  induction as generalizing s with
  | nil => rfl
  | cons a as ih => simp only [total,ih,Nat.mul_add]

theorem total_stateless (f : A → Nat) (as : List A) (s : S) :
    total step (fun _ => f) s as = (as.map f).sum := by
  induction as generalizing s with
  | nil => rfl
  | cons a as ih => simp [total,ih]

theorem total_map {T : Type} {next : T → A → T} {p : S → T}
    (hstep : ∀ s a, p (step s a) = next (p s) a) (f : T → A → Nat) (as : List A) (s : S) :
    total step (fun s => f (p s)) s as = total next f (p s) as := by
  induction as generalizing s with
  | nil => rfl
  | cons a as ih => rw [total,total,ih,hstep]

theorem accumulated {E : S → A → Prop} {count : S → Nat} {added : S → A → Nat}
    (hstep : ∀ s a, E s a → count (step s a) = count s + added s a) (as : List A) (s : S)
    (he : Along step E s as) : count (exec step s as) = count s + total step added s as := by
  induction as generalizing s with
  | nil => rfl
  | cons a as ih =>
    rw [exec_cons,ih (step s a) he.2,hstep s a he.1,total]
    omega

theorem accumulated_under {I : S → Prop} {E : S → A → Prop} {count : S → Nat}
    {added : S → A → Nat} (hkeeps : ∀ s a, I s → E s a → I (step s a))
    (hstep : ∀ s a, I s → E s a → count (step s a) = count s + added s a) (as : List A) (s : S)
    (hs : I s) (he : Along step E s as) :
    count (exec step s as) = count s + total step added s as := by
  have hboth : Along step (fun s a => I s ∧ E s a) s as :=
    along_of_invariant step (G := I) (fun s a hi hc => ⟨hkeeps s a hi hc,hi,hc⟩) as s hs he
  exact accumulated step (fun s a h => hstep s a h.1 h.2) as s hboth

theorem accumulated_iff {f : S → Nat} {g : S → A → Nat} (as : List A) (s : S) :
    (∀ pre, pre <+: as → f (exec step s pre) = f s + total step g s pre) ↔
      Along step (fun s a => f (step s a) = f s + g s a) s as := by
  constructor
  · intro h
    induction as generalizing s with
    | nil => trivial
    | cons a as ih =>
      have hstep : f (step s a) = f s + g s a := by
        simpa [total] using h [a] (List.cons_prefix_cons.mpr ⟨rfl,List.nil_prefix⟩)
      refine ⟨hstep,ih (step s a) fun pre hpre => ?_⟩
      have hpart := h (a :: pre) (List.cons_prefix_cons.mpr ⟨rfl,hpre⟩)
      rw [exec_cons,total] at hpart
      omega
  · rintro h pre ⟨rest,rfl⟩
    exact accumulated step (fun _ _ hs => hs) pre s ((along_append step s pre rest).mp h).1

end Tally
