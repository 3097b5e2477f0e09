import Mathlib.Data.List.Basic
import Mathlib.Logic.Function.Basic

namespace Loops

variable {S : Type} {n : ℕ}

def upTo (n : ℕ) (body : S → ℕ → S) (s : S) : S := (List.range n).foldl body s

theorem upTo_succ (n : ℕ) (body : S → ℕ → S) (s : S) :
    upTo (n + 1) body s = body (upTo n body s) n := by
  simp [upTo,List.range_succ]

def upBy (d n : ℕ) (body : S → ℕ → S) (s : S) : S :=
  (List.range' 0 ((n + d - 1) / d) d).foldl body s

theorem upBy_eq (d n : ℕ) (body : S → ℕ → S) (s : S) :
    upBy d n body s = upTo ((n + d - 1) / d) (fun s q => body s (d * q)) s := by
  unfold upBy
  generalize (n + d - 1) / d = rounds
  induction rounds with
  | zero => rfl
  | succ rounds ih => rw [List.range'_concat,List.foldl_append,ih,upTo_succ,Nat.zero_add]; rfl

theorem upTo_invariant {I : ℕ → S → Prop} {body : S → ℕ → S} {s : S} (h0 : I 0 s)
    (hstep : ∀ k s, k < n → I k s → I (k + 1) (body s k)) : I n (upTo n body s) := by
  have h : ∀ k, k ≤ n → I k (upTo k body s) := by
    intro k
    induction k with
    | zero => intro _; exact h0
    | succ k ih =>
      intro hk
      rw [upTo_succ]
      exact hstep k _ hk (ih (Nat.le_of_succ_le hk))
  exact h n (Nat.le_refl n)

section Fill

variable {A B : Type} [DecidableEq A] {f : ℕ → A} {v : ℕ → B} {t : A → B}

def fill (n : ℕ) (f : ℕ → A) (v : ℕ → B) (t : A → B) : A → B :=
  upTo n (fun t i => Function.update t (f i) (v i)) t

theorem fill_miss {a : A} (h : ∀ i, i < n → f i ≠ a) : fill n f v t a = t a := by
  have hkeep : ∀ k (u : A → B), k < n → u a = t a →
      Function.update u (f k) (v k) a = t a := by
    intro k u hk hu
    rw [Function.update_of_ne (h k hk).symm,hu]
  exact upTo_invariant (I := fun _ (u : A → B) => u a = t a) rfl hkeep

theorem fill_hit (hinj : Function.Injective f) {k : ℕ} (hk : k < n) :
    fill n f v t (f k) = v k := by
  have hwritten : ∀ m (u : A → B), m < n → (∀ i, i < m → u (f i) = v i) →
      ∀ i, i < m + 1 → Function.update u (f m) (v m) (f i) = v i := by
    intro m u _ hu i hi
    rcases Nat.lt_succ_iff_lt_or_eq.mp hi with hlt | rfl
    · rw [Function.update_of_ne (hinj.ne (Nat.ne_of_lt hlt)),hu i hlt]
    · exact Function.update_self ..
  exact upTo_invariant (I := fun m (u : A → B) => ∀ i, i < m → u (f i) = v i)
    (fun i hi => absurd hi (Nat.not_lt_zero i)) hwritten k hk

theorem fill_same (a : A) : fill (n + 1) (fun _ => a) v t = Function.update t a (v n) := by
  induction n with
  | zero => rfl
  | succ n ih =>
    rw [fill,upTo_succ]
    change Function.update (fill (n + 1) (fun _ => a) v t) a (v (n + 1)) = _
    rw [ih,Function.update_idem]

end Fill

end Loops
