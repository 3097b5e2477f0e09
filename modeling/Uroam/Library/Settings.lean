import Mathlib.Data.List.Basic
import Mathlib.Logic.Function.Basic

namespace Settings

section Last

variable {A B : Type}

def lastSome (f : A → Option B) : List A → Option B
  | [] => none
  | a :: as => (lastSome f as).or (f a)

@[simp] theorem lastSome_nil (f : A → Option B) : lastSome f [] = none := rfl

@[simp] theorem lastSome_cons (f : A → Option B) (a : A) (as : List A) :
    lastSome f (a :: as) = (lastSome f as).or (f a) := rfl

theorem lastSome_append (f : A → Option B) (as bs : List A) :
    lastSome f (as ++ bs) = (lastSome f bs).or (lastSome f as) := by
  induction as with
  | nil => simp
  | cons a as ih => simp [ih,Option.or_assoc]

theorem lastSome_concat (f : A → Option B) (as : List A) (a : A) :
    lastSome f (as ++ [a]) = (f a).or (lastSome f as) := by
  simp [lastSome_append]

theorem lastSome_none {f : A → Option B} {as : List A} :
    lastSome f as = none ↔ ∀ a ∈ as, f a = none := by
  induction as with
  | nil => simp
  | cons a as ih => simp [ih,and_comm]

theorem lastSome_value {C : Type} (f : A → Option B) (g : B → C) (as : List A) :
    lastSome (fun a => (f a).map g) as = (lastSome f as).map g := by
  induction as with
  | nil => rfl
  | cons a as ih =>
    rw [lastSome_cons,lastSome_cons,ih]
    cases lastSome f as <;> rfl

theorem lastSome_const {f : A → Option B} {P : A → Prop} [DecidablePred P] {b : B}
    (h : ∀ a, f a = if P a then some b else none) (as : List A) :
    lastSome f as = if ∃ a ∈ as, P a then some b else none := by
  induction as with
  | nil => simp
  | cons a as ih =>
    rw [lastSome_cons,ih,h a]
    by_cases hrest : ∃ a ∈ as, P a
    · simp [hrest]
    · by_cases ha : P a
      · simp [ha,hrest]
      · have hno : ¬ ∃ x ∈ a :: as, P x := by
          rintro ⟨x,hx,hp⟩
          rcases List.mem_cons.mp hx with rfl | hx
          · exact ha hp
          · exact hrest ⟨x,hx,hp⟩
        rw [if_neg hrest,if_neg ha,if_neg hno]
        rfl

theorem lastSome_always (f : A → B) (as : List A) :
    lastSome (fun a => some (f a)) as = as.getLast?.map f := by
  rcases List.eq_nil_or_concat as with rfl | ⟨before,last,rfl⟩
  · rfl
  · simp [lastSome_concat]

theorem kept_iff {f : A → Option B} {test : A → Bool} {set kept : B}
    (h : ∀ a, f a = if test a = true then some set else none) (hne : set ≠ kept) (as : List A) :
    (lastSome f as).getD kept = kept ↔ ∀ a ∈ as, test a = false := by
  rw [lastSome_const h]
  by_cases hset : ∃ a ∈ as, test a = true
  · rw [if_pos hset]
    obtain ⟨a,ha,htest⟩ := hset
    exact iff_of_false hne fun hnone => Bool.false_ne_true ((hnone a ha).symm.trans htest)
  · rw [if_neg hset]
    refine iff_of_true rfl fun a ha => Bool.eq_false_iff.mpr fun htest => ?_
    exact hset ⟨a,ha,htest⟩

theorem foldl_field {S : Type} {step : S → A → S} {field : S → B} {value : A → Option B}
    (h : ∀ s a, field (step s a) = (value a).getD (field s)) (as : List A) (s : S) :
    field (as.foldl step s) = (lastSome value as).getD (field s) := by
  induction as generalizing s with
  | nil => rfl
  | cons a as ih =>
    rw [List.foldl_cons,ih,h,lastSome_cons]
    cases lastSome value as <;> rfl

theorem lastSome_filter {f : A → Option B} {p : A → Bool} (h : ∀ a, p a = false → f a = none)
    (as : List A) : lastSome f (as.filter p) = lastSome f as := by
  induction as with
  | nil => rfl
  | cons a as ih =>
    cases hp : p a with
    | true => rw [List.filter_cons_of_pos hp,lastSome_cons,ih,lastSome_cons]
    | false => rw [List.filter_cons_of_neg (by simp [hp]),ih,lastSome_cons,h a hp,Option.or_none]

theorem foldl_or {S : Type} {step : S → A → S} (flag : S → Bool) {p : A → Bool}
    (h : ∀ s a, flag (step s a) = (flag s || p a)) (as : List A) (s : S) :
    flag (as.foldl step s) = (flag s || as.any p) := by
  induction as generalizing s with
  | nil => simp
  | cons a as ih => rw [List.foldl_cons,ih,h,List.any_cons,Bool.or_assoc]

theorem foldl_append {S : Type} {step : S → A → S} (out : S → List B) {g : A → List B}
    (h : ∀ s a, out (step s a) = out s ++ g a) (as : List A) (s : S) :
    out (as.foldl step s) = out s ++ as.flatMap g := by
  induction as generalizing s with
  | nil => simp
  | cons a as ih => rw [List.foldl_cons,ih,h,List.flatMap_cons,List.append_assoc]

end Last

section Writes

variable {T V W : Type} [DecidableEq T] (target : W → Option (T × V))

def perform (s : T → V) (w : W) : T → V :=
  match target w with
  | none => s
  | some (t,v) => Function.update s t v

def valueOn (t : T) (w : W) : Option V :=
  (target w).bind fun tv => if tv.1 = t then some tv.2 else none

theorem perform_all (s : T → V) (ws : List W) (t : T) :
    ws.foldl (perform target) s t = (lastSome (valueOn target t) ws).getD (s t) := by
  induction ws generalizing s with
  | nil => rfl
  | cons w ws ih =>
    rw [List.foldl_cons,ih,lastSome_cons]
    cases lastSome (valueOn target t) ws with
    | some v => rfl
    | none =>
      unfold perform valueOn
      cases h : target w with
      | none => rfl
      | some tv =>
        obtain ⟨t',v⟩ := tv
        by_cases ht : t = t'
        · subst ht
          simp
        · have hne : ¬ t' = t := fun he => ht he.symm
          simp [ht,hne]

end Writes

end Settings
