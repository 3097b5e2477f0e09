import Mathlib.Logic.Function.Basic
import Uroam.Library.Runs

namespace Sections
open Runs

abbrev Micro (S R : Type) := S × R → S × R

inductive Point (S R B : Type) where
  | outside
  | inside (body : B) (left : List (Micro S R)) (regs : R)

structure Machine (S R B : Type) where
  shared : S
  locked : Bool
  points : Nat → Point S R B
  finished : List (B × R)

inductive Turn (B : Type) where
  | enter (i : Nat) (body : B)
  | micro (i : Nat)
  | leave (i : Nat)

variable {S R B : Type}

def Machine.start (s : S) : Machine S R B := ⟨s,false,fun _ => .outside,[]⟩

def finish (left : List (Micro S R)) (now : S × R) : S × R := left.foldl (fun now f => f now) now

section Code

variable (code : B → List (Micro S R)) (fresh : R)

def Machine.step (m : Machine S R B) : Turn B → Machine S R B
  | .enter i body =>
    match m.points i with
    | .outside =>
      if m.locked then m
      else { m with locked := true, points := Function.update m.points i (.inside body (code body) fresh) }
    | .inside _ _ _ => m
  | .micro i =>
    match m.points i with
    | .inside body (f :: left) regs =>
      { m with
        shared := (f (m.shared,regs)).1
        points := Function.update m.points i (.inside body left (f (m.shared,regs)).2) }
    | _ => m
  | .leave i =>
    match m.points i with
    | .inside body [] regs =>
      { m with
        locked := false
        points := Function.update m.points i .outside
        finished := m.finished ++ [(body,regs)] }
    | _ => m

def whole (s : S) (body : B) : S × R := finish (code body) (s,fresh)

def after (s : S) (bodies : List B) : S := bodies.foldl (fun s body => (whole code fresh s body).1) s

theorem after_append (s : S) (as bs : List B) :
    after code fresh s (as ++ bs) = after code fresh (after code fresh s as) bs :=
  List.foldl_append ..

def Results (s : S) (done : List (B × R)) : Prop :=
  ∀ pre body regs post, done = pre ++ (body,regs) :: post →
    regs = (whole code fresh (after code fresh s (pre.map Prod.fst)) body).2

theorem results_snoc {s : S} {done : List (B × R)} {body : B} {regs : R}
    (h : Results code fresh s done)
    (hlast : regs = (whole code fresh (after code fresh s (done.map Prod.fst)) body).2) :
    Results code fresh s (done ++ [(body,regs)]) := by
  intro pre body' regs' post heq
  rcases List.eq_nil_or_concat post with rfl | ⟨post',last,rfl⟩
  · obtain ⟨rfl,hone⟩ := List.append_inj' heq rfl
    cases hone
    exact hlast
  · have hsplit : done ++ [(body,regs)] = (pre ++ (body',regs') :: post') ++ [last] := by
      rw [heq,List.concat_eq_append,List.append_assoc,List.cons_append]
    exact h pre body' regs' post' (List.append_inj' hsplit rfl).1

structure Holds (s : S) (m : Machine S R B) (i : Nat) : Prop where
  inside : ∃ body left regs, m.points i = .inside body left regs ∧
    finish left (m.shared,regs) = whole code fresh (after code fresh s (m.finished.map Prod.fst)) body
  others : ∀ j, j ≠ i → m.points j = .outside

structure Serial (s : S) (m : Machine S R B) : Prop where
  results : Results code fresh s m.finished
  free : m.locked = false →
    (∀ i, m.points i = .outside) ∧ m.shared = after code fresh s (m.finished.map Prod.fst)
  held : m.locked = true → ∃ i, Holds code fresh s m i

variable {code fresh} {s : S} {m : Machine S R B}

theorem start_serial : Serial code fresh s (.start s) where
  results := fun pre body regs post heq => absurd heq (by simp [Machine.start])
  free := fun _ => ⟨fun _ => rfl,rfl⟩
  held := fun h => by cases h

theorem Serial.holds (h : Serial code fresh s m) {i : Nat} {body : B} {left : List (Micro S R)}
    {regs : R} (hi : m.points i = .inside body left regs) :
    m.locked = true ∧ Holds code fresh s m i := by
  cases hlocked : m.locked with
  | false =>
    rw [(h.free hlocked).1 i] at hi
    cases hi
  | true =>
    obtain ⟨j,hj⟩ := h.held hlocked
    by_cases hij : i = j
    · exact ⟨rfl,hij ▸ hj⟩
    · rw [hj.others i hij] at hi
      cases hi

theorem Holds.rest {i : Nat} (h : Holds code fresh s m i) {body : B} {left : List (Micro S R)}
    {regs : R} (hi : m.points i = .inside body left regs) :
    finish left (m.shared,regs) =
      whole code fresh (after code fresh s (m.finished.map Prod.fst)) body := by
  obtain ⟨body',left',regs',hi',hrest⟩ := h.inside
  rw [hi] at hi'
  cases hi'
  exact hrest

theorem points_others {points : Nat → Point S R B} {i : Nat} (p : Point S R B)
    (h : ∀ j, j ≠ i → points j = .outside) (j : Nat) (hj : j ≠ i) :
    Function.update points i p j = .outside := by
  rw [Function.update_of_ne hj]
  exact h j hj

theorem enter_serial (h : Serial code fresh s m) (i : Nat) (body : B) :
    Serial code fresh s (m.step code fresh (.enter i body)) := by
  simp only [Machine.step]
  split
  · split
    · exact h
    · rename_i hlocked
      obtain ⟨hpoints,hshared⟩ := h.free (by simpa using hlocked)
      refine ⟨h.results,(fun hfree => by cases hfree),fun _ => ⟨i,?_,?_⟩⟩
      · refine ⟨body,code body,fresh,Function.update_self ..,?_⟩
        dsimp only
        rw [hshared,whole]
      · exact points_others _ fun j _ => hpoints j
  · exact h

theorem micro_serial (h : Serial code fresh s m) (i : Nat) :
    Serial code fresh s (m.step code fresh (.micro i)) := by
  simp only [Machine.step]
  split
  · rename_i body f left regs hi
    obtain ⟨hlocked,hholds⟩ := h.holds hi
    refine ⟨h.results,fun hfree => ?_,fun _ => ⟨i,?_,points_others _ hholds.others⟩⟩
    · rw [hlocked] at hfree
      cases hfree
    · exact ⟨body,left,_,Function.update_self ..,hholds.rest hi⟩
  · exact h

theorem leave_serial (h : Serial code fresh s m) (i : Nat) :
    Serial code fresh s (m.step code fresh (.leave i)) := by
  simp only [Machine.step]
  split
  · rename_i body regs hi
    obtain ⟨_,hholds⟩ := h.holds hi
    have hwhole : (m.shared,regs) =
        whole code fresh (after code fresh s (m.finished.map Prod.fst)) body := hholds.rest hi
    refine ⟨results_snoc code fresh h.results (congrArg Prod.snd hwhole),fun _ => ⟨fun j => ?_,?_⟩,
      fun hheld => by cases hheld⟩
    · by_cases hj : j = i
      · rw [hj]
        exact Function.update_self ..
      · exact points_others _ hholds.others j hj
    · rw [List.map_append,after_append]
      exact congrArg Prod.fst hwhole
  · exact h

theorem step_serial (h : Serial code fresh s m) (t : Turn B) :
    Serial code fresh s (m.step code fresh t) := by
  cases t with
  | enter i body => exact enter_serial h i body
  | micro i => exact micro_serial h i
  | leave i => exact leave_serial h i

variable (code fresh) in
theorem run_serial (s : S) (turns : List (Turn B)) :
    Serial code fresh s (exec (Machine.step code fresh) (.start s) turns) :=
  invariant (Machine.step code fresh) (I := Serial code fresh s) (fun _ t h _ => step_serial h t)
    turns (.start s) start_serial (along_true ..)

theorem Serial.alone (h : Serial code fresh s m) {i j : Nat} (hi : m.points i ≠ .outside)
    (hj : m.points j ≠ .outside) : i = j := by
  cases hlocked : m.locked with
  | false => exact absurd ((h.free hlocked).1 i) hi
  | true =>
    obtain ⟨k,hk⟩ := h.held hlocked
    have hik : i = k := by
      by_contra hne
      exact hi (hk.others i hne)
    have hjk : j = k := by
      by_contra hne
      exact hj (hk.others j hne)
    rw [hik,hjk]

end Code

end Sections
