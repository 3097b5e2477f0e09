import Uroam.Library.Runs

namespace Scopes
open Runs

variable {I V W : Type}

structure Cell (I V : Type) where
  value : V
  saved : List (I × V)

inductive Op (I V : Type) where
  | enter (i : I) (v : V)
  | leave (i : I)

def Cell.map (f : V → W) (c : Cell I V) : Cell I W := ⟨f c.value,c.saved.map fun s => (s.1,f s.2)⟩

def Op.map (f : V → W) : Op I V → Op I W
  | .enter i v => .enter i (f v)
  | .leave i => .leave i

def Untouched (initial : V) (c : Cell I V) : Prop := c.saved = [] → c.value = initial

abbrev Origin (K : Type) := Option K

variable {K : Type}

def Origin.value (initial : V) (set : K → V) (o : Origin K) : V := o.elim initial set

def ClosesClean (initial : V) (set : K → V) (c : Cell I (Origin K)) : Op I (Origin K) → Prop
  | .enter _ _ => True
  | .leave i => ∀ kind, c.saved = [(i,some kind)] → set kind = initial

def Nested (c : Cell I V) : Op I V → Prop
  | .enter _ _ => True
  | .leave i => ∃ v rest, c.saved = (i,v) :: rest

def Restored (initial : V) (set : K → V) (c : Cell I (Origin K)) : Prop :=
  Untouched initial (c.map (Origin.value initial set))

theorem restored_iff (initial : V) (set : K → V) (c : Cell I (Origin K)) :
    Restored initial set c ↔ (c.saved = [] → Origin.value initial set c.value = initial) := by
  simp [Restored,Untouched,Cell.map]

section Steps

variable [DecidableEq I]

def release (i : I) : List (I × V) → Option (V × List (I × V))
  | [] => none
  | (j,v) :: rest =>
    if j = i then some (v,rest) else (release i rest).map fun out => (out.1,(j,v) :: out.2)

def Cell.step (c : Cell I V) : Op I V → Cell I V
  | .enter i v => ⟨v,(i,c.value) :: c.saved⟩
  | .leave i =>
    match release i c.saved with
    | none => c
    | some (v,rest) => ⟨v,rest⟩

theorem release_map (f : V → W) (i : I) (saved : List (I × V)) :
    release i (saved.map fun s => (s.1,f s.2)) =
      (release i saved).map fun out => (f out.1,out.2.map fun s => (s.1,f s.2)) := by
  induction saved with
  | nil => rfl
  | cons s saved ih =>
    obtain ⟨j,v⟩ := s
    by_cases h : j = i
    · simp [release,h]
    · simp [release,h,ih,Function.comp_def]

theorem step_map (f : V → W) (c : Cell I V) (op : Op I V) :
    (c.step op).map f = (c.map f).step (op.map f) := by
  cases op with
  | enter i v => rfl
  | leave i =>
    have hmap : release i (c.map f).saved = _ := release_map f i c.saved
    simp only [Cell.step,Op.map,hmap]
    cases release i c.saved <;> rfl

theorem release_last {i : I} {v : V} {saved : List (I × V)} :
    release i saved = some (v,[]) ↔ saved = [(i,v)] := by
  cases saved with
  | nil => simp [release]
  | cons s saved =>
    obtain ⟨j,w⟩ := s
    by_cases h : j = i
    · simp [release,h]
    · simp [release,h]

section Restoring

variable (initial : V) (set : K → V)

theorem restored_step_iff {c : Cell I (Origin K)} (h : Restored initial set c)
    (op : Op I (Origin K)) :
    Restored initial set (c.step op) ↔ ClosesClean initial set c op := by
  rw [restored_iff] at h ⊢
  cases op with
  | enter i o => simp [Cell.step,ClosesClean]
  | leave i =>
    simp only [Cell.step,ClosesClean]
    cases hrelease : release i c.saved with
    | none =>
      refine iff_of_true h ?_
      intro kind hlast
      rw [release_last.mpr hlast] at hrelease
      cases hrelease
    | some out =>
      obtain ⟨origin,rest⟩ := out
      constructor
      · intro hrestored kind hlast
        rw [release_last.mpr hlast] at hrelease
        cases hrelease
        exact hrestored rfl
      · rintro hclean rfl
        have hlast := release_last.mp hrelease
        cases origin with
        | none => rfl
        | some kind => exact hclean kind hlast

theorem untouched_iff (ops : List (Op I (Origin K))) :
    Throughout Cell.step (Untouched initial) ⟨initial,[]⟩ (ops.map (Op.map (Origin.value initial set))) ↔
      Along Cell.step (ClosesClean initial set) ⟨none,[]⟩ ops := by
  have hsim := throughout_map Cell.step (step_map (I := I) (Origin.value initial set))
    (Untouched initial) ops ⟨none,[]⟩
  refine hsim.trans ?_
  have hrun := exact_condition (Cell.step (I := I)) (G := Restored initial set)
    (Q := fun _ _ => True) (E := fun _ _ => True) (C := ClosesClean initial set) (fun _ h => h)
    (fun c op h _ hclean => ⟨(restored_step_iff initial set h op).mpr hclean,trivial⟩)
    (fun c op h _ hnext _ => (restored_step_iff initial set h op).mp hnext) ops ⟨none,[]⟩
    (fun _ => rfl) (along_true ..)
  rwa [and_iff_left (along_true ..)] at hrun

end Restoring

def Rooted (c : Cell I (Origin K)) : Prop :=
  match c.saved.getLast? with
  | none => c.value = none
  | some s => s.2 = none

theorem rooted_enter {c : Cell I (Origin K)} (h : Rooted c) (i : I) (o : Origin K) :
    Rooted (c.step (.enter i o)) := by
  unfold Rooted at h ⊢
  cases hsaved : c.saved.getLast? with
  | none =>
    rw [hsaved] at h
    simpa [Cell.step,List.getLast?_cons,hsaved] using h
  | some s =>
    rw [hsaved] at h
    simpa [Cell.step,List.getLast?_cons,hsaved] using h

theorem rooted_leave {c : Cell I (Origin K)} {i : I} {o : Origin K} {rest : List (I × Origin K)}
    (h : Rooted c) (hsaved : c.saved = (i,o) :: rest) : Rooted (c.step (.leave i)) := by
  unfold Rooted at h ⊢
  rw [hsaved,List.getLast?_cons] at h
  simp only [Cell.step,hsaved,release]
  cases hrest : rest.getLast? with
  | none =>
    rw [hrest] at h
    simpa [hrest] using h
  | some s =>
    rw [hrest] at h
    simpa [hrest] using h

theorem nested_closes_clean (initial : V) (set : K → V) (ops : List (Op I (Origin K)))
    (c : Cell I (Origin K)) (h : Rooted c) (hnested : Along Cell.step Nested c ops) :
    Along Cell.step (ClosesClean initial set) c ops := by
  induction ops generalizing c with
  | nil => trivial
  | cons op ops ih =>
    cases op with
    | enter i o => exact ⟨trivial,ih _ (rooted_enter h i o) hnested.2⟩
    | leave i =>
      obtain ⟨⟨o,rest,hsaved⟩,hrest⟩ := hnested
      refine ⟨?_,ih _ (rooted_leave h hsaved) hrest⟩
      intro kind hlast
      unfold Rooted at h
      simp [hlast] at h

end Steps

end Scopes
