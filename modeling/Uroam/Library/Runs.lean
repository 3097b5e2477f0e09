import Mathlib.Data.List.Infix

namespace Runs

variable {S A : Type} (step : S → A → S)

def exec (s : S) (as : List A) : S := as.foldl step s

def Along (Q : S → A → Prop) : S → List A → Prop
  | _, [] => True
  | s, a :: as => Q s a ∧ Along Q (step s a) as

def Throughout (P : S → Prop) : S → List A → Prop
  | s, [] => P s
  | s, a :: as => P s ∧ Throughout P (step s a) as

@[simp] theorem exec_nil (s : S) : exec step s [] = s := rfl

@[simp] theorem exec_cons (s : S) (a : A) (as : List A) :
    exec step s (a :: as) = exec step (step s a) as := rfl

theorem exec_append (s : S) (as bs : List A) :
    exec step s (as ++ bs) = exec step (exec step s as) bs := List.foldl_append ..

theorem throughout_head {P : S → Prop} {s : S} {as : List A} (h : Throughout step P s as) : P s := by
  cases as with
  | nil => exact h
  | cons a as => exact h.1

theorem throughout_iff (P : S → Prop) (s : S) (as : List A) :
    Throughout step P s as ↔ ∀ pre, pre <+: as → P (exec step s pre) := by
  induction as generalizing s with
  | nil => simp [Throughout]
  | cons a as ih =>
    constructor
    · rintro ⟨hs,hrest⟩ pre hpre
      cases pre with
      | nil => exact hs
      | cons b pre =>
        obtain ⟨rfl,hp⟩ := List.cons_prefix_cons.mp hpre
        exact (ih (step s b)).mp hrest pre hp
    · intro h
      refine ⟨h [] List.nil_prefix,(ih (step s a)).mpr ?_⟩
      intro pre hpre
      exact h (a :: pre) (List.cons_prefix_cons.mpr ⟨rfl,hpre⟩)

theorem along_append {Q : S → A → Prop} (s : S) (as bs : List A) :
    Along step Q s (as ++ bs) ↔ Along step Q s as ∧ Along step Q (exec step s as) bs := by
  induction as generalizing s with
  | nil => simp [Along]
  | cons a as ih => simp [Along,ih,and_assoc]

theorem along_iff {Q : S → A → Prop} (s : S) (as : List A) :
    Along step Q s as ↔ ∀ pre a, pre ++ [a] <+: as → Q (exec step s pre) a := by
  induction as generalizing s with
  | nil => simp [Along]
  | cons a as ih =>
    constructor
    · rintro ⟨hq,hqs⟩ pre b hpre
      cases pre with
      | nil =>
        obtain ⟨rfl,_⟩ := List.cons_prefix_cons.mp hpre
        exact hq
      | cons c pre =>
        obtain ⟨rfl,hp⟩ := List.cons_prefix_cons.mp hpre
        exact (ih (step s c)).mp hqs pre b hp
    · intro h
      refine ⟨h [] a (List.cons_prefix_cons.mpr ⟨rfl,List.nil_prefix⟩),(ih (step s a)).mpr ?_⟩
      intro pre b hpre
      exact h (a :: pre) b (List.cons_prefix_cons.mpr ⟨rfl,hpre⟩)

theorem along_all {Q : S → A → Prop} (h : ∀ s a, Q s a) (as : List A) (s : S) :
    Along step Q s as := by
  induction as generalizing s with
  | nil => trivial
  | cons a as ih => exact ⟨h s a,ih (step s a)⟩

theorem along_true (as : List A) (s : S) : Along step (fun _ _ => True) s as :=
  along_all step (fun _ _ => trivial) as s

theorem invariant {I : S → Prop} {E : S → A → Prop}
    (hstep : ∀ s a, I s → E s a → I (step s a)) :
    ∀ (as : List A) (s : S), I s → Along step E s as → I (exec step s as) := by
  intro as
  induction as with
  | nil => intro s hs _; exact hs
  | cons a as ih =>
    intro s hs he
    exact ih (step s a) (hstep s a hs he.1) he.2

theorem throughout_counted {I : Nat → S → Prop} {E : S → A → Prop} {bound : Nat}
    (hstep : ∀ n s a, n < bound → I n s → E s a → I (n + 1) (step s a)) (as : List A) (n : Nat)
    (s : S) (hs : I n s) (he : Along step E s as) (hlen : n + as.length ≤ bound) :
    Throughout step (fun s => ∃ n ≤ bound, I n s) s as := by
  induction as generalizing n s with
  | nil => exact ⟨n,hlen,hs⟩
  | cons a as ih =>
    rw [List.length_cons] at hlen
    refine ⟨⟨n,by omega,hs⟩,?_⟩
    exact ih (n + 1) (step s a) (hstep n s a (by omega) hs he.1) he.2 (by omega)

theorem throughout_mono {P Q : S → Prop} (h : ∀ s, P s → Q s) (as : List A) (s : S)
    (hp : Throughout step P s as) : Throughout step Q s as := by
  induction as generalizing s with
  | nil => exact h s hp
  | cons a as ih => exact ⟨h s hp.1,ih (step s a) hp.2⟩

theorem along_and {Q R : S → A → Prop} (as : List A) (s : S) :
    Along step (fun s a => Q s a ∧ R s a) s as ↔ Along step Q s as ∧ Along step R s as := by
  induction as generalizing s with
  | nil => simp [Along]
  | cons a as ih =>
    rw [Along,Along,Along,ih]
    exact and_and_and_comm

theorem along_forall (C : A → Prop) (as : List A) (s : S) :
    Along step (fun _ => C) s as ↔ ∀ a ∈ as, C a := by
  induction as generalizing s with
  | nil => simp [Along]
  | cons a as ih => simp [Along,ih]

theorem throughout_under {G P : S → Prop} {E : S → A → Prop}
    (hstep : ∀ s a, G s → E s a → G (step s a)) (hp : ∀ s, G s → P s) (as : List A) (s : S)
    (hs : G s) (he : Along step E s as) : Throughout step P s as := by
  induction as generalizing s with
  | nil => exact hp s hs
  | cons a as ih => exact ⟨hp s hs,ih (step s a) (hstep s a hs he.1) he.2⟩

theorem throughout_of_invariant {G P : S → Prop} (hstep : ∀ s a, G s → G (step s a))
    (hp : ∀ s, G s → P s) (as : List A) (s : S) (hs : G s) : Throughout step P s as :=
  throughout_under step (E := fun _ _ => True) (fun s a h _ => hstep s a h) hp as s hs
    (along_true step as s)

theorem exact_condition {G P : S → Prop} {Q C E : S → A → Prop}
    (hsafe : ∀ s, G s → P s)
    (hgood : ∀ s a, G s → E s a → C s a → G (step s a) ∧ Q s a)
    (hbad : ∀ s a, G s → E s a → P (step s a) → Q s a → C s a) :
    ∀ (as : List A) (s : S), G s → Along step E s as →
      (Throughout step P s as ∧ Along step Q s as ↔ Along step C s as) := by
  intro as
  induction as with
  | nil => intro s hs _; simp [Throughout,Along,hsafe s hs]
  | cons a as ih =>
    intro s hs he
    constructor
    · rintro ⟨⟨_,hp⟩,hq,hqs⟩
      have hc : C s a := hbad s a hs he.1 (throughout_head step hp) hq
      have hg := (hgood s a hs he.1 hc).1
      exact ⟨hc,(ih (step s a) hg he.2).mp ⟨hp,hqs⟩⟩
    · rintro ⟨hc,hcs⟩
      obtain ⟨hg,hq⟩ := hgood s a hs he.1 hc
      obtain ⟨hp,hqs⟩ := (ih (step s a) hg he.2).mpr hcs
      exact ⟨⟨hsafe s hs,hp⟩,hq,hqs⟩

theorem throughout_true (as : List A) (s : S) : Throughout step (fun _ => True) s as := by
  induction as generalizing s with
  | nil => trivial
  | cons a as ih => exact ⟨trivial,ih (step s a)⟩

theorem exact_steps {G : S → Prop} {Q C E : S → A → Prop}
    (hgood : ∀ s a, G s → E s a → G (step s a))
    (hexact : ∀ s a, G s → E s a → (Q s a ↔ C s a)) (as : List A) (s : S) (hs : G s)
    (he : Along step E s as) : Along step Q s as ↔ Along step C s as := by
  have h := exact_condition step (P := fun _ => True) (fun _ _ => trivial)
    (fun s a hg he hc => ⟨hgood s a hg he,(hexact s a hg he).mpr hc⟩)
    (fun s a hg he _ hq => (hexact s a hg he).mp hq) as s hs he
  rw [← h,and_iff_right (throughout_true step as s)]

theorem throughout_map {T B : Type} {next : T → B → T} {f : S → T} {g : A → B}
    (hstep : ∀ s a, f (step s a) = next (f s) (g a)) (P : T → Prop) (as : List A) (s : S) :
    Throughout next P (f s) (as.map g) ↔ Throughout step (fun s => P (f s)) s as := by
  induction as generalizing s with
  | nil => exact Iff.rfl
  | cons a as ih =>
    rw [List.map_cons,Throughout,Throughout,← hstep s a,ih (step s a)]

theorem along_of_invariant {G : S → Prop} {Q C : S → A → Prop}
    (hgood : ∀ s a, G s → C s a → G (step s a) ∧ Q s a) :
    ∀ (as : List A) (s : S), G s → Along step C s as → Along step Q s as := by
  intro as
  induction as with
  | nil => intro s _ _; trivial
  | cons a as ih =>
    rintro s hs ⟨hc,hcs⟩
    obtain ⟨hg,hq⟩ := hgood s a hs hc
    exact ⟨hq,ih (step s a) hg hcs⟩

theorem armed_caught {Armed : S → Prop} {Q : S → A → Prop} {sequel : List A}
    (hkeeps : ∀ s a, Armed s → Q s a → Armed (step s a))
    (hfires : ∀ s, Armed s → ¬ Along step Q s sequel) :
    ∀ (as : List A) (s : S), Armed s → ¬ Along step Q s (as ++ sequel) := by
  intro as
  induction as with
  | nil => exact hfires
  | cons a as ih =>
    rintro s hs ⟨hq,hqs⟩
    exact ih (step s a) (hkeeps s a hs hq) hqs

theorem condition_of_sequel {G Armed : S → Prop} {Q C : S → A → Prop} {sequel : List A}
    (hgood : ∀ s a, G s → C s a → G (step s a)) (harms : ∀ s a, G s → ¬ C s a → Armed (step s a))
    (hkeeps : ∀ s a, Armed s → Q s a → Armed (step s a))
    (hfires : ∀ s, Armed s → ¬ Along step Q s sequel) :
    ∀ (as : List A) (s : S), G s → Along step Q s (as ++ sequel) → Along step C s as := by
  intro as
  induction as with
  | nil => intro s _ _; trivial
  | cons a as ih =>
    rintro s hs ⟨_,hqs⟩
    by_cases hc : C s a
    · exact ⟨hc,ih (step s a) (hgood s a hs hc) hqs⟩
    · exact absurd hqs (armed_caught step hkeeps hfires as (step s a) (harms s a hs hc))

theorem reaches_of_measure {I P : S → Prop} (bound : S → ℕ)
    (hstep : ∀ s, I s → ¬ P s → ∃ a, I (step s a) ∧ bound (step s a) < bound s) (s : S)
    (hs : I s) : ∃ as, as.length ≤ bound s ∧ P (exec step s as) := by
  induction hn : bound s using Nat.strong_induction_on generalizing s with
  | h n ih =>
    by_cases hp : P s
    · exact ⟨[],Nat.zero_le _,hp⟩
    · obtain ⟨a,hnext,hlt⟩ := hstep s hs hp
      obtain ⟨as,hlen,hend⟩ := ih (bound (step s a)) (by omega) (step s a) hnext rfl
      exact ⟨a :: as,by rw [List.length_cons]; omega,hend⟩

end Runs
