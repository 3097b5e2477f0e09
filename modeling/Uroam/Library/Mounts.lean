import Mathlib.Data.List.Infix

namespace Mounts

variable {C T : Type}

inductive Table (C T : Type) where
  | root (made : List (List C))
  | mounted (point : List C) (tag : T) (made : List (List C)) (below : Table C T)

namespace Table

variable [DecidableEq C]

def present : Table C T → List C → Bool
  | .root made, q => made.any fun d => decide (q <+: d)
  | .mounted point _ made below, q =>
    if point <+: q then decide (q = point) || made.any fun d => decide (q <+: d)
    else decide (q <+: point) || below.present q

def tagAt : Table C T → List C → Option T
  | .root _, _ => none
  | .mounted point tag _ below, q =>
    if point = q then some tag else if point <+: q then none else below.tagAt q

def createAll (p : List C) : Table C T → Table C T
  | .root made => .root (p :: made)
  | .mounted point tag made below =>
    if point <+: p then .mounted point tag (p :: made) below
    else .mounted point tag made (below.createAll p)

def mount (p : List C) (tag : T) (t : Table C T) : Table C T := .mounted p tag [] t

def umount (p : List C) : Table C T → Option (Table C T)
  | .root _ => none
  | .mounted point tag made below =>
    if point = p then some below
    else if point <+: p ∨ p <+: point then none
    else (below.umount p).map (.mounted point tag made)

def count (own : T → Bool) : Table C T → List C → Nat
  | .root _, _ => 0
  | .mounted point tag _ below, p =>
    below.count own p + if point = p ∧ own tag = true then 1 else 0

def ownAt (own : T → Bool) (t : Table C T) (p : List C) : Bool := (t.tagAt p).any own

theorem present_ancestor {t : Table C T} {q r : List C} (h : t.present q = true) (hr : r <+: q) :
    t.present r = true := by
  induction t with
  | root made =>
    simp only [present,List.any_eq_true,decide_eq_true_eq] at h ⊢
    obtain ⟨d,hd,hq⟩ := h
    exact ⟨d,hd,hr.trans hq⟩
  | mounted point tag made below ih =>
    by_cases hpr : point <+: r
    · simp only [present,if_pos hpr,if_pos (hpr.trans hr),Bool.or_eq_true,decide_eq_true_eq,
        List.any_eq_true] at h ⊢
      rcases h with rfl | ⟨d,hd,hq⟩
      · exact .inl (hr.eq_of_length (Nat.le_antisymm hr.length_le hpr.length_le))
      · exact .inr ⟨d,hd,hr.trans hq⟩
    · simp only [present,if_neg hpr,Bool.or_eq_true,decide_eq_true_eq] at h ⊢
      by_cases hpq : point <+: q
      · exact .inl ((List.prefix_or_prefix_of_prefix hr hpq).resolve_right hpr)
      · rw [if_neg hpq,Bool.or_eq_true,decide_eq_true_eq] at h
        rcases h with hq | hq
        · exact .inl (hr.trans hq)
        · exact .inr (ih hq)

theorem present_of_tagAt {t : Table C T} {p : List C} {tag : T} (h : t.tagAt p = some tag) :
    t.present p = true := by
  induction t with
  | root made => cases h
  | mounted point other made below ih =>
    unfold tagAt at h
    split_ifs at h with hp hpre
    · simp [present,hp]
    · simp [present,hpre,ih h]

theorem ownAt_some {own : T → Bool} {t : Table C T} {p : List C} (h : t.ownAt own p = true) :
    ∃ tag, t.tagAt p = some tag := by
  unfold ownAt at h
  cases htag : t.tagAt p with
  | some tag => exact ⟨tag,rfl⟩
  | none =>
    rw [htag] at h
    cases h

theorem present_of_ownAt {own : T → Bool} {t : Table C T} {p : List C} (h : t.ownAt own p = true) :
    t.present p = true := by
  obtain ⟨tag,htag⟩ := ownAt_some h
  exact present_of_tagAt htag

@[simp] theorem present_createAll (t : Table C T) (p q : List C) :
    (t.createAll p).present q = (t.present q || decide (q <+: p)) := by
  induction t with
  | root made => simp [createAll,present,Bool.or_comm]
  | mounted point tag made below ih =>
    by_cases hp : point <+: p
    · by_cases hq : point <+: q
      · simp [createAll,present,hp,hq,Bool.or_comm,Bool.or_left_comm]
      · have hqp : q <+: p → q <+: point := fun h =>
          (List.prefix_or_prefix_of_prefix h hp).resolve_right hq
        by_cases h : q <+: p
        · simp [createAll,present,hp,hq,hqp h]
        · simp [createAll,present,hp,hq,h]
    · by_cases hq : point <+: q
      · have hqp : ¬ q <+: p := fun h => hp (hq.trans h)
        simp [createAll,present,hp,hq,hqp]
      · simp [createAll,present,hp,hq,ih,Bool.or_assoc]

@[simp] theorem tagAt_createAll (t : Table C T) (p q : List C) :
    (t.createAll p).tagAt q = t.tagAt q := by
  induction t with
  | root made => rfl
  | mounted point tag made below ih =>
    by_cases hp : point <+: p
    · simp [createAll,tagAt,hp]
    · simp [createAll,tagAt,hp,ih]

@[simp] theorem ownAt_createAll (own : T → Bool) (t : Table C T) (p q : List C) :
    (t.createAll p).ownAt own q = t.ownAt own q := by simp [ownAt]

@[simp] theorem count_createAll (own : T → Bool) (t : Table C T) (p q : List C) :
    (t.createAll p).count own q = t.count own q := by
  induction t with
  | root made => rfl
  | mounted point tag made below ih =>
    by_cases hp : point <+: p
    · simp [createAll,count,hp]
    · simp [createAll,count,hp,ih]

theorem ownAt_mount_self {own : T → Bool} {tag : T} (h : own tag = true) (t : Table C T)
    (p : List C) : (t.mount p tag).ownAt own p = true := by
  simp [ownAt,mount,tagAt,h]

theorem ownAt_mount_new {own : T → Bool} {t : Table C T} {p q : List C}
    (hp : t.present p = false) (hne : q ≠ p) (tag : T) :
    ((t.createAll p).mount p tag).ownAt own q = t.ownAt own q := by
  have hne' : ¬ p = q := fun h => hne h.symm
  by_cases hpq : p <+: q
  · have hq : t.ownAt own q = false := by
      cases h : t.ownAt own q with
      | false => rfl
      | true =>
        rw [present_ancestor (present_of_ownAt h) hpq] at hp
        cases hp
    rw [hq]
    simp [ownAt,mount,tagAt,hne',hpq]
  · simp [ownAt,mount,tagAt,hne',hpq]

theorem present_mount_new (t : Table C T) (p q : List C) (tag : T) :
    ((t.createAll p).mount p tag).present q =
      if p <+: q then decide (q = p) else t.present q || decide (q <+: p) := by
  by_cases hpq : p <+: q
  · simp [mount,present,hpq]
  · simp [mount,present,hpq,Bool.or_comm]

theorem tagAt_umount {t t' : Table C T} {p q : List C} {tag : T} (h : t.umount p = some t')
    (hq : t.tagAt q = some tag) (hne : q ≠ p) : t'.tagAt q = some tag := by
  induction t generalizing t' with
  | root made => cases h
  | mounted point other made below ih =>
    unfold umount at h
    split_ifs at h with hp hrelated
    · obtain rfl := Option.some.inj h
      have hne' : ¬ point = q := fun hpq => hne (hpq.symm.trans hp)
      unfold tagAt at hq
      rw [if_neg hne'] at hq
      split_ifs at hq
      exact hq
    · obtain ⟨rest,hrest,rfl⟩ := Option.map_eq_some_iff.mp h
      unfold tagAt at hq ⊢
      split_ifs at hq ⊢ with hpq hpre
      · exact hq
      · exact ih hrest hq

theorem count_pos {own : T → Bool} {t : Table C T} {p : List C} (h : t.ownAt own p = true) :
    0 < t.count own p := by
  induction t with
  | root made => cases h
  | mounted point tag made below ih =>
    unfold ownAt tagAt at h
    unfold count
    split_ifs at h with hp hpre
    · rw [if_pos ⟨hp,by simpa using h⟩]
      exact Nat.succ_pos _
    · cases h
    · exact Nat.lt_of_lt_of_le (ih h) (Nat.le_add_right ..)

theorem count_umount {own : T → Bool} {t t' : Table C T} {p : List C}
    (h : t.umount p = some t') (hp : t.ownAt own p = true) (q : List C) :
    t.count own q = t'.count own q + if p = q then 1 else 0 := by
  induction t generalizing t' with
  | root made => cases h
  | mounted point tag made below ih =>
    unfold umount at h
    unfold ownAt tagAt at hp
    split_ifs at h with hpoint hrelated
    · obtain rfl := Option.some.inj h
      rw [if_pos hpoint] at hp
      have hown : own tag = true := by simpa using hp
      simp [count,hpoint,hown]
    · obtain ⟨rest,hrest,rfl⟩ := Option.map_eq_some_iff.mp h
      rw [if_neg hpoint,if_neg fun hpre => hrelated (.inl hpre)] at hp
      have hbelow := ih hrest hp
      simp only [count]
      omega

def Single (own : T → Bool) (t : Table C T) : Prop :=
  ∀ p, t.count own p = if t.ownAt own p = true then 1 else 0

theorem single_createAll {own : T → Bool} {t : Table C T} (h : t.Single own) (p : List C) :
    (t.createAll p).Single own := by
  intro q
  simpa using h q

theorem single_mount_new {own : T → Bool} {t : Table C T} {p : List C} (h : t.Single own)
    (hp : t.present p = false) {tag : T} (htag : own tag = true) :
    ((t.createAll p).mount p tag).Single own := by
  intro q
  have hbefore := h q
  by_cases hq : q = p
  · subst hq
    have hnone : ¬ t.ownAt own q = true := by
      intro hown
      rw [present_of_ownAt hown] at hp
      cases hp
    rw [if_neg hnone] at hbefore
    rw [if_pos (ownAt_mount_self htag _ q)]
    simp [mount,count,hbefore,htag]
  · have hne : ¬ p = q := fun he => hq he.symm
    rw [ownAt_mount_new hp hq]
    simpa [mount,count,hne] using hbefore

theorem single_none {own : T → Bool} {t : Table C T} (h : ∀ p, t.count own p = 0) :
    t.Single own := by
  intro p
  cases hown : t.ownAt own p with
  | false => simpa using h p
  | true =>
    have hpos := count_pos hown
    rw [h p] at hpos
    cases hpos

theorem ownAt_umount_self {own : T → Bool} {t t' : Table C T} {p : List C} (h : t.Single own)
    (hu : t.umount p = some t') (hp : t.ownAt own p = true) : t'.ownAt own p = false := by
  have hcount := count_umount hu hp p
  rw [h p,if_pos hp,if_pos rfl] at hcount
  cases hown : t'.ownAt own p with
  | false => rfl
  | true =>
    have hpos := count_pos hown
    omega

theorem ownAt_umount {own : T → Bool} {t t' : Table C T} {p q : List C}
    (hu : t.umount p = some t') (hq : t.ownAt own q = true) (hne : q ≠ p) :
    t'.ownAt own q = true := by
  obtain ⟨tag,htag⟩ := ownAt_some hq
  unfold ownAt at hq ⊢
  rw [tagAt_umount hu htag hne,← htag]
  exact hq

theorem single_umount {own : T → Bool} {t t' : Table C T} {p : List C} (h : t.Single own)
    (hu : t.umount p = some t') (hp : t.ownAt own p = true) : t'.Single own := by
  intro q
  have hcount := count_umount hu hp q
  have hbefore := h q
  by_cases hq : q = p
  · subst hq
    rw [ownAt_umount_self h hu hp,if_neg Bool.false_ne_true]
    rw [if_pos hp] at hbefore
    rw [if_pos rfl] at hcount
    omega
  · have hne : ¬ p = q := fun he => hq he.symm
    rw [if_neg hne] at hcount
    cases hown : t.ownAt own q with
    | true =>
      rw [ownAt_umount hu hown hq,if_pos rfl]
      rw [hown,if_pos rfl] at hbefore
      omega
    | false =>
      rw [hown,if_neg Bool.false_ne_true] at hbefore
      have hzero : t'.count own q = 0 := by omega
      cases hown' : t'.ownAt own q with
      | false => simpa using hzero
      | true =>
        have hpos := count_pos hown'
        omega

end Table

end Mounts
