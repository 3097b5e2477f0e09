import Mathlib.Algebra.Order.Ring.Int
import Mathlib.Algebra.Order.BigOperators.Group.List
import Mathlib.Data.List.Nodup

namespace Dict

variable {K V : Type} [DecidableEq K]

def get : List (K × V) → K → Option V
  | [], _ => none
  | e :: d, k => if k = e.1 then some e.2 else get d k

def set : List (K × V) → K → V → List (K × V)
  | [], k, v => [(k,v)]
  | e :: d, k, v => if k = e.1 then (e.1,v) :: d else e :: set d k v

@[simp] theorem get_nil (k : K) : get ([] : List (K × V)) k = none := rfl

theorem get_set_self (d : List (K × V)) (k : K) (v : V) : get (set d k v) k = some v := by
  induction d with
  | nil => simp [set,get]
  | cons e d ih =>
    by_cases h : k = e.1
    · simp [set,get,h]
    · simp [set,get,h,ih]

theorem get_set_ne (d : List (K × V)) {k l : K} (h : l ≠ k) (v : V) :
    get (set d k v) l = get d l := by
  induction d with
  | nil => simp [set,get,h]
  | cons e d ih =>
    by_cases he : k = e.1
    · have hl : l ≠ e.1 := he ▸ h
      simp [set,get,he,hl]
    · simp [set,get,he,ih]

theorem get_set (d : List (K × V)) (k l : K) (v : V) :
    get (set d k v) l = if l = k then some v else get d l := by
  split
  · next h => rw [h,get_set_self]
  · next h => exact get_set_ne d h v

theorem forall_set {P : V → Prop} {d : List (K × V)} (h : ∀ e ∈ d, P e.2) (k : K) {v : V}
    (hv : P v) : ∀ e ∈ set d k v, P e.2 := by
  induction d with
  | nil => simpa [set] using hv
  | cons e d ih =>
    rw [List.forall_mem_cons] at h
    unfold set
    split
    · exact List.forall_mem_cons.mpr ⟨hv,h.2⟩
    · exact List.forall_mem_cons.mpr ⟨h.1,ih h.2⟩

theorem set_get {d : List (K × V)} {k : K} {v : V} (h : get d k = some v) : set d k v = d := by
  induction d with
  | nil => cases h
  | cons e d ih =>
    unfold get at h
    unfold set
    split at h
    · next hk => rw [if_pos hk,← Option.some.inj h]
    · next hk => rw [if_neg hk,ih h]

theorem get_some {d : List (K × V)} {k : K} (h : k ∈ d.map Prod.fst) : ∃ v, get d k = some v := by
  induction d with
  | nil => cases h
  | cons e d ih =>
    unfold get
    split
    · exact ⟨e.2,rfl⟩
    · next hne => exact ih ((List.mem_cons.mp h).resolve_left hne)

theorem keys_set {d : List (K × V)} {k : K} (h : k ∈ d.map Prod.fst) (v : V) :
    (set d k v).map Prod.fst = d.map Prod.fst := by
  induction d with
  | nil => cases h
  | cons e d ih =>
    unfold set
    split
    · rfl
    · next hne => rw [List.map_cons,List.map_cons,ih ((List.mem_cons.mp h).resolve_left hne)]

theorem keys_set_new {d : List (K × V)} {k : K} (h : k ∉ d.map Prod.fst) (v : V) :
    (set d k v).map Prod.fst = d.map Prod.fst ++ [k] := by
  induction d with
  | nil => rfl
  | cons e d ih =>
    rw [List.map_cons,List.mem_cons,not_or] at h
    rw [set,if_neg h.1,List.map_cons,ih h.2,List.map_cons,List.cons_append]

theorem mem_keys_set (d : List (K × V)) (k l : K) (v : V) :
    l ∈ (set d k v).map Prod.fst ↔ l ∈ d.map Prod.fst ∨ l = k := by
  by_cases h : k ∈ d.map Prod.fst
  · rw [keys_set h]
    exact ⟨.inl,fun hl => hl.elim id fun he => he ▸ h⟩
  · rw [keys_set_new h,List.mem_append,List.mem_singleton]

theorem nodup_set {d : List (K × V)} (h : (d.map Prod.fst).Nodup) (k : K) (v : V) :
    ((set d k v).map Prod.fst).Nodup := by
  by_cases hk : k ∈ d.map Prod.fst
  · rwa [keys_set hk]
  · rw [keys_set_new hk]
    exact List.nodup_append'.mpr ⟨h,List.nodup_singleton k,List.disjoint_singleton.mpr hk⟩

theorem get_absent {d : List (K × V)} {k : K} (h : k ∉ d.map Prod.fst) : get d k = none := by
  induction d with
  | nil => rfl
  | cons e d ih =>
    rw [List.map_cons,List.mem_cons,not_or] at h
    rw [get,if_neg h.1]
    exact ih h.2

section Counts

def count (d : List (K × ℕ)) (k : K) : ℕ := (get d k).getD 0

def bump (d : List (K × ℕ)) (k : K) : List (K × ℕ) := set d k (count d k + 1)

theorem count_bump (d : List (K × ℕ)) (k l : K) :
    count (bump d k) l = if l = k then count d l + 1 else count d l := by
  rw [count,bump,get_set]
  split
  · next h => rw [Option.getD_some,h]
  · rfl

end Counts

section Totals

def total (d : List (K × ℤ)) : ℤ := (d.map Prod.snd).sum

def value (d : List (K × ℤ)) (k : K) : ℤ := (get d k).getD 0

theorem value_set (d : List (K × ℤ)) (k l : K) (v : ℤ) :
    value (set d k v) l = if l = k then v else value d l := by
  unfold value
  rw [get_set]
  split <;> rfl

theorem total_set (d : List (K × ℤ)) (k : K) (v : ℤ) :
    total (set d k v) = total d - value d k + v := by
  induction d with
  | nil => simp [set,total,value]
  | cons e d ih =>
    unfold total value at ih ⊢
    by_cases h : k = e.1
    · simp [set,get,h]
      omega
    · simp [set,get,h,ih]
      omega

omit [DecidableEq K] in
theorem total_nonneg {d : List (K × ℤ)} (h : ∀ e ∈ d, 0 ≤ e.2) : 0 ≤ total d := by
  apply List.sum_nonneg
  intro v hv
  obtain ⟨e,he,rfl⟩ := List.mem_map.mp hv
  exact h e he

theorem value_nonneg {d : List (K × ℤ)} (h : ∀ e ∈ d, 0 ≤ e.2) (k : K) : 0 ≤ value d k := by
  unfold value
  induction d with
  | nil => exact Int.le_refl 0
  | cons e d ih =>
    rw [List.forall_mem_cons] at h
    unfold get
    split
    · exact h.1
    · exact ih h.2

end Totals

end Dict
