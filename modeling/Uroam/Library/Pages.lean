import Mathlib.Order.Interval.Finset.Nat
import Mathlib.Tactic.Ring

namespace Pages

variable {ps : ℕ}

def touched (ps p len : ℕ) : Finset ℕ := (Finset.Ico p (p + len)).image (· / ps)

def count (ps len : ℕ) : ℕ := (len + (ps - 1)) / ps

theorem count_pos (hps : 0 < ps) {len : ℕ} (h : 0 < len) : 0 < count ps len :=
  Nat.div_pos (by omega) hps

theorem count_le_one (hps : 0 < ps) {len : ℕ} : count ps len ≤ 1 ↔ len ≤ ps := by
  rw [count,Nat.div_le_iff_le_mul_add_pred hps]
  omega

theorem lt_count_iff (hps : 0 < ps) {len i : ℕ} : i < count ps len ↔ i * ps < len := by
  rw [count,← Nat.succ_le_iff,Nat.le_div_iff_mul_le hps,Nat.succ_mul]
  omega

theorem touched_aligned (hps : 0 < ps) (page len : ℕ) :
    touched ps (page * ps) len = Finset.Ico page (page + count ps len) := by
  ext k
  simp only [touched,Finset.mem_image,Finset.mem_Ico]
  constructor
  · rintro ⟨a,⟨hlo,hhi⟩,rfl⟩
    have hk : page ≤ a / ps := (Nat.le_div_iff_mul_le hps).mpr hlo
    have hlt : a / ps - page < count ps len := by
      rw [lt_count_iff hps,Nat.sub_mul]
      have := Nat.div_mul_le_self a ps
      have : page * ps ≤ a / ps * ps := Nat.mul_le_mul_right ps hk
      omega
    omega
  · rintro ⟨hlo,hhi⟩
    have hlt : k - page < count ps len := by omega
    rw [lt_count_iff hps,Nat.sub_mul] at hlt
    have hmul : page * ps ≤ k * ps := Nat.mul_le_mul_right ps hlo
    exact ⟨k * ps,⟨hmul,by omega⟩,Nat.mul_div_cancel k hps⟩

theorem touched_one (hps : 0 < ps) (page : ℕ) : touched ps (page * ps) ps = {page} := by
  have h1 : count ps ps = 1 := by
    have := count_pos hps hps
    have := (count_le_one hps).mpr (le_refl ps)
    omega
  rw [touched_aligned hps,h1]
  simp

theorem first_mem_touched (hps : 0 < ps) {page len : ℕ} (h : 0 < len) :
    page ∈ touched ps (page * ps) len := by
  rw [touched_aligned hps,Finset.mem_Ico]
  have := count_pos hps h
  omega

theorem second_mem_touched (hps : 0 < ps) {page len : ℕ} (h : ps < len) :
    page + 1 ∈ touched ps (page * ps) len := by
  rw [touched_aligned hps,Finset.mem_Ico]
  have : ¬ count ps len ≤ 1 := by
    rw [count_le_one hps]
    omega
  omega

theorem touched_eq_singleton (hps : 0 < ps) {page len : ℕ} (h0 : 0 < len) (h1 : len ≤ ps) :
    touched ps (page * ps) len = {page} := by
  have := count_pos hps h0
  have := (count_le_one hps).mpr h1
  have hc : count ps len = 1 := by omega
  rw [touched_aligned hps,hc]
  simp

end Pages
