import Uroam.Shared.Contents

namespace Uroam.Memopt

def ZeroedBlock (before after : Space) (ptr : Addr) (bytes : ℕ) : Prop :=
  ∀ i, i < bytes →
    (ptr + i) / memoptPageSize ∈ after.mapped \ before.mapped ∧ after.bytes (ptr + i) = 0

structure CallocSound (p : Process) (nmemb size : SizeT) (answer : Option Page) : Prop where
  zeroed : ∀ ptr, (memoptCalloc nmemb size answer p).1 = some ptr →
    ZeroedBlock p.space (memoptCalloc nmemb size answer p).2.space ptr (nmemb.toNat * size.toNat)
  refused : 2 ^ 64 ≤ nmemb.toNat * size.toNat → (memoptCalloc nmemb size answer p).1 = none

section Calloc

variable (p : Process) (nmemb size : SizeT)

theorem calloc_none : (memoptCalloc nmemb size none p).1 = none := by
  simp [memoptCalloc,memoptAlloc,memoptAllocFlags,memoptAllocNone,mmap]

theorem calloc_some (page : Page) :
    (memoptCalloc nmemb size (some page) p).1 = some (page * memoptPageSize) ∧
      (memoptCalloc nmemb size (some page) p).2.space =
        memset (mapPages p.space page (smallPages (nmemb * size))) (page * memoptPageSize) 0
          (nmemb * size).toNat := by
  simp [memoptCalloc,memoptAlloc,memoptAllocFlags,memoptAllocNone,mmap,smallPages]

theorem exact_product {nmemb size : SizeT} (h : nmemb.toNat * size.toNat < 2 ^ 64) :
    (nmemb * size).toNat = nmemb.toNat * size.toNat := by
  rw [BitVec.toNat_mul,Nat.mod_eq_of_lt h]

theorem mapped_page (page : ℕ) {i n : ℕ} (h : i < n * memoptPageSize) :
    (page * memoptPageSize + i) / memoptPageSize ∈ Finset.Ico page (page + n) := by
  simp only [memoptPageSize] at h ⊢
  exact Finset.mem_Ico.mpr ⟨by omega,by omega⟩

theorem zeroed_block {space : Space} {w : SizeT} {page : Page}
    (h : Fresh space w (smallPages w) (some page)) :
    ZeroedBlock space
      (memset (mapPages space page (smallPages w)) (page * memoptPageSize) 0 w.toNat)
      (page * memoptPageSize) w.toNat := by
  intro i hi
  have hpage := mapped_page page (Nat.lt_of_lt_of_le hi (size_within w))
  refine ⟨Finset.mem_sdiff.mpr ⟨Finset.mem_union_right _ hpage,?_⟩,?_⟩
  · exact Finset.disjoint_left.mp h.2.2 hpage
  · simp [memset,hi]

theorem calloc_sound_iff (answer : Option Page)
    (h : Fresh p.space (nmemb * size) (smallPages (nmemb * size)) answer) :
    CallocSound p nmemb size answer ↔ nmemb.toNat * size.toNat < 2 ^ 64 ∨ answer = none := by
  cases answer with
  | none =>
    have hnone := calloc_none p nmemb size
    have hsound : CallocSound p nmemb size none := by
      refine ⟨?_,fun _ => hnone⟩
      intro ptr hptr
      cases hnone.symm.trans hptr
    simp [hsound]
  | some page =>
    obtain ⟨hptr,hspace⟩ := calloc_some p nmemb size page
    constructor
    · intro hsound
      left
      by_contra hlarge
      cases hptr.symm.trans (hsound.refused (not_lt.mp hlarge))
    · rintro (hsmall | hnone)
      · refine ⟨?_,fun hlarge => absurd hsmall (not_lt.mpr hlarge)⟩
        intro ptr hp
        cases hptr.symm.trans hp
        rw [hspace,← exact_product hsmall]
        exact zeroed_block h
      · cases hnone

end Calloc

theorem calloc_sound_iff_six :
    CallocSound (.fresh fun _ => 1) 2 3 (some 1) ↔
      (2 : SizeT).toNat * (3 : SizeT).toNat < 2 ^ 64 ∨ some 1 = (none : Option Page) :=
  calloc_sound_iff (.fresh fun _ => 1) 2 3 (some 1) (by decide +kernel)

theorem wrapped_product_granted :
    ¬ ∀ (p : Process) (nmemb size : SizeT) (answer : Option Page),
      Fresh p.space (nmemb * size) (smallPages (nmemb * size)) answer →
        CallocSound p nmemb size answer := by
  intro h
  have hsound := h (.fresh fun _ => 0) 0x8000000000000001 2 (some 1) (by decide +kernel)
  exact absurd (hsound.refused (by decide)) (by decide +kernel)

end Uroam.Memopt
