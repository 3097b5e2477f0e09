import Mathlib.Data.List.Perm.Basic
import Mathlib.Data.List.Nodup

namespace Ownership

variable {B : Type}

structure Ledger (B : Type) where
  owned : List B
  obtained : List B
  returned : List B

structure Balanced (l : Ledger B) : Prop where
  nodup : l.owned.Nodup
  accounted : l.obtained.Perm (l.owned ++ l.returned)

variable {l l' : Ledger B} {b : B}

theorem Balanced.moved (h : Balanced l) (hmoved : l.owned.Perm l'.owned)
    (hobtained : l'.obtained = l.obtained) (hreturned : l'.returned = l.returned) :
    Balanced l' := by
  refine ⟨hmoved.nodup h.nodup,?_⟩
  rw [hobtained,hreturned]
  exact h.accounted.trans (hmoved.append_right l.returned)

theorem Balanced.gained (h : Balanced l) (hnew : b ∉ l.owned)
    (hgained : (b :: l.owned).Perm l'.owned) (hobtained : l'.obtained = l.obtained ++ [b])
    (hreturned : l'.returned = l.returned) : Balanced l' := by
  refine ⟨hgained.nodup (List.nodup_cons.mpr ⟨hnew,h.nodup⟩),?_⟩
  rw [hobtained,hreturned]
  have hfirst : (l.obtained ++ [b]).Perm (b :: (l.owned ++ l.returned)) :=
    (List.perm_append_singleton ..).trans (h.accounted.cons b)
  exact hfirst.trans (hgained.append_right l.returned)

theorem Balanced.gaveBack (h : Balanced l) (hlost : l.owned.Perm (b :: l'.owned))
    (hobtained : l'.obtained = l.obtained) (hreturned : l'.returned = l.returned ++ [b]) :
    Balanced l' := by
  refine ⟨(List.nodup_cons.mp (hlost.nodup h.nodup)).2,?_⟩
  rw [hobtained,hreturned]
  have hlast : (b :: (l'.owned ++ l.returned)).Perm (l'.owned ++ (l.returned ++ [b])) := by
    rw [← List.append_assoc]
    exact (List.perm_append_singleton ..).symm
  exact (h.accounted.trans (hlost.append_right l.returned)).trans hlast

end Ownership
