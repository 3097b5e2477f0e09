import Mathlib.Data.List.Range
import Mathlib.Data.List.Perm.Basic

namespace Slots

-- A variable with the only handle of an object. Objects are numbered as they are made; one whose
-- handle is overwritten is lost.
structure Slot where
  held : Option Nat
  made : Nat
  freed : List Nat
  lost : List Nat
  deriving DecidableEq, Repr

namespace Slot

def empty : Slot := ⟨none,0,[],[]⟩

def clear (s : Slot) : Slot := { s with held := none, lost := s.lost ++ s.held.toList }

def fill (s : Slot) : Slot :=
  { s with held := some s.made, made := s.made + 1, lost := s.lost ++ s.held.toList }

def free (s : Slot) : Slot := { s with held := none, freed := s.freed ++ s.held.toList }

def count (s : Slot) : Nat := s.held.toList.length

@[simp] theorem clear_held (s : Slot) : s.clear.held = none := rfl

@[simp] theorem fill_held (s : Slot) : s.fill.held = some s.made := rfl

@[simp] theorem free_held (s : Slot) : s.free.held = none := rfl

theorem free_eq {s : Slot} (h : s.held = none) : s.free = s := by
  obtain ⟨held,made,freed,lost⟩ := s
  obtain rfl : held = none := h
  simp [free]

def Accounted (s : Slot) : Prop := (List.range s.made).Perm (s.freed ++ s.held.toList ++ s.lost)

variable {s : Slot}

theorem empty_accounted : empty.Accounted := List.Perm.refl []

theorem clear_accounted (h : s.Accounted) : s.clear.Accounted := by
  have hswap : (s.freed ++ s.held.toList ++ s.lost).Perm (s.freed ++ [] ++ (s.lost ++ s.held.toList)) := by
    rw [List.append_nil,List.append_assoc]
    exact List.perm_append_comm.append_left s.freed
  exact h.trans hswap

theorem fill_accounted (h : s.Accounted) : s.fill.Accounted := by
  have hclear := clear_accounted h
  simp only [Accounted,clear,Option.toList_none,List.append_nil] at hclear
  rw [Accounted,fill,List.range_succ]
  have hnew : (List.range s.made ++ [s.made]).Perm
      (s.freed ++ (s.lost ++ s.held.toList) ++ [s.made]) := hclear.append_right [s.made]
  refine hnew.trans ?_
  simp only [Option.toList_some,List.append_assoc]
  apply List.Perm.append_left
  rw [← List.append_assoc]
  exact List.perm_append_comm

theorem free_accounted (h : s.Accounted) : s.free.Accounted := by
  simpa [Accounted,free] using h

end Slot

end Slots
