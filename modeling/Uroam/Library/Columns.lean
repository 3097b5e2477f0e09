import Mathlib.Data.List.Nodup
import Uroam.Library.Settings

namespace Columns
open Settings

variable {K V S R : Type}

structure Column (table : List (K × (S → V → S))) (key : K) (read : V → R) (field : S → R) : Prop
    where
  listed : key ∈ table.map Prod.fst
  sets : ∀ e ∈ table, e.1 = key → ∀ s v, field (e.2 s v) = read v
  keeps : ∀ e ∈ table, e.1 ≠ key → ∀ s v, field (e.2 s v) = field s

variable {table : List (K × (S → V → S))} {key : K} {read : V → R} {field : S → R}

theorem column_at (hnodup : (table.map Prod.fst).Nodup) {n : Nat} {set : S → V → S}
    (hn : getElem? table n = some (key,set)) (hset : ∀ s v, field (set s v) = read v)
    (hrest : ∀ e ∈ table.eraseIdx n, ∀ s v, field (e.2 s v) = field s) :
    Column table key read field := by
  have hmem : (key,set) ∈ table := List.mem_of_getElem? hn
  constructor
  · exact List.mem_map_of_mem hmem
  · intro e he hkey
    rw [List.inj_on_of_nodup_map hnodup he hmem hkey]
    exact hset
  · intro e he hkey
    obtain ⟨i,hi⟩ := List.getElem?_of_mem he
    apply hrest e
    rw [List.mem_eraseIdx_iff_getElem?]
    refine ⟨i,?_,hi⟩
    rintro rfl
    rw [hn] at hi
    cases hi
    exact hkey rfl

section Lines

variable [DecidableEq K]

def assign : List (K × (S → V → S)) → S → K × V → S
  | [], s, _ => s
  | e :: table, s, line => if line.1 = e.1 then e.2 s line.2 else assign table s line

def lastValue (key : K) (lines : List (K × V)) : Option V :=
  lastSome (fun line => if line.1 = key then some line.2 else none) lines

theorem assign_none {line : K × V} (h : line.1 ∉ table.map Prod.fst) (s : S) :
    assign table s line = s := by
  induction table with
  | nil => rfl
  | cons e table ih =>
    rw [List.map_cons] at h
    rw [assign,if_neg (List.ne_of_not_mem_cons h),ih (List.not_mem_of_not_mem_cons h)]

theorem assign_some {line : K × V} (h : line.1 ∈ table.map Prod.fst) :
    ∃ e ∈ table, e.1 = line.1 ∧ ∀ s, assign table s line = e.2 s line.2 := by
  induction table with
  | nil => cases h
  | cons e table ih =>
    by_cases he : line.1 = e.1
    · exact ⟨e,List.mem_cons_self,he.symm,fun s => by rw [assign,if_pos he]⟩
    · rcases List.mem_cons.mp h with hhead | htail
      · exact absurd hhead he
      · obtain ⟨f,hf,hkey,hset⟩ := ih htail
        refine ⟨f,List.mem_cons_of_mem e hf,hkey,?_⟩
        intro s
        rw [assign,if_neg he,hset s]

theorem column_line (h : Column table key read field) (s : S) (line : K × V) :
    field (assign table s line) =
      ((if line.1 = key then some line.2 else none).map read).getD (field s) := by
  by_cases hkey : line.1 = key
  · have hlisted : line.1 ∈ table.map Prod.fst := hkey ▸ h.listed
    obtain ⟨e,he,hekey,hset⟩ := assign_some hlisted
    rw [hset s,if_pos hkey,h.sets e he (hekey.trans hkey)]
    rfl
  · rw [if_neg hkey]
    by_cases hlisted : line.1 ∈ table.map Prod.fst
    · obtain ⟨e,he,hekey,hset⟩ := assign_some hlisted
      rw [hset s,h.keeps e he (hekey ▸ hkey)]
      rfl
    · rw [assign_none hlisted]
      rfl

theorem column_lines (h : Column table key read field) (lines : List (K × V)) (s : S) :
    field (lines.foldl (assign table) s) = ((lastValue key lines).map read).getD (field s) := by
  rw [foldl_field (column_line h) lines s,lastSome_value]
  rfl

theorem kept_lines (h : ∀ e ∈ table, ∀ s v, field (e.2 s v) = field s) (lines : List (K × V))
    (s : S) : field (lines.foldl (assign table) s) = field s := by
  induction lines generalizing s with
  | nil => rfl
  | cons line lines ih =>
    rw [List.foldl_cons,ih]
    by_cases hlisted : line.1 ∈ table.map Prod.fst
    · obtain ⟨e,he,-,hset⟩ := assign_some hlisted
      rw [hset s,h e he]
    · rw [assign_none hlisted]

end Lines

end Columns
