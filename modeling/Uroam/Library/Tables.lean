import Uroam.Library.Dict

namespace Tables

inductive Tree (K L : Type) where
  | leaf (value : L)
  | dict (entries : List (K × Tree K L))

variable {K L : Type} [DecidableEq K]

def lookup : List K → Option (Tree K L) → Option (Tree K L)
  | [], place => place
  | part :: path, some (.dict entries) => lookup path (Dict.get entries part)
  | _ :: _, _ => none

def put (v : Tree K L) : List K → Option (Tree K L) → Option (Tree K L)
  | [], _ => some v
  | part :: path, some (.dict entries) =>
    (put v path (Dict.get entries part)).map fun t => .dict (Dict.set entries part t)
  | _ :: _, _ => none

def HoldsDict (place : Option (Tree K L)) (path : List K) : Prop :=
  ∃ entries, lookup path place = some (.dict entries)

structure Stored (path : List K) (v : Tree K L) (before after : Option (Tree K L)) : Prop where
  holds : lookup path after = some v
  frame : ∀ q, ¬ path <+: q → ¬ q <+: path → lookup q after = lookup q before

variable {v : Tree K L} {path : List K} {place after : Option (Tree K L)}

theorem lookup_dict (part : K) (path : List K) (entries : List (K × Tree K L)) :
    lookup (part :: path) (some (.dict entries)) = lookup path (Dict.get entries part) := by
  rw [lookup]

theorem put_dict {part : K} {entries : List (K × Tree K L)}
    (h : put v (part :: path) (some (.dict entries)) = after) (hsome : after ≠ none) :
    ∃ t, put v path (Dict.get entries part) = some t ∧
      after = some (.dict (Dict.set entries part t)) := by
  rw [put] at h
  cases hput : put v path (Dict.get entries part) with
  | none =>
    rw [hput,Option.map_none] at h
    exact absurd h.symm hsome
  | some t =>
    rw [hput,Option.map_some] at h
    exact ⟨t,rfl,h.symm⟩

theorem lookup_put {t : Tree K L} (h : put v path place = some t) :
    lookup path (some t) = some v := by
  induction path generalizing place t with
  | nil => exact h.symm
  | cons part path ih =>
    match place,h with
    | some (.dict entries),h =>
      obtain ⟨sub,hsub,ht⟩ := put_dict h (Option.some_ne_none t)
      obtain rfl := Option.some.inj ht
      rw [lookup_dict,Dict.get_set_self]
      exact ih hsub

theorem lookup_put_apart {t : Tree K L} (h : put v path place = some t) {q : List K}
    (hq : ¬ path <+: q) (hpath : ¬ q <+: path) : lookup q (some t) = lookup q place := by
  induction path generalizing place t q with
  | nil => exact absurd List.nil_prefix hq
  | cons part path ih =>
    match place,h with
    | some (.dict entries),h =>
      obtain ⟨sub,hsub,ht⟩ := put_dict h (Option.some_ne_none t)
      obtain rfl := Option.some.inj ht
      cases q with
      | nil => exact absurd List.nil_prefix hpath
      | cons other q =>
        rw [lookup_dict,lookup_dict]
        by_cases hpart : other = part
        · rw [hpart,Dict.get_set_self]
          rw [hpart,List.cons_prefix_cons] at hq hpath
          exact ih hsub (fun hpre => hq ⟨rfl,hpre⟩) fun hpre => hpath ⟨rfl,hpre⟩
        · rw [Dict.get_set_ne entries hpart]

theorem put_stored {t : Tree K L} (h : put v path place = some t) :
    Stored path v place (some t) :=
  ⟨lookup_put h,fun _ hq hpath => lookup_put_apart h hq hpath⟩

theorem holdsDict_above {rest : List K} (hne : rest ≠ []) {t : Tree K L}
    (h : lookup (path ++ rest) place = some t) : HoldsDict place path := by
  induction path generalizing place with
  | nil =>
    obtain ⟨part,rest,rfl⟩ := List.exists_cons_of_ne_nil hne
    match place,h with
    | some (.dict entries),_ => exact ⟨entries,rfl⟩
  | cons part path ih =>
    match place,h with
    | some (.dict entries),h =>
      rw [List.cons_append,lookup_dict] at h
      obtain ⟨entries',hentries⟩ := ih h
      exact ⟨entries',by rwa [lookup_dict]⟩

theorem holdsDict_cons (part : K) (path : List K) (entries : List (K × Tree K L)) :
    HoldsDict (some (.dict entries)) (part :: path) ↔ HoldsDict (Dict.get entries part) path := by
  unfold HoldsDict
  rw [lookup_dict]

def Above (place : Option (Tree K L)) (path : List K) : Prop :=
  ∀ p, p <+: path → p ≠ path → HoldsDict place p

theorem above_cons (part : K) (path : List K) :
    Above place (part :: path) ↔
      ∃ entries, place = some (.dict entries) ∧ Above (Dict.get entries part) path := by
  constructor
  · intro h
    obtain ⟨entries,hplace⟩ := h [] List.nil_prefix (List.cons_ne_nil part path).symm
    rw [lookup] at hplace
    refine ⟨entries,hplace,?_⟩
    intro p hp hne
    rw [← holdsDict_cons,← hplace]
    exact h (part :: p) (List.cons_prefix_cons.mpr ⟨rfl,hp⟩) fun he => hne (List.cons.inj he).2
  · rintro ⟨entries,rfl,h⟩ p hp hne
    cases p with
    | nil => exact ⟨entries,rfl⟩
    | cons other p =>
      obtain ⟨rfl,hlead⟩ := List.cons_prefix_cons.mp hp
      rw [holdsDict_cons]
      exact h p hlead fun he => hne (congrArg _ he)

theorem put_some_iff : (∃ t, put v path place = some t) ↔ Above place path := by
  induction path generalizing place with
  | nil => exact iff_of_true ⟨v,rfl⟩ fun p hp hne => absurd (List.prefix_nil.mp hp) hne
  | cons part path ih =>
    rw [above_cons]
    constructor
    · rintro ⟨t,h⟩
      match place,h with
      | some (.dict entries),h =>
        obtain ⟨sub,hsub,-⟩ := put_dict h (Option.some_ne_none t)
        exact ⟨entries,rfl,ih.mp ⟨sub,hsub⟩⟩
    · rintro ⟨entries,rfl,h⟩
      obtain ⟨sub,hsub⟩ := ih.mpr h
      exact ⟨_,by rw [put,hsub,Option.map_some]⟩

theorem above_lookup {t : Tree K L} (h : lookup path place = some t) : Above place path := by
  rintro p ⟨rest,rfl⟩ hne
  refine holdsDict_above ?_ h
  rintro rfl
  exact hne (List.append_nil p).symm

theorem above_below {part : K} (hne : path ≠ []) :
    Above place (part :: path) ↔ ∀ p, p <+: path → p ≠ path → HoldsDict place (part :: p) := by
  constructor
  · intro h p hp hp'
    exact h (part :: p) (List.cons_prefix_cons.mpr ⟨rfl,hp⟩) fun he => hp' (List.cons.inj he).2
  · rintro h p hp hp'
    cases p with
    | nil =>
      obtain ⟨entries,hentries⟩ := h [] List.nil_prefix hne.symm
      exact holdsDict_above (List.cons_ne_nil part []) hentries
    | cons other p =>
      obtain ⟨rfl,hlead⟩ := List.cons_prefix_cons.mp hp
      exact h p hlead fun he => hp' (congrArg _ he)

def NoValueAbove (place : Option (Tree K L)) (path : List K) : Prop :=
  ∀ p, p <+: path → p ≠ path → ∀ value, lookup p place ≠ some (.leaf value)

theorem noValueAbove_dict {part : K} {entries : List (K × Tree K L)}
    (h : NoValueAbove (some (.dict entries)) (part :: path)) :
    NoValueAbove (Dict.get entries part) path := by
  intro p hp hne value
  rw [← lookup_dict]
  exact h (part :: p) (List.cons_prefix_cons.mpr ⟨rfl,hp⟩)
    (fun he => hne (List.cons.inj he).2) value

theorem noValueAbove_empty (path : List K) :
    NoValueAbove (some (.dict ([] : List (K × Tree K L)))) path := by
  rintro p - - value
  cases p with
  | nil => simp [lookup]
  | cons part p => cases p <;> simp [lookup]

end Tables
