import Mathlib.Data.List.Basic
import Uroam.Library.Dict
import Uroam.Library.Tables
import Uroam.User.Snapshots

namespace Uroam.User
open Tables

inductive Key where
  | text (s : List Char)
  | other (tag : ℕ)
  deriving DecidableEq, Repr

inductive Scalar (F : Type) where
  | bool (b : Bool)
  | int (n : ℤ)
  | float (x : F)
  | text (s : List Char)
  | other (tag : ℕ)
  deriving DecidableEq, Repr

abbrev Config (F : Type) := Tree Key (Scalar F)

structure UroamCli (F : Type) where
  config : Config F
  file : Option (Config F)
  printed : List (List Char)

def uroamKey : Key := .text ['u','r','o','a','m']

def parts (dotted : List Char) : List Key := (dotted.splitOn '.').map .text

section Commands

variable {F : Type}

-- `config.get(part, {})` for every part but the last, then the assignment; `none` is the
-- exception of a value that is no dictionary.
def assignAt (v : Config F) : List Key → Config F → Option (Config F)
  | _, .leaf _ => none
  | [], .dict entries => some (.dict entries)
  | [last], .dict entries => some (.dict (Dict.set entries last v))
  | part :: rest, .dict entries =>
    match Dict.get entries part with
    | some sub => (assignAt v rest sub).map fun sub => .dict (Dict.set entries part sub)
    -- The walk goes on in an empty dictionary that the configuration does not hold.
    | none => (assignAt v rest (.dict [])).map fun _ => .dict entries

def UroamCli.assign (cli : UroamCli F) (dotted : List Char) (v : Scalar F) :
    Option (UroamCli F) :=
  match cli.config with
  | .leaf _ => none
  | .dict entries =>
    (Dict.get entries uroamKey).bind fun t =>
      (assignAt (.leaf v) (parts dotted) t).map fun t =>
        { cli with config := .dict (Dict.set entries uroamKey t) }

def UroamCli.saveConfig (cli : UroamCli F) : UroamCli F := { cli with file := some cli.config }

def UroamCli.print (cli : UroamCli F) (line : List Char) : UroamCli F :=
  { cli with printed := cli.printed ++ [line] }

def UroamCli.enableFeature (cli : UroamCli F) (feature : List Char) : Option (UroamCli F) :=
  (cli.assign feature (.bool true)).map fun cli =>
    cli.saveConfig.print ("Enabled ".toList ++ feature)

def UroamCli.disableFeature (cli : UroamCli F) (feature : List Char) : Option (UroamCli F) :=
  (cli.assign feature (.bool false)).map fun cli =>
    cli.saveConfig.print ("Disabled ".toList ++ feature)

variable (py : Python) (float : List Char → Option F)

def convert (value : List Char) : Scalar F :=
  if py.lower value = "true".toList ∨ py.lower value = "false".toList then
    .bool (decide (py.lower value = "true".toList))
  else if py.isDigit value = true then
    match py.int value with
    | some n => .int n
    | none => .text value
  else
    match float value with
    | some x => .float x
    | none => .text value

def UroamCli.setParameter (cli : UroamCli F) (param value : List Char) : Option (UroamCli F) :=
  (cli.assign param (convert py float value)).map fun cli =>
    cli.saveConfig.print ("Set ".toList ++ param ++ " = ".toList ++ value)

inductive Command where
  | enable
  | disable
  | set (value : List Char)

def Command.run (c : Command) (cli : UroamCli F) (dotted : List Char) : Option (UroamCli F) :=
  match c with
  | .enable => cli.enableFeature dotted
  | .disable => cli.disableFeature dotted
  | .set value => cli.setParameter py float dotted value

def Command.stored : Command → Scalar F
  | .enable => .bool true
  | .disable => .bool false
  | .set value => convert py float value

def Command.report (dotted : List Char) : Command → List Char
  | .enable => "Enabled ".toList ++ dotted
  | .disable => "Disabled ".toList ++ dotted
  | .set value => "Set ".toList ++ dotted ++ " = ".toList ++ value

def StoresValue (c : Command) (cli : UroamCli F) (dotted : List Char) : Prop :=
  ∃ cli' saved, c.run py float cli dotted = some cli' ∧ cli'.file = some saved ∧
    Stored (uroamKey :: parts dotted) (.leaf (c.stored py float)) (some cli.config) (some saved)

theorem run_assign (c : Command) (cli : UroamCli F) (dotted : List Char) :
    c.run py float cli dotted = (cli.assign dotted (c.stored py float)).map fun cli =>
      cli.saveConfig.print (c.report dotted) := by
  cases c <;> rfl

section Walk

variable {v : Config F}

theorem parts_ne_nil (dotted : List Char) : parts dotted ≠ [] := by
  unfold parts
  simp

theorem assignAt_put {path : List Key} (hne : path ≠ []) {t after : Config F}
    (h : put v path (some t) = some after) : assignAt v path t = some after := by
  induction path generalizing t after with
  | nil => exact absurd rfl hne
  | cons part path ih =>
    match t,h with
    | .dict entries,h =>
      obtain ⟨sub,hsub,hafter⟩ := put_dict h (Option.some_ne_none after)
      cases path with
      | nil =>
        obtain rfl := Option.some.inj hsub
        exact hafter.symm
      | cons next rest =>
        cases hget : Dict.get entries part with
        | none =>
          rw [hget] at hsub
          cases hsub
        | some child =>
          rw [hget] at hsub
          simp only [assignAt,hget]
          rw [ih (List.cons_ne_nil next rest) hsub]
          exact hafter.symm

theorem assignAt_lost {path : List Key} (hne : path ≠ []) {t after : Config F}
    (hput : put v path (some t) = none) (h : assignAt v path t = some after) : after = t := by
  induction path generalizing t after with
  | nil => exact absurd rfl hne
  | cons part path ih =>
    cases t with
    | leaf value => cases h
    | dict entries =>
      cases path with
      | nil => cases hput
      | cons next rest =>
        rw [put,Option.map_eq_none_iff] at hput
        cases hget : Dict.get entries part with
        | none =>
          simp only [assignAt,hget] at h
          obtain ⟨lost,-,hafter⟩ := Option.map_eq_some_iff.mp h
          exact hafter.symm
        | some child =>
          rw [hget] at hput
          simp only [assignAt,hget] at h
          obtain ⟨sub,hsub,rfl⟩ := Option.map_eq_some_iff.mp h
          rw [ih (List.cons_ne_nil next rest) hput hsub,Dict.set_get hget]

theorem assignAt_returns {path : List Key} {t : Config F} (h : NoValueAbove (some t) path) :
    path ≠ [] → ∃ after, assignAt v path t = some after := by
  induction path generalizing t with
  | nil => exact fun hne => absurd rfl hne
  | cons part path ih =>
    intro hne
    cases t with
    | leaf value => exact absurd rfl (h [] List.nil_prefix hne.symm value)
    | dict entries =>
      cases path with
      | nil => exact ⟨_,rfl⟩
      | cons next rest =>
        have hbelow := noValueAbove_dict h
        simp only [assignAt]
        cases hget : Dict.get entries part with
        | none =>
          obtain ⟨lost,hlost⟩ := ih (noValueAbove_empty _) (List.cons_ne_nil next rest)
          exact ⟨_,congrArg (Option.map _) hlost⟩
        | some child =>
          rw [hget] at hbelow
          obtain ⟨sub,hsub⟩ := ih hbelow (List.cons_ne_nil next rest)
          exact ⟨_,congrArg (Option.map _) hsub⟩

end Walk

theorem assign_under {cli : UroamCli F} {entries : List (Key × Config F)}
    (hconfig : cli.config = .dict entries) {t : Config F}
    (hget : Dict.get entries uroamKey = some t) (dotted : List Char) (v : Scalar F) :
    cli.assign dotted v = (assignAt (.leaf v) (parts dotted) t).map fun t =>
      { cli with config := .dict (Dict.set entries uroamKey t) } := by
  unfold UroamCli.assign
  rw [hconfig]
  dsimp only
  rw [hget,Option.bind_some]

theorem assign_put {cli : UroamCli F} {dotted : List Char} {v : Scalar F} {after : Config F}
    (h : put (.leaf v) (uroamKey :: parts dotted) (some cli.config) = some after) :
    cli.assign dotted v = some { cli with config := after } := by
  cases hconfig : cli.config with
  | leaf value =>
    rw [hconfig] at h
    cases h
  | dict entries =>
    rw [hconfig] at h
    obtain ⟨sub,hsub,hafter⟩ := put_dict h (Option.some_ne_none after)
    obtain rfl := Option.some.inj hafter
    cases hget : Dict.get entries uroamKey with
    | none =>
      have habove := put_some_iff.mp ⟨sub,hsub⟩
      rw [hget] at habove
      obtain ⟨lost,hlost⟩ := habove [] List.nil_prefix (parts_ne_nil dotted).symm
      cases hlost
    | some t =>
      rw [hget] at hsub
      rw [assign_under hconfig hget,assignAt_put (parts_ne_nil dotted) hsub]
      rfl

theorem assign_lost {cli cli' : UroamCli F} {dotted : List Char} {v : Scalar F}
    (hput : put (.leaf v) (uroamKey :: parts dotted) (some cli.config) = none)
    (h : cli.assign dotted v = some cli') : cli'.config = cli.config := by
  unfold UroamCli.assign at h
  cases hconfig : cli.config with
  | leaf value => simp [hconfig] at h
  | dict entries =>
    simp only [hconfig] at h
    obtain ⟨t,hget,h⟩ := Option.bind_eq_some_iff.mp h
    obtain ⟨sub,hsub,rfl⟩ := Option.map_eq_some_iff.mp h
    rw [hconfig,put,hget,Option.map_eq_none_iff] at hput
    dsimp only
    rw [assignAt_lost (parts_ne_nil dotted) hput hsub,Dict.set_get hget]

theorem run_reports (c : Command) (cli : UroamCli F) (dotted : List Char)
    (huroam : HoldsDict (some cli.config) [uroamKey])
    (h : NoValueAbove (some cli.config) (uroamKey :: parts dotted)) :
    ∃ cli', c.run py float cli dotted = some cli' ∧
      cli'.printed = cli.printed ++ [c.report dotted] := by
  obtain ⟨under,hunder⟩ := huroam
  cases hconfig : cli.config with
  | leaf value =>
    rw [hconfig] at hunder
    cases hunder
  | dict entries =>
    rw [hconfig,lookup_dict,lookup] at hunder
    rw [hconfig] at h
    have hbelow := noValueAbove_dict h
    rw [hunder] at hbelow
    obtain ⟨sub,hsub⟩ := assignAt_returns (v := .leaf (c.stored py float)) hbelow
      (parts_ne_nil dotted)
    rw [run_assign,assign_under hconfig hunder,hsub]
    exact ⟨_,rfl,rfl⟩

theorem stores_value_iff (c : Command) (cli : UroamCli F) (dotted : List Char) :
    StoresValue py float c cli dotted ↔
      ∀ p, p <+: parts dotted → p ≠ parts dotted →
        HoldsDict (some cli.config) (uroamKey :: p) := by
  rw [← above_below (parts_ne_nil dotted)]
  unfold StoresValue
  rw [run_assign]
  constructor
  · rintro ⟨cli',saved,hrun,hsaved,hstored⟩
    obtain ⟨assigned,hassign,rfl⟩ := Option.map_eq_some_iff.mp hrun
    obtain rfl := Option.some.inj hsaved
    cases hput : put (.leaf (c.stored py float)) (uroamKey :: parts dotted) (some cli.config) with
    | some after => exact put_some_iff.mp ⟨after,hput⟩
    | none =>
      have hholds := hstored.holds
      rw [assign_lost hput hassign] at hholds
      exact above_lookup hholds
  · intro habove
    obtain ⟨after,hput⟩ := put_some_iff.mpr habove
    rw [assign_put hput]
    exact ⟨_,after,rfl,rfl,put_stored hput⟩

end Commands

section Sample

def enabledOnly : UroamCli ℕ :=
  { config := .dict [(uroamKey,.dict [(.text "enabled".toList,.leaf (.bool true))])]
    file := none
    printed := [] }

def networkLimit : List Char := "network.limit".toList

theorem networkLimit_parts :
    parts networkLimit = [.text "network".toList,.text "limit".toList] := by
  decide +kernel

theorem missing_table_loses_value :
    HoldsDict (some enabledOnly.config) [uroamKey] ∧
      NoValueAbove (some enabledOnly.config) (uroamKey :: parts networkLimit) ∧
      (∃ cli', Command.run asciiPython (fun _ => none) (.set "100".toList) enabledOnly
          networkLimit = some cli' ∧
        cli'.printed = ["Set network.limit = 100".toList] ∧
        cli'.file = some enabledOnly.config) ∧
      ¬ StoresValue asciiPython (fun _ => none) (.set "100".toList) enabledOnly networkLimit := by
  have hrun : Command.run asciiPython (fun _ => none) (.set "100".toList) enabledOnly
      networkLimit = some
        { enabledOnly with
          file := some enabledOnly.config
          printed := ["Set network.limit = 100".toList] } := rfl
  refine ⟨⟨_,rfl⟩,?_,⟨_,hrun,rfl,rfl⟩,?_⟩
  · intro p hp hne value
    rw [networkLimit_parts] at hp hne
    rw [← List.mem_inits] at hp
    simp only [List.inits,List.map_cons,List.map_nil,List.mem_cons,
      List.not_mem_nil,or_false] at hp
    rcases hp with rfl | rfl | rfl | rfl
    · exact fun h => by cases h
    · exact fun h => by cases h
    · exact fun h => by cases h
    · exact absurd rfl hne
  · rintro ⟨cli',saved,hstep,hsaved,hstored⟩
    rw [hrun] at hstep
    obtain rfl := Option.some.inj hstep
    obtain rfl := Option.some.inj hsaved
    have hholds := hstored.holds
    rw [networkLimit_parts] at hholds
    cases hholds

end Sample

end Uroam.User
