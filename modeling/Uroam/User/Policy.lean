import Uroam.Library.Runs
import Uroam.User.Cli

namespace Uroam.User
open Runs Tables

abbrev PolicyConfig (F : Type) := List (List Char × Config F)

def dunder : List Char := ['_','_']

-- What the interpreter adds: the truth of a value, the number 0.3, and the attributes of an
-- instance that are not fields, with what assigning to one does.
structure Interpreter (F : Type) where
  truthy : Scalar F → Bool
  ratio : F
  special : List Char → Bool
  special_dunder : ∀ name, special name = true → dunder <+: name
  setSpecial : List Char → Config F → PolicyConfig F → Option (PolicyConfig F)

section Load

variable {F : Type} (interp : Interpreter F)

def flag (name : String) : List Char × Config F := (name.toList,.leaf (.bool true))

def number (name : String) (n : ℤ) : List Char × Config F := (name.toList,.leaf (.int n))

def PolicyConfig.default : PolicyConfig F :=
  [flag "enabled",flag "compression_enabled",flag "dedup_enabled",flag "swap_enabled",
    flag "cache_enabled",("compression_algorithm".toList,.leaf (.text "auto".toList)),
    number "compression_level" 3,number "compression_threshold_kb" 4,number "swappiness" 60,
    number "dedup_window" 300,("cache_target_ratio".toList,.leaf (.float interp.ratio)),
    flag "per_app_profiles",flag "numa_aware",flag "thp_aware"]

def setItem (config : PolicyConfig F) (item : Key × Config F) : Option (PolicyConfig F) :=
  match item.1 with
  | .other _ => none
  | .text name =>
    if interp.special name then interp.setSpecial name item.2 config
    else if (Dict.get config name).isSome then some (Dict.set config name item.2)
    else some config

def setItems : PolicyConfig F → List (Key × Config F) → Option (PolicyConfig F)
  | config, [] => some config
  | config, item :: items => (setItem interp config item).bind fun config => setItems config items

def daemonConfig (file : Option (Config F)) : Option (PolicyConfig F) :=
  let default := PolicyConfig.default interp
  match file with
  | none => some default
  | some (.leaf value) => if interp.truthy value then none else some default
  | some (.dict []) => some default
  | some (.dict entries) =>
    match Dict.get entries uroamKey with
    | none => some default
    | some (.leaf _) => none
    | some (.dict items) => setItems interp default items

def entry (name : String) (value : Config F) : Key × Config F := (.text name.toList,value)

def defaultConfig : Config F :=
  .dict [entry "uroam" (.dict [
    entry "enabled" (.leaf (.bool true)),
    entry "debug" (.leaf (.bool false)),
    entry "optimization" (.dict [
      entry "compression" (.dict [
        entry "enabled" (.leaf (.bool true)),
        entry "algorithm" (.leaf (.text "auto".toList)),
        entry "level" (.leaf (.int 3)),
        entry "threshold_kb" (.leaf (.int 4))]),
      entry "deduplication" (.dict [
        entry "enabled" (.leaf (.bool true)),
        entry "window_size" (.leaf (.int 300))]),
      entry "swapping" (.dict [
        entry "enabled" (.leaf (.bool true)),
        entry "swappiness" (.leaf (.int 60)),
        entry "compress" (.leaf (.bool true))]),
      entry "cache" (.dict [
        entry "enabled" (.leaf (.bool true)),
        entry "strategy" (.leaf (.text "adaptive".toList)),
        entry "target_ratio" (.leaf (.float interp.ratio))])]),
    entry "classification" (.dict [
      entry "window_size" (.leaf (.int 30)),
      entry "sampling_rate" (.leaf (.int 100))])])]

inductive Invocation where
  | status
  | show
  | command (c : Command) (dotted : List Char)

variable (py : Python) (float : List Char → Option F)

def loadConfig (file : Option (Config F)) : UroamCli F :=
  ⟨file.getD (defaultConfig interp),file,[]⟩

def invoke (file : Option (Config F)) : Invocation → Option (Config F)
  | .status => file
  | .show => file
  | .command c dotted =>
    match c.run py float (loadConfig interp file) dotted with
    | none => file
    | some cli => cli.file

def Invocation.first : Invocation → Option Key
  | .command _ dotted => (parts dotted).head?
  | _ => none

end Load

section Items

variable {F : Type} {interp : Interpreter F} {config config' : PolicyConfig F}
  {items items' : List (Key × Config F)}

def Plain : Key → Prop
  | .text name => ¬ dunder <+: name
  | .other _ => True

structure PlainItems (items : List (Key × Config F)) : Prop where
  distinct : (items.map Prod.fst).Nodup
  plain : ∀ key ∈ items.map Prod.fst, Plain key

def Named (items : List (Key × Config F)) : Prop :=
  ∀ key ∈ items.map Prod.fst, ∃ name, key = .text name

variable (interp config) in
theorem setItem_named {name : List Char} (hplain : Plain (.text name)) (value : Config F) :
    ∃ next, setItem interp config (.text name,value) = some next ∧
      ∀ field, Dict.get next field =
        (Dict.get config field).map fun old => if field = name then value else old := by
  have hspecial : interp.special name = false := by
    cases h : interp.special name with
    | false => rfl
    | true => exact absurd (interp.special_dunder name h) hplain
  cases hget : Dict.get config name with
  | none =>
    refine ⟨config,by simp [setItem,hspecial,hget],fun field => ?_⟩
    by_cases hfield : field = name
    · rw [hfield,hget,Option.map_none]
    · simp [hfield]
  | some old =>
    refine ⟨Dict.set config name value,by simp [setItem,hspecial,hget],fun field => ?_⟩
    rw [Dict.get_set]
    by_cases hfield : field = name
    · simp [hfield,hget]
    · simp [hfield]

theorem PlainItems.tail {item : Key × Config F} (h : PlainItems (item :: items)) :
    PlainItems items :=
  ⟨(List.nodup_cons.mp h.distinct).2,fun key hkey => h.plain key (List.mem_cons_of_mem _ hkey)⟩

variable (interp config) in
theorem setItems_named (h : PlainItems items) (hnamed : Named items) :
    ∃ next, setItems interp config items = some next ∧
      ∀ field, Dict.get next field =
        (Dict.get config field).map (Dict.get items (.text field)).getD := by
  induction items generalizing config with
  | nil => exact ⟨config,rfl,fun field => by cases Dict.get config field <;> rfl⟩
  | cons item items ih =>
    obtain ⟨key,value⟩ := item
    obtain ⟨name,rfl⟩ : ∃ name, key = .text name := hnamed _ List.mem_cons_self
    obtain ⟨next,hnext,hfields⟩ := setItem_named interp config
      (h.plain _ List.mem_cons_self) value
    obtain ⟨last,hlast,hrest⟩ := ih next h.tail
      fun key hkey => hnamed key (List.mem_cons_of_mem _ hkey)
    refine ⟨last,by rw [setItems,hnext,Option.bind_some,hlast],fun field => ?_⟩
    rw [hrest,hfields,Option.map_map]
    refine congrArg (fun f => Option.map f (Dict.get config field)) (funext fun old => ?_)
    by_cases hfield : field = name
    · have habsent := Dict.get_absent (List.nodup_cons.mp h.distinct).1
      simp [hfield,Dict.get,habsent]
    · simp [hfield,Dict.get]

theorem setItems_unnamed (h : PlainItems items) (hnamed : ¬ Named items) :
    setItems interp config items = none := by
  induction items generalizing config with
  | nil => exact absurd (fun key hkey => by cases hkey) hnamed
  | cons item items ih =>
    obtain ⟨key,value⟩ := item
    cases key with
    | other tag => rfl
    | text name =>
      obtain ⟨next,hnext,_⟩ := setItem_named interp config
        (h.plain _ List.mem_cons_self) value
      rw [setItems,hnext,Option.bind_some]
      exact ih h.tail fun hrest => hnamed (List.forall_mem_cons.mpr ⟨⟨name,rfl⟩,hrest⟩)

theorem setItems_agree (h : PlainItems items) (h' : PlainItems items')
    (hnamed : Named items ↔ Named items') {field : List Char}
    (hfield : Dict.get items (.text field) = Dict.get items' (.text field)) :
    (setItems interp config items).map (Dict.get · field) =
      (setItems interp config items').map (Dict.get · field) := by
  by_cases hn : Named items
  · obtain ⟨next,hnext,hfields⟩ := setItems_named interp config h hn
    obtain ⟨next',hnext',hfields'⟩ := setItems_named interp config h' (hnamed.mp hn)
    rw [hnext,hnext',Option.map_some,Option.map_some,hfields,hfields',hfield]
  · rw [setItems_unnamed h hn,setItems_unnamed h' fun hn' => hn (hnamed.mpr hn')]

theorem plain_set (h : PlainItems items) {key : Key} (hkey : Plain key) (value : Config F) :
    PlainItems (Dict.set items key value) := by
  refine ⟨Dict.nodup_set h.distinct key value,fun k hk => ?_⟩
  rcases (Dict.mem_keys_set items key k value).mp hk with hk | rfl
  · exact h.plain k hk
  · exact hkey

theorem named_set {key : Key} (hkey : ∃ name, key = .text name) (value : Config F) :
    Named (Dict.set items key value) ↔ Named items := by
  unfold Named
  simp only [Dict.mem_keys_set]
  constructor
  · exact fun h k hk => h k (.inl hk)
  · rintro h k (hk | rfl)
    · exact h k hk
    · exact hkey

end Items

section Invocations

variable {F : Type} {interp : Interpreter F} {py : Python} {float : List Char → Option F}

def uroamItems : Option (Config F) → Option (Config F)
  | some (.dict entries) => Dict.get entries uroamKey
  | _ => none

def PlainFile (file : Option (Config F)) : Prop :=
  ∀ items, uroamItems file = some (.dict items) → PlainItems items

structure EntryChanged (v : Config F) (path : List Key) (items items' : List (Key × Config F)) :
    Prop where
  entry : items' = items ∨ ∃ first value, path.head? = some first ∧
    items' = Dict.set items first value
  whole : ∀ first, path = [first] → items' = Dict.set items first v

theorem assignAt_items {v : Config F} {first : Key} {rest : List Key} {t after : Config F}
    (h : assignAt v (first :: rest) t = some after) :
    ∃ items items', t = .dict items ∧ after = .dict items' ∧
      EntryChanged v (first :: rest) items items' := by
  cases t with
  | leaf value => cases h
  | dict items =>
    cases rest with
    | nil =>
      obtain rfl := Option.some.inj h
      refine ⟨items,_,rfl,rfl,.inr ⟨first,v,rfl,rfl⟩,fun other hother => ?_⟩
      rw [(List.cons.inj hother).1]
    | cons next rest =>
      have hlong : ∀ other, first :: next :: rest ≠ [other] := fun other hother => by cases hother
      simp only [assignAt] at h
      cases hget : Dict.get items first with
      | none =>
        rw [hget] at h
        obtain ⟨lost,_,rfl⟩ := Option.map_eq_some_iff.mp h
        exact ⟨items,items,rfl,rfl,.inl rfl,fun other hother => absurd hother (hlong other)⟩
      | some sub =>
        rw [hget] at h
        obtain ⟨changed,_,rfl⟩ := Option.map_eq_some_iff.mp h
        exact ⟨items,_,rfl,rfl,.inr ⟨first,changed,rfl,rfl⟩,
          fun other hother => absurd hother (hlong other)⟩

theorem first_part (dotted : List Char) : ∃ name rest, parts dotted = .text name :: rest := by
  cases h : dotted.splitOn '.' with
  | nil => exact absurd (by simp [parts,h]) (parts_ne_nil dotted)
  | cons name rest => exact ⟨name,rest.map .text,by simp [parts,h]⟩

theorem invoke_command {file : Option (Config F)} {c : Command} {dotted : List Char}
    {cli : UroamCli F} (h : c.run py float (loadConfig interp file) dotted = some cli) :
    ∃ items items', uroamItems (some (file.getD (defaultConfig interp))) = some (.dict items) ∧
      uroamItems cli.file = some (.dict items') ∧
      EntryChanged (.leaf (c.stored py float)) (parts dotted) items items' := by
  rw [run_assign] at h
  obtain ⟨assigned,hassign,rfl⟩ := Option.map_eq_some_iff.mp h
  unfold UroamCli.assign loadConfig at hassign
  cases hconfig : file.getD (defaultConfig interp) with
  | leaf value => simp [hconfig] at hassign
  | dict entries =>
    simp only [hconfig] at hassign
    obtain ⟨t,hget,hmap⟩ := Option.bind_eq_some_iff.mp hassign
    obtain ⟨after,hafter,rfl⟩ := Option.map_eq_some_iff.mp hmap
    obtain ⟨name,rest,hparts⟩ := first_part dotted
    rw [hparts] at hafter
    obtain ⟨items,items',rfl,rfl,hchanged⟩ := assignAt_items hafter
    refine ⟨items,items',hget,Dict.get_set_self entries uroamKey _,?_⟩
    rwa [hparts]

theorem daemonConfig_items {file : Option (Config F)} {items : List (Key × Config F)}
    (h : uroamItems file = some (.dict items)) :
    daemonConfig interp file = setItems interp (PolicyConfig.default interp) items := by
  match file,h with
  | some (.dict []),h => cases h
  | some (.dict (entry :: entries)),h =>
    change Dict.get (entry :: entries) uroamKey = some (.dict items) at h
    simp only [daemonConfig,h]

def defaultItems (interp : Interpreter F) : List (Key × Config F) :=
  match uroamItems (some (defaultConfig interp)) with
  | some (.dict items) => items
  | _ => []

theorem default_items : uroamItems (some (defaultConfig interp)) =
    some (.dict (defaultItems interp)) := rfl

theorem defaultItems_keys : (defaultItems interp).map Prod.fst =
    [.text "enabled".toList,.text "debug".toList,.text "optimization".toList,
      .text "classification".toList] := rfl

theorem defaultItems_plain : PlainItems (defaultItems interp) := by
  constructor
  · rw [defaultItems_keys]
    decide
  · rw [defaultItems_keys]
    intro key hkey
    simp only [List.mem_cons,List.not_mem_nil,or_false] at hkey
    rcases hkey with rfl | rfl | rfl | rfl
    all_goals
      change ¬ dunder <+: _
      decide

theorem default_agrees (field : List Char) :
    (setItems interp (PolicyConfig.default interp) (defaultItems interp)).map (Dict.get · field) =
      some (Dict.get (PolicyConfig.default interp) field) := by
  have hnamed : Named (defaultItems interp) := by
    intro key hkey
    rw [defaultItems_keys] at hkey
    simp only [List.mem_cons,List.not_mem_nil,or_false] at hkey
    rcases hkey with rfl | rfl | rfl | rfl
    all_goals exact ⟨_,rfl⟩
  obtain ⟨next,hnext,hfields⟩ := setItems_named interp (PolicyConfig.default interp)
    defaultItems_plain hnamed
  rw [hnext,Option.map_some,hfields]
  by_cases hkey : Key.text field ∈ (defaultItems interp).map Prod.fst
  · rw [defaultItems_keys] at hkey
    simp only [List.mem_cons,List.not_mem_nil,or_false,Key.text.injEq] at hkey
    rcases hkey with rfl | rfl | rfl | rfl
    all_goals rfl
  · rw [Dict.get_absent hkey]
    cases Dict.get (PolicyConfig.default interp) field <;> rfl

def Invocation.PlainFirst (i : Invocation) : Prop := ∀ key, i.first = some key → Plain key

theorem loaded_items {file : Option (Config F)} (hplain : PlainFile file)
    {items : List (Key × Config F)}
    (h : uroamItems (some (file.getD (defaultConfig interp))) = some (.dict items)) :
    PlainItems items ∧ ∀ field, (daemonConfig interp file).map (Dict.get · field) =
      (setItems interp (PolicyConfig.default interp) items).map (Dict.get · field) := by
  cases file with
  | none =>
    rw [Option.getD_none,default_items,Option.some_inj,Tree.dict.injEq] at h
    rw [← h]
    exact ⟨defaultItems_plain,fun field => (default_agrees field).symm⟩
  | some t =>
    rw [Option.getD_some] at h
    exact ⟨hplain items h,fun field => by rw [daemonConfig_items h]⟩

theorem changed_plain {v : Config F} {path : List Key} {items items' : List (Key × Config F)}
    (h : EntryChanged v path items items') (hitems : PlainItems items)
    (hfirst : ∀ key, path.head? = some key → Plain key) : PlainItems items' := by
  rcases h.entry with rfl | ⟨first,value,hhead,rfl⟩
  · exact hitems
  · exact plain_set hitems (hfirst first hhead) value

theorem invoke_plain {file : Option (Config F)} (hplain : PlainFile file) {i : Invocation}
    (hfirst : i.PlainFirst) : PlainFile (invoke interp py float file i) := by
  cases i with
  | status => exact hplain
  | «show» => exact hplain
  | command c dotted =>
    simp only [invoke]
    cases hrun : c.run py float (loadConfig interp file) dotted with
    | none => exact hplain
    | some cli =>
      obtain ⟨items,items',hbefore,hafter,hchanged⟩ := invoke_command hrun
      intro found hfound
      dsimp only at hfound
      rw [hafter,Option.some_inj,Tree.dict.injEq] at hfound
      rw [← hfound]
      exact changed_plain hchanged (loaded_items hplain hbefore).1 hfirst

theorem invoke_unread {file : Option (Config F)} (hplain : PlainFile file) {i : Invocation}
    (hfirst : i.PlainFirst) {field : List Char} (hfield : i.first ≠ some (.text field)) :
    (daemonConfig interp (invoke interp py float file i)).map (Dict.get · field) =
      (daemonConfig interp file).map (Dict.get · field) := by
  cases i with
  | status => rfl
  | «show» => rfl
  | command c dotted =>
    simp only [invoke]
    cases hrun : c.run py float (loadConfig interp file) dotted with
    | none => rfl
    | some cli =>
      dsimp only
      obtain ⟨items,items',hbefore,hafter,hchanged⟩ := invoke_command hrun
      obtain ⟨hitems,hread⟩ := loaded_items hplain hbefore
      have hitems' := changed_plain hchanged hitems hfirst
      rw [hread,daemonConfig_items hafter]
      rcases hchanged.entry with rfl | ⟨first,value,hhead,rfl⟩
      · rfl
      · obtain ⟨name,rest,hparts⟩ := first_part dotted
        rw [hparts,List.head?_cons,Option.some_inj] at hhead
        have hne : Key.text field ≠ first := by
          rintro rfl
          exact hfield (by rw [Invocation.first,hparts,hhead,List.head?_cons])
        exact setItems_agree hitems' hitems (named_set ⟨name,hhead.symm⟩ value)
          (Dict.get_set_ne items hne value)

theorem run_plain {file : Option (Config F)} (hplain : PlainFile file) {is : List Invocation}
    (hfirst : ∀ i ∈ is, i.PlainFirst) :
    PlainFile (exec (invoke interp py float) file is) :=
  invariant (invoke interp py float) (I := PlainFile) (fun _ _ h hi => invoke_plain h hi) is file
    hplain ((along_forall ..).mpr hfirst)

theorem run_unread {file : Option (Config F)} (hplain : PlainFile file) {is : List Invocation}
    (hfirst : ∀ i ∈ is, i.PlainFirst) {field : List Char}
    (hfield : ∀ i ∈ is, i.first ≠ some (.text field)) :
    (daemonConfig interp (exec (invoke interp py float) file is)).map (Dict.get · field) =
      (daemonConfig interp file).map (Dict.get · field) := by
  induction is generalizing file with
  | nil => rfl
  | cons i is ih =>
    rw [List.forall_mem_cons] at hfirst hfield
    rw [exec_cons,ih (invoke_plain hplain hfirst.1) hfirst.2 hfield.2]
    exact invoke_unread hplain hfirst.1 hfield.1

end Invocations

variable {F : Type} (interp : Interpreter F) (py : Python) (float : List Char → Option F)

theorem settings_unread (file : Option (Config F)) (is : List Invocation) (hplain : PlainFile file)
    (hfirst : ∀ i ∈ is, i.PlainFirst)
    (hfields : ∀ i ∈ is, ∀ field, i.first = some (.text field) →
      Dict.get (PolicyConfig.default interp) field = none) (field : List Char)
    (hknown : (Dict.get (PolicyConfig.default interp) field).isSome) :
    (daemonConfig interp (exec (invoke interp py float) file is)).map (Dict.get · field) =
      (daemonConfig interp file).map (Dict.get · field) := by
  refine run_unread hplain hfirst fun i hi heq => ?_
  rw [hfields i hi field heq] at hknown
  cases hknown

theorem setting_read (file : Option (Config F)) (before later : List Invocation) (c : Command)
    (dotted field : List Char) (hplain : PlainFile file)
    (hfirst : ∀ i ∈ before ++ .command c dotted :: later, i.PlainFirst)
    (hparts : parts dotted = [.text field])
    (hknown : (Dict.get (PolicyConfig.default interp) field).isSome)
    (hran : (c.run py float
      (loadConfig interp (exec (invoke interp py float) file before)) dotted).isSome)
    (hlater : ∀ i ∈ later, i.first ≠ some (.text field)) (policy : PolicyConfig F)
    (hloads : daemonConfig interp
      (exec (invoke interp py float) file (before ++ .command c dotted :: later)) = some policy) :
    Dict.get policy field = some (.leaf (c.stored py float)) := by
  rw [List.forall_mem_append,List.forall_mem_cons] at hfirst
  obtain ⟨hbefore,hcommand,hafter⟩ := hfirst
  have hplain' : PlainFile (exec (invoke interp py float) file before) := run_plain hplain hbefore
  have hnext : PlainFile (invoke interp py float _ _) := invoke_plain hplain' hcommand
  have hlast := congrArg (Option.map (Dict.get · field)) hloads
  rw [exec_append,exec_cons,run_unread hnext hafter hlater] at hlast
  generalize exec (invoke interp py float) file before = now at *
  obtain ⟨cli,hcli⟩ := Option.isSome_iff_exists.mp hran
  obtain ⟨items,items',hloaded,hsaved,hchanged⟩ := invoke_command hcli
  have hitems' := changed_plain hchanged (loaded_items hplain' hloaded).1 hcommand
  have hset := hchanged.whole _ hparts
  simp only [invoke,hcli,daemonConfig_items hsaved,Option.map_some] at hlast
  obtain ⟨seen,hseen,hsame⟩ := Option.map_eq_some_iff.mp hlast
  have hnamed : Named items' := by
    by_contra hno
    rw [setItems_unnamed hitems' hno] at hseen
    cases hseen
  obtain ⟨found,hfound,hfields⟩ := setItems_named interp (PolicyConfig.default interp)
    hitems' hnamed
  rw [hseen] at hfound
  obtain rfl := Option.some.inj hfound
  obtain ⟨old,hold⟩ := Option.isSome_iff_exists.mp hknown
  rw [← hsame,hfields,hold,hset,Dict.get_set_self]
  rfl

section Sample

def sampleInterpreter : Interpreter ℕ where
  truthy _ := true
  ratio := 0
  special name := name = "__class__".toList
  special_dunder name h := by
    rw [of_decide_eq_true h]
    decide
  setSpecial _ _ _ := none

def noFloat (_ : List Char) : Option ℕ := none

def cacheOff : Invocation := .command .disable "optimization.cache.enabled".toList

theorem cacheOff_first : cacheOff.first = some (.text "optimization".toList) := by decide +kernel

theorem cacheOff_plain : cacheOff.PlainFirst := by
  intro key hkey
  rw [cacheOff_first] at hkey
  obtain rfl := Option.some.inj hkey
  change ¬ dunder <+: _
  decide

theorem settings_unread_cacheOff :
    (daemonConfig sampleInterpreter
      (exec (invoke sampleInterpreter asciiPython noFloat) none [cacheOff])).map
        (Dict.get · "cache_enabled".toList) =
      (daemonConfig sampleInterpreter none).map (Dict.get · "cache_enabled".toList) := by
  refine settings_unread sampleInterpreter asciiPython noFloat none [cacheOff]
    (fun items h => by cases h) ?_ ?_ "cache_enabled".toList rfl
  · intro i hi
    rw [List.mem_singleton.mp hi]
    exact cacheOff_plain
  · intro i hi field hfield
    rw [List.mem_singleton.mp hi,cacheOff_first,Option.some_inj,Key.text.injEq] at hfield
    rw [← hfield]
    rfl

def swappinessTen : Invocation := .command (.set "10".toList) "swappiness".toList

theorem swappiness_parts : parts "swappiness".toList = [.text "swappiness".toList] := by
  decide +kernel

theorem swappinessTen_plain : swappinessTen.PlainFirst := by
  intro key hkey
  rw [swappinessTen,Invocation.first,swappiness_parts] at hkey
  obtain rfl := Option.some.inj hkey
  change ¬ dunder <+: _
  decide

theorem setting_read_swappiness : ∃ policy,
    daemonConfig sampleInterpreter (exec (invoke sampleInterpreter asciiPython noFloat) none
      [cacheOff,swappinessTen,.status]) = some policy ∧
    Dict.get policy "swappiness".toList = some (.leaf (.int 10)) := by
  obtain ⟨policy,hpolicy⟩ : ∃ policy, daemonConfig sampleInterpreter
      (exec (invoke sampleInterpreter asciiPython noFloat) none [cacheOff,swappinessTen,.status]) =
        some policy := Option.isSome_iff_exists.mp (by decide +kernel)
  refine ⟨policy,hpolicy,?_⟩
  refine setting_read sampleInterpreter asciiPython noFloat none [cacheOff] [.status]
    (.set "10".toList) "swappiness".toList "swappiness".toList (fun items h => by cases h) ?_
    swappiness_parts rfl (by decide +kernel) ?_ policy hpolicy
  · intro i hi
    simp only [List.cons_append,List.nil_append,List.mem_cons,List.not_mem_nil,or_false] at hi
    rcases hi with rfl | rfl | rfl
    · exact cacheOff_plain
    · exact swappinessTen_plain
    · exact fun key hkey => by cases hkey
  · intro i hi
    rw [List.mem_singleton.mp hi]
    exact fun h => by cases h

end Sample

end Uroam.User
