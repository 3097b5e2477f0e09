import Uroam.Tuning.Gaming

namespace Uroam.Tuning.Gaming

def gamingSetting : Tunable → Setting
  | .swappiness => .num 1
  | .vfsCachePressure => .num 50
  | .minFreeKbytes => .num 65536
  | .thpEnabled => .word "[always]"
  | _ => .num 0

theorem gamingSettings_value {env : ApplyEnv} {w : Tunable × Setting} (h : w ∈ gamingSettings env) :
    w.2 = gamingSetting w.1 := by
  unfold gamingSettings at h
  split_ifs at h <;> simp at h
  · rcases h with rfl | rfl | rfl | rfl | rfl | rfl <;> rfl
  · rcases h with rfl | rfl | rfl | rfl | rfl <;> rfl
  · rcases h with rfl | rfl | rfl | rfl | rfl <;> rfl
  · rcases h with rfl | rfl | rfl | rfl <;> rfl

theorem written_value {env : ApplyEnv} {store : Store} {state : GamingState}
    {w : Tunable × Setting} (h : w ∈ (applyGamingOptimizations env store state).written) :
    w.2 = gamingSetting w.1 := by
  have hpre : w ∈ (gamingSettings env).takeWhile (fun w => env.writeOk w.1) := by
    unfold applyGamingOptimizations at h
    dsimp only at h
    split_ifs at h
    · cases h
    · exact h
    · exact h
    · exact h
  exact gamingSettings_value ((List.takeWhile_prefix _).subset hpre)

theorem write_table {f : Tunable → Setting} {ws : List (Tunable × Setting)}
    (h : ∀ w ∈ ws, w.2 = f w.1) (store : Store) (t : Tunable) :
    store.write (ws.map fun w => .tunable w.1 w.2) t =
      if t ∈ ws.map Prod.fst then f t else store t := by
  induction ws generalizing store with
  | nil => rfl
  | cons w ws ih =>
    have hrest := ih (fun w hw => h w (List.mem_cons_of_mem _ hw)) (store.write [.tunable w.1 w.2])
    change (store.write [.tunable w.1 w.2]).write _ t = _
    rw [hrest,write_apply,lastWritten_tunable,lastWritten_nil,Option.none_or,
      h w List.mem_cons_self,List.map_cons]
    by_cases hw : w.1 = t
    · subst hw
      simp
    · have hne : ¬ t = w.1 := fun he => hw he.symm
      simp only [hw,List.mem_cons,hne,false_or,if_false,Option.getD_none]

structure Applying (w : World) : Prop where
  held : ∀ s, w.session = some s → ∀ t ∈ s.touched,
    w.store t = (s.outside t).getD (gamingSetting t)

def Restores (w : World) (writeOk : Bool) : Prop :=
  (restoreSettings writeOk w.store w.state).2 = true →
    ∀ s, w.session = some s → ∀ t ∈ s.touched,
      (restoreSettings writeOk w.store w.state).1 t = s.before t

def RestoresExact (w : World) : Op → Prop
  | .restoreSettings writeOk => Restores w writeOk
  | .cancelWithin100ms writeOk => Restores w writeOk
  | _ => True

def Restorable (w : World) (writeOk : Bool) : Prop :=
  (w.state.originalSwappiness.isSome → writeOk = true) →
    ∀ s, w.session = some s →
      (∀ t ∈ s.touched, t ≠ .swappiness → s.before t = (s.outside t).getD (gamingSetting t)) ∧
      (.swappiness ∈ s.touched → s.before .swappiness =
        (w.state.originalSwappiness.map Setting.num).getD
          ((s.outside .swappiness).getD (.num 1)))

def RestoreSafe (w : World) : Op → Prop
  | .restoreSettings writeOk => Restorable w writeOk
  | .cancelWithin100ms writeOk => Restorable w writeOk
  | _ => True

theorem restore_ok_iff (writeOk : Bool) (store : Store) (state : GamingState) :
    (restoreSettings writeOk store state).2 = true ↔
      (state.originalSwappiness.isSome → writeOk = true) := by
  unfold restoreSettings
  cases state.originalSwappiness <;> cases writeOk <;> simp

theorem restore_failed {writeOk : Bool} {store : Store} {state : GamingState}
    (h : (restoreSettings writeOk store state).2 = false) :
    restoreSettings writeOk store state = (store,false) := by
  unfold restoreSettings at h ⊢
  cases ho : state.originalSwappiness with
  | none =>
    rw [ho] at h
    cases h
  | some original =>
    cases writeOk with
    | false => rfl
    | true =>
      rw [ho] at h
      cases h

theorem restore_other (writeOk : Bool) (store : Store) (state : GamingState) {t : Tunable}
    (h : t ≠ .swappiness) : (restoreSettings writeOk store state).1 t = store t := by
  have hne : ¬ Tunable.swappiness = t := fun he => h he.symm
  unfold restoreSettings
  cases state.originalSwappiness <;> cases writeOk <;> simp [write_apply,hne]

theorem restore_swappiness {writeOk : Bool} {store : Store} {state : GamingState}
    (hok : (restoreSettings writeOk store state).2 = true) :
    (restoreSettings writeOk store state).1 .swappiness =
      (state.originalSwappiness.map Setting.num).getD (store .swappiness) := by
  rw [restore_ok_iff] at hok
  unfold restoreSettings
  cases ho : state.originalSwappiness with
  | none => rfl
  | some original =>
    have hw : writeOk = true := hok (by simp [ho])
    simp [hw,write_apply]

theorem restores_iff {w : World} (h : Applying w) (writeOk : Bool) :
    Restores w writeOk ↔ Restorable w writeOk := by
  unfold Restores Restorable
  rw [← restore_ok_iff writeOk w.store w.state]
  refine forall_congr' fun hok => forall_congr' fun s => forall_congr' fun hs => ?_
  constructor
  · intro hq
    refine ⟨?_,?_⟩
    · intro t ht hne
      rw [← hq t ht,restore_other writeOk w.store w.state hne,h.held s hs t ht]
    · intro ht
      rw [← hq _ ht,restore_swappiness hok,h.held s hs _ ht]
      rfl
  · rintro ⟨hothers,hswappiness⟩ t ht
    by_cases hne : t = .swappiness
    · subst hne
      rw [hswappiness ht,restore_swappiness hok,h.held s hs _ ht]
      rfl
    · rw [restore_other writeOk w.store w.state hne,h.held s hs t ht,hothers t ht hne]

section Steps

variable (toLowercase : List Char → List Char)

theorem restoresExact_iff (w : World) (op : Op) (h : Applying w) :
    RestoresExact w op ↔ RestoreSafe w op := by
  cases op with
  | restoreSettings writeOk => exact restores_iff h writeOk
  | cancelWithin100ms writeOk => exact restores_iff h writeOk
  | detectGamingProcesses | applyGamingOptimizations | external => exact Iff.rfl

theorem apply_applying (w : World) (env : ApplyEnv) (h : Applying w) :
    Applying (w.step toLowercase (.applyGamingOptimizations env)) := by
  refine ⟨?_⟩
  intro s hs t ht
  change w.store.write _ t = _
  rw [write_table (fun v hv => written_value hv)]
  obtain rfl : Session.apply w.session w.store
      (Gaming.applyGamingOptimizations env w.store w.state).written = s := Option.some.inj hs
  dsimp only [Session.apply]
  by_cases hw : t ∈ (Gaming.applyGamingOptimizations env w.store w.state).written.map Prod.fst
  · rw [if_pos hw,if_pos hw]
    rfl
  · rw [if_neg hw,if_neg hw]
    have htouched := (List.mem_append.mp ht).resolve_right hw
    cases hsession : w.session with
    | none => simp [hsession] at htouched
    | some opened =>
      rw [hsession] at htouched
      exact h.held opened hsession t htouched

theorem finish_applying (w : World) (h : Applying w) (writeOk : Bool) :
    Applying (w.finish (restoreSettings writeOk w.store w.state)) := by
  refine ⟨fun s hs => ?_⟩
  cases hok : (restoreSettings writeOk w.store w.state).2 with
  | true =>
    have hnone : (w.finish (restoreSettings writeOk w.store w.state)).session = none := by
      rw [World.finish,hok]
      rfl
    rw [hnone] at hs
    cases hs
  | false =>
    have hkept : restoreSettings writeOk w.store w.state = (w.store,false) := restore_failed hok
    rw [hkept] at hs ⊢
    exact h.held s hs

theorem external_applying (w : World) (h : Applying w) (t : Tunable) (value : Setting) :
    Applying (w.step toLowercase (.external t value)) := by
  refine ⟨fun s hs u hu => ?_⟩
  obtain ⟨opened,hopened,rfl⟩ := Option.map_eq_some_iff.mp hs
  change w.store.write [.tunable t value] u = _
  rw [write_apply,lastWritten_tunable,lastWritten_nil,Option.none_or]
  by_cases htu : t = u
  · subst htu
    simp [Session.change]
  · have hne : ¬ u = t := fun he => htu he.symm
    rw [if_neg htu,Option.getD_none,h.held opened hopened u hu]
    simp [Session.change,hne]

theorem step_applying (w : World) (op : Op) (h : Applying w) :
    Applying (w.step toLowercase op) := by
  cases op with
  | detectGamingProcesses proc => exact ⟨h.held⟩
  | applyGamingOptimizations env => exact apply_applying toLowercase w env h
  | restoreSettings writeOk => exact finish_applying w h writeOk
  | cancelWithin100ms writeOk => exact finish_applying w h writeOk
  | external t value => exact external_applying toLowercase w h t value

theorem sessions_restored_iff (store : Store) (ops : List Op) :
    Runs.Along (World.step toLowercase) RestoresExact (start store) ops ↔
      Runs.Along (World.step toLowercase) RestoreSafe (start store) ops :=
  Runs.exact_steps (World.step toLowercase) (fun w op h _ => step_applying toLowercase w op h)
    (fun w op h _ => restoresExact_iff w op h) ops (start store) ⟨fun _ hs => nomatch hs⟩
    (Runs.along_true (World.step toLowercase) ops (start store))

end Steps

section Sample

def sampleEnv : ApplyEnv :=
  { swappinessReadable := true, writeOk := fun _ => true, ksmExists := true, thpExists := false,
    oomOk := fun _ => true, shaderDirExists := true, createShaderDir := true }

def sampleProc : List ProcEntry := [⟨100,"steam".toList,"/usr/bin/steam".toList⟩]

def bootStore : Store
  | .swappiness => .num 60
  | .vfsCachePressure => .num 100
  | .pageCluster => .num 3
  | .minFreeKbytes => .num 67584
  | _ => .num 0

def oneSession : List Op :=
  [.detectGamingProcesses (some sampleProc),.applyGamingOptimizations sampleEnv,
    .restoreSettings true]

theorem cache_pressure_not_restored :
    ¬ Runs.Along (World.step (List.map Char.toLower)) RestoresExact (start bootStore)
      oneSession := by
  rintro ⟨_,_,hrestore,_⟩
  have hkept := hrestore (by decide +kernel) _ rfl .vfsCachePressure (by decide +kernel)
  exact absurd hkept (by decide +kernel)

end Sample

end Uroam.Tuning.Gaming
