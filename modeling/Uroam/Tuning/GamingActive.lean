import Mathlib.Data.List.TakeWhile
import Uroam.Library.Settings
import Uroam.Tuning.History
import Uroam.Tuning.Restoring

namespace Uroam.Tuning.Gaming

def GamingState.isGamingActive (state : GamingState) : Bool :=
  state.isSteamRunning || state.isProtonActive || state.isWineRunning ||
    !state.criticalPids.isEmpty

section Detected

variable (toLowercase : List Char → List Char)

def steamEntry (e : ProcEntry) : Bool :=
  contains (toLowercase e.comm) "steam" || contains (toLowercase e.cmdline) "steam"

def protonEntry (e : ProcEntry) : Bool :=
  contains (toLowercase e.comm) "proton" || contains (toLowercase e.cmdline) "proton"

def wineEntry (e : ProcEntry) : Bool :=
  contains (toLowercase e.comm) "wine" || contains (toLowercase e.comm) "wine64"

def criticalEntry (e : ProcEntry) : Bool :=
  isCriticalProcess (toLowercase e.comm) (toLowercase e.cmdline)

def criticalPid (e : ProcEntry) : List Nat := if criticalEntry toLowercase e then [e.pid] else []

structure Found (entries : List ProcEntry) (state : GamingState) : Prop where
  steam : state.isSteamRunning = entries.any (steamEntry toLowercase)
  proton : state.isProtonActive = entries.any (protonEntry toLowercase)
  wine : state.isWineRunning = entries.any (wineEntry toLowercase)
  critical : state.criticalPids = entries.flatMap (criticalPid toLowercase)

theorem detect_found (state : GamingState) (entries : List ProcEntry) :
    Found toLowercase entries (detectGamingProcesses toLowercase state (some entries)).1 := by
  constructor
  · exact Settings.foldl_or GamingState.isSteamRunning (fun _ _ => Bool.or_assoc ..)
      entries _
  · exact Settings.foldl_or GamingState.isProtonActive (fun _ _ => Bool.or_assoc ..)
      entries _
  · exact Settings.foldl_or GamingState.isWineRunning (fun _ _ => Bool.or_assoc ..)
      entries _
  · exact Settings.foldl_append GamingState.criticalPids (fun _ _ => rfl) entries _

theorem critical_of_name {e : ProcEntry} (name : String)
    (hname : name ∈ ["gamescope","gamemoded","gamescope-session","proton","steam","steamwebhelper"])
    (h : (contains (toLowercase e.comm) name || contains (toLowercase e.cmdline) name) = true) :
    criticalEntry toLowercase e = true :=
  List.any_eq_true.mpr ⟨name,hname,h⟩

theorem found_critical {entries : List ProcEntry} {state : GamingState}
    (h : Found toLowercase entries state) :
    (!state.criticalPids.isEmpty) = entries.any (criticalEntry toLowercase) := by
  rw [h.critical,Bool.eq_iff_iff,List.any_eq_true]
  constructor
  · intro hne
    have hsome : entries.flatMap (criticalPid toLowercase) ≠ [] := by
      intro hnil
      simp [hnil] at hne
    obtain ⟨pid,hpid⟩ := List.exists_mem_of_ne_nil _ hsome
    obtain ⟨e,he,hin⟩ := List.mem_flatMap.mp hpid
    refine ⟨e,he,?_⟩
    by_contra hnot
    simp [criticalPid,hnot] at hin
  · rintro ⟨e,he,hcritical⟩
    have hin : e.pid ∈ entries.flatMap (criticalPid toLowercase) :=
      List.mem_flatMap.mpr ⟨e,he,by simp [criticalPid,hcritical]⟩
    cases hpids : entries.flatMap (criticalPid toLowercase) with
    | nil => simp [hpids] at hin
    | cons pid rest => rfl

-- Steam and Proton are critical names as well, so only Wine makes a difference.
theorem active_iff {entries : List ProcEntry} {state : GamingState}
    (h : Found toLowercase entries state) :
    state.isGamingActive = true ↔
      entries.any (wineEntry toLowercase) = true ∨
        entries.any (criticalEntry toLowercase) = true := by
  have hlisted : ∀ p : ProcEntry → Bool, (∀ e, p e = true → criticalEntry toLowercase e = true) →
      entries.any p = true → entries.any (criticalEntry toLowercase) = true := by
    intro p hp hany
    obtain ⟨e,he,hpe⟩ := List.any_eq_true.mp hany
    exact List.any_eq_true.mpr ⟨e,he,hp e hpe⟩
  have hsteam := hlisted (steamEntry toLowercase) fun e he =>
    critical_of_name toLowercase "steam" (by decide) he
  have hproton := hlisted (protonEntry toLowercase) fun e he =>
    critical_of_name toLowercase "proton" (by decide) he
  unfold GamingState.isGamingActive
  rw [found_critical toLowercase h,h.steam,h.proton,h.wine,Bool.or_eq_true,Bool.or_eq_true,
    Bool.or_eq_true]
  constructor
  · rintro (((h | h) | h) | h)
    · exact .inr (hsteam h)
    · exact .inr (hproton h)
    · exact .inl h
    · exact .inr h
  · rintro (h | h)
    · exact .inl (.inr h)
    · exact .inr h

end Detected

def ApplyEnv.allWritable (env : ApplyEnv) : ApplyEnv :=
  { env with writeOk := fun _ => true, oomOk := fun _ => true, createShaderDir := true }

theorem apply_written (env : ApplyEnv) (store : Store) {state : GamingState}
    (h : state.criticalPids.isEmpty = false) :
    (applyGamingOptimizations env store state).written =
      (gamingSettings env).takeWhile fun w => env.writeOk w.1 := by
  unfold applyGamingOptimizations
  rw [if_neg (by simp [h])]
  dsimp only
  split_ifs <;> rfl

theorem apply_idle (env : ApplyEnv) (store : Store) {state : GamingState}
    (h : state.criticalPids.isEmpty = true) :
    applyGamingOptimizations env store state = ⟨state,[],[],true⟩ := by
  rw [applyGamingOptimizations,if_pos h]

theorem switches_iff (env : ApplyEnv) (store : Store) (state : GamingState) :
    (applyGamingOptimizations env.allWritable store state).written =
        gamingSettings env.allWritable ↔
      (!state.criticalPids.isEmpty) = true := by
  cases h : state.criticalPids.isEmpty with
  | true =>
    rw [apply_idle _ store h]
    exact iff_of_false (fun hnil => by simp [gamingSettings] at hnil) (by simp)
  | false =>
    rw [apply_written _ store h]
    exact iff_of_true (List.takeWhile_eq_self_iff.mpr fun _ _ => rfl) rfl

theorem active_switches_iff (toLowercase : List Char → List Char) (state : GamingState)
    (entries : List ProcEntry) (env : ApplyEnv) (store : Store) :
    let detected := (detectGamingProcesses toLowercase state (some entries)).1
    (detected.isGamingActive = true ↔
        (applyGamingOptimizations env.allWritable store detected).written =
          gamingSettings env.allWritable) ↔
      (entries.any (wineEntry toLowercase) = true →
        entries.any (criticalEntry toLowercase) = true) := by
  intro detected
  have hfound : Found toLowercase entries detected := detect_found toLowercase state entries
  rw [switches_iff,active_iff toLowercase hfound,found_critical toLowercase hfound]
  exact or_iff_right_iff_imp

section Sample

def wineOnly : List ProcEntry := [⟨300,['w','i','n','e','6','4'],['g','a','m','e','.','e','x','e']⟩]

def plainEnv : ApplyEnv :=
  { swappinessReadable := true, writeOk := fun _ => false, ksmExists := false, thpExists := false,
    oomOk := fun _ => false, shaderDirExists := true, createShaderDir := true }

theorem wine_active_without_settings :
    let detected := (detectGamingProcesses (List.map Char.toLower) .default (some wineOnly)).1
    detected.isGamingActive = true ∧
      (applyGamingOptimizations plainEnv.allWritable sampleStore detected).written = [] ∧
      (applyGamingOptimizations plainEnv.allWritable sampleStore detected).ok = true := by
  decide +kernel

end Sample

end Uroam.Tuning.Gaming
