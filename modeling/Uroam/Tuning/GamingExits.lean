import Uroam.Tuning.GamingActive

namespace Uroam.Tuning.Gaming

-- What the kernel takes: a mode name for transparent huge pages, a number for a vm sysctl, and no
-- write for a process that has exited. Whether it takes the KSM write is left open.
structure Machine where
  ksmOk : Bool
  alive : Nat → Bool
  oomOk : Nat → Bool
  exited : ∀ pid, alive pid = false → oomOk pid = false

def Machine.accepts (k : Machine) : Tunable → Setting → Bool
  | .thpEnabled, .word mode => ["always","madvise","never"].contains mode
  | .thpEnabled, .num _ => false
  | .ksmRun, _ => k.ksmOk
  | _, .num _ => true
  | _, .word _ => false

structure Files where
  swappinessReadable : Bool
  ksmExists : Bool
  thpExists : Bool
  shaderDirExists : Bool
  createShaderDir : Bool

def Machine.env (k : Machine) (files : Files) : ApplyEnv :=
  { swappinessReadable := files.swappinessReadable
    writeOk := fun t => k.accepts t (gamingSetting t)
    ksmExists := files.ksmExists
    thpExists := files.thpExists
    oomOk := k.oomOk
    shaderDirExists := files.shaderDirExists
    createShaderDir := files.createShaderDir }

structure Complete (k : Machine) (files : Files) (state : GamingState) (a : Applied) : Prop where
  settings : state.criticalPids ≠ [] → a.written = gamingSettings (k.env files)
  scores : ∀ pid ∈ state.criticalPids, k.alive pid = true → Write.oomScoreAdj pid (-900) ∈ a.oom

def Reached (k : Machine) (pids : List Nat) (pid : Nat) : Prop :=
  ∃ earlier later, pids = earlier ++ pid :: later ∧ k.oomOk pid = true ∧
    ∀ q ∈ earlier, k.oomOk q = true

theorem mem_takeWhile_iff {A : Type} {p : A → Bool} {x : A} {l : List A} :
    x ∈ l.takeWhile p ↔ ∃ a b, l = a ++ x :: b ∧ p x = true ∧ ∀ y ∈ a, p y = true := by
  constructor
  · intro h
    obtain ⟨a,b,hab⟩ := List.append_of_mem h
    have hall : ∀ y ∈ a ++ x :: b, p y = true := by
      intro y hy
      rw [← hab] at hy
      exact List.mem_takeWhile_imp hy
    refine ⟨a,b ++ l.dropWhile p,?_,hall x (by simp),fun y hy => hall y (by simp [hy])⟩
    calc l = l.takeWhile p ++ l.dropWhile p := List.takeWhile_append_dropWhile.symm
      _ = a ++ x :: (b ++ l.dropWhile p) := by rw [hab,List.append_assoc,List.cons_append]
  · rintro ⟨a,b,rfl,hx,ha⟩
    rw [List.takeWhile_append_of_pos ha,List.takeWhile_cons_of_pos hx]
    simp

theorem settings_taken_iff (k : Machine) (files : Files) :
    (∀ w ∈ gamingSettings (k.env files), (k.env files).writeOk w.1 = true) ↔
      files.thpExists = false ∧ (files.ksmExists = true → k.ksmOk = true) := by
  cases hthp : files.thpExists <;> cases hksm : files.ksmExists <;>
    simp [gamingSettings,Machine.env,Machine.accepts,gamingSetting,hthp,hksm]

theorem saved_critical (readable : Bool) (store : Store) (state : GamingState) :
    (saveSwappiness readable store state).criticalPids = state.criticalPids := by
  unfold saveSwappiness
  split <;> rfl

theorem apply_scores (env : ApplyEnv) (store : Store) {state : GamingState}
    (h : state.criticalPids.isEmpty = false)
    (hall : ∀ w ∈ gamingSettings env, env.writeOk w.1 = true) :
    (applyGamingOptimizations env store state).oom =
      (state.criticalPids.takeWhile env.oomOk).map fun pid => .oomScoreAdj pid (-900) := by
  have htaken : (gamingSettings env).takeWhile (fun w => env.writeOk w.1) = gamingSettings env :=
    List.takeWhile_eq_self_iff.mpr hall
  unfold applyGamingOptimizations
  rw [if_neg (by simp [h])]
  dsimp only
  rw [htaken,if_neg (Nat.lt_irrefl _),saved_critical]
  split_ifs <;> rfl

theorem score_written (pid : Nat) (pids : List Nat) :
    Write.oomScoreAdj pid (-900) ∈ (pids.map fun pid : Nat => Write.oomScoreAdj pid (-900)) ↔
      pid ∈ pids := by
  rw [List.mem_map]
  constructor
  · rintro ⟨q,hq,he⟩
    have hsame : (q : ℤ) = pid := (Write.oomScoreAdj.inj he).1
    rwa [← Int.ofNat_inj.mp hsame]
  · intro h
    exact ⟨pid,h,rfl⟩

theorem apply_complete_iff (k : Machine) (files : Files) (store : Store) (state : GamingState) :
    Complete k files state (applyGamingOptimizations (k.env files) store state) ↔
      state.criticalPids = [] ∨
      (files.thpExists = false ∧ (files.ksmExists = true → k.ksmOk = true)) ∧
        ∀ pid ∈ state.criticalPids, k.alive pid = true → Reached k state.criticalPids pid := by
  cases hempty : state.criticalPids.isEmpty with
  | true =>
    have hnil := List.isEmpty_iff.mp hempty
    refine iff_of_true ⟨fun hne => absurd hnil hne,?_⟩ (.inl hnil)
    rw [hnil]
    exact fun _ hpid => nomatch hpid
  | false =>
    have hne : state.criticalPids ≠ [] := fun hnil => by simp [hnil] at hempty
    rw [or_iff_right hne,← settings_taken_iff]
    constructor
    · rintro ⟨hsettings,hscores⟩
      have hall := hsettings hne
      rw [apply_written (k.env files) store hempty,List.takeWhile_eq_self_iff] at hall
      refine ⟨hall,?_⟩
      intro pid hpid halive
      have hscore := hscores pid hpid halive
      rw [apply_scores (k.env files) store hempty hall,score_written] at hscore
      exact mem_takeWhile_iff.mp hscore
    · rintro ⟨hall,hreached⟩
      constructor
      · intro _
        rw [apply_written (k.env files) store hempty,List.takeWhile_eq_self_iff]
        exact hall
      · intro pid hpid halive
        rw [apply_scores (k.env files) store hempty hall,score_written]
        exact mem_takeWhile_iff.mpr (hreached pid hpid halive)

section Sample

def oneExited : Machine :=
  { ksmOk := true, alive := fun pid => pid != 100, oomOk := fun pid => pid != 100,
    exited := fun _ h => h }

def twoGames : List ProcEntry :=
  [⟨100,['s','t','e','a','m'],[]⟩,⟨200,['g','a','m','e','s','c','o','p','e'],[]⟩]

theorem exited_game_skips_rest :
    let detected := (detectGamingProcesses (List.map Char.toLower) .default (some twoGames)).1
    let noThp := applyGamingOptimizations (oneExited.env ⟨true,true,false,true,true⟩) sampleStore
      detected
    let withThp := applyGamingOptimizations (oneExited.env ⟨true,true,true,true,true⟩) sampleStore
      detected
    detected.criticalPids = [100,200] ∧ oneExited.alive 200 = true ∧ noThp.oom = [] ∧
      withThp.oom = [] ∧
      (.thpEnabled,.word "[always]") ∈ gamingSettings (oneExited.env ⟨true,true,true,true,true⟩) ∧
      (.thpEnabled,.word "[always]") ∉ withThp.written := by
  decide +kernel

end Sample

end Uroam.Tuning.Gaming
