import Mathlib.Tactic.SplitIfs
import Uroam.Library.Settings

namespace Uroam.Tuning

inductive Tunable where
  | swappiness
  | vfsCachePressure
  | pageCluster
  | minFreeKbytes
  | dirtyRatio
  | dirtyBackgroundRatio
  | ksmRun
  | ksmPagesToScan
  | ksmSleepMillisecs
  | thpEnabled
  | thpDefrag
  | zswapEnabled
  | zswapMaxPoolPercent
  | zswapCompressor
  deriving DecidableEq, Repr

inductive Setting where
  | num (value : Nat)
  | word (value : String)
  deriving DecidableEq, Repr

abbrev Store := Tunable → Setting

inductive Write where
  | tunable (t : Tunable) (value : Setting)
  | dropCaches (level : Nat)
  | oomScoreAdj (pid adj : Int)
  deriving DecidableEq, Repr

def Write.target : Write → Option (Tunable × Setting)
  | .tunable t value => some (t,value)
  | .dropCaches _ | .oomScoreAdj _ _ => none

def Store.write (s : Store) (ws : List Write) : Store := ws.foldl (Settings.perform Write.target) s

def lastWritten (t : Tunable) (ws : List Write) : Option Setting :=
  Settings.lastSome (Settings.valueOn Write.target t) ws

theorem write_apply (s : Store) (ws : List Write) (t : Tunable) :
    s.write ws t = (lastWritten t ws).getD (s t) :=
  Settings.perform_all Write.target s ws t

theorem lastWritten_append (t : Tunable) (ws vs : List Write) :
    lastWritten t (ws ++ vs) = (lastWritten t vs).or (lastWritten t ws) :=
  Settings.lastSome_append ..

@[simp] theorem lastWritten_nil (t : Tunable) : lastWritten t [] = none := rfl

@[simp] theorem lastWritten_tunable (t u : Tunable) (value : Setting) (ws : List Write) :
    lastWritten t (.tunable u value :: ws) =
      (lastWritten t ws).or (if u = t then some value else none) := rfl

@[simp] theorem lastWritten_dropCaches (t : Tunable) (level : Nat) (ws : List Write) :
    lastWritten t (.dropCaches level :: ws) = lastWritten t ws := by
  simp [lastWritten,Settings.valueOn,Write.target]

@[simp] theorem lastWritten_dropCaches_if (t : Tunable) (P : Prop) [Decidable P] (level : Nat)
    (ws : List Write) :
    lastWritten t ((if P then [.dropCaches level] else []) ++ ws) = lastWritten t ws := by
  split_ifs
  · exact lastWritten_dropCaches t level ws
  · rfl

theorem lastWritten_none {t : Tunable} {ws : List Write}
    (h : ∀ w ∈ ws, ∀ value, w ≠ .tunable t value) : lastWritten t ws = none := by
  apply Settings.lastSome_none.mpr
  intro w hw
  cases w with
  | tunable u value =>
    by_cases hu : u = t
    · subst hu
      exact absurd rfl (h _ hw value)
    · simp [Settings.valueOn,Write.target,hu]
  | dropCaches level => rfl
  | oomScoreAdj pid adj => rfl

theorem lastWritten_some_iff {t : Tunable} {ws : List Write} :
    (∃ value, lastWritten t ws = some value) ↔ ∃ value, .tunable t value ∈ ws := by
  constructor
  · rintro ⟨value,hvalue⟩
    by_contra hno
    have hnone : lastWritten t ws = none := by
      apply lastWritten_none
      intro w hw other hother
      exact hno ⟨other,hother ▸ hw⟩
    cases hnone.symm.trans hvalue
  · rintro ⟨value,hmem⟩
    cases hlast : lastWritten t ws with
    | some last => exact ⟨last,rfl⟩
    | none =>
      have hw := Settings.lastSome_none.mp hlast _ hmem
      simp [Settings.valueOn,Write.target] at hw

theorem lastWritten_of_part {t : Tunable} {part whole : List Write} (hpart : part ⊆ whole)
    (h : ∃ value, lastWritten t part = some value) : ∃ value, lastWritten t whole = some value := by
  obtain ⟨value,hmem⟩ := lastWritten_some_iff.mp h
  exact lastWritten_some_iff.mpr ⟨value,hpart hmem⟩

end Uroam.Tuning
