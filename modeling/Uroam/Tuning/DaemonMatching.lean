import Mathlib.Data.List.Infix
import Uroam.Tuning.Daemon

namespace Uroam.Tuning.Daemon

abbrev Bytes := List UInt8

def utf8 (text : String) : Bytes := text.toUTF8.data.toList

-- `s[low:high]`; `none` is the panic of a slice out of range.
def slice (s : Bytes) (low high : Nat) : Option Bytes :=
  if low ≤ high ∧ high ≤ s.length then some ((s.drop low).take (high - low)) else none

def searchFrom (s substr : Bytes) : Nat → Nat → Option Bool
  | 0, _ => some false
  | rounds + 1, i =>
    (slice s i (i + substr.length)).bind fun window =>
      if window = substr then some true else searchFrom s substr rounds (i + 1)

def containsAny (s : Bytes) : List Bytes → Option Bool
  | [] => some false
  | substr :: substrs =>
    if substr.length > s.length then containsAny s substrs
    else
      (searchFrom s substr (s.length - substr.length + 1) 0).bind fun found =>
        if found then some true else containsAny s substrs

structure Process where
  name : Option Bytes
  cmdline : Option Bytes

def pythonNames : List Bytes :=
  ["python", "python3", "python3.10", "python3.11", "python3.12"].map utf8

def inferenceWords : List Bytes :=
  ["torch", "tensorflow", "llama", "transformers", "inference", "ollama", "llamacpp", "llama.cpp",
    "llm"].map utf8

def trainingWords : List Bytes :=
  ["train", "fit", "epoch", "fine-tune", "finetune", "training"].map utf8

def gamingNames : List Bytes :=
  ["steam", "steamwebhelper", "proton", "wine", "wine64", "winedevice.exe", "wine64-preloader",
    "gamescope"].map utf8

def desktopNames : List Bytes :=
  ["gnome-shell", "kwin", "Xorg", "X11", "sway", "hyprland", "weston", "compton", "picom"].map utf8

def mediaNames : List Bytes :=
  ["blender", "gimp", "kdenlive", "obs", "ffmpeg", "handbrake"].map utf8

def systemNames : List Bytes :=
  ["systemd", "systemd-journal", "dbus-daemon", "NetworkManager", "polkitd", "udevd"].map utf8

def gameWords : List Bytes := ["exe", "x86_64", "linux64", "game"].map utf8

def classifyName (name : Bytes) (cmdline : Option Bytes) : Option (Option (WorkloadType × Int)) :=
  if name ∈ pythonNames then
    match cmdline with
    | none => some none
    | some cmdline =>
      (containsAny cmdline inferenceWords).bind fun inference =>
        if inference then some (some (.aiInference,priorityP0))
        else
          (containsAny cmdline trainingWords).map fun training =>
            if training then some (.aiTraining,priorityP1) else none
  else if name ∈ gamingNames then some (some (.gaming,priorityP1))
  else if name ∈ desktopNames then some (some (.background,priorityP0))
  else if name ∈ mediaNames then some (some (.general,priorityP1))
  else if name ∈ systemNames then some (some (.background,priorityP1))
  else some none

def classifyPattern (name : Bytes) : Option (WorkloadType × Int) :=
  (containsAny name gameWords).bind fun game =>
    if game then
      (containsAny name [utf8 "steam"]).map fun steam =>
        if steam then (.general,priorityP2) else (.gaming,priorityP1)
    else some (.general,priorityP2)

def classifyProcess (p : Process) : Option (WorkloadType × Int) :=
  match p.name with
  | none => some (.general,priorityP2)
  | some name =>
    (classifyName name p.cmdline).bind fun decided =>
      match decided with
      | some result => some result
      | none => classifyPattern name

def StartsAt (s substr : Bytes) (i : Nat) : Prop := substr <+: s.drop i

theorem slice_window {s substr : Bytes} {i : Nat} (h : i + substr.length ≤ s.length) :
    slice s i (i + substr.length) = some ((s.drop i).take substr.length) := by
  rw [slice,if_pos ⟨Nat.le_add_right .., h⟩,Nat.add_sub_cancel_left]

theorem window_iff (s substr : Bytes) (i : Nat) :
    (s.drop i).take substr.length = substr ↔ StartsAt s substr i := by
  rw [StartsAt,List.prefix_iff_eq_take,eq_comm]

theorem starts_within {s substr : Bytes} {i : Nat} (h : StartsAt s substr i)
    (hle : substr.length ≤ s.length) : ∃ j ≤ s.length - substr.length, StartsAt s substr j := by
  have hlength := h.length_le
  rw [List.length_drop] at hlength
  cases substr with
  | nil => exact ⟨0,Nat.zero_le _,List.nil_prefix⟩
  | cons b bs =>
    rw [List.length_cons] at hlength hle ⊢
    exact ⟨i,by omega,h⟩

theorem infix_iff_starts {s substr : Bytes} (hle : substr.length ≤ s.length) :
    substr <:+: s ↔ ∃ i ≤ s.length - substr.length, StartsAt s substr i := by
  constructor
  · rintro ⟨before,after,rfl⟩
    have hstart : StartsAt (before ++ substr ++ after) substr before.length := by
      rw [StartsAt,List.append_assoc,List.drop_left]
      exact List.prefix_append ..
    exact starts_within hstart hle
  · rintro ⟨i,-,hstart⟩
    exact hstart.isInfix.trans (List.drop_suffix i s).isInfix

theorem searchFrom_found {s substr : Bytes} (rounds i : Nat)
    (h : i + rounds + substr.length ≤ s.length + 1) :
    ∃ found, searchFrom s substr rounds i = some found ∧
      (found = true ↔ ∃ j, i ≤ j ∧ j < i + rounds ∧ StartsAt s substr j) := by
  induction rounds generalizing i with
  | zero =>
    refine ⟨false,rfl,iff_of_false Bool.false_ne_true ?_⟩
    rintro ⟨j,hlow,hhigh,-⟩
    omega
  | succ rounds ih =>
    rw [searchFrom,slice_window (by omega),Option.bind_some]
    by_cases hhere : StartsAt s substr i
    · rw [if_pos ((window_iff ..).mpr hhere)]
      exact ⟨true,rfl,iff_of_true rfl ⟨i,Nat.le_refl i,by omega,hhere⟩⟩
    · rw [if_neg fun hwindow => hhere ((window_iff ..).mp hwindow)]
      obtain ⟨found,hfound,hiff⟩ := ih (i + 1) (by omega)
      refine ⟨found,hfound,hiff.trans ?_⟩
      constructor
      · rintro ⟨j,hlow,hhigh,hstart⟩
        exact ⟨j,by omega,by omega,hstart⟩
      · rintro ⟨j,hlow,hhigh,hstart⟩
        have hne : j ≠ i := fun he => hhere (he ▸ hstart)
        exact ⟨j,by omega,by omega,hstart⟩

theorem search_occurs {s substr : Bytes} (hle : substr.length ≤ s.length) :
    searchFrom s substr (s.length - substr.length + 1) 0 = some (decide (substr <:+: s)) := by
  have hrounds : 0 + (s.length - substr.length + 1) + substr.length ≤ s.length + 1 := by omega
  obtain ⟨found,hfound,hiff⟩ := searchFrom_found _ 0 hrounds
  rw [hfound,Option.some_inj,Bool.eq_iff_iff,hiff,decide_eq_true_iff,infix_iff_starts hle]
  refine exists_congr fun j => ?_
  constructor
  · rintro ⟨-,hhigh,hstart⟩
    exact ⟨by omega,hstart⟩
  · rintro ⟨hhigh,hstart⟩
    exact ⟨Nat.zero_le j,by omega,hstart⟩

theorem containsAny_any (s : Bytes) (substrs : List Bytes) :
    containsAny s substrs = some (substrs.any fun substr => decide (substr <:+: s)) := by
  induction substrs with
  | nil => rfl
  | cons substr substrs ih =>
    rw [containsAny,List.any_cons]
    split
    · next hlong =>
      have hnot : ¬ substr <:+: s := fun h => absurd h.length_le (Nat.not_le_of_lt hlong)
      rw [ih,decide_eq_false hnot,Bool.false_or]
    · next hle =>
      rw [search_occurs (Nat.le_of_not_lt hle),Option.bind_some]
      by_cases hfound : substr <:+: s
      · simp [hfound]
      · simp [hfound,ih]

theorem containsAny_exact (s : Bytes) (substrs : List Bytes) :
    ∃ found, containsAny s substrs = some found ∧
      (found = true ↔ ∃ substr ∈ substrs, substr <:+: s) := by
  refine ⟨_,containsAny_any s substrs,?_⟩
  simp

theorem classifyName_returns (name : Bytes) (cmdline : Option Bytes) :
    ∃ decided, classifyName name cmdline = some decided := by
  unfold classifyName
  simp only [containsAny_any,Option.bind_some,Option.map_some]
  split_ifs
  · cases cmdline with
    | none => exact ⟨none,rfl⟩
    | some cmdline =>
      dsimp only
      split_ifs <;> exact ⟨_,rfl⟩
  all_goals exact ⟨_,rfl⟩

theorem classifyPattern_eq (name : Bytes) :
    classifyPattern name =
      some (if gameWords.any (fun w => decide (w <:+: name)) ∧ ¬ utf8 "steam" <:+: name then
        (.gaming,priorityP1) else (.general,priorityP2)) := by
  unfold classifyPattern
  simp only [containsAny_any,Option.bind_some,Option.map_some]
  cases gameWords.any (fun w => decide (w <:+: name)) with
  | false => simp
  | true => by_cases hsteam : utf8 "steam" <:+: name <;> simp [hsteam]

theorem classifyProcess_returns (p : Process) : ∃ result, classifyProcess p = some result := by
  unfold classifyProcess
  cases p.name with
  | none => exact ⟨_,rfl⟩
  | some name =>
    obtain ⟨decided,hdecided⟩ := classifyName_returns name p.cmdline
    dsimp only
    rw [hdecided,Option.bind_some]
    cases decided with
    | some result => exact ⟨result,rfl⟩
    | none => exact ⟨_,classifyPattern_eq name⟩

end Uroam.Tuning.Daemon
