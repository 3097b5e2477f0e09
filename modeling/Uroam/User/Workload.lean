import Uroam.Library.Dict
import Uroam.Library.Plurality
import Uroam.User.Snapshots

namespace Uroam.User
open Plurality

abbrev Counts := List (WorkloadType × ℕ)

def laterMembers : List WorkloadType := [.gaming,.rendering,.background,.interactive,.idle]

def members : List WorkloadType := .aiMl :: laterMembers

def WorkloadType.position : WorkloadType → ℕ
  | .aiMl => 0
  | .gaming => 1
  | .rendering => 2
  | .background => 3
  | .interactive => 4
  | .idle => 5

structure HistoryEntry where
  timestamp : ℤ
  workload : WorkloadType
  counts : Counts

structure WorkloadClassifier where
  workloadState : WorkloadType
  classificationHistory : List HistoryEntry

def zeroCounts : Counts := members.map fun w => (w,0)

def countUp (counts : Counts) (w : WorkloadType) : Option Counts :=
  (Dict.get counts w).map fun n => Dict.set counts w (n + 1)

-- `max` over the keys; `none` is the ValueError on an empty dictionary.
def dominant (counts : Counts) : Option WorkloadType :=
  match counts.map Prod.fst with
  | [] => none
  | w :: ws => some (leader (Dict.count counts) w ws)

section Update

variable (py : Python)

def WorkloadClassifier.updateWorkloadState (c : WorkloadClassifier)
    (proc : Option (List ProcDir)) (now : ℤ) : Option WorkloadClassifier := do
  let types := (getProcessSnapshots py proc).map (classifyProcess py)
  let counts ← types.foldlM countUp zeroCounts
  let dominant ← dominant counts
  some
    { workloadState := dominant
      classificationHistory := c.classificationHistory ++ [⟨now,dominant,counts⟩] }

def processType (d : ProcDir) : Option WorkloadType :=
  match takeSnapshot py d with
  | .taken s => some (classifyProcess py s)
  | _ => none

def processTypes (dirs : List ProcDir) : List WorkloadType := dirs.filterMap (processType py)

def Dominates (types : List WorkloadType) (w : WorkloadType) : Prop :=
  if types = [] then w = .idle else ∀ v, types.count v ≤ types.count w

def StateExact (dirs : List ProcDir) : Prop :=
  ∃ w, Dominates (processTypes py dirs) w ∧
    ∀ order : List ProcDir, order.Perm dirs → ∀ (c : WorkloadClassifier) (now : ℤ),
      ∃ c', c.updateWorkloadState py (some order) now = some c' ∧ c'.workloadState = w

structure Tallied (counts : Counts) (types : List WorkloadType) : Prop where
  keys : counts.map Prod.fst = members
  count : ∀ w, Dict.count counts w = types.count w

theorem mem_members (w : WorkloadType) : w ∈ members := by cases w <;> decide

theorem members_sorted : members.Pairwise fun a b => a.position < b.position := by decide

theorem tallied_zero : Tallied zeroCounts [] := by
  refine ⟨rfl,?_⟩
  intro w
  cases w <;> rfl

theorem tallied_up {counts : Counts} {types : List WorkloadType} (h : Tallied counts types)
    (w : WorkloadType) : ∃ next, countUp counts w = some next ∧ Tallied next (types ++ [w]) := by
  have hkey : w ∈ counts.map Prod.fst := h.keys ▸ mem_members w
  obtain ⟨n,hn⟩ := Dict.get_some hkey
  have hup : countUp counts w = some (Dict.bump counts w) := by
    rw [countUp,Dict.bump,Dict.count,hn]
    rfl
  refine ⟨_,hup,(Dict.keys_set hkey _).trans h.keys,?_⟩
  intro v
  rw [Dict.count_bump,List.count_append,List.count_singleton,h.count v]
  by_cases hv : v = w
  · simp [hv]
  · simp [hv,Ne.symm hv]

theorem tallied_all {counts : Counts} {before : List WorkloadType} (h : Tallied counts before)
    (types : List WorkloadType) :
    ∃ final, types.foldlM countUp counts = some final ∧ Tallied final (before ++ types) := by
  induction types generalizing counts before with
  | nil => exact ⟨counts,rfl,by rwa [List.append_nil]⟩
  | cons w types ih =>
    obtain ⟨next,hup,hnext⟩ := tallied_up h w
    obtain ⟨final,hfinal,htallied⟩ := ih hnext
    refine ⟨final,?_,by rwa [List.append_assoc] at htallied⟩
    rw [List.foldlM_cons,hup]
    exact hfinal

theorem tallied_dominant {counts : Counts} {types : List WorkloadType} (h : Tallied counts types) :
    dominant counts = some (winner .aiMl laterMembers types) := by
  have hcount : Dict.count counts = types.count := funext h.count
  rw [dominant,h.keys,hcount]
  rfl

def sampled (proc : Option (List ProcDir)) : List WorkloadType :=
  (getProcessSnapshots py proc).map (classifyProcess py)

theorem update_winner (c : WorkloadClassifier) (proc : Option (List ProcDir)) (now : ℤ) :
    ∃ counts, Tallied counts (sampled py proc) ∧
      c.updateWorkloadState py proc now =
        some
          { workloadState := winner .aiMl laterMembers (sampled py proc)
            classificationHistory := c.classificationHistory ++
              [⟨now,winner .aiMl laterMembers (sampled py proc),counts⟩] } := by
  obtain ⟨counts,hcounts,htallied⟩ := tallied_all tallied_zero (sampled py proc)
  refine ⟨counts,htallied,?_⟩
  unfold sampled at hcounts
  simp only [WorkloadClassifier.updateWorkloadState,hcounts,Option.bind_eq_bind,Option.bind_some,
    tallied_dominant htallied]
  rfl

def Determined (dirs : List ProcDir) : Prop :=
  processTypes py dirs ≠ [] ∧
    ((∀ d ∈ dirs, takeSnapshot py d ≠ .stopped) ∧
        ((processTypes py dirs).length ≤ 50 ∨
          ∃ w, Secure WorkloadType.position 50 (processTypes py dirs) w) ∨
      ∀ w ∈ processTypes py dirs, w = .aiMl)

variable {py}

theorem count_other {types : List WorkloadType} (h : ∀ w ∈ types, w = .aiMl) {w : WorkloadType}
    (hw : w ≠ .aiMl) : types.count w = 0 :=
  List.count_eq_zero_of_not_mem fun hmem => hw (h w hmem)

theorem winner_aiMl {types : List WorkloadType} (h : ∀ w ∈ types, w = .aiMl) :
    winner .aiMl laterMembers types = .aiMl := by
  refine (winner_iff members_sorted mem_members).mpr fun w hw => ?_
  have hnone := count_other h hw
  have hlater : WorkloadType.position .aiMl < w.position := by
    cases w <;> first | exact absurd rfl hw | decide
  simp only [Ahead]
  omega

theorem stateExact_iff_winner (dirs : List ProcDir) :
    StateExact py dirs ↔ ∃ w, Dominates (processTypes py dirs) w ∧
      ∀ order : List ProcDir, order.Perm dirs →
        winner .aiMl laterMembers (sampled py (some order)) = w := by
  refine exists_congr fun w => and_congr_right fun _ => forall₂_congr fun order _ => ?_
  constructor
  · intro h
    obtain ⟨c',hc',hw⟩ := h ⟨.idle,[]⟩ 0
    obtain ⟨counts,-,hupdate⟩ := update_winner py ⟨.idle,[]⟩ (some order) 0
    obtain rfl := Option.some.inj (hupdate.symm.trans hc')
    exact hw
  · intro h c now
    obtain ⟨counts,-,hupdate⟩ := update_winner py c (some order) now
    exact ⟨_,hupdate,h⟩

theorem collect_passing {dirs : List ProcDir} (h : ∀ d ∈ dirs, takeSnapshot py d ≠ .stopped) :
    (collect py dirs).map (classifyProcess py) = processTypes py dirs := by
  induction dirs with
  | nil => rfl
  | cons d dirs ih =>
    obtain ⟨hd,hrest⟩ := List.forall_mem_cons.mp h
    rw [processTypes,List.filterMap_cons,collect,processType]
    cases htake : takeSnapshot py d with
    | skipped => exact ih hrest
    | taken s => exact congrArg _ (ih hrest)
    | stopped => exact absurd htake hd

theorem sampled_passing {dirs : List ProcDir} (h : ∀ d ∈ dirs, takeSnapshot py d ≠ .stopped) :
    sampled py (some dirs) = (processTypes py dirs).take 50 := by
  rw [← collect_passing h,← List.map_take]
  rfl

theorem sampled_mem {dirs : List ProcDir} {w : WorkloadType} (h : w ∈ sampled py (some dirs)) :
    w ∈ processTypes py dirs := by
  obtain ⟨s,hs,rfl⟩ := List.mem_map.mp h
  obtain ⟨d,hd,htaken⟩ := snapshots_taken py hs
  exact List.mem_filterMap.mpr ⟨d,hd,by rw [processType,htaken]⟩

theorem passing_settled {dirs : List ProcDir} (h : ∀ d ∈ dirs, takeSnapshot py d ≠ .stopped)
    (hne : processTypes py dirs ≠ []) :
    StateExact py dirs ↔ Settled .aiMl laterMembers 50 (processTypes py dirs) := by
  have hsample : ∀ {order : List ProcDir}, order.Perm dirs →
      sampled py (some order) = (processTypes py order).take 50 := fun horder =>
    sampled_passing fun d hd => h d (horder.mem_iff.mp hd)
  rw [stateExact_iff_winner]
  refine exists_congr fun w => ?_
  rw [Dominates,if_neg hne]
  refine and_congr_right fun _ => ?_
  constructor
  · intro hstate types htypes
    obtain ⟨order,horder,rfl⟩ := perm_filterMap htypes
    have hw := hstate order horder
    rwa [hsample horder] at hw
  · intro hstate order horder
    rw [hsample horder]
    exact hstate _ (horder.filterMap _)

theorem sampled_stop {stop : ProcDir} (htake : takeSnapshot py stop = .stopped)
    (rest : List ProcDir) : sampled py (some (stop :: rest)) = [] := by
  simp [sampled,getProcessSnapshots,collect,htake]

theorem sampled_one {d stop : ProcDir} {w : WorkloadType} (htype : processType py d = some w)
    (htake : takeSnapshot py stop = .stopped) (rest : List ProcDir) :
    sampled py (some (d :: stop :: rest)) = [w] := by
  unfold processType at htype
  cases hsnapshot : takeSnapshot py d with
  | taken s =>
    simp only [hsnapshot,Option.some_inj] at htype
    simp [sampled,getProcessSnapshots,collect,hsnapshot,htake,htype]
  | skipped => simp [hsnapshot] at htype
  | stopped => simp [hsnapshot] at htype

theorem winner_one (w : WorkloadType) : winner .aiMl laterMembers [w] = w := by
  cases w <;> decide

theorem stopped_exact {dirs : List ProcDir} {stop : ProcDir} (hstop : stop ∈ dirs)
    (htake : takeSnapshot py stop = .stopped) :
    StateExact py dirs ↔
      processTypes py dirs ≠ [] ∧ ∀ w ∈ processTypes py dirs, w = .aiMl := by
  rw [stateExact_iff_winner]
  constructor
  · rintro ⟨w,hdominates,hall⟩
    have haiMl : w = .aiMl := by
      obtain ⟨rest,hrest⟩ := perm_front hstop
      have hw := hall _ hrest
      rw [sampled_stop htake] at hw
      exact hw.symm
    constructor
    · intro hnone
      rw [Dominates,if_pos hnone,haiMl] at hdominates
      cases hdominates
    · intro v hv
      obtain ⟨d,hd,htype⟩ := List.mem_filterMap.mp hv
      have hne : d ≠ stop := by
        rintro rfl
        simp [processType,htake] at htype
      obtain ⟨rest,hrest⟩ := perm_front_two hd hstop hne
      have hv := hall _ hrest
      rw [sampled_one htype htake,winner_one] at hv
      rw [hv,haiMl]
  · rintro ⟨hne,hall⟩
    refine ⟨.aiMl,?_,?_⟩
    · rw [Dominates,if_neg hne]
      intro v
      have hcount : (processTypes py dirs).count .aiMl = (processTypes py dirs).length :=
        List.count_eq_length.mpr fun w hw => (hall w hw).symm
      rw [hcount]
      exact List.count_le_length
    · intro order horder
      refine winner_aiMl fun w hw => hall w ?_
      exact (horder.filterMap _).mem_iff.mp (sampled_mem hw)

theorem empty_inexact {dirs : List ProcDir} (hpass : ∀ d ∈ dirs, takeSnapshot py d ≠ .stopped)
    (hnone : processTypes py dirs = []) : ¬ StateExact py dirs := by
  rw [stateExact_iff_winner]
  rintro ⟨w,hdominates,hall⟩
  have hw := hall dirs (List.Perm.refl dirs)
  rw [sampled_passing hpass,hnone,List.take_nil,winner_aiMl (by simp)] at hw
  rw [Dominates,if_pos hnone,← hw] at hdominates
  cases hdominates

theorem all_secure {types : List WorkloadType} (h : ∀ w ∈ types, w = .aiMl) :
    Secure WorkloadType.position 50 types .aiMl := by
  intro w hw
  have hnone := count_other h hw
  have hothers : others types .aiMl = 0 :=
    List.countP_eq_zero.mpr fun v hv => by simp [h v hv]
  omega

theorem state_exact_iff (dirs : List ProcDir) : StateExact py dirs ↔ Determined py dirs := by
  unfold Determined
  by_cases hpass : ∀ d ∈ dirs, takeSnapshot py d ≠ .stopped
  · by_cases hnone : processTypes py dirs = []
    · exact iff_of_false (empty_inexact hpass hnone) fun h => h.1 hnone
    · rw [passing_settled hpass hnone,
        settled_iff members_sorted mem_members (by decide : 0 < 50)]
      constructor
      · exact fun h => ⟨hnone,.inl ⟨hpass,h⟩⟩
      · rintro ⟨-,⟨-,h⟩ | hall⟩
        · exact h
        · exact .inr ⟨_,all_secure hall⟩
  · have hstop : ∃ d ∈ dirs, takeSnapshot py d = .stopped := by
      by_contra hnone
      exact hpass fun d hd htake => hnone ⟨d,hd,htake⟩
    obtain ⟨stop,hmem,htake⟩ := hstop
    rw [stopped_exact hmem htake]
    refine and_congr_right fun _ => ?_
    constructor
    · exact fun hall => .inr hall
    · rintro (⟨hpasses,-⟩ | hall)
      · exact absurd hpasses hpass
      · exact hall

end Update

section Sample

theorem empty_listing_is_ai :
    ((⟨.idle,[]⟩ : WorkloadClassifier).updateWorkloadState asciiPython (some []) 0).map
        WorkloadClassifier.workloadState = some .aiMl ∧
      ¬ StateExact asciiPython [] := by
  have hstate : ((⟨.idle,[]⟩ : WorkloadClassifier).updateWorkloadState asciiPython (some []) 0).map
      WorkloadClassifier.workloadState = some .aiMl := by
    decide
  refine ⟨hstate,?_⟩
  rintro ⟨w,hdominates,hall⟩
  have hidle : w = .idle := hdominates
  obtain ⟨c',hc',hw⟩ := hall [] (List.Perm.refl []) ⟨.idle,[]⟩ 0
  rw [hc',Option.map_some,hw,hidle] at hstate
  exact absurd hstate (by decide)

end Sample

end Uroam.User
