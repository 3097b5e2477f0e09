import Uroam.Library.Dict
import Uroam.Library.Runs
import Uroam.Tuning.Smaps

namespace Uroam.Tuning.Smaps.Histogram
open Runs

-- The HashMap of counts is only read by key. Its u32 cannot overflow: Linux has at most 2^22 pids.
structure Classifier where
  processes : List ProcessInfo
  workloadCounts : List (WorkloadType × ℕ)

def Classifier.count (c : Classifier) (w : WorkloadType) : ℕ := Dict.count c.workloadCounts w

def Classifier.record (c : Classifier) (p : ProcessInfo) : Classifier :=
  { processes := c.processes ++ [p]
    workloadCounts := Dict.bump c.workloadCounts p.workloadType }

section Scan

variable (prim : Primitives)

def Classifier.scanEntry (c : Classifier) : Option ProcDir → Classifier
  | none => c
  | some d =>
    match d.pid with
    | none => c
    | some pid => c.record (processInfo prim d pid)

def Classifier.scanProcesses (_ : Classifier) (proc : Option (List (Option ProcDir))) :
    Classifier × Bool :=
  let cleared : Classifier := ⟨[],[]⟩
  match proc with
  | none => (cleared,false)
  | some entries => (entries.foldl (Classifier.scanEntry prim) cleared,true)

def highPriority (p : ProcessInfo) : Bool := p.priority = .p0 || p.priority = .p1

def lowPriority (p : ProcessInfo) : Bool := p.priority = .p2 || p.priority = .p3

def Classifier.getHighPriorityPids (c : Classifier) : List Nat :=
  (c.processes.filter highPriority).map ProcessInfo.pid

def Classifier.getLowPriorityPids (c : Classifier) : List Nat :=
  (c.processes.filter lowPriority).map ProcessInfo.pid

structure Recorded (c : Classifier) : Prop where
  counts : ∀ w, c.count w = c.processes.countP fun p => p.workloadType = w
  priorities : ∀ p ∈ c.processes, p.priority = determinePriority p.workloadType

structure Split (c : Classifier) : Prop where
  parts : ∃ high low : List ProcessInfo, (high ++ low).Perm c.processes ∧
    c.getHighPriorityPids = high.map ProcessInfo.pid ∧
    c.getLowPriorityPids = low.map ProcessInfo.pid
  once : (c.getHighPriorityPids ++ c.getLowPriorityPids).Perm (c.processes.map ProcessInfo.pid)
  apart : (c.processes.map ProcessInfo.pid).Nodup →
    c.getHighPriorityPids.Disjoint c.getLowPriorityPids

theorem count_record (c : Classifier) (p : ProcessInfo) (w : WorkloadType) :
    (c.record p).count w = if w = p.workloadType then c.count w + 1 else c.count w :=
  Dict.count_bump ..

theorem recorded_push {c : Classifier} (h : Recorded c) {p : ProcessInfo}
    (hp : p.priority = determinePriority p.workloadType) : Recorded (c.record p) := by
  constructor
  · intro w
    have hpush : (c.record p).processes = c.processes ++ [p] := rfl
    rw [count_record,hpush,List.countP_append,List.countP_singleton,h.counts w]
    by_cases hw : w = p.workloadType
    · simp [hw]
    · simp [hw,Ne.symm hw]
  · intro q hq
    rcases List.mem_append.mp hq with hold | hnew
    · exact h.priorities q hold
    · rw [List.mem_singleton.mp hnew]
      exact hp

theorem scanEntry_dir (c : Classifier) (d : ProcDir) :
    c.scanEntry prim (some d) = ((scanDir prim d).map c.record).getD c := by
  rw [scanDir,Option.map_map]
  simp only [Classifier.scanEntry]
  cases d.pid <;> rfl

theorem scanDir_priority {d : ProcDir} {p : ProcessInfo} (h : scanDir prim d = some p) :
    p.priority = determinePriority p.workloadType := by
  obtain ⟨pid,-,rfl⟩ := Option.map_eq_some_iff.mp h
  rfl

theorem recorded_entry {c : Classifier} (h : Recorded c) (entry : Option ProcDir) :
    Recorded (c.scanEntry prim entry) := by
  cases entry with
  | none => exact h
  | some d =>
    rw [scanEntry_dir]
    cases hdir : scanDir prim d with
    | none => exact h
    | some p => exact recorded_push h (scanDir_priority prim hdir)

theorem recorded_cleared : Recorded ⟨[],[]⟩ := by
  refine ⟨fun _ => rfl,?_⟩
  intro p hp
  cases hp

theorem scan_recorded (c : Classifier) (proc : Option (List (Option ProcDir))) :
    Recorded (c.scanProcesses prim proc).1 := by
  cases proc with
  | none => exact recorded_cleared
  | some entries =>
    have hentry : ∀ c entry, Recorded c → True → Recorded (c.scanEntry prim entry) :=
      fun c entry h _ => recorded_entry prim h entry
    exact invariant (Classifier.scanEntry prim) hentry entries ⟨[],[]⟩ recorded_cleared
      (along_true ..)

theorem lowPriority_not (p : ProcessInfo) : lowPriority p = !highPriority p := by
  unfold lowPriority highPriority
  cases p.priority <;> rfl

theorem split_pids (c : Classifier) : Split c := by
  have hparts : (c.processes.filter highPriority ++ c.processes.filter lowPriority).Perm
      c.processes := by
    rw [List.filter_congr fun p _ => lowPriority_not p]
    exact List.filter_append_perm highPriority c.processes
  have honce := hparts.map ProcessInfo.pid
  rw [List.map_append] at honce
  refine ⟨⟨_,_,hparts,rfl,rfl⟩,honce,?_⟩
  intro hnodup
  exact List.disjoint_of_nodup_append (honce.nodup_iff.mpr hnodup)

theorem scan_consistent (c : Classifier) (proc : Option (List (Option ProcDir))) :
    let scanned := (c.scanProcesses prim proc).1
    Recorded scanned ∧ Split scanned :=
  ⟨scan_recorded prim c proc,split_pids _⟩

theorem scanned_processes (c : Classifier) (entries : List (Option ProcDir)) :
    (c.scanProcesses prim (some entries)).1.processes =
      entries.filterMap fun entry => entry.bind (scanDir prim) := by
  have hentry : ∀ (c : Classifier) (entry : Option ProcDir),
      (c.scanEntry prim entry).processes =
        c.processes ++ (entry.bind (scanDir prim)).toList := by
    intro c entry
    cases entry with
    | none => exact (List.append_nil _).symm
    | some d =>
      rw [Option.bind_some,scanEntry_dir]
      cases scanDir prim d with
      | none => exact (List.append_nil _).symm
      | some p => rfl
  have hall := Settings.foldl_append Classifier.processes hentry entries ⟨[],[]⟩
  rw [List.nil_append] at hall
  rw [List.filterMap_eq_flatMap_toList]
  exact hall

theorem scan_refines (c : Classifier) (entries : List (Option ProcDir)) :
    let scanned := (c.scanProcesses prim (some entries)).1
    (Smaps.scanProcesses prim (some entries)).map (fun s => (s.processes,s.workloadCounts)) =
      some (scanned.processes,scanned.count) := by
  intro scanned
  have hprocesses : scanned.processes = _ := scanned_processes prim c entries
  have hcounts : scanned.count = fun w => scanned.processes.countP fun p => p.workloadType = w :=
    funext (scan_recorded prim c (some entries)).counts
  rw [hcounts,hprocesses]
  rfl

end Scan

end Uroam.Tuning.Smaps.Histogram
