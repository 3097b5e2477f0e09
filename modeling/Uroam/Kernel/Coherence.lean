import Uroam.Kernel.Sleeping
import Uroam.Kernel.TrackingTree

namespace Uroam.Kernel
open Runs Thread

structure ProcessInfo.Coherent (info : ProcessInfo) : Prop where
  priority : info.priority = uroamGetProcessPriority info.comm
  isAiWorkload : info.isAiWorkload = uroamIsAiWorkload info.comm
  isGaming : info.isGaming = uroamIsGamingWorkload info.comm

def Module.Coherent (m : Module) : Prop :=
  ∀ slot : Slot, slot.val < m.globalState.trackedCount →
    (m.globalState.trackedProcesses slot).Coherent

def SameClass (comm comm' : List Char) : Prop :=
  uroamGetProcessPriority comm = uroamGetProcessPriority comm' ∧
  uroamIsAiWorkload comm = uroamIsAiWorkload comm' ∧
  uroamIsGamingWorkload comm = uroamIsGamingWorkload comm'

def KeepsClass (m : Module) (task : Task) : Prop :=
  ∀ slot, uroamProcessTreeSearch m task.pid = some slot →
    slot.val < m.globalState.trackedCount →
      SameClass (getTaskComm task) (m.globalState.trackedProcesses slot).comm

structure Scan where
  pids : PidTable
  rounds : Nat

def scanned (scans : List Scan) : List Task :=
  scans.flatMap fun scan => visited scan.pids scan.rounds 1

theorem entered_coherent (task : Task) (memory : ProcessMemory) (old : ProcessInfo) :
    (entered task memory old).Coherent := ⟨rfl,rfl,rfl⟩

theorem refreshed_coherent_iff {old : ProcessInfo} (h : old.Coherent) (task : Task)
    (memory : ProcessMemory) :
    (refreshed task memory old).Coherent ↔ SameClass (getTaskComm task) old.comm := by
  constructor
  · intro hnew
    exact ⟨hnew.priority.symm.trans h.priority,hnew.isAiWorkload.symm.trans h.isAiWorkload,
      hnew.isGaming.symm.trans h.isGaming⟩
  · rintro ⟨hpriority,hai,hgaming⟩
    exact ⟨h.priority.trans hpriority.symm,h.isAiWorkload.trans hai.symm,
      h.isGaming.trans hgaming.symm⟩

theorem added_global (env : Env) (m : Module) (task : Task) (info : Slot) :
    (added env m task info).2.globalState =
      (m.setInfo info (entered task task.memory)).countUp.globalState := by
  unfold added uroamProcessTreeInsert
  cases SearchTree.link (m.setInfo info (entered task task.memory)).pidOf info
      (m.setInfo info (entered task task.memory)).processTree <;> rfl

section Update

variable (env : Env) (deliveries : Nat) {m : Module} {task : Task}

theorem update_returns (m : Module) (task : Task) :
    ∃ es, update env (deliveries + 1) m task = ⟨.ok (),updated env (deliveries + 1) m task,es⟩ ∧
      exec Event.after [] es = [] := by
  unfold updated update
  cases hs : uroamProcessTreeSearch m task.pid with
  | some slot =>
    rw [update_found hs List.not_mem_nil]
    refine ⟨_,rfl,?_⟩
    rw [exec_cons,exec_append,after_ops]
    rfl
  | none =>
    by_cases hc : m.globalState.trackedCount < maxTrackedProcesses
    · obtain ⟨m',es,hrun,-,-,hheld,-⟩ := update_adds env hs hc deliveries
      rw [hrun]
      exact ⟨es,rfl,hheld⟩
    · rw [update_full hs (not_lt.mp hc) List.not_mem_nil]
      exact ⟨_,rfl,rfl⟩

theorem updated_found {slot : Slot} (hs : uroamProcessTreeSearch m task.pid = some slot) :
    updated env (deliveries + 1) m task = m.setInfo slot (refreshed task task.memory) := by
  unfold updated update
  rw [update_found hs List.not_mem_nil]

theorem updated_full (hs : uroamProcessTreeSearch m task.pid = none)
    (hc : maxTrackedProcesses ≤ m.globalState.trackedCount) :
    updated env (deliveries + 1) m task = m := by
  unfold updated update
  rw [update_full hs hc List.not_mem_nil]

theorem updated_added (hs : uroamProcessTreeSearch m task.pid = none)
    (hc : m.globalState.trackedCount < maxTrackedProcesses) :
    (updated env (deliveries + 1) m task).globalState =
      (m.setInfo ⟨m.globalState.trackedCount,hc⟩
        (entered task task.memory)).countUp.globalState := by
  obtain ⟨m',es,hrun,hg,-,-,-⟩ := update_adds env hs hc deliveries
  unfold updated update
  rw [hrun,← added_global]
  exact hg

theorem coherent_updated_iff (h : m.Coherent) :
    (updated env (deliveries + 1) m task).Coherent ↔ KeepsClass m task := by
  cases hs : uroamProcessTreeSearch m task.pid with
  | some slot =>
    rw [updated_found env deliveries hs]
    constructor
    · intro hnew found hfound hlt
      cases hs.symm.trans hfound
      have hslot := hnew slot hlt
      simp only [Module.setInfo,Function.update_self] at hslot
      exact (refreshed_coherent_iff (h slot hlt) task task.memory).mp hslot
    · intro hkeep other hlt
      by_cases hother : other = slot
      · subst hother
        simp only [Module.setInfo,Function.update_self]
        exact (refreshed_coherent_iff (h other hlt) task task.memory).mpr (hkeep other hs hlt)
      · simp only [Module.setInfo,Function.update_of_ne hother]
        exact h other hlt
  | none =>
    have hkeep : KeepsClass m task := fun slot hslot => by
      rw [hs] at hslot
      cases hslot
    refine iff_of_true ?_ hkeep
    by_cases hc : m.globalState.trackedCount < maxTrackedProcesses
    · intro slot hlt
      rw [updated_added env deliveries hs hc] at hlt ⊢
      by_cases hslot : slot = ⟨m.globalState.trackedCount,hc⟩
      · subst hslot
        simp only [Module.countUp,Module.setInfo,Function.update_self]
        exact entered_coherent ..
      · have hlt' : slot.val < m.globalState.trackedCount := by
          have hne : slot.val ≠ m.globalState.trackedCount := fun he => hslot (Fin.ext he)
          simp only [Module.countUp,Module.setInfo] at hlt
          omega
        simp only [Module.countUp,Module.setInfo,Function.update_of_ne hslot]
        exact h slot hlt'
    · rw [updated_full env deliveries hs (not_lt.mp hc)]
      exact h

theorem scan_state (pids : PidTable) (rounds nr : Nat) (m : Module) :
    ((scanFrom env (input env (deliveries + 1)) pids rounds nr).run [] m).state =
      exec (updated env (deliveries + 1)) m (visited pids rounds nr) := by
  induction rounds generalizing nr m with
  | zero => simp [scanFrom,visited]
  | succ rounds ih =>
    cases hp : pids nr with
    | none => simp [scanFrom,visited,hp]
    | some slot =>
      cases slot with
      | none => simpa [scanFrom,visited,hp] using ih (nr + 1) m
      | some task =>
        obtain ⟨es,hrun,hheld⟩ := update_returns env deliveries m task
        unfold update at hrun
        simp [scanFrom,visited,hp,hrun,hheld,ih]

theorem scans_state (scans : List Scan) (m : Module) :
    exec (fun m scan => ((uroamTrackingScan env (input env (deliveries + 1)) scan.pids
        scan.rounds).run [] m).state) m scans =
      exec (updated env (deliveries + 1)) m (scanned scans) := by
  induction scans generalizing m with
  | nil => rfl
  | cons scan scans ih =>
    have hsplit : scanned (scan :: scans) = visited scan.pids scan.rounds 1 ++ scanned scans :=
      List.flatMap_cons
    rw [hsplit,exec_append,exec_cons,ih,uroamTrackingScan,scan_state]

theorem coherent_iff (nlSock : Bool) (scans : List Scan) :
    Throughout (updated env (deliveries + 1)) Module.Coherent (.loaded nlSock) (scanned scans) ↔
      Along (updated env (deliveries + 1)) KeepsClass (.loaded nlSock) (scanned scans) := by
  have h := exact_condition (updated env (deliveries + 1)) (G := Module.Coherent)
    (Q := fun _ _ => True) (E := fun _ _ => True) (fun _ hm => hm)
    (fun m task hm _ hkeep => ⟨(coherent_updated_iff env deliveries hm).mpr hkeep,trivial⟩)
    (fun m task hm _ hnew _ => (coherent_updated_iff env deliveries hm).mp hnew)
    (scanned scans) (.loaded nlSock) (fun slot hlt => absurd hlt (Nat.not_lt_zero _))
    (along_true ..)
  rwa [and_iff_left (along_true ..)] at h

end Update

section Sample

def oneProcess (comm : String) : Scan :=
  ⟨fun nr => if nr = 1 then some (some ⟨1,comm.toList,none,none,0⟩) else none,2⟩

theorem exec_leaves_priority :
    ¬ Throughout (updated .serving 1) Module.Coherent (.loaded true)
      (scanned [oneProcess "bash",oneProcess "steam"]) := by
  rintro ⟨-,-,hcoherent⟩
  have hpriority := (hcoherent ⟨0,by decide⟩ (by decide +kernel)).priority
  exact absurd hpriority (by decide +kernel)

end Sample

end Uroam.Kernel
