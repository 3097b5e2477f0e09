import Mathlib.Data.List.Perm.Subperm
import Uroam.Kernel.TrackingTree

namespace Uroam.Kernel
open Runs Thread

inductive Churn where
  | create (pid : Int)
  | exit (pid : Int)
  | scan (tasks : List Task)

structure Machine where
  alive : List Int
  module : Module

section Steps

variable (env : Env) (deliveries : Nat)

def Machine.step (w : Machine) : Churn → Machine
  | .create pid => { w with alive := pid :: w.alive }
  | .exit pid => { w with alive := w.alive.erase pid }
  | .scan tasks => { w with module := exec (updated env (deliveries + 1)) w.module tasks }

def Possible (w : Machine) : Churn → Prop
  | .create pid => pid ∉ w.alive ∧ w.alive.length < maxTrackedProcesses
  | .exit pid => pid ∈ w.alive
  | .scan tasks => (tasks.map Task.pid).Perm w.alive

def TracksAlive (w : Machine) : Prop :=
  ∀ pid, ∃ found, ((uroamTrackingGetProcess pid).run [] w.module).result = .ok found ∧
    (found.isSome = true ↔ pid ∈ w.alive)

def ScanExact (w : Machine) (c : Churn) : Prop :=
  match c with
  | .scan _ => TracksAlive (w.step env deliveries c)
  | _ => True

def NoneExited (w : Machine) : Churn → Prop
  | .scan _ => ∀ pid, (uroamProcessTreeSearch w.module pid).isSome = true → pid ∈ w.alive
  | _ => True

end Steps

theorem enroll_nodup {table : List Int} (h : table.Nodup) (pid : Int) : (enroll table pid).Nodup := by
  unfold enroll
  split_ifs with hin
  · exact h
  · have hout := (not_or.mp hin).1
    have hne : ∀ p ∈ table, p ≠ pid := fun p hp he => hout (he ▸ hp)
    simpa [List.nodup_append,h] using hne

theorem subset_enroll (table : List Int) (pid : Int) : table ⊆ enroll table pid := by
  unfold enroll
  split_ifs
  · exact List.Subset.refl table
  · exact List.subset_append_left table [pid]

theorem enroll_subset {table alive : List Int} {pid : Int} (h : table ⊆ alive) (hpid : pid ∈ alive) :
    enroll table pid ⊆ alive := by
  unfold enroll
  split_ifs
  · exact h
  · exact List.append_subset.mpr ⟨h,by simpa using hpid⟩

theorem mem_enroll {table alive : List Int} {pid : Int} (hnodup : table.Nodup) (h : table ⊆ alive)
    (hpid : pid ∈ alive) (hroom : alive.length ≤ maxTrackedProcesses) : pid ∈ enroll table pid := by
  unfold enroll
  split_ifs with hin
  · rcases hin with hin | hfull
    · exact hin
    · have hperm : table.Subperm alive := List.subperm_of_subset hnodup h
      have hsame := hperm.perm_of_length_le (hroom.trans hfull)
      exact hsame.mem_iff.mpr hpid
  · simp

theorem subset_enroll_all (pids table : List Int) : table ⊆ exec enroll table pids := by
  induction pids generalizing table with
  | nil => exact List.Subset.refl table
  | cons pid pids ih => exact List.Subset.trans (subset_enroll table pid) (ih _)

theorem enroll_all {alive : List Int} (hroom : alive.length ≤ maxTrackedProcesses)
    (pids : List Int) : ∀ table : List Int, table.Nodup → table ⊆ alive → pids ⊆ alive →
      pids ⊆ exec enroll table pids ∧ exec enroll table pids ⊆ alive := by
  induction pids with
  | nil => exact fun table _ h _ => ⟨List.nil_subset _,h⟩
  | cons pid pids ih =>
    intro table hnodup h hpids
    obtain ⟨hpid,hrest⟩ := List.cons_subset.mp hpids
    obtain ⟨hseen,hsub⟩ :=
      ih (enroll table pid) (enroll_nodup hnodup pid) (enroll_subset h hpid) hrest
    have hin := mem_enroll hnodup h hpid hroom
    exact ⟨List.cons_subset.mpr ⟨subset_enroll_all pids _ hin,hseen⟩,hsub⟩

structure Machine.Sound (w : Machine) (table : List Int) : Prop where
  distinct : w.alive.Nodup
  room : w.alive.length ≤ maxTrackedProcesses
  tracks : Tracks w.module table

section Runs

variable (env : Env) (deliveries : Nat)

theorem tracks_alive_iff {w : Machine} {table : List Int} (h : Tracks w.module table) :
    TracksAlive w ↔ ∀ pid, pid ∈ table ↔ pid ∈ w.alive := by
  refine forall_congr' fun pid => ?_
  rw [← found_some_iff h,← Option.isSome_iff_exists]
  constructor
  · rintro ⟨found,hfound,hiff⟩
    cases (get_run_result w.module pid).symm.trans hfound
    exact hiff
  · intro hiff
    exact ⟨_,get_run_result w.module pid,hiff⟩

variable {env}

theorem step_sound (hrb : ∀ t, SearchTree.inorder (env.rbInsertColor t) = SearchTree.inorder t) {w : Machine} {c : Churn} (h : ∃ table, w.Sound table) (hc : Possible w c) :
    ∃ table, (w.step env deliveries c).Sound table := by
  obtain ⟨table,hdistinct,hroom,htracks⟩ := h
  cases c with
  | create pid => exact ⟨table,List.nodup_cons.mpr ⟨hc.1,hdistinct⟩,hc.2,htracks⟩
  | exit pid =>
    exact ⟨table,hdistinct.erase pid,(List.length_erase_le ..).trans hroom,htracks⟩
  | scan tasks =>
    exact ⟨_,hdistinct,hroom,(updates_track env deliveries hrb tasks _ _ htracks).1⟩

theorem scan_exact_iff
    (hrb : ∀ t, SearchTree.inorder (env.rbInsertColor t) = SearchTree.inorder t)
    {w : Machine} {c : Churn} (h : ∃ table, w.Sound table)
    (hc : Possible w c) : ScanExact env deliveries w c ↔ NoneExited w c := by
  obtain ⟨table,hdistinct,hroom,htracks⟩ := h
  cases c with
  | create pid => exact Iff.rfl
  | exit pid => exact Iff.rfl
  | scan tasks =>
    have hafter := (updates_track env deliveries hrb tasks _ _ htracks).1
    have hnone : NoneExited w (.scan tasks) ↔ table ⊆ w.alive := by
      simp only [NoneExited,Option.isSome_iff_exists,found_some_iff htracks]
      exact Iff.rfl
    have hpids : ∀ pid, pid ∈ tasks.map Task.pid ↔ pid ∈ w.alive := fun pid => hc.mem_iff
    rw [hnone]
    refine (tracks_alive_iff hafter).trans ?_
    change (∀ pid, pid ∈ exec enroll table (tasks.map Task.pid) ↔ pid ∈ w.alive) ↔ _
    constructor
    · intro hiff pid hpid
      exact (hiff pid).mp (subset_enroll_all (tasks.map Task.pid) table hpid)
    · intro hsub pid
      obtain ⟨hseen,hall⟩ := enroll_all hroom (tasks.map Task.pid) table htracks.distinct hsub
        fun pid hpid => (hpids pid).mp hpid
      exact ⟨fun hin => hall hin,fun hin => hseen ((hpids pid).mpr hin)⟩

theorem scans_exact_iff
    (hrb : ∀ t, SearchTree.inorder (env.rbInsertColor t) = SearchTree.inorder t)
    (nlSock : Bool) (history : List Churn)
    (hpossible : Along (Machine.step env deliveries) Possible ⟨[],.loaded nlSock⟩ history) :
    Along (Machine.step env deliveries) (ScanExact env deliveries) ⟨[],.loaded nlSock⟩ history ↔
      Along (Machine.step env deliveries) NoneExited ⟨[],.loaded nlSock⟩ history := by
  refine exact_steps (Machine.step env deliveries) (G := fun w => ∃ table, w.Sound table)
    (fun w c h hc => step_sound deliveries hrb h hc)
    (fun w c h hc => scan_exact_iff deliveries hrb h hc) history _ ?_ hpossible
  exact ⟨[],List.nodup_nil,Nat.zero_le _,fresh_tracks ⟨rfl,rfl⟩⟩

end Runs

section Sample

def shell (pid : Int) : Task := ⟨pid,"bash".toList,none,none,0⟩

def exitedChild : List Churn := [.create 1,.create 7,.scan [shell 1,shell 7],.exit 7,.scan [shell 1]]

theorem shell_tracked : Tracks (exec (updated .serving 1) (.loaded true) [shell 1]) [1] :=
  (updates_track .serving 0 (fun _ => rfl) [shell 1] _ [] (fresh_tracks ⟨rfl,rfl⟩)).1

theorem scans_exact_iff_sample :
    Along (Machine.step .serving 0) (ScanExact .serving 0) ⟨[],.loaded true⟩
      [.create 1,.scan [shell 1],.create 7,.scan [shell 1,shell 7]] := by
  refine (scans_exact_iff 0 (fun _ => rfl) true _ ?_).mpr ⟨trivial,?_,trivial,?_,trivial⟩
  · exact ⟨⟨by decide,by decide⟩,List.Perm.refl [1],⟨by decide,by decide⟩,List.Perm.swap 7 1 [],
      trivial⟩
  · intro pid hpid
    cases hpid
  · intro pid hpid
    obtain ⟨node,hnode⟩ := Option.isSome_iff_exists.mp hpid
    have hin : pid ∈ [(1 : Int)] := (found_some_iff shell_tracked pid).mp ⟨node,hnode⟩
    exact List.mem_cons_of_mem 7 hin

theorem exited_child_stays :
    ¬ Along (Machine.step .serving 0) (ScanExact .serving 0) ⟨[],.loaded true⟩ exitedChild := by
  rintro ⟨-,-,-,-,hscan,-⟩
  obtain ⟨found,hfound,hiff⟩ := hscan 7
  cases (get_run_result _ 7).symm.trans hfound
  exact absurd (hiff.mp (by decide +kernel)) (by decide +kernel)

end Sample

end Uroam.Kernel
