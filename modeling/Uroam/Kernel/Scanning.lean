import Mathlib.Data.Nat.Find
import Mathlib.Data.Set.Finite.Lattice
import Uroam.Kernel.Coherence

namespace Uroam.Kernel
open Runs Thread

def PidTable.Live (pids : PidTable) (n : Nat) (task : Task) : Prop :=
  0 < n ∧ pids n = some (some task)

def PidTable.Numbered (pids : PidTable) : Prop :=
  ∀ n task, pids n = some (some task) → task.pid = n

def PidTable.NoGap (pids : PidTable) : Prop :=
  ∀ n task, pids.Live n task → ∀ k, 0 < k → k < n → pids k ≠ none

def tasksIn (pids : PidTable) (nr k : Nat) : List Task :=
  (List.range' nr k).filterMap fun n => (pids n).join

def GapAfter (pids : PidTable) (nr k : Nat) : Prop :=
  pids (nr + k) = none ∧ ∀ j, j < k → pids (nr + j) ≠ none

theorem gap_next {pids : PidTable} {nr k : Nat} (h : GapAfter pids nr (k + 1)) :
    GapAfter pids (nr + 1) k := by
  obtain ⟨hgap,hused⟩ := h
  refine ⟨by rwa [Nat.add_assoc,Nat.add_comm 1],fun j hj => ?_⟩
  rw [Nat.add_assoc,Nat.add_comm 1]
  exact hused (j + 1) (Nat.succ_lt_succ hj)

theorem visited_gap {pids : PidTable} {nr k : Nat} (h : GapAfter pids nr k) :
    ∀ more, visited pids (k + more + 1) nr = tasksIn pids nr k := by
  intro more
  induction k generalizing nr with
  | zero =>
    have hnone : pids nr = none := h.1
    simp [visited,hnone,tasksIn]
  | succ k ih =>
    have hrest := ih (gap_next h)
    have hlength : k + 1 + more + 1 = k + more + 1 + 1 := by omega
    rw [hlength,visited,tasksIn,List.range'_succ]
    cases hp : pids nr with
    | none => exact absurd hp (h.2 0 (Nat.succ_pos k))
    | some slot =>
      cases slot with
      | none => simpa [hp,tasksIn] using hrest
      | some task => simpa [hp,tasksIn] using hrest

section Calls

variable (env : Env) (deliver : Option Skb → Kern Unit)

theorem scan_visited {pids : PidTable} {rounds nr : Nat} (h : ∃ k < rounds, pids (nr + k) = none) :
    scanFrom env deliver pids rounds nr =
      (visited pids rounds nr).forM (uroamTrackingUpdateProcess env deliver) := by
  induction rounds generalizing nr with
  | zero =>
    obtain ⟨k,hk,-⟩ := h
    exact absurd hk (Nat.not_lt_zero k)
  | succ rounds ih =>
    obtain ⟨k,hk,hgap⟩ := h
    rw [scanFrom,visited]
    cases hp : pids nr with
    | none => rfl
    | some slot =>
      have hpos : k ≠ 0 := by
        rintro rfl
        rw [Nat.add_zero,hp] at hgap
        cases hgap
      obtain ⟨k,rfl⟩ := Nat.exists_eq_succ_of_ne_zero hpos
      have hrest := @ih (nr + 1) ⟨k,Nat.lt_of_succ_lt_succ hk,by
        rwa [Nat.add_assoc,Nat.add_comm 1]⟩
      cases slot with
      | none => exact hrest
      | some task =>
        dsimp only
        rw [hrest]
        rfl

theorem scan_gap {pids : PidTable} {nr k : Nat} (h : GapAfter pids nr k) (more : Nat) :
    scanFrom env deliver pids (k + more + 1) nr =
      (tasksIn pids nr k).forM (uroamTrackingUpdateProcess env deliver) := by
  rw [scan_visited env deliver ⟨k,by omega,h.1⟩,visited_gap h]

end Calls

theorem updates_return (env : Env) (deliveries : Nat) (tasks : List Task) (m : Module) :
    ((tasks.forM (uroamTrackingUpdateProcess env (input env (deliveries + 1)))).run [] m).result =
      .ok () := by
  induction tasks generalizing m with
  | nil => rfl
  | cons task tasks ih =>
    obtain ⟨es,hrun,hheld⟩ := update_returns env deliveries m task
    unfold update at hrun
    change ((uroamTrackingUpdateProcess env (input env (deliveries + 1)) task >>= fun _ =>
      tasks.forM (uroamTrackingUpdateProcess env (input env (deliveries + 1)))).run [] m).result = _
    simp only [bind_run,hrun,ok_andThen,hheld]
    exact ih _

theorem tasks_nodup {pids : PidTable} (h : pids.Numbered) (nr k : Nat) :
    (tasksIn pids nr k).Nodup := by
  apply List.Nodup.filterMap _ List.nodup_range'
  intro i j task hi hj
  have hpid : ∀ n, task ∈ (pids n).join → task.pid = n := fun n hn =>
    h n task (Option.join_eq_some_iff.mp hn)
  have hsame : (i : Int) = j := (hpid i hi).symm.trans (hpid j hj)
  exact Int.ofNat.inj hsame

theorem mem_tasks {pids : PidTable} {nr k : Nat} {task : Task} :
    task ∈ tasksIn pids nr k ↔ ∃ n, nr ≤ n ∧ n < nr + k ∧ pids n = some (some task) := by
  simp [tasksIn,List.mem_range'_1,and_assoc,Option.join_eq_some_iff]

def CallsEachOnce (pids : PidTable) (calls : List Task) : Prop :=
  ∀ n task, pids.Live n task → calls.count task = 1

theorem calls_once_iff {pids : PidTable} (h : pids.Numbered) {k : Nat} (hgap : GapAfter pids 1 k) :
    CallsEachOnce pids (tasksIn pids 1 k) ↔ pids.NoGap := by
  constructor
  · intro hcalls n task hlive i hi hlt hnone
    have hmem : task ∈ tasksIn pids 1 k := by
      rw [← List.count_pos_iff,hcalls n task hlive]
      exact Nat.one_pos
    obtain ⟨n',_,hn',hslot⟩ := mem_tasks.mp hmem
    have hsame : (n' : Int) = n := (h n' task hslot).symm.trans (h n task hlive.2)
    have hlater : ¬ i - 1 < k := fun hik => hgap.2 (i - 1) hik (by rwa [Nat.add_sub_cancel' hi])
    omega
  · intro hnogap n task hlive
    apply List.count_eq_one_of_mem (tasks_nodup h 1 k)
    refine mem_tasks.mpr ⟨n,hlive.1,?_,hlive.2⟩
    by_contra hge
    have hne : n ≠ 1 + k := by
      rintro rfl
      have hslot := hlive.2
      rw [hgap.1] at hslot
      cases hslot
    exact hnogap n task hlive (1 + k) (by omega) (by omega) hgap.1

theorem gap_exists {pids : PidTable} (h : {n | pids n ≠ none}.Finite) : ∃ k, GapAfter pids 1 k := by
  have hfree : ∃ k, pids (1 + k) = none := by
    obtain ⟨top,htop⟩ := h.bddAbove
    refine ⟨top,?_⟩
    by_contra hused
    have := htop hused
    omega
  exact ⟨Nat.find hfree,Nat.find_spec hfree,fun j hj => Nat.find_min hfree hj⟩

def ScanCalls (env : Env) (deliveries : Nat) (pids : PidTable) (calls : List Task) : Prop :=
  ∃ enough, ∀ rounds, enough ≤ rounds →
    visited pids rounds 1 = calls ∧
    uroamTrackingScan env (input env (deliveries + 1)) pids rounds =
      calls.forM (uroamTrackingUpdateProcess env (input env (deliveries + 1))) ∧
    ∀ m, ((uroamTrackingScan env (input env (deliveries + 1)) pids rounds).run [] m).result =
      .ok ()

theorem scan_calls_gap (env : Env) (deliveries : Nat) {pids : PidTable} {k : Nat}
    (h : GapAfter pids 1 k) : ScanCalls env deliveries pids (tasksIn pids 1 k) := by
  refine ⟨k + 1,fun rounds hrounds => ?_⟩
  obtain ⟨more,rfl⟩ : ∃ more, rounds = k + more + 1 := ⟨rounds - k - 1,by omega⟩
  have hscan : uroamTrackingScan env (input env (deliveries + 1)) pids (k + more + 1) = _ :=
    scan_gap env (input env (deliveries + 1)) h more
  refine ⟨visited_gap h more,hscan,fun m => ?_⟩
  rw [hscan]
  exact updates_return env deliveries _ m

def ScanCovers (env : Env) (deliveries : Nat) (pids : PidTable) : Prop :=
  ∃ calls, ScanCalls env deliveries pids calls ∧ CallsEachOnce pids calls

theorem calls_unique {env : Env} {deliveries : Nat} {pids : PidTable} {calls calls' : List Task}
    (h : ScanCalls env deliveries pids calls) (h' : ScanCalls env deliveries pids calls') :
    calls = calls' := by
  obtain ⟨enough,hrun⟩ := h
  obtain ⟨enough',hrun'⟩ := h'
  have hseen := (hrun (enough + enough') (by omega)).1
  exact hseen.symm.trans (hrun' (enough + enough') (by omega)).1

theorem scan_covers_gap (env : Env) (deliveries : Nat) {pids : PidTable} (hnumber : pids.Numbered)
    {k : Nat} (h : GapAfter pids 1 k) : ScanCovers env deliveries pids ↔ pids.NoGap := by
  rw [← calls_once_iff hnumber h]
  constructor
  · rintro ⟨calls,hcalls,honce⟩
    rwa [calls_unique hcalls (scan_calls_gap env deliveries h)] at honce
  · exact fun honce => ⟨_,scan_calls_gap env deliveries h,honce⟩

theorem scan_covers_iff (env : Env) (deliveries : Nat) (pids : PidTable)
    (hfinite : {n | pids n ≠ none}.Finite) (hnumber : pids.Numbered) :
    (∃ calls, ScanCalls env deliveries pids calls) ∧
      (ScanCovers env deliveries pids ↔ pids.NoGap) := by
  obtain ⟨k,hgap⟩ := gap_exists hfinite
  exact ⟨⟨_,scan_calls_gap env deliveries hgap⟩,scan_covers_gap env deliveries hnumber hgap⟩

section Sample

def worker (pid : Int) : Task := ⟨pid,"sh".toList,none,none,0⟩

def gapped : PidTable := fun n => if n = 1 ∨ n = 3 then some (some (worker n)) else none

theorem gapped_finite : {n | gapped n ≠ none}.Finite := by
  apply Set.Finite.subset (Set.finite_le_nat 3)
  intro n hn
  by_contra hlt
  have hout : ¬ (n = 1 ∨ n = 3) := by
    rintro (rfl | rfl)
    · exact hlt (by decide : 1 ≤ 3)
    · exact hlt (le_refl 3)
  exact hn (if_neg hout)

theorem gapped_numbered : gapped.Numbered := by
  intro n task h
  unfold gapped at h
  split at h
  · cases h
    rfl
  · cases h

theorem scan_covers_iff_gapped :
    (∃ calls, ScanCalls .serving 0 gapped calls) ∧
      (ScanCovers .serving 0 gapped ↔ gapped.NoGap) :=
  scan_covers_iff .serving 0 gapped gapped_finite gapped_numbered

theorem gap_hides_process :
    ¬ ∀ (env : Env) (deliveries : Nat) (pids : PidTable), {n | pids n ≠ none}.Finite →
      pids.Numbered → (∃ task, pids.Live 1 task) → ScanCovers env deliveries pids := by
  intro h
  have hgap : GapAfter gapped 1 1 := ⟨rfl,fun j hj => by
    obtain rfl : j = 0 := by omega
    exact Option.some_ne_none _⟩
  have hcovers := h .serving 0 gapped gapped_finite gapped_numbered ⟨worker 1,Nat.one_pos,rfl⟩
  have hnogap := (scan_covers_gap .serving 0 gapped_numbered hgap).mp hcovers
  exact hnogap 3 (worker 3) ⟨by decide,rfl⟩ 2 (by decide) (by decide) rfl

end Sample

end Uroam.Kernel
