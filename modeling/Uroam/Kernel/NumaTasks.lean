import Uroam.Kernel.NumaNodes

namespace Uroam.Kernel.Numa
open Loops

section Lookup

variable {α : Type} (pids : PidTable) (pid : ℤ) (body : Option Task → StateM Held α)

-- How the three task functions begin: the struct pid is not kept, only its task.
def withTask : StateM Held α := do
  let pidStruct ← findGetPid pids pid
  let task ← getPidTask pidStruct
  body task

theorem with_task_run (h : Held) :
    (withTask pids pid body).run h =
      match pidLookup pids pid with
      | none => (body none).run h
      | some none => (body none).run { h with structPid := h.structPid + 1 }
      | some (some task) =>
        (body (some task)).run { h with structPid := h.structPid + 1, task := h.task + 1 } := by
  unfold withTask
  rcases hpid : pidLookup pids pid with _ | _ | task <;> simp [findGetPid,hpid,getPidTask]

def RefsKept (before after : Held) : Prop :=
  after.structPid = before.structPid ∧ after.task = before.task ∧ after.mm = before.mm

def DropsTask (before after : Held) : Prop :=
  after.structPid = before.structPid ∧ after.task = before.task - 1 ∧ after.mm = before.mm

def LeaksPid (before after : Held) : Prop :=
  after.structPid = before.structPid + (if (pidLookup pids pid).isSome then 1 else 0) ∧
    after.task = before.task ∧ after.mm = before.mm

theorem with_task_leaks {body : Option Task → StateM Held α}
    (hnone : ∀ h, RefsKept h ((body none).run h).2)
    (hsome : ∀ task h, DropsTask h ((body (some task)).run h).2) (h : Held) :
    LeaksPid pids pid h ((withTask pids pid body).run h).2 := by
  rw [with_task_run]
  unfold LeaksPid
  rcases pidLookup pids pid with _ | _ | task
  · obtain ⟨hpid,htask,hmm⟩ := hnone h
    exact ⟨by simpa using hpid,htask,hmm⟩
  · exact hnone { h with structPid := h.structPid + 1 }
  · obtain ⟨hpid,htask,hmm⟩ :=
      hsome task { h with structPid := h.structPid + 1, task := h.task + 1 }
    exact ⟨hpid,by simpa using htask,hmm⟩

end Lookup

section BestNode

variable {t : Topology} {s : NumaState} {size : U64} {currentNode : ℤ}

def Fits (t : Topology) (s : NumaState) (size : U64) (node : ℕ) : Prop :=
  node ∈ t.online ∧ size ≤ (s.numaNodes node).freeMemory

def BestNode (t : Topology) (s : NumaState) (size : U64) (c : ℕ) (result : ℤ) : Prop :=
  (Fits t s size c → result = c) ∧
    (¬ Fits t s size c → (∃ k, k < s.nrNumaNodes ∧ Fits t s size k) →
      ∃ best : ℕ, result = best ∧ best < s.nrNumaNodes ∧ Fits t s size best ∧
        ∀ k, k < s.nrNumaNodes → Fits t s size k → t.nodeDistance c best ≤ t.nodeDistance c k) ∧
    0 ≤ result ∧ result < s.nrNumaNodes

theorem searchNodes_end (bestNode : ℕ) (minDistance : U64) (h : bestNode ≤ s.nrNumaNodes) :
    searchNodes t s size currentNode bestNode minDistance = s.nrNumaNodes := by
  fun_induction searchNodes t s size currentNode bestNode minDistance with
  | case1 bestNode minDistance hlt hfits distance hnearer ih => exact ih hlt
  | case2 bestNode minDistance hlt hfits distance hfarther ih => exact ih hlt
  | case3 bestNode minDistance hlt hunfit ih => exact ih hlt
  | case4 bestNode minDistance hend => omega

theorem localNode_some {c : ℕ} (hc : c < s.nrNumaNodes) (hfits : Fits t s size c) :
    localNode t s size c = some c := by
  unfold localNode
  cases hfind : (List.range s.nrNumaNodes).find? fun node =>
      decide (node ∈ t.online ∧ (node : ℤ) = c ∧ size ≤ (s.numaNodes node).freeMemory) with
  | none =>
    have hnone := List.find?_eq_none.mp hfind c (List.mem_range.mpr hc)
    rw [decide_eq_true_eq] at hnone
    exact absurd ⟨hfits.1,rfl,hfits.2⟩ hnone
  | some node =>
    have hnode := List.find?_some hfind
    simp only [decide_eq_true_eq,Int.natCast_inj] at hnode
    rw [hnode.2.1]

theorem localNode_none {c : ℕ} (hfits : ¬ Fits t s size c) : localNode t s size c = none := by
  rw [localNode,List.find?_eq_none]
  intro node _ hnode
  simp only [decide_eq_true_eq,Int.natCast_inj] at hnode
  obtain ⟨hon,rfl,hfree⟩ := hnode
  exact hfits ⟨hon,hfree⟩

def chosenNode (t : Topology) (s : NumaState) (size : U64) (task : Task) : ℤ :=
  match localNode t s size task.numaNode with
  | some node => node
  | none => searchNodes t s size task.numaNode 0 (-1)

theorem best_node_run (t : Topology) (s : NumaState) {pids : PidTable} {pid : ℤ} (size : U64)
    {task : Task} (hpid : pidLookup pids pid = some (some task)) (h : Held) :
    ((uroamNumaGetBestNode t s pids pid size).run h).1 = chosenNode t s size task := by
  change ((withTask pids pid _).run h).1 = _
  rw [with_task_run,hpid]
  cases hlocal : localNode t s size task.numaNode <;> simp [chosenNode,hlocal,putTaskStruct] <;> rfl

theorem best_node_iff (t : Topology) (s : NumaState) (pids : PidTable) (pid : ℤ) (size : U64)
    (h : Held) (task : Task) (c : ℕ) (hpid : pidLookup pids pid = some (some task))
    (hnode : task.numaNode = c) (hc : c < s.nrNumaNodes) :
    BestNode t s size c ((uroamNumaGetBestNode t s pids pid size).run h).1 ↔ Fits t s size c := by
  rw [best_node_run t s size hpid,chosenNode,hnode]
  by_cases hfits : Fits t s size c
  · rw [localNode_some hc hfits]
    refine iff_of_true ⟨fun _ => rfl,fun hunfit => absurd hfits hunfit,?_,?_⟩ hfits
    · exact Int.natCast_nonneg c
    · exact Int.ofNat_lt.mpr hc
  · rw [localNode_none hfits]
    refine iff_of_false ?_ hfits
    rintro ⟨_,_,_,hlt⟩
    simp only [searchNodes_end 0 (-1) (Nat.zero_le _)] at hlt
    exact lt_irrefl _ hlt

def nearTask : Task :=
  { pid := 7, comm := ['s', 'h'], mm := some ⟨1, 1, 0⟩, mpolBind := none, numaNode := 0 }

def onePid : PidTable := fun n => if n = 7 then some (some nearTask) else none

def noneHeld : Held := { structPid := 0, task := 0, mm := 0, mpol := 0, mempolicy := none }

def fullNode : NumaState :=
  { NumaState.loaded with
    nrNumaNodes := 2
    numaNodes := fun k => { NumaInfo.zero with freeMemory := if k = 1 then 1048576 else 0 } }

theorem best_node_iff_full :
    BestNode twoNodes fullNode 4096 0
        ((uroamNumaGetBestNode twoNodes fullNode onePid 7 4096).run noneHeld).1 ↔
      Fits twoNodes fullNode 4096 0 :=
  best_node_iff twoNodes fullNode onePid 7 4096 noneHeld nearTask 0 rfl rfl (by decide)

theorem remote_node_missed :
    ¬ ∀ (t : Topology) (s : NumaState) (pids : PidTable) (pid : ℤ) (size : U64) (h : Held)
      (task : Task) (c : ℕ), 1 ≤ s.nrNumaNodes → s.nrNumaNodes ≤ maxNumaNodes →
      pidLookup pids pid = some (some task) → task.numaNode = c → c < s.nrNumaNodes →
      BestNode t s size c ((uroamNumaGetBestNode t s pids pid size).run h).1 := by
  intro hall
  obtain ⟨_,_,_,hlt⟩ := hall twoNodes fullNode onePid 7 4096 noneHeld nearTask 0 (by decide)
    (by decide) rfl rfl (by decide)
  have hlocal : localNode twoNodes fullNode 4096 0 = none := by decide
  have hpid : pidLookup onePid 7 = some (some nearTask) := rfl
  rw [best_node_run twoNodes fullNode 4096 hpid] at hlt
  simp only [chosenNode,nearTask,hlocal,searchNodes_end 0 (-1) (Nat.zero_le _)] at hlt
  exact lt_irrefl _ hlt

end BestNode

section References

theorem leaks_kept_iff {pids : PidTable} {pid : ℤ} {before after : Held}
    (h : LeaksPid pids pid before after) : RefsKept before after ↔ pidLookup pids pid = none := by
  obtain ⟨hpid,htask,hmm⟩ := h
  cases hlookup : pidLookup pids pid with
  | none => simp [RefsKept,hpid,htask,hmm,hlookup]
  | some pidStruct =>
    have hmore : before.structPid + 1 ≠ before.structPid := by omega
    simp [RefsKept,hpid,hlookup,hmore]

variable (pids : PidTable) (pid : ℤ) (h : Held)

theorem best_node_leaks (t : Topology) (s : NumaState) (size : U64) :
    LeaksPid pids pid h ((uroamNumaGetBestNode t s pids pid size).run h).2 := by
  refine with_task_leaks pids pid (fun h => ⟨rfl,rfl,rfl⟩) (fun task h => ?_) h
  cases hlocal : localNode t s size task.numaNode <;>
    simp [DropsTask,hlocal,putTaskStruct] <;> exact ⟨rfl,rfl,rfl⟩

theorem migrate_pages_leaks (fromNode toNode : ℤ) :
    LeaksPid pids pid h ((uroamNumaMigratePages pids pid fromNode toNode).run h).2 := by
  refine with_task_leaks pids pid (fun h => ⟨rfl,rfl,rfl⟩) (fun task h => ?_) h
  cases hmm : task.mm <;>
    simp [DropsTask,getTaskMm,hmm,mmput,putTaskStruct] <;> exact ⟨rfl,rfl,rfl⟩

theorem set_policy_leaks (mpolNew : MpolNew) (policy : ℤ) (nodes : Option (List ℤ)) (nrNodes : ℤ) :
    LeaksPid pids pid h
      ((uroamNumaSetPolicy pids mpolNew pid policy nodes nrNodes).run h).2 := by
  refine with_task_leaks pids pid (fun h => ⟨rfl,rfl,rfl⟩) (fun task h => ?_) h
  rcases newPolicy mpolNew policy nodes nrNodes with _ | _ | new <;> exact ⟨rfl,rfl,rfl⟩

theorem references_kept_iff (t : Topology) (s : NumaState) (pids : PidTable) (pid : ℤ) (size : U64)
    (fromNode toNode : ℤ) (mpolNew : MpolNew) (policy : ℤ) (nodes : Option (List ℤ)) (nrNodes : ℤ)
    (h : Held) :
    (RefsKept h ((uroamNumaGetBestNode t s pids pid size).run h).2 ↔
      pidLookup pids pid = none) ∧
    (RefsKept h ((uroamNumaMigratePages pids pid fromNode toNode).run h).2 ↔
      pidLookup pids pid = none) ∧
    (RefsKept h ((uroamNumaSetPolicy pids mpolNew pid policy nodes nrNodes).run h).2 ↔
      pidLookup pids pid = none) :=
  ⟨leaks_kept_iff (best_node_leaks pids pid h t s size),
    leaks_kept_iff (migrate_pages_leaks pids pid h fromNode toNode),
    leaks_kept_iff (set_policy_leaks pids pid h mpolNew policy nodes nrNodes)⟩

theorem existing_pid_leaks :
    ¬ (∀ (t : Topology) (s : NumaState) (pids : PidTable) (pid : ℤ) (size : U64) (h : Held),
      RefsKept h ((uroamNumaGetBestNode t s pids pid size).run h).2) ∧
    ¬ (∀ (pids : PidTable) (pid fromNode toNode : ℤ) (h : Held),
      RefsKept h ((uroamNumaMigratePages pids pid fromNode toNode).run h).2) ∧
    ¬ (∀ (pids : PidTable) (mpolNew : MpolNew) (pid policy : ℤ) (nodes : Option (List ℤ))
      (nrNodes : ℤ) (h : Held),
      RefsKept h ((uroamNumaSetPolicy pids mpolNew pid policy nodes nrNodes).run h).2) := by
  have hpid : pidLookup onePid 7 ≠ none := by decide
  refine ⟨fun hall => ?_,fun hall => ?_,fun hall => ?_⟩
  · exact hpid ((leaks_kept_iff (best_node_leaks ..)).mp
      (hall twoNodes fullNode onePid 7 4096 noneHeld))
  · exact hpid ((leaks_kept_iff (migrate_pages_leaks ..)).mp (hall onePid 7 0 1 noneHeld))
  · exact hpid ((leaks_kept_iff (set_policy_leaks ..)).mp
      (hall onePid (fun _ _ _ => none) 7 mpolDefault none 0 noneHeld))

end References

end Uroam.Kernel.Numa
