import Uroam.Kernel.Delivery
import Uroam.Kernel.Tracking

namespace Uroam.Kernel
open Runs Thread

def enroll (table : List Int) (pid : Int) : List Int :=
  if pid ∈ table ∨ maxTrackedProcesses ≤ table.length then table else table ++ [pid]

theorem enroll_run (pids : List Int) :
    exec enroll [] pids = pids.eraseDups.take maxTrackedProcesses := by
  induction pids using List.reverseRecOn with
  | nil => rfl
  | append_singleton pids pid ih =>
    rw [exec_append,exec_cons,exec_nil,ih,List.eraseDups_append,enroll,List.length_take]
    by_cases hin : pid ∈ pids
    · have hrest : [pid].removeAll pids = [] := by simp [List.removeAll,hin]
      rw [hrest,List.eraseDups_nil,List.append_nil,if_pos]
      by_cases hlen : pids.eraseDups.length ≤ maxTrackedProcesses
      · rw [List.take_of_length_le hlen]
        exact .inl (List.mem_eraseDups.mpr hin)
      · exact .inr (le_min le_rfl (not_le.mp hlen).le)
    · have hrest : ([pid].removeAll pids).eraseDups = [pid] := by
        simp [List.removeAll,hin,List.eraseDups_cons]
      have hfresh : pid ∉ pids.eraseDups.take maxTrackedProcesses :=
        fun h => hin (List.mem_eraseDups.mp (List.mem_of_mem_take h))
      rw [hrest]
      by_cases hlen : maxTrackedProcesses ≤ pids.eraseDups.length
      · rw [if_pos (.inr (le_min le_rfl hlen)),List.take_append_of_le_length hlen]
      · have hlt := not_le.mp hlen
        rw [if_neg,List.take_of_length_le hlt.le,List.take_of_length_le]
        · simpa using Nat.succ_le_of_lt hlt
        · rintro (h | h)
          · exact hfresh h
          · exact hlen (h.trans (min_le_right ..))

structure Tracks (m : Module) (table : List Int) : Prop where
  count : m.globalState.trackedCount = table.length
  room : table.length ≤ maxTrackedProcesses
  pids : ∀ slot : Slot, slot.val < table.length → table[slot.val]? = some (m.pidOf slot)
  distinct : table.Nodup
  nodes : ∀ slot, slot ∈ SearchTree.inorder m.processTree ↔ slot.val < table.length
  ordered : SearchTree.Ordered m.pidOf m.processTree

theorem tracks_congr {m m' : Module} {table : List Int} (h : Tracks m table)
    (hg : m'.globalState = m.globalState) (ht : m'.processTree = m.processTree) :
    Tracks m' table := by
  have hp : m'.pidOf = m.pidOf := by simp [funext_iff,Module.pidOf,hg]
  exact ⟨hg ▸ h.count,h.room,hp ▸ h.pids,h.distinct,ht ▸ h.nodes,hp ▸ ht ▸ h.ordered⟩

theorem found_iff {m : Module} {table : List Int} (h : Tracks m table) (pid : Int) (slot : Slot) :
    uroamProcessTreeSearch m pid = some slot ↔
      slot.val < m.globalState.trackedCount ∧ m.pidOf slot = pid := by
  rw [search_eq,SearchTree.search_iff h.ordered,h.nodes,h.count]

theorem found_some_iff {m : Module} {table : List Int} (h : Tracks m table) (pid : Int) :
    (∃ slot, uroamProcessTreeSearch m pid = some slot) ↔ pid ∈ table := by
  simp only [found_iff h,h.count,List.mem_iff_getElem?]
  constructor
  · rintro ⟨slot,hlt,rfl⟩
    exact ⟨slot,h.pids slot hlt⟩
  · rintro ⟨i,hi⟩
    have hlt : i < table.length := (List.getElem?_eq_some_iff.mp hi).1
    have hslot := h.pids ⟨i,hlt.trans_le h.room⟩ hlt
    exact ⟨⟨i,hlt.trans_le h.room⟩,hlt,Option.some.inj (hslot.symm.trans hi)⟩

theorem found_none_iff {m : Module} {table : List Int} (h : Tracks m table) (pid : Int) :
    uroamProcessTreeSearch m pid = none ↔ pid ∉ table := by
  rw [← found_some_iff h,Option.eq_none_iff_forall_ne_some,not_exists]

theorem tracks_refreshed {m : Module} {table : List Int} (h : Tracks m table) (task : Task)
    (slot : Slot) : Tracks (m.setInfo slot (refreshed task task.memory)) table := by
  have hp : (m.setInfo slot (refreshed task task.memory)).pidOf = m.pidOf :=
    pidOf_setInfo (f := refreshed task task.memory) (fun _ => rfl) slot
  exact ⟨h.count,h.room,hp ▸ h.pids,h.distinct,h.nodes,hp ▸ h.ordered⟩

theorem entered_pidOf (m : Module) (task : Task) (slot : Slot) :
    (m.setInfo slot (entered task task.memory)).pidOf slot = task.pid := by
  simp [Module.pidOf,Module.setInfo,entered]

theorem entered_pidOf_other {m : Module} {task : Task} {slot i : Slot} (h : i ≠ slot) :
    (m.setInfo slot (entered task task.memory)).pidOf i = m.pidOf i := by
  simp [Module.pidOf,Module.setInfo,h]

theorem pids_appended {table : List Int} {pidOf : Slot → Int} {slot : Slot}
    (hslot : slot.val = table.length)
    (h : ∀ i : Slot, i.val < table.length → table[i.val]? = some (pidOf i)) (i : Slot)
    (hi : i.val < (table ++ [pidOf slot]).length) :
    (table ++ [pidOf slot])[i.val]? = some (pidOf i) := by
  rcases eq_or_ne i slot with rfl | hne
  · rw [hslot,List.getElem?_concat_length]
  · have hval : i.val ≠ table.length := fun he => hne (Fin.ext (he.trans hslot.symm))
    have hlt : i.val < table.length := by
      rw [List.length_append,List.length_singleton] at hi
      omega
    rw [List.getElem?_append_left hlt,h i hlt]

theorem tracks_added {env : Env} {m : Module} {table : List Int} {task : Task}
    (hrb : ∀ t, SearchTree.inorder (env.rbInsertColor t) = SearchTree.inorder t)
    (h : Tracks m table) (hs : uroamProcessTreeSearch m task.pid = none)
    (hc : m.globalState.trackedCount < maxTrackedProcesses) :
    (added env m task ⟨m.globalState.trackedCount,hc⟩).1 = 0 ∧
      Tracks (added env m task ⟨m.globalState.trackedCount,hc⟩).2 (table ++ [task.pid]) := by
  generalize hslot : (⟨m.globalState.trackedCount,hc⟩ : Slot) = slot
  have hval : slot.val = table.length := by rw [← hslot,← h.count]
  let filled := m.setInfo slot (entered task task.memory)
  have hnew : filled.pidOf slot = task.pid := entered_pidOf m task slot
  have hold : ∀ i, i.val < table.length → filled.pidOf i = m.pidOf i :=
    fun i hi => entered_pidOf_other fun he => hi.ne (he ▸ hval)
  have hnodes : ∀ i ∈ SearchTree.inorder m.processTree, filled.pidOf i = m.pidOf i :=
    fun i hi => hold i ((h.nodes i).mp hi)
  have hkeys : ∀ i ∈ SearchTree.inorder filled.processTree, filled.pidOf i ≠ filled.pidOf slot := by
    intro i hi
    rw [search_eq] at hs
    rw [hnew,hnodes i hi]
    exact (SearchTree.search_none h.ordered).mp hs i hi
  obtain ⟨tree,htree⟩ := SearchTree.link_total hkeys
  have hadded : added env m task slot =
      (0,({ filled with processTree := env.rbInsertColor tree } : Module).countUp) := by
    simp only [added,uroamProcessTreeInsert]
    rw [htree]
  rw [hadded]
  have hout : task.pid ∉ table := (found_none_iff h _).mp hs
  have hlen : (table ++ [task.pid]).length = table.length + 1 := by simp
  refine ⟨rfl,?_,?_,?_,?_,?_,?_⟩
  · rw [hlen,← h.count]
    rfl
  · rw [hlen,← h.count]
    exact hc
  · rw [← hnew]
    exact pids_appended hval fun i hi => by rw [h.pids i hi,hold i hi]
  · have hne : ∀ pid ∈ table, pid ≠ task.pid := fun pid hpid he => hout (he ▸ hpid)
    simpa [List.nodup_append,h.distinct] using hne
  · intro i
    rw [hlen]
    have hbefore : i ∈ SearchTree.inorder filled.processTree ↔ i.val < table.length := h.nodes i
    refine Iff.trans (b := i ∈ SearchTree.inorder tree) (by rw [← hrb tree]; rfl) ?_
    rw [SearchTree.mem_link htree,hbefore,Fin.ext_iff,hval]
    omega
  · have ho : SearchTree.Ordered filled.pidOf filled.processTree :=
      SearchTree.ordered_congr hnodes h.ordered
    have hlink := SearchTree.link_ordered ho htree
    rw [SearchTree.Ordered,← hrb tree] at hlink
    exact hlink

section Update

variable {env : Env} {m : Module} {table : List Int} {task : Task}

theorem send_unanswered (env : Env) (m : Module) {held : List Lock} {type : U16} (data : Option NlMsg)
    (ha : ¬ answered type) (hm : .nlMutex ∉ held) (deliveries : Nat) :
    ∃ ret m' es, (uroamNetlinkSend env (input env (deliveries + 1)) type data 0#32).run held m =
        ⟨.ok ret,m',es⟩ ∧
      m'.globalState = m.globalState ∧ m'.processTree = m.processTree ∧
      exec Event.after held es = held ∧ ∀ ret, .op (.treeInsert ret) ∉ es := by
  by_cases hb : env.builds m.sends
  · cases hs : m.nlSock with
    | false => exact ⟨_,_,_,send_closed hb hm hs 0#32,rfl,rfl,by simp,by simp⟩
    | true =>
      have hreply : (input env (deliveries + 1) (some (m.message type data))).run
          (.nlMutex :: held) m.numbered = ⟨.ok (),m.numbered,[.op .kfreeSkb]⟩ :=
        reply_ignored env (input env deliveries) m.numbered (m.message type data) ha
      obtain ⟨ret,hret⟩ := send_returns hb hm hs hreply
      exact ⟨ret,_,_,hret,rfl,rfl,by simp,by simp⟩
  · rw [send_unbuilt hb 0#32,Env.unbuilt]
    split
    · exact ⟨_,_,_,rfl,rfl,rfl,rfl,by simp⟩
    · exact ⟨_,_,_,rfl,rfl,rfl,rfl,by simp⟩

theorem update_adds (env : Env) (hs : uroamProcessTreeSearch m task.pid = none)
    (hc : m.globalState.trackedCount < maxTrackedProcesses) (deliveries : Nat) :
    let after := added env m task ⟨m.globalState.trackedCount,hc⟩
    ∃ m' es, (uroamTrackingUpdateProcess env (input env (deliveries + 1)) task).run [] m =
        ⟨.ok (),m',es⟩ ∧
      m'.globalState = after.2.globalState ∧ m'.processTree = after.2.processTree ∧
      exec Event.after [] es = [] ∧ ∀ ret, .op (.treeInsert ret) ∈ es → ret = after.1 := by
  intro after
  have hm : Lock.nlMutex ∉ [Lock.processTreeLock] := by decide
  have ha : ¬ answered uroamNlMsgProcess := by decide
  let info := after.2.globalState.trackedProcesses ⟨m.globalState.trackedCount,hc⟩
  let msg := NlMsg.process task.pid info.comm info.memoryUsage info.rss info.priority info.numaNode
    info.isAiWorkload info.isGaming
  obtain ⟨ret,m',es,hsend,hg,ht,hheld,hes⟩ := send_unanswered env after.2 (some msg) ha hm deliveries
  have hreport : (report env (input env (deliveries + 1)) after.2 task
      ⟨m.globalState.trackedCount,hc⟩).run [.processTreeLock] after.2 = ⟨.ok (),m',es⟩ := by
    change ((uroamNetlinkSend env _ uroamNlMsgProcess (some msg) 0#32).run _ _).andThen _ _ = _
    rw [hsend,ok_andThen]
    simp
  let linked : List Event := (task.memoryOps ++ [Op.treeInsert after.1]).map .op
  refine ⟨m',.acquire .processTreeLock :: (linked ++ es ++ [.release .processTreeLock]),?_,hg,ht,?_,?_⟩
  · rw [update_added hs hc List.not_mem_nil,ok_andThen,bind_run,addEntry_run,ok_andThen,after_ops]
    simp [linked,after,hreport]
  · rw [exec_cons,exec_append,exec_append,after_ops,after_acquire,hheld]
    rfl
  · intro r hr
    cases hmm : task.mm <;> simpa [linked,Task.memoryOps,hmm,hes] using hr

theorem tracks_update (hrb : ∀ t, SearchTree.inorder (env.rbInsertColor t) = SearchTree.inorder t)
    (h : Tracks m table) (task : Task) (deliveries : Nat) :
    let ran := (uroamTrackingUpdateProcess env (input env (deliveries + 1)) task).run [] m
    ran.result = .ok () ∧ Tracks ran.state (enroll table task.pid) ∧
      ∀ ret, .op (.treeInsert ret) ∈ ran.events → ret ≠ -eexist := by
  intro ran
  have hfree : Lock.processTreeLock ∉ [] := List.not_mem_nil
  cases hs : uroamProcessTreeSearch m task.pid with
  | some slot =>
    have hin : task.pid ∈ table := (found_some_iff h _).mp ⟨slot,hs⟩
    have hrun : ran = _ := update_found hs hfree
    rw [hrun,enroll,if_pos (.inl hin)]
    refine ⟨rfl,tracks_refreshed h task slot,?_⟩
    intro ret hret
    cases hm : task.mm <;> simp [Task.memoryOps,hm] at hret
  | none =>
    have hout : task.pid ∉ table := (found_none_iff h _).mp hs
    by_cases hc : m.globalState.trackedCount < maxTrackedProcesses
    · obtain ⟨m',es,hrun,hg,ht,-,hes⟩ := update_adds env hs hc deliveries
      obtain ⟨hret,hadded⟩ := tracks_added hrb h hs hc
      have hran : ran = _ := hrun
      have hlt : ¬ (task.pid ∈ table ∨ maxTrackedProcesses ≤ table.length) := by
        rw [← h.count]
        exact not_or.mpr ⟨hout,hc.not_ge⟩
      rw [hran,enroll,if_neg hlt]
      refine ⟨rfl,tracks_congr hadded hg ht,?_⟩
      intro ret hr
      rw [hes ret hr,hret]
      decide
    · have hrun : ran = _ := update_full hs (not_lt.mp hc) hfree
      rw [hrun,enroll,if_pos (.inr (h.count ▸ not_lt.mp hc))]
      exact ⟨rfl,h,fun ret hret => by simp at hret⟩

end Update

def Module.Fresh (m : Module) : Prop := m.processTree = .nil ∧ m.globalState.trackedCount = 0

theorem fresh_tracks {m : Module} (h : m.Fresh) : Tracks m [] := by
  obtain ⟨ht,hc⟩ := h
  refine ⟨hc,Nat.zero_le _,?_,List.nodup_nil,?_,?_⟩
  · intro slot hslot
    exact absurd hslot (Nat.not_lt_zero _)
  · simp [ht,SearchTree.inorder]
  · rw [ht]
    exact SearchTree.ordered_nil

section Run

variable (env : Env) (deliveries : Nat)

def update (m : Module) (task : Task) : Ran Module Lock Op Unit :=
  (uroamTrackingUpdateProcess env (input env deliveries) task).run [] m

def updated (m : Module) (task : Task) : Module := (update env deliveries m task).state

def Inserts (m : Module) (task : Task) : Prop :=
  (update env deliveries m task).result = .ok () ∧
    ∀ ret, .op (.treeInsert ret) ∈ (update env deliveries m task).events → ret ≠ -eexist

theorem updates_track
    (hrb : ∀ t, SearchTree.inorder (env.rbInsertColor t) = SearchTree.inorder t)
    (tasks : List Task) : ∀ (m : Module) (table : List Int), Tracks m table →
      Tracks (exec (updated env (deliveries + 1)) m tasks)
          (exec enroll table (tasks.map Task.pid)) ∧
        Along (updated env (deliveries + 1)) (Inserts env (deliveries + 1)) m tasks := by
  induction tasks with
  | nil => exact fun m table h => ⟨h,trivial⟩
  | cons task tasks ih =>
    intro m table h
    obtain ⟨hok,htracks,hret⟩ := tracks_update hrb h task deliveries
    obtain ⟨hrest,halong⟩ := ih _ _ htracks
    exact ⟨hrest,⟨hok,hret⟩,halong⟩

theorem get_run_result (m : Module) (pid : Int) :
    ((uroamTrackingGetProcess pid).run [] m).result = .ok (uroamProcessTreeSearch m pid) := by
  simp [uroamTrackingGetProcess,lock_free]

theorem tracked_run
    (hrb : ∀ t, SearchTree.inorder (env.rbInsertColor t) = SearchTree.inorder t)
    (m : Module) (hm : m.Fresh) (tasks : List Task) :
    let final := exec (updated env (deliveries + 1)) m tasks
    let nodes := SearchTree.inorder final.processTree
    Along (updated env (deliveries + 1)) (Inserts env (deliveries + 1)) m tasks ∧
      (nodes.map final.pidOf).Pairwise (· < ·) ∧
      (∀ slot, slot ∈ nodes ↔ slot.val < final.globalState.trackedCount) ∧
      final.globalState.trackedCount ≤ maxTrackedProcesses ∧
      ∀ pid, ∃ found, ((uroamTrackingGetProcess pid).run [] final).result = .ok found ∧
        (∀ slot, found = some slot →
          slot.val < final.globalState.trackedCount ∧ final.pidOf slot = pid) ∧
        (found.isSome = true ↔
          pid ∈ (tasks.map Task.pid).eraseDups.take maxTrackedProcesses) := by
  intro final nodes
  obtain ⟨h,halong⟩ := updates_track env deliveries hrb tasks m [] (fresh_tracks hm)
  rw [enroll_run] at h
  refine ⟨halong,List.pairwise_map.mpr h.ordered,?_,?_,?_⟩
  · intro slot
    rw [h.count]
    exact h.nodes slot
  · rw [h.count]
    exact h.room
  · intro pid
    refine ⟨_,get_run_result final pid,fun slot hs => (found_iff h pid slot).mp hs,?_⟩
    rw [Option.isSome_iff_exists]
    exact found_some_iff h pid

end Run

theorem tracked_run_sample :
    ∃ slot, ((uroamTrackingGetProcess 3).run [] (exec (updated .serving 1) (.loaded true)
      [⟨7,['s','t','e','a','m'],none,none,0⟩,⟨3,['t','o','r','c','h'],some ⟨5,2,1⟩,none,1⟩,
        ⟨7,['w','i','n','e'],some ⟨1,1,0⟩,some 1,0⟩])).result = .ok (some slot) := by
  obtain ⟨_,_,_,_,hget⟩ := tracked_run .serving 0 (fun _ => rfl) (.loaded true) ⟨rfl,rfl⟩
    [⟨7,['s','t','e','a','m'],none,none,0⟩,⟨3,['t','o','r','c','h'],some ⟨5,2,1⟩,none,1⟩,
      ⟨7,['w','i','n','e'],some ⟨1,1,0⟩,some 1,0⟩]
  obtain ⟨found,hfound,_,hiff⟩ := hget 3
  obtain ⟨slot,rfl⟩ := Option.isSome_iff_exists.mp (hiff.mpr (by decide))
  exact ⟨slot,hfound⟩

end Uroam.Kernel
