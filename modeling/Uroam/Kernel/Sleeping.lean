import Uroam.Kernel.Pressure
import Uroam.Kernel.Tracking

namespace Uroam.Kernel
open Runs Thread

abbrev atomicRule : List Lock → Event → Prop := sleepRule Lock.spins sleeps

def Spinless (held : List Lock) : Prop := ∀ l ∈ held, l.spins = false

theorem spinless_rule {held : List Lock} (h : Spinless held) (e : Event) : atomicRule held e :=
  fun _ => h

theorem spinless_mutex {held : List Lock} (h : Spinless held) : Spinless (.nlMutex :: held) := by
  intro l hl
  rcases List.mem_cons.mp hl with rfl | hl
  · rfl
  · exact h l hl

section Receive

variable {env : Env} {deliver : Option Skb → Kern Unit} {held : List Lock}

theorem unicast_keeps (h : Spinless held)
    (hd : ∀ skb, Keeps atomicRule held (deliver skb) held) (send : Nat) (skb : Skb) (portid : U32) :
    Keeps atomicRule held (nlmsgUnicast env deliver send skb portid) held := by
  refine keeps_bind (keeps_emit (spinless_rule h _)) fun _ => ?_
  split
  · exact keeps_bind (hd _) fun _ => keeps_pure _
  · exact keeps_pure _

theorem send_keeps (h : Spinless held)
    (hd : ∀ skb, Keeps atomicRule (.nlMutex :: held) (deliver skb) (.nlMutex :: held))
    (type : U16) (data : Option NlMsg) (portid : U32) :
    Keeps atomicRule held (uroamNetlinkSend env deliver type data portid) held := by
  have hin := spinless_mutex h
  have hdelivery : ∀ (m : Module) (skb : Skb), Keeps atomicRule (.nlMutex :: held)
      (if m.nlSock then nlmsgUnicast env deliver m.sends skb portid else pure (-enotconn))
      (.nlMutex :: held) := by
    intro m skb
    split
    · exact unicast_keeps hin hd _ _ _
    · exact keeps_pure _
  refine keeps_bind keeps_get fun m => keeps_bind (keeps_modify _) fun _ => ?_
  refine keeps_bind (keeps_emit (spinless_rule h _)) fun _ => ?_
  split
  · refine keeps_bind (keeps_modify _) fun _ => ?_
    split
    · refine keeps_bind (keeps_lock (spinless_rule h _)) fun _ => ?_
      refine keeps_bind (hdelivery m _) fun ret => ?_
      refine keeps_bind (keeps_unlock (spinless_rule hin _)) fun _ => ?_
      split
      · exact keeps_pure _
      · exact keeps_pure _
    · exact keeps_bind (keeps_emit (spinless_rule h _)) fun _ => keeps_pure _
  · exact keeps_pure _

theorem sendPressure_keeps (h : Spinless held)
    (hd : ∀ skb, Keeps atomicRule (.nlMutex :: held) (deliver skb) (.nlMutex :: held))
    (level : PsiPressure) :
    Keeps atomicRule held (uroamNetlinkSendPressure env deliver level) held :=
  keeps_bind keeps_get fun _ => keeps_bind (send_keeps h hd _ _ _) fun _ => keeps_pure _

theorem sendStats_keeps (h : Spinless held)
    (hd : ∀ skb, Keeps atomicRule (.nlMutex :: held) (deliver skb) (.nlMutex :: held)) :
    Keeps atomicRule held (uroamNetlinkSendStats env deliver) held :=
  keeps_bind (keeps_lock (by simp [sleepRule,sleeps])) fun _ => keeps_bind keeps_get fun _ =>
    keeps_bind (keeps_unlock (by simp [sleepRule,sleeps])) fun _ => send_keeps h hd _ _ _

theorem rcv_keeps (h : Spinless held)
    (hd : ∀ skb, Keeps atomicRule (.nlMutex :: held) (deliver skb) (.nlMutex :: held))
    (skb : Option Skb) : Keeps atomicRule held (uroamNetlinkRcv env deliver skb) held := by
  cases skb with
  | none => exact keeps_pure ()
  | some skb =>
    have hswitch : Keeps atomicRule held (nlmsgSwitch env deliver skb) held := by
      unfold nlmsgSwitch
      split
      · exact keeps_bind keeps_get fun m => sendPressure_keeps h hd _
      · split
        · exact keeps_bind (sendStats_keeps h hd) fun _ => keeps_pure _
        · exact keeps_pure _
    exact keeps_bind hswitch fun _ => keeps_emit (spinless_rule h _)

theorem input_keeps (deliveries : Nat) :
    ∀ {held : List Lock}, Spinless held → ∀ skb, Keeps atomicRule held (input env deliveries skb) held := by
  induction deliveries with
  | zero => exact fun _ _ => keeps_exhausted
  | succ d ih => exact fun h skb => rcv_keeps h (ih (spinless_mutex h)) skb

end Receive

section Scan

variable {env : Env} {deliver : Option Skb → Kern Unit} {held : List Lock} {m : Module}

theorem send_in_spin {l : Lock} (hl : l ∈ held) (hs : l.spins = true) (type : U16)
    (data : Option NlMsg) (portid : U32) :
    ¬ Heeds atomicRule held
      ((uroamNetlinkSend env deliver type data portid).run held m).events := by
  have hstart : ∃ rest, ((uroamNetlinkSend env deliver type data portid).run held m).events =
      .op .nlmsgNew :: rest := by
    simp [uroamNetlinkSend]
  obtain ⟨rest,hrest⟩ := hstart
  rw [hrest,heeds_cons]
  rintro ⟨hrule,_⟩
  exact Bool.noConfusion (hs.symm.trans (hrule rfl l hl))

def Quiet (m : Module) (task : Task) : Prop :=
  match uroamProcessTreeSearch m task.pid with
  | some _ => task.mm = none
  | none => maxTrackedProcesses ≤ m.globalState.trackedCount

theorem add_in_spin (hl : .processTreeLock ∈ held) (task : Task) (slot : Slot) :
    ¬ Heeds atomicRule held ((addEntry env deliver task slot).run held m).events := by
  rw [addEntry_run,ok_andThen,heeds_append,after_ops]
  rintro ⟨_,hreport⟩
  exact send_in_spin hl rfl _ _ _ (heeds_first hreport)

theorem update_quiet_iff (task : Task) :
    Heeds atomicRule [] ((uroamTrackingUpdateProcess env deliver task).run [] m).events ↔
      Quiet m task := by
  have hfree : Lock.processTreeLock ∉ [] := List.not_mem_nil
  unfold Quiet
  cases hs : uroamProcessTreeSearch m task.pid with
  | some info =>
    rw [update_found hs hfree]
    cases hm : task.mm <;> simp [Task.memoryOps,hm,sleepRule,sleeps,Lock.spins]
  | none =>
    by_cases hc : m.globalState.trackedCount < maxTrackedProcesses
    · refine iff_of_false ?_ hc.not_ge
      rw [update_added hs hc hfree,ok_andThen,heeds_append]
      rintro ⟨_,hrest⟩
      exact add_in_spin List.mem_cons_self task _ (heeds_first hrest)
    · rw [update_full hs (not_lt.mp hc) hfree]
      simp [not_lt.mp hc,sleepRule,sleeps,Lock.spins]

theorem quiet_update (env : Env) (deliver : Option Skb → Kern Unit) {task : Task}
    (h : Quiet m task) :
    ∃ m', (uroamTrackingUpdateProcess env deliver task).run [] m =
        ⟨.ok (),m',[.acquire .processTreeLock,.release .processTreeLock]⟩ ∧
      ∀ other, Quiet m' other ↔ Quiet m other := by
  have hfree : Lock.processTreeLock ∉ [] := List.not_mem_nil
  unfold Quiet at h
  cases hs : uroamProcessTreeSearch m task.pid with
  | some info =>
    have hm : task.mm = none := by simpa [hs] using h
    refine ⟨m.setInfo info (refreshed task task.memory),?_,?_⟩
    · simp [update_found hs hfree,Task.memoryOps,hm]
    · intro other
      have hpid : (m.setInfo info (refreshed task task.memory)).pidOf = m.pidOf :=
        pidOf_setInfo (f := refreshed task task.memory) (fun _ => rfl) info
      simp only [Quiet,search_eq,hpid]
      rfl
  | none =>
    have hc : maxTrackedProcesses ≤ m.globalState.trackedCount := by simpa [hs] using h
    exact ⟨m,update_full hs hc hfree,fun _ => Iff.rfl⟩

def visited (pids : PidTable) : Nat → Nat → List Task
  | 0, _ => []
  | rounds + 1, nr =>
    match pids nr with
    | none => []
    | some none => visited pids rounds (nr + 1)
    | some (some task) => task :: visited pids rounds (nr + 1)

theorem scan_quiet_iff (pids : PidTable) (rounds nr : Nat) (m : Module) :
    Heeds atomicRule [] ((scanFrom env deliver pids rounds nr).run [] m).events ↔
      ∀ task ∈ visited pids rounds nr, Quiet m task := by
  induction rounds generalizing nr m with
  | zero => simp [scanFrom,visited]
  | succ rounds ih =>
    cases hp : pids nr with
    | none => simp [scanFrom,visited,hp]
    | some pid =>
      cases pid with
      | none => simpa [scanFrom,visited,hp] using ih (nr + 1) m
      | some task =>
        by_cases hq : Quiet m task
        · obtain ⟨m',hrun,hm'⟩ := quiet_update env deliver hq
          simp [scanFrom,visited,hp,hrun,hq,ih,hm',sleepRule,sleeps]
        · simp only [visited,hp,List.forall_mem_cons,hq,false_and,iff_false]
          intro h
          simp only [scanFrom,hp] at h
          exact hq ((update_quiet_iff task).mp (heeds_first h))

end Scan

theorem notify_in_spin {env : Env} {deliver : Option Skb → Kern Unit} {m : Module}
    (level : PsiPressure) :
    ¬ Heeds atomicRule [] ((uroamNotifyPressure env deliver level).run [] m).events := by
  intro h
  have hfree : Lock.stateLock ∉ [] := List.not_mem_nil
  rw [uroamNotifyPressure,bind_run,lock_free _ _ hfree,ok_andThen,heeds_append] at h
  have hlocked := h.2
  rw [bind_run,modify_run,ok_andThen,heeds_append] at hlocked
  have hsend := heeds_first hlocked.2
  rw [uroamNetlinkSendPressure,bind_run,get_run,ok_andThen,heeds_append] at hsend
  exact send_in_spin List.mem_cons_self rfl _ _ _ (heeds_first hsend.2)

inductive Entry where
  | trackingScan (pids : PidTable) (rounds : Nat)
  | notifyPressure (level : PsiPressure)
  | psiUpdate (state : Bool)
  | pressureCheck (someAvail fullAvail : Nat)
  | netlinkRcv (skb : Option Skb)

def Entry.code (env : Env) (deliveries : Nat) : Entry → Kern Unit
  | .trackingScan pids rounds => uroamTrackingScan env (input env deliveries) pids rounds
  | .notifyPressure level => uroamNotifyPressure env (input env deliveries) level
  | .psiUpdate state => uroamPsiUpdate env (input env deliveries) state
  | .pressureCheck someAvail fullAvail =>
    uroamPressureCheck env (input env deliveries) someAvail fullAvail
  | .netlinkRcv skb => uroamNetlinkRcv env (input env deliveries) skb

def Entry.calm (m : Module) : Entry → Prop
  | .trackingScan pids rounds => ∀ task ∈ visited pids rounds 1, Quiet m task
  | .notifyPressure _ | .psiUpdate _ => False
  | .pressureCheck _ _ => m.globalState.enabled = false
  | .netlinkRcv _ => True

theorem entry_sleepFree_iff (env : Env) (deliveries : Nat) (m : Module) (entry : Entry) :
    SleepFree Lock.spins sleeps [] ((entry.code env deliveries).run [] m).events ↔
      entry.calm m := by
  unfold SleepFree
  cases entry with
  | trackingScan pids rounds =>
    simp only [Entry.code,Entry.calm,uroamTrackingScan]
    exact scan_quiet_iff pids rounds 1 m
  | notifyPressure level =>
    simp only [Entry.code,Entry.calm]
    exact iff_of_false (notify_in_spin level) id
  | psiUpdate state =>
    simp only [Entry.code,Entry.calm,uroamPsiUpdate]
    exact iff_of_false (notify_in_spin _) id
  | pressureCheck someAvail fullAvail =>
    simp only [Entry.code,Entry.calm,uroamPressureCheck,bind_run,get_run,ok_andThen,exec_nil,
      List.nil_append]
    cases he : m.globalState.enabled with
    | false => simp
    | true =>
      simp only [if_true]
      refine iff_of_false ?_ Bool.noConfusion
      split_ifs
      all_goals exact notify_in_spin _
  | netlinkRcv skb =>
    simp only [Entry.code,Entry.calm,iff_true]
    have hspin : Spinless [] := by simp [Spinless]
    have hin : ∀ skb, Keeps atomicRule [.nlMutex] (input env deliveries skb) [.nlMutex] :=
      input_keeps deliveries (spinless_mutex hspin)
    exact (rcv_keeps hspin hin skb m).1

theorem psi_update_sleeps :
    ¬ ∀ (env : Env) (deliveries : Nat) (m : Module) (entry : Entry),
      SleepFree Lock.spins sleeps [] ((entry.code env deliveries).run [] m).events := by
  intro h
  exact notify_in_spin _ (h .serving 2 (.loaded true) (.psiUpdate true))

end Uroam.Kernel
