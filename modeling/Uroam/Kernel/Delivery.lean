import Uroam.Kernel.Pressure

namespace Uroam.Kernel
open Runs Thread

def Env.builds (env : Env) (send : Nat) : Prop :=
  env.nlmsgNew send = true ∧ env.nlmsgPut send = true

def Module.numbered (m : Module) : Module :=
  { m with sends := m.sends + 1, nlSeq := m.nlSeq + 1 }

def Env.unbuilt (env : Env) (m : Module) : Ran Module Lock Op Int :=
  if env.nlmsgNew m.sends then ⟨.ok (-emsgsize),m.numbered,[.op .nlmsgNew,.op .nlmsgFree]⟩
  else ⟨.ok (-enomem),{ m with sends := m.sends + 1 },[.op .nlmsgNew]⟩

def answered (type : U16) : Prop := type = uroamNlMsgPressure ∨ type = uroamNlMsgStats

instance (type : U16) : Decidable (answered type) := instDecidableOr

section Send

variable {env : Env} {deliver : Option Skb → Kern Unit} {held : List Lock} {m : Module}
  {type : U16} {data : Option NlMsg}

theorem send_unbuilt (h : ¬ env.builds m.sends) (portid : U32) :
    (uroamNetlinkSend env deliver type data portid).run held m = env.unbuilt m := by
  by_cases hn : env.nlmsgNew m.sends = true
  · have hp : env.nlmsgPut m.sends = false := by simpa [Env.builds,hn] using h
    simp [uroamNetlinkSend,Env.unbuilt,hn,hp,Module.numbered]
  · simp [uroamNetlinkSend,Env.unbuilt,hn]

theorem send_blocked (hb : env.builds m.sends) (hm : .nlMutex ∈ held) (portid : U32) :
    (uroamNetlinkSend env deliver type data portid).run held m =
      ⟨.error .deadlock,m.numbered,[.op .nlmsgNew,.acquire .nlMutex]⟩ := by
  simp [uroamNetlinkSend,hb.1,hb.2,lock_held,hm,Module.numbered]

theorem send_closed (hb : env.builds m.sends) (hm : .nlMutex ∉ held) (hs : m.nlSock = false)
    (portid : U32) :
    (uroamNetlinkSend env deliver type data portid).run held m =
      ⟨.ok (-enotconn),m.numbered,[.op .nlmsgNew,.acquire .nlMutex,.release .nlMutex]⟩ := by
  simp [uroamNetlinkSend,hb.1,hb.2,lock_free,hm,hs,Module.numbered,enotconn]

def Module.message (m : Module) (type : U16) (data : Option NlMsg) : Skb :=
  { nlmsgType := type, nlmsgSeq := m.nlSeq, portid := 0#32, data }

theorem send_stops (hb : env.builds m.sends) (hm : .nlMutex ∉ held) (hs : m.nlSock = true)
    {stop : Stop} {m' : Module} {es : List Event}
    (hx : (deliver (some (m.message type data))).run (.nlMutex :: held) m.numbered =
      ⟨.error stop,m',es⟩) :
    (uroamNetlinkSend env deliver type data 0#32).run held m =
      ⟨.error stop,m',
        [.op .nlmsgNew,.acquire .nlMutex,.op (.unicast (m.message type data))] ++ es⟩ := by
  simp [Module.message,Module.numbered,hs] at hx
  simp [uroamNetlinkSend,hb.1,hb.2,lock_free,hm,hs,nlmsgUnicast,hx,Module.message]

theorem send_returns (hb : env.builds m.sends) (hm : .nlMutex ∉ held) (hs : m.nlSock = true)
    {m' : Module} {es : List Event}
    (hx : (deliver (some (m.message type data))).run (.nlMutex :: held) m.numbered =
      ⟨.ok (),m',es⟩) :
    ∃ ret, (uroamNetlinkSend env deliver type data 0#32).run held m =
      ⟨.ok ret,m',[.op .nlmsgNew,.acquire .nlMutex,.op (.unicast (m.message type data))] ++ es ++
        [.release .nlMutex]⟩ := by
  simp [Module.message,Module.numbered,hs] at hx
  by_cases hr : env.nlmsgUnicast m.sends < 0
  · exact ⟨env.nlmsgUnicast m.sends,by
      simp [uroamNetlinkSend,hb.1,hb.2,lock_free,hm,hs,nlmsgUnicast,hx,Module.message,hr]⟩
  · exact ⟨0,by
      simp [uroamNetlinkSend,hb.1,hb.2,lock_free,hm,hs,nlmsgUnicast,hx,Module.message,hr]⟩

end Send

section Reply

variable (env : Env) (deliver : Option Skb → Kern Unit) {held : List Lock} (m : Module) (skb : Skb)

theorem reply_ignored (h : ¬ answered skb.nlmsgType) :
    (uroamNetlinkRcv env deliver (some skb)).run held m = ⟨.ok (),m,[.op .kfreeSkb]⟩ := by
  obtain ⟨hp,hs⟩ := not_or.mp h
  simp [uroamNetlinkRcv,nlmsgSwitch,hp,hs]

theorem reply_blocked (ha : answered skb.nlmsgType)
    (hstate : skb.nlmsgType = uroamNlMsgStats → .stateLock ∉ held) (hm : .nlMutex ∈ held)
    (hb : env.builds m.sends) :
    ((uroamNetlinkRcv env deliver (some skb)).run held m).result = .error .deadlock := by
  rcases ha with hp | hs
  · simp [uroamNetlinkRcv,nlmsgSwitch,hp,uroamNetlinkSendPressure,send_blocked hb hm]
  · have hne : ¬ uroamNlMsgStats = uroamNlMsgPressure := by decide
    simp [uroamNetlinkRcv,nlmsgSwitch,hs,hne,uroamNetlinkSendStats,lock_free,hstate hs,send_blocked hb hm]

theorem reply_unbuilt (ha : answered skb.nlmsgType)
    (hstate : skb.nlmsgType = uroamNlMsgStats → .stateLock ∉ held)
    (hb : ¬ env.builds m.sends) :
    ((uroamNetlinkRcv env deliver (some skb)).run held m).result = .ok () ∧
      NoRelock .nlMutex held ((uroamNetlinkRcv env deliver (some skb)).run held m).events := by
  rcases ha with hp | hs
  · simp only [uroamNetlinkRcv,nlmsgSwitch,hp,uroamNetlinkSendPressure,bind_run,get_run,ok_andThen,if_true,
      exec_nil,send_unbuilt hb,Env.unbuilt]
    split <;> simp
  · have hne : ¬ uroamNlMsgStats = uroamNlMsgPressure := by decide
    simp [uroamNetlinkRcv,nlmsgSwitch,hs,hne,uroamNetlinkSendStats,lock_free,hstate hs,send_unbuilt hb,Env.unbuilt]
    split <;> simp

end Reply

def Completes {α : Type} (held : List Lock) (ran : Nat → Ran Module Lock Op α) : Prop :=
  (∃ deliveries a, (ran deliveries).result = .ok a) ∧
    ∀ deliveries, NoRelock .nlMutex held (ran deliveries).events

def Echoes (env : Env) (m : Module) : Prop :=
  m.nlSock = true ∧ env.builds m.sends ∧ env.builds (m.sends + 1)

theorem completes_before {α : Type} {held held' : List Lock} {ran : Nat → Ran Module Lock Op α}
    {es : List Event} (hes : NoRelock .nlMutex held es) (hheld : exec Thread.Event.after held es = held') :
    Completes held (fun d => ⟨(ran d).result,(ran d).state,es ++ (ran d).events⟩) ↔
      Completes held' ran := by
  refine and_congr Iff.rfl (forall_congr' fun d => ?_)
  rw [noRelock_append,hheld]
  exact and_iff_right hes

theorem completes_andThen {α β : Type} {held : List Lock} {ran : Nat → Ran Module Lock Op α}
    {f : α → Kern β} (hok : ∀ a held s, ∃ b, ((f a).run held s).result = .ok b)
    (hlock : ∀ a held s, NoRelock .nlMutex held ((f a).run held s).events) :
    Completes held (fun d => (ran d).andThen held f) ↔ Completes held ran :=
  and_congr (exists_congr fun _ => andThen_ok_iff hok)
    (forall_congr' fun _ => andThen_heeds_iff hlock)

section Calls

variable {env : Env} {held : List Lock} {m : Module} {type : U16} {data : Option NlMsg}

theorem send_open {deliver : Option Skb → Kern Unit} (hb : env.builds m.sends)
    (hm : .nlMutex ∉ held) (hs : m.nlSock = true) {x : Ran Module Lock Op Unit}
    (hx : (deliver (some (m.message type data))).run (.nlMutex :: held) m.numbered = x) :
    ((∃ ret, ((uroamNetlinkSend env deliver type data 0#32).run held m).result = .ok ret) ↔
      x.result = .ok ()) ∧
    (NoRelock .nlMutex held ((uroamNetlinkSend env deliver type data 0#32).run held m).events ↔
      NoRelock .nlMutex (.nlMutex :: held) x.events) := by
  obtain ⟨result,m',es⟩ := x
  cases result with
  | error stop =>
    rw [send_stops hb hm hs hx]
    simp [hm]
  | ok u =>
    obtain ⟨ret,hret⟩ := send_returns hb hm hs hx
    rw [hret]
    simp [hm,noRelock_append]

theorem send_completes_iff (ha : answered type)
    (hstate : type = uroamNlMsgStats → .stateLock ∉ held) (hm : .nlMutex ∉ held) :
    Completes held (fun d => (uroamNetlinkSend env (input env d) type data 0#32).run held m) ↔
      ¬ Echoes env m := by
  have hstate' : type = uroamNlMsgStats → .stateLock ∉ .nlMutex :: held :=
    fun h => by simp [hstate h]
  by_cases hb : env.builds m.sends
  · cases hs : m.nlSock with
    | false =>
      simp only [Completes,send_closed hb hm hs,Echoes,hs]
      simp [hm]
    | true =>
      by_cases hb' : env.builds (m.sends + 1)
      · refine iff_of_false ?_ (not_not.mpr ⟨hs,hb,hb'⟩)
        rintro ⟨⟨d,hr⟩,_⟩
        have hx := (send_open hb hm hs rfl).1.mp hr
        cases d with
        | zero => cases hx
        | succ d =>
          have hblock := reply_blocked env (input env d) m.numbered (m.message type data) ha
            hstate' List.mem_cons_self hb'
          cases hblock.symm.trans hx
      · refine iff_of_true ⟨⟨1,?_⟩,?_⟩ fun he => hb' he.2.2
        · exact (send_open hb hm hs rfl).1.mpr
            (reply_unbuilt env _ m.numbered (m.message type data) ha hstate' hb').1
        · intro d
          apply (send_open hb hm hs rfl).2.mpr
          cases d with
          | zero => exact noRelock_nil
          | succ d =>
            exact (reply_unbuilt env _ m.numbered (m.message type data) ha hstate' hb').2
  · simp only [Completes,send_unbuilt hb,Env.unbuilt,Echoes,hb]
    split <;> simp

theorem sendPressure_completes_iff (level : PsiPressure) (hm : .nlMutex ∉ held) :
    Completes held (fun d => (uroamNetlinkSendPressure env (input env d) level).run held m) ↔
      ¬ Echoes env m :=
  (completes_andThen (fun _ _ _ => ⟨(),rfl⟩) (fun _ _ _ => noRelock_nil)).trans
    (send_completes_iff (.inl rfl) (fun h => by cases h) hm)

theorem sendStats_completes_iff (hm : .nlMutex ∉ held) (hs : .stateLock ∉ held) :
    Completes held (fun d => (uroamNetlinkSendStats env (input env d)).run held m) ↔
      ¬ Echoes env m := by
  have hes : NoRelock (O := Op) .nlMutex held [.acquire .stateLock,.release .stateLock] := by simp
  simp only [uroamNetlinkSendStats,bind_run,lock_free _ _ hs,get_run,unlock_run,ok_andThen]
  exact (completes_before hes (by simp)).trans (send_completes_iff (.inr rfl) (fun _ => hs) hm)

theorem notify_completes_iff (level : PsiPressure) (hm : .nlMutex ∉ held) (hs : .stateLock ∉ held) :
    Completes held (fun d => (uroamNotifyPressure env (input env d) level).run held m) ↔
      ¬ Echoes env m := by
  have hes : NoRelock (O := Op) .nlMutex held [.acquire .stateLock] := by simp
  simp only [uroamNotifyPressure,bind_run,lock_free _ _ hs,modify_run,ok_andThen]
  apply (completes_before hes rfl).trans
  apply (completes_andThen (fun _ _ _ => ⟨(),rfl⟩) (fun _ _ _ => by simp)).trans
  exact sendPressure_completes_iff level (by simp [hm])

theorem rcv_completes_iff {skb : Skb} (ha : answered skb.nlmsgType) (hm : .nlMutex ∉ held)
    (hs : .stateLock ∉ held) :
    Completes held (fun d => (uroamNetlinkRcv env (input env d) (some skb)).run held m) ↔
      ¬ Echoes env m := by
  simp only [uroamNetlinkRcv,bind_run]
  apply (completes_andThen (fun _ _ _ => ⟨(),rfl⟩) (fun _ _ _ => by simp)).trans
  rcases ha with hp | ht
  · simp only [nlmsgSwitch,hp,if_true,bind_run,get_run,ok_andThen]
    exact (completes_before noRelock_nil rfl).trans (sendPressure_completes_iff _ hm)
  · have hne : ¬ uroamNlMsgStats = uroamNlMsgPressure := by decide
    simp only [nlmsgSwitch,ht,hne,if_true,if_false,bind_run]
    exact (completes_andThen (fun _ _ _ => ⟨(),rfl⟩) (fun _ _ _ => noRelock_nil)).trans
      (sendStats_completes_iff hm hs)

end Calls

inductive IpcCall where
  | notifyPressure (level : PsiPressure)
  | sendStats
  | rcv (skb : Option Skb)
  deriving DecidableEq, Repr

def IpcCall.code (env : Env) (deliveries : Nat) : IpcCall → Kern Unit
  | .notifyPressure level => uroamNotifyPressure env (input env deliveries) level
  | .sendStats => do let _ ← uroamNetlinkSendStats env (input env deliveries)
  | .rcv skb => uroamNetlinkRcv env (input env deliveries) skb

def IpcCall.silent : IpcCall → Prop
  | .notifyPressure _ | .sendStats => False
  | .rcv none => True
  | .rcv (some skb) => ¬ answered skb.nlmsgType

theorem ipc_call_completes_iff (env : Env) (m : Module) (call : IpcCall) :
    Completes [] (fun deliveries => (call.code env deliveries).run [] m) ↔
      call.silent ∨ ¬ Echoes env m := by
  have hm : Lock.nlMutex ∉ [] := List.not_mem_nil
  have hs : Lock.stateLock ∉ [] := List.not_mem_nil
  cases call with
  | notifyPressure level =>
    simp only [IpcCall.silent,false_or]
    exact notify_completes_iff level hm hs
  | sendStats =>
    refine ((completes_andThen (fun _ _ _ => ⟨(),rfl⟩) (fun _ _ _ => noRelock_nil)).trans
      (sendStats_completes_iff hm hs)).trans ?_
    simp only [IpcCall.silent,false_or]
  | rcv skb =>
    cases skb with
    | none => simp [IpcCall.silent,IpcCall.code,Completes,uroamNetlinkRcv]
    | some skb =>
      by_cases ha : answered skb.nlmsgType
      · simp only [IpcCall.silent,ha,not_true,false_or]
        exact rcv_completes_iff ha hm hs
      · simp [IpcCall.silent,ha,IpcCall.code,Completes,reply_ignored]

theorem notification_deadlocks :
    ¬ ∀ (env : Env) (m : Module) (call : IpcCall),
      Completes [] (fun deliveries => (call.code env deliveries).run [] m) := by
  intro h
  have hc := h .serving (.loaded true) (.notifyPressure .memoryFull)
  exact (notify_completes_iff .memoryFull List.not_mem_nil List.not_mem_nil).mp hc
    ⟨rfl,⟨rfl,rfl⟩,⟨rfl,rfl⟩⟩

end Uroam.Kernel
