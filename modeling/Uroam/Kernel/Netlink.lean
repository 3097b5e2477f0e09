import Uroam.Kernel.State

namespace Uroam.Kernel
open Thread

section

variable (env : Env) (input : Option Skb → Kern Unit)

-- Port 0 on the module's own socket is the socket itself: its input callback runs before the return.
def nlmsgUnicast (send : Nat) (skb : Skb) (portid : U32) : Kern Int := do
  emit (.unicast skb)
  if portid = 0#32 then
    input (some skb)
  return env.nlmsgUnicast send

def uroamNetlinkSend (type : U16) (data : Option NlMsg) (portid : U32) : Kern Int := do
  let m ← get
  modify fun m => { m with sends := m.sends + 1 }
  emit .nlmsgNew
  if env.nlmsgNew m.sends then
    modify fun m => { m with nlSeq := m.nlSeq + 1 }
    if env.nlmsgPut m.sends then
      lock .nlMutex
      let skb := { nlmsgType := type, nlmsgSeq := m.nlSeq, portid, data }
      let ret ← (if m.nlSock then nlmsgUnicast env input m.sends skb portid else pure (-enotconn))
      unlock .nlMutex
      if ret < 0 then return ret else return 0
    else
      emit .nlmsgFree
      return -emsgsize
  else return -enomem

def uroamNetlinkSendPressure (level : PsiPressure) : Kern Unit := do
  let m ← get
  let msg := .pressure level (env.jiffies m.sends) m.globalState.pressureCount
  let _ ← uroamNetlinkSend env input uroamNlMsgPressure (some msg) 0#32

def uroamNetlinkSendStats : Kern Int := do
  lock .stateLock
  let m ← get
  let g := m.globalState
  let msg := .stats g.allocationCount g.reclaimCount g.pressureCount g.pressureLevel g.trackedCount
  unlock .stateLock
  uroamNetlinkSend env input uroamNlMsgStats (some msg) 0#32

def uroamNetlinkSendProcessUpdate (pid : Int) (info : Option ProcessInfo) : Kern Int :=
  let msg := match info with
    | some info => .process pid info.comm info.memoryUsage info.rss info.priority info.numaNode
        info.isAiWorkload info.isGaming
    | none => .process pid [] 0 0 uroamPriorityP2 0 false false
  uroamNetlinkSend env input uroamNlMsgProcess (some msg) 0#32

def nlmsgSwitch (skb : Skb) : Kern Unit :=
  if skb.nlmsgType = uroamNlMsgPressure then do
    let m ← get
    uroamNetlinkSendPressure env input m.globalState.pressureLevel
  else if skb.nlmsgType = uroamNlMsgStats then do
    let _ ← uroamNetlinkSendStats env input
  else pure ()

def uroamNetlinkRcv : Option Skb → Kern Unit
  | none => pure ()
  | some skb => do
    nlmsgSwitch env input skb
    emit .kfreeSkb

end

def input (env : Env) : Nat → Option Skb → Kern Unit
  | 0, _ => exhausted
  | deliveries + 1, skb => uroamNetlinkRcv env (input env deliveries) skb

end Uroam.Kernel
