import Mathlib.Data.Tree.Basic
import Uroam.Library.Thread

namespace Uroam.Kernel

abbrev U8 := BitVec 8
abbrev U16 := BitVec 16
abbrev U32 := BitVec 32
abbrev U64 := BitVec 64

def maxTrackedProcesses : Nat := 1024
def taskCommLen : Nat := 16
def pageSize : U64 := 4096

def uroamPriorityP0 : U8 := 0
def uroamPriorityP1 : U8 := 1
def uroamPriorityP2 : U8 := 2

def uroamNlMsgPressure : U16 := 0x01
def uroamNlMsgStats : U16 := 0x04
def uroamNlMsgProcess : U16 := 0x06

def enomem : Int := 12
def eexist : Int := 17
def emsgsize : Int := 90
def enotconn : Int := 107

inductive PsiPressure where
  | memoryNone
  | memorySome
  | memoryFull
  deriving DecidableEq, Repr

structure Mm where
  filePages : U64
  anonPages : U64
  swapEnts : U64
  deriving DecidableEq, Repr

structure Task where
  pid : Int
  comm : List Char
  mm : Option Mm
  mpolBind : Option Int
  numaNode : Int
  deriving DecidableEq, Repr

structure ProcessInfo where
  pid : Int
  comm : List Char
  memoryUsage : U64
  rss : U64
  swap : U64
  priority : U8
  numaNode : U8
  isAiWorkload : Bool
  isGaming : Bool
  deriving DecidableEq, Repr

def ProcessInfo.zero : ProcessInfo :=
  { pid := 0, comm := [], memoryUsage := 0, rss := 0, swap := 0, priority := 0, numaNode := 0
    isAiWorkload := false, isGaming := false }

abbrev Slot := Fin maxTrackedProcesses

structure GlobalState where
  enabled : Bool
  pressureLevel : PsiPressure
  lastPressureTime : U64
  pressureCount : U64
  allocationCount : U64
  reclaimCount : U64
  trackedProcesses : Slot → ProcessInfo
  trackedCount : Nat

structure Module where
  globalState : GlobalState
  processTree : BinaryTree Slot
  nlSock : Bool
  nlSeq : U32
  sends : Nat

def Module.loaded (nlSock : Bool) : Module :=
  { globalState :=
      { enabled := true, pressureLevel := .memorySome, lastPressureTime := 0, pressureCount := 0
        allocationCount := 0, reclaimCount := 0, trackedProcesses := fun _ => .zero
        trackedCount := 0 }
    processTree := .nil, nlSock, nlSeq := 0, sends := 0 }

inductive Lock where
  | processTreeLock
  | stateLock
  | nlMutex
  deriving DecidableEq, Repr

inductive NlMsg where
  | pressure (level : PsiPressure) (timestamp count : U64)
  | stats (allocationCount reclaimCount pressureCount : U64) (pressureLevel : PsiPressure)
      (trackedProcesses : Nat)
  | process (pid : Int) (comm : List Char) (memoryUsage rss : U64) (priority numaNode : U8)
      (isAiWorkload isGaming : Bool)
  deriving DecidableEq, Repr

structure Skb where
  nlmsgType : U16
  nlmsgSeq : U32
  portid : U32
  data : Option NlMsg
  deriving DecidableEq, Repr

inductive Op where
  | nlmsgNew
  | nlmsgFree
  | unicast (skb : Skb)
  | kfreeSkb
  | mmput
  | treeInsert (ret : Int)
  deriving DecidableEq, Repr

-- What the surrounding kernel decides: per send whether `nlmsg_new` and `nlmsg_put` succeed,
-- what `nlmsg_unicast` returns and the clock; per insertion how the tree is rebalanced.
structure Env where
  nlmsgNew : Nat → Bool
  nlmsgPut : Nat → Bool
  nlmsgUnicast : Nat → Int
  jiffies : Nat → U64
  rbInsertColor : BinaryTree Slot → BinaryTree Slot

def Env.serving : Env :=
  { nlmsgNew := fun _ => true, nlmsgPut := fun _ => true, nlmsgUnicast := fun _ => 0
    jiffies := fun _ => 0, rbInsertColor := id }

abbrev Event := Thread.Event Lock Op

abbrev Kern := Thread.Code Module Lock Op

def Lock.spins : Lock → Bool
  | .processTreeLock | .stateLock => true
  | .nlMutex => false

def sleeps : Event → Bool
  | .acquire .nlMutex | .op .nlmsgNew | .op .mmput => true
  | _ => false

end Uroam.Kernel
