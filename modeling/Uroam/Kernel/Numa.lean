import Mathlib.Algebra.Order.Ring.Int
import Mathlib.Data.Finset.Card
import Uroam.Kernel.Tracking
import Uroam.Library.Loops

namespace Uroam.Kernel.Numa
open Loops

def maxNumaNodes : ℕ := 8
def defaultRemoteDistance : U8 := 20

structure Topology where
  online : Finset ℕ
  possible : ℕ
  nodeDistance : ℤ → ℤ → ℤ
  onlinePossible : online.card ≤ possible

structure PageCounts where
  present : ℕ → U64
  free : ℕ → U64

structure NumaInfo where
  totalMemory : U64
  freeMemory : U64
  usedMemory : U64
  nrPages : U32
  nrFreePages : U32
  distance : ℕ → U32

def NumaInfo.zero : NumaInfo where
  totalMemory := 0
  freeMemory := 0
  usedMemory := 0
  nrPages := 0
  nrFreePages := 0
  distance := fun _ => 0

structure NumaState where
  nrNumaNodes : ℕ
  numaDistanceTable : Option (ℕ → U8)
  numaNodes : ℕ → NumaInfo
  numaNodeCount : U32
  indices : List ℕ

def NumaState.loaded : NumaState where
  nrNumaNodes := 1
  numaDistanceTable := none
  numaNodes := fun _ => .zero
  numaNodeCount := 0
  indices := []

def copyDistances (table : ℕ → U8) (nr node : ℕ) (distance : ℕ → U32) : ℕ → U32 :=
  upTo (min maxNumaNodes nr)
    (fun distance i => fill (min maxNumaNodes nr) (fun _ => i)
      (fun j => (table (node * maxNumaNodes + j)).setWidth 32) distance) distance

def nodeInfo (m : PageCounts) (table : Option (ℕ → U8)) (nr node : ℕ) (old : NumaInfo) :
    NumaInfo :=
  let totalMemory := m.present node * pageSize
  let freeMemory := m.free node * pageSize
  { totalMemory
    freeMemory
    usedMemory := totalMemory - freeMemory
    nrPages := (m.present node).setWidth 32
    nrFreePages := (m.free node).setWidth 32
    distance := match table with
      | some table => copyDistances table nr node old.distance
      | none => old.distance }

def updateNode (t : Topology) (m : PageCounts) (s : NumaState) (node : ℕ) : NumaState :=
  if node ∈ t.online then
    { s with
      numaNodes := Function.update s.numaNodes node
        (nodeInfo m s.numaDistanceTable s.nrNumaNodes node (s.numaNodes node))
      indices := node :: s.indices }
  else s

def uroamNumaUpdateNodeInfo (t : Topology) (m : PageCounts) (s : NumaState) : NumaState :=
  let s := upTo s.nrNumaNodes (updateNode t m) s
  { s with numaNodeCount := .ofNat 32 s.nrNumaNodes }

def tableEntry (t : Topology) (i j : ℕ) : U8 :=
  if i < t.possible ∧ j < t.possible then .ofInt 8 (t.nodeDistance i j) else defaultRemoteDistance

def distanceRow (t : Topology) (nr : ℕ) (table : ℕ → U8) (i : ℕ) : ℕ → U8 :=
  fill (min maxNumaNodes nr) (fun j => i * maxNumaNodes + j) (tableEntry t i) table

def uroamNumaInitDistanceTable (t : Topology) (kzalloc : Bool) (s : NumaState) : NumaState :=
  match s.numaDistanceTable with
  | some _ => s
  | none =>
    if kzalloc then
      { s with
        numaDistanceTable := some (upTo (min maxNumaNodes s.nrNumaNodes)
          (distanceRow t s.nrNumaNodes) (fun _ => 0)) }
    else s

def uroamNumaAvailable (t : Topology) : Bool := decide (1 < t.possible)

def uroamNumaInit (t : Topology) (m : PageCounts) (kzalloc : Bool) (s : NumaState) : ℤ × NumaState :=
  if uroamNumaAvailable t = false then (0, { s with nrNumaNodes := 1 })
  else if t.online.card ≤ 1 then (0, { s with nrNumaNodes := 1 })
  else
    let s := uroamNumaInitDistanceTable t kzalloc { s with nrNumaNodes := t.online.card }
    (0, uroamNumaUpdateNodeInfo t m s)

def uroamNumaUpdate (t : Topology) (s : NumaState) (m : PageCounts) : NumaState :=
  if uroamNumaAvailable t = false ∨ s.nrNumaNodes ≤ 1 then s else uroamNumaUpdateNodeInfo t m s

structure Mempolicy where
  mode : ℤ
  nodes : List ℤ
  deriving DecidableEq, Repr

structure Held where
  structPid : ℤ
  task : ℤ
  mm : ℤ
  mpol : ℤ
  mempolicy : Option Mempolicy
  deriving DecidableEq, Repr

def pidLookup (pids : PidTable) (pid : ℤ) : Option (Option Task) :=
  if 0 ≤ pid then pids pid.toNat else none

def findGetPid (pids : PidTable) (pid : ℤ) : StateM Held (Option (Option Task)) :=
  match pidLookup pids pid with
  | none => pure none
  | some pidStruct => do
    modify fun h => { h with structPid := h.structPid + 1 }
    pure (some pidStruct)

def getPidTask : Option (Option Task) → StateM Held (Option Task)
  | some (some task) => do
    modify fun h => { h with task := h.task + 1 }
    pure (some task)
  | _ => pure none

def putTaskStruct : StateM Held Unit := modify fun h => { h with task := h.task - 1 }

def getTaskMm (task : Task) : StateM Held (Option Mm) :=
  match task.mm with
  | none => pure none
  | some mm => do
    modify fun h => { h with mm := h.mm + 1 }
    pure (some mm)

def mmput : StateM Held Unit := modify fun h => { h with mm := h.mm - 1 }

def localNode (t : Topology) (s : NumaState) (size : U64) (currentNode : ℤ) : Option ℕ :=
  (List.range s.nrNumaNodes).find? fun node =>
    decide (node ∈ t.online ∧ (node : ℤ) = currentNode ∧ size ≤ (s.numaNodes node).freeMemory)

-- The loop variable is the node that is returned.
def searchNodes (t : Topology) (s : NumaState) (size : U64) (currentNode : ℤ) (bestNode : ℕ)
    (minDistance : U64) : ℕ :=
  if bestNode < s.nrNumaNodes then
    if bestNode ∈ t.online ∧ size ≤ (s.numaNodes bestNode).freeMemory then
      let distance : U64 := .ofInt 64 (t.nodeDistance currentNode bestNode)
      if minDistance = -1 ∨ distance < minDistance then
        searchNodes t s size currentNode (bestNode + 1) distance
      else searchNodes t s size currentNode (bestNode + 1) minDistance
    else searchNodes t s size currentNode (bestNode + 1) minDistance
  else bestNode
termination_by s.nrNumaNodes - bestNode

def uroamNumaGetBestNode (t : Topology) (s : NumaState) (pids : PidTable) (pid : ℤ) (size : U64) :
    StateM Held ℤ := do
  let pidStruct ← findGetPid pids pid
  match ← getPidTask pidStruct with
  | none => pure 0
  | some task =>
    match localNode t s size task.numaNode with
    | some node => do
      putTaskStruct
      pure node
    | none => do
      putTaskStruct
      pure (searchNodes t s size task.numaNode 0 (-1))

-- The walk over the memory areas only reads, and the list of pages to migrate stays empty.
def uroamNumaMigratePages (pids : PidTable) (pid _fromNode _toNode : ℤ) : StateM Held Unit := do
  let pidStruct ← findGetPid pids pid
  match ← getPidTask pidStruct with
  | none => pure ()
  | some task =>
    match ← getTaskMm task with
    | none => putTaskStruct
    | some _ => do
      mmput
      putTaskStruct

def mpolDefault : ℤ := 0
def mpolPreferred : ℤ := 1
def mpolBind : ℤ := 2
def mpolInterleave : ℤ := 3

abbrev MpolNew := ℤ → Option (List ℤ) → ℤ → Option Mempolicy

def newPolicy (mpolNew : MpolNew) (policy : ℤ) (nodes : Option (List ℤ)) (nrNodes : ℤ) :
    Option (Option Mempolicy) :=
  let given := nodes.isSome ∧ 0 < nrNodes
  if policy = mpolDefault then some (mpolNew mpolDefault none 0)
  else if policy = mpolPreferred then
    some (if given then mpolNew mpolPreferred nodes 1 else none)
  else if policy = mpolBind then some (if given then mpolNew mpolBind nodes nrNodes else none)
  else if policy = mpolInterleave then
    some (if given then mpolNew mpolInterleave nodes nrNodes else none)
  else none

def applyPolicy (new : Mempolicy) : StateM Held Unit := do
  modify fun h => { h with mpol := h.mpol + 1 }
  modify fun h => { h with mpol := if h.mempolicy.isSome then h.mpol - 1 else h.mpol }
  modify fun h => { h with mempolicy := some new }

def uroamNumaSetPolicy (pids : PidTable) (mpolNew : MpolNew) (pid policy : ℤ)
    (nodes : Option (List ℤ)) (nrNodes : ℤ) : StateM Held Unit := do
  let pidStruct ← findGetPid pids pid
  match ← getPidTask pidStruct with
  | none => pure ()
  | some _ =>
    match newPolicy mpolNew policy nodes nrNodes with
    | some (some new) => do
      applyPolicy new
      putTaskStruct
    | _ => putTaskStruct

end Uroam.Kernel.Numa
