import Mathlib.Data.Int.Order.Basic
import Mathlib.Data.List.Infix
import Uroam.Kernel.Netlink
import Uroam.Library.SearchTree

namespace Uroam.Kernel
open Thread

def strstr (text pattern : List Char) : Bool := decide (pattern <:+: text)

def aiWorkloadPatterns : List String :=
  ["python", "pytorch", "tensorflow", "onnx", "torch", "tf.", "onnxruntime", "inference", "model",
    "neural", "transformer", "llm", "langchain", "huggingface", "jupyter", "ipython"]

def gamingPatterns : List String :=
  ["steam", "game", "wine", "proton", "dxvk", "vk", "opengl", "gl", "vulkan", "unity", "unreal",
    "source", "engine", "client", "server"]

def matchesAny (patterns : List String) (comm : List Char) : Bool :=
  patterns.any fun pattern => strstr comm pattern.toList

def uroamIsAiWorkload (comm : List Char) : Bool := matchesAny aiWorkloadPatterns comm

def uroamIsGamingWorkload (comm : List Char) : Bool := matchesAny gamingPatterns comm

def uroamGetProcessPriority (comm : List Char) : U8 :=
  if uroamIsAiWorkload comm then
    if matchesAny ["inference", "predict", "query", "api"] comm then uroamPriorityP0
    else uroamPriorityP2
  else if uroamIsGamingWorkload comm then uroamPriorityP1
  else uroamPriorityP2

def uroamGetNumaNode (task : Task) : Int := task.mpolBind.getD task.numaNode

def getTaskComm (task : Task) : List Char := task.comm.take (taskCommLen - 1)

-- The counters are signed in the kernel and a negative one is read as zero.
def getMmCounter (count : U64) : U64 := if count.msb then 0 else count

structure ProcessMemory where
  memoryUsage : U64
  rss : U64
  swap : U64
  deriving DecidableEq, Repr

def Mm.usage (mm : Mm) : ProcessMemory :=
  let rss := if mm.filePages + mm.anonPages + mm.swapEnts ≠ 0 then
      (mm.filePages + mm.anonPages) * pageSize else 0
  let swap := getMmCounter mm.swapEnts * pageSize
  { rss, swap, memoryUsage := rss + swap + getMmCounter mm.filePages * pageSize }

def uroamGetProcessMemory (task : Task) : Kern ProcessMemory :=
  match task.mm with
  | none => return { memoryUsage := 0, rss := 0, swap := 0 }
  | some mm => do
    emit .mmput
    return mm.usage

def ProcessInfo.withMemory (info : ProcessInfo) (memory : ProcessMemory) : ProcessInfo :=
  { info with memoryUsage := memory.memoryUsage, rss := memory.rss, swap := memory.swap }

def uroamProcessInfoCmp (pid : Int) (info : ProcessInfo) : Int :=
  if pid < info.pid then -1 else if pid > info.pid then 1 else 0

def searchFrom (infos : Slot → ProcessInfo) (pid : Int) : BinaryTree Slot → Option Slot
  | .nil => none
  | .node info left right =>
    let cmp := uroamProcessInfoCmp pid (infos info)
    if cmp < 0 then searchFrom infos pid left
    else if cmp > 0 then searchFrom infos pid right
    else some info

def Module.pidOf (m : Module) (info : Slot) : Int := (m.globalState.trackedProcesses info).pid

def uroamProcessTreeSearch (m : Module) (pid : Int) : Option Slot :=
  searchFrom m.globalState.trackedProcesses pid m.processTree

def uroamProcessTreeInsert (rbInsertColor : BinaryTree Slot → BinaryTree Slot) (info : Slot)
    (m : Module) : Int × Module :=
  match SearchTree.link m.pidOf info m.processTree with
  | none => (-eexist,m)
  | some tree => (0,{ m with processTree := rbInsertColor tree })

def Module.setInfo (m : Module) (slot : Slot) (f : ProcessInfo → ProcessInfo) : Module :=
  { m with globalState := { m.globalState with
      trackedProcesses := Function.update m.globalState.trackedProcesses slot
        (f (m.globalState.trackedProcesses slot)) } }

def Module.countUp (m : Module) : Module :=
  { m with globalState := { m.globalState with trackedCount := m.globalState.trackedCount + 1 } }

def refreshed (task : Task) (memory : ProcessMemory) (old : ProcessInfo) : ProcessInfo :=
  { old.withMemory memory with
    numaNode := .ofInt 8 (uroamGetNumaNode task)
    comm := getTaskComm task }

def entered (task : Task) (memory : ProcessMemory) (old : ProcessInfo) : ProcessInfo :=
  let comm := getTaskComm task
  { old.withMemory memory with
    pid := task.pid
    comm
    priority := uroamGetProcessPriority comm
    numaNode := .ofInt 8 (uroamGetNumaNode task)
    isAiWorkload := uroamIsAiWorkload comm
    isGaming := uroamIsGamingWorkload comm }

section

variable (env : Env) (input : Option Skb → Kern Unit)

def updateEntry (task : Task) (info : Slot) : Kern Unit := do
  let memory ← uroamGetProcessMemory task
  modify fun m => m.setInfo info (refreshed task memory)

def report (m : Module) (task : Task) (info : Slot) : Kern Unit := do
  let _ ← uroamNetlinkSendProcessUpdate env input task.pid
    (some (m.globalState.trackedProcesses info))

def addEntry (task : Task) (info : Slot) : Kern Unit := do
  let memory ← uroamGetProcessMemory task
  modify fun m => m.setInfo info (entered task memory)
  let m ← get
  let inserted := uroamProcessTreeInsert env.rbInsertColor info m
  modify fun _ => inserted.2
  emit (.treeInsert inserted.1)
  modify Module.countUp
  let m ← get
  report env input m task info

def track (m : Module) (task : Task) : Kern Unit :=
  match uroamProcessTreeSearch m task.pid with
  | some info => updateEntry task info
  | none =>
    if h : m.globalState.trackedCount < maxTrackedProcesses then
      addEntry env input task ⟨m.globalState.trackedCount,h⟩
    else pure ()

def uroamTrackingUpdateProcess (task : Task) : Kern Unit := do
  lock .processTreeLock
  let m ← get
  track env input m task
  unlock .processTreeLock

def uroamTrackingGetProcess (pid : Int) : Kern (Option Slot) := do
  lock .processTreeLock
  let m ← get
  let info := uroamProcessTreeSearch m pid
  unlock .processTreeLock
  return info

abbrev PidTable := Nat → Option (Option Task)

def scanFrom (pids : PidTable) : Nat → Nat → Kern Unit
  | 0, _ => exhausted
  | rounds + 1, nr =>
    match pids nr with
    | none => pure ()
    | some none => scanFrom pids rounds (nr + 1)
    | some (some task) => do
      uroamTrackingUpdateProcess env input task
      scanFrom pids rounds (nr + 1)

def uroamTrackingScan (pids : PidTable) (rounds : Nat) : Kern Unit := scanFrom env input pids rounds 1

end

section Lemmas

variable {env : Env} {deliver : Option Skb → Kern Unit} {held : List Lock} {m : Module} {task : Task}

theorem pidOf_setInfo {f : ProcessInfo → ProcessInfo} (hf : ∀ info, (f info).pid = info.pid)
    (slot : Slot) : (m.setInfo slot f).pidOf = m.pidOf := by
  funext i
  by_cases h : i = slot
  · subst h
    simp [Module.pidOf,Module.setInfo,hf]
  · simp [Module.pidOf,Module.setInfo,h]

theorem search_eq (m : Module) (pid : Int) :
    uroamProcessTreeSearch m pid = SearchTree.search m.pidOf pid m.processTree := by
  unfold uroamProcessTreeSearch
  induction m.processTree with
  | nil => rfl
  | node info l r ihl ihr =>
    simp only [searchFrom,SearchTree.search,uroamProcessInfoCmp,ihl,ihr,Module.pidOf]
    by_cases hlt : pid < (m.globalState.trackedProcesses info).pid
    · simp [hlt]
    · by_cases hgt : (m.globalState.trackedProcesses info).pid < pid
      · simp [hlt,hgt]
      · simp [hlt,hgt]

def Task.memory (task : Task) : ProcessMemory :=
  match task.mm with
  | none => { memoryUsage := 0, rss := 0, swap := 0 }
  | some mm => mm.usage

def Task.memoryOps (task : Task) : List Op := if task.mm.isSome then [.mmput] else []

theorem memory_run :
    (uroamGetProcessMemory task).run held m = ⟨.ok task.memory,m,task.memoryOps.map .op⟩ := by
  cases h : task.mm <;> simp [uroamGetProcessMemory,Task.memory,Task.memoryOps,h]

def added (env : Env) (m : Module) (task : Task) (info : Slot) : Int × Module :=
  let inserted := uroamProcessTreeInsert env.rbInsertColor info
    (m.setInfo info (entered task task.memory))
  (inserted.1,inserted.2.countUp)

theorem addEntry_run (info : Slot) :
    (addEntry env deliver task info).run held m =
      (⟨.ok (),(added env m task info).2,
        (task.memoryOps ++ [Op.treeInsert (added env m task info).1]).map .op⟩ :
          Ran Module Lock Op Unit).andThen held fun _ =>
        report env deliver (added env m task info).2 task info := by
  simp [addEntry,memory_run,added,Runs.exec_append]

theorem update_found {info : Slot} (hs : uroamProcessTreeSearch m task.pid = some info)
    (hl : .processTreeLock ∉ held) :
    (uroamTrackingUpdateProcess env deliver task).run held m =
      ⟨.ok (),m.setInfo info (refreshed task task.memory),
        .acquire .processTreeLock :: (task.memoryOps.map .op ++ [.release .processTreeLock])⟩ := by
  simp [uroamTrackingUpdateProcess,lock_free,hl,track,hs,updateEntry,memory_run]

theorem update_full (hs : uroamProcessTreeSearch m task.pid = none)
    (hc : maxTrackedProcesses ≤ m.globalState.trackedCount) (hl : .processTreeLock ∉ held) :
    (uroamTrackingUpdateProcess env deliver task).run held m =
      ⟨.ok (),m,[.acquire .processTreeLock,.release .processTreeLock]⟩ := by
  simp [uroamTrackingUpdateProcess,lock_free,hl,track,hs,hc.not_gt]

theorem update_added (hs : uroamProcessTreeSearch m task.pid = none)
    (hc : m.globalState.trackedCount < maxTrackedProcesses) (hl : .processTreeLock ∉ held) :
    (uroamTrackingUpdateProcess env deliver task).run held m =
      (⟨.ok (),m,[.acquire .processTreeLock]⟩ : Ran Module Lock Op Unit).andThen held fun _ =>
        addEntry env deliver task ⟨m.globalState.trackedCount,hc⟩ >>= fun _ =>
          unlock .processTreeLock := by
  simp [uroamTrackingUpdateProcess,lock_free,hl,track,hs,hc]

end Lemmas

end Uroam.Kernel
