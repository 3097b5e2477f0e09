import Mathlib.Algebra.Group.Nat.Defs
import Mathlib.Data.List.Infix
import Mathlib.Data.List.Basic

namespace Uroam.Tuning

inductive WorkloadType where
  | general
  | aiInference
  | aiTraining
  | gaming
  | compilation
  | rendering
  | interactive
  | background
  | idle
  deriving DecidableEq, Repr

inductive Priority where
  | p0
  | p1
  | p2
  | p3
  deriving DecidableEq, Repr

structure ProcessInfo where
  pid : Nat
  workloadType : WorkloadType
  priority : Priority
  deriving DecidableEq, Repr

structure SystemInfo where
  totalRamKb : Nat
  availableRamKb : Nat
  usedRamKb : Nat
  memoryPercent : Option (Nat × Nat)
  swapTotalKb : Nat
  swapFreeKb : Nat
  swapUsedKb : Nat
  deriving DecidableEq, Repr

structure Classifier where
  systemInfo : SystemInfo
  processes : List ProcessInfo
  workloadCounts : WorkloadType → Nat

def Classifier.new : Classifier :=
  { systemInfo := ⟨0,0,0,none,0,0,0⟩, processes := [], workloadCounts := fun _ => 0 }

structure ProcEntry where
  pid : Nat
  comm : List Char
  cmdline : List Char
  deriving DecidableEq, Repr

structure Observation where
  meminfo : Option (List (List Char × List Char))
  proc : Option (List ProcEntry)
  deriving DecidableEq, Repr

structure Primitives where
  toLowercase : List Char → List Char
  percentBelow40 : Nat → Nat → Bool

def parseU64 (text : List Char) : Nat :=
  let digits : List Char := match text with
    | '+' :: rest => rest
    | _ => text
  let value : Nat := digits.foldl (fun n c => 10 * n + (c.toNat - '0'.toNat)) 0
  if digits ≠ [] ∧ digits.all Char.isDigit = true ∧ value < 2 ^ 64 then value else 0

def SystemInfo.readLine (info : SystemInfo) (line : List Char × List Char) : SystemInfo :=
  if line.1 = "MemTotal:".toList then { info with totalRamKb := parseU64 line.2 }
  else if line.1 = "MemAvailable:".toList then { info with availableRamKb := parseU64 line.2 }
  else if line.1 = "SwapTotal:".toList then { info with swapTotalKb := parseU64 line.2 }
  else if line.1 = "SwapFree:".toList then { info with swapFreeKb := parseU64 line.2 }
  else info

-- A field whose line is missing keeps its value of the pass before.
def SystemInfo.detect (info : SystemInfo) (meminfo : List (List Char × List Char)) : SystemInfo :=
  let info := meminfo.foldl SystemInfo.readLine info
  let used := info.totalRamKb - info.availableRamKb
  { info with
    usedRamKb := used
    memoryPercent := if info.totalRamKb > 0 then some (used,info.totalRamKb) else info.memoryPercent
    swapUsedKb := info.swapTotalKb - info.swapFreeKb }

def contains (text : List Char) (pattern : String) : Bool := decide (pattern.toList <:+: text)

def containsAny (text : List Char) (patterns : List String) : Bool := patterns.any (contains text)

def aiProcesses : List String :=
  ["llama.cpp", "llama-server", "ollama", "ollama-server", "python", "python3", "torch",
    "tensorflow", "transformers", "onnxruntime"]

def gamingProcesses : List String :=
  ["steam", "steamwebhelper", "steam-runtime", "proton", "wine", "wine64", "gamescope",
    "gamemoded", "lutris"]

def compilationProcesses : List String :=
  ["gcc", "g++", "clang", "clang++", "rustc", "cargo", "make", "ninja", "cmake", "meson"]

def interactiveProcesses : List String :=
  ["gnome-shell", "kwin", "Xorg", "X11", "sway", "hyprland", "weston", "kitty", "alacritty",
    "foot", "firefox", "chromium", "vscode", "code"]

def classifyProcess (prim : Primitives) (name cmdline : List Char) : WorkloadType :=
  let nameLower := prim.toLowercase name
  let cmdlineLower := prim.toLowercase cmdline
  if containsAny nameLower aiProcesses || containsAny cmdlineLower aiProcesses then
    if containsAny cmdlineLower ["train", "fit"] then .aiTraining else .aiInference
  else if containsAny nameLower gamingProcesses then .gaming
  else if containsAny nameLower compilationProcesses then .compilation
  else if containsAny nameLower interactiveProcesses then .interactive
  else if "kworker".toList <+: nameLower || containsAny nameLower ["ksoftirqd", "rcu_"] ||
      nameLower = "migration".toList then .background
  else .general

def determinePriority : WorkloadType → Priority
  | .aiInference | .interactive => .p0
  | .gaming | .compilation => .p1
  | .background => .p2
  | _ => .p2

def scanEntry (prim : Primitives) (entry : ProcEntry) : ProcessInfo :=
  let workload := classifyProcess prim entry.comm entry.cmdline
  { pid := entry.pid, workloadType := workload, priority := determinePriority workload }

def Classifier.detectSystemInfo (c : Classifier) (seen : Observation) : Option Classifier :=
  seen.meminfo.map fun meminfo => { c with systemInfo := c.systemInfo.detect meminfo }

def Classifier.clear (c : Classifier) : Classifier :=
  { c with processes := [], workloadCounts := fun _ => 0 }

def Classifier.scanned (prim : Primitives) (c : Classifier) (proc : List ProcEntry) : Classifier :=
  let processes := proc.map (scanEntry prim)
  { c with
    processes
    workloadCounts := fun w => processes.countP fun p => p.workloadType = w }

def Classifier.scanProcesses (prim : Primitives) (c : Classifier) (seen : Observation) :
    Option Classifier :=
  seen.proc.map (c.clear.scanned prim)

structure MapOrder where
  order : List WorkloadType
  nodup : order.Nodup
  complete : ∀ w, w ∈ order

def Classifier.getCurrentWorkload (c : Classifier) (walk : MapOrder) : WorkloadType :=
  let keys := walk.order.filter fun w => c.workloadCounts w > 0
  let best := keys.foldl (fun (best : Nat × WorkloadType) w =>
    if c.workloadCounts w > best.1 then (c.workloadCounts w,w) else best) (0,.general)
  if best.1 = 0 then .idle else best.2

def Classifier.isIdle (prim : Primitives) (c : Classifier) : Bool :=
  (match c.systemInfo.memoryPercent with
    | none => true
    | some (used,total) => prim.percentBelow40 used total) &&
  c.workloadCounts .gaming == 0 && c.workloadCounts .aiInference == 0 &&
  c.workloadCounts .interactive == 0

def Classifier.getHighPriorityPids (c : Classifier) : List Nat :=
  (c.processes.filter fun p => p.priority = .p0 || p.priority = .p1).map ProcessInfo.pid

def Classifier.getLowPriorityPids (c : Classifier) : List Nat :=
  (c.processes.filter fun p => p.priority = .p2 || p.priority = .p3).map ProcessInfo.pid

end Uroam.Tuning
