import Uroam.Library.Lines
import Uroam.Library.Utf8
import Uroam.Tuning.Classifier
import Uroam.Tuning.Tunable

namespace Uroam.Service.Ipc

open Tuning (Write parseU64)

inductive IpcCommand where
  | status
  | optimize
  | profileGet
  | profileSet (name : String)
  | clean
  | monitorStart
  | monitorStop
  | zramStatus
  | zramResize (size : String)
  | configReload
  | shutdown
  deriving DecidableEq, Repr

structure Status where
  memoryTotalKb : Nat
  memoryUsedKb : Nat
  memoryAvailableKb : Nat
  swapTotalKb : Nat
  swapUsedKb : Nat
  swappiness : Nat
  zramActive : Bool
  profile : String
  workload : String
  deriving DecidableEq, Repr

inductive IpcResponse where
  | ok (text : String)
  | error (text : String)
  | status (s : Status)
  deriving DecidableEq, Repr

structure SerdeJson where
  toString : IpcCommand → List Char
  fromStr : List Char → Except String IpcCommand

structure Machine where
  meminfo : Except String (List Char)
  swappiness : Option (List Char)
  zramPresent : Bool
  dropCaches : Option String

structure MemoryLines where
  totalKb : Nat
  availableKb : Nat
  swapTotalKb : Nat
  swapFreeKb : Nat

def MemoryLines.read (m : MemoryLines) (line : List Char × List Char) : MemoryLines :=
  if line.1 = "MemTotal:".toList then { m with totalKb := parseU64 line.2 }
  else if line.1 = "MemAvailable:".toList then { m with availableKb := parseU64 line.2 }
  else if line.1 = "SwapTotal:".toList then { m with swapTotalKb := parseU64 line.2 }
  else if line.1 = "SwapFree:".toList then { m with swapFreeKb := parseU64 line.2 }
  else m

def parseU32 (text : List Char) : Nat :=
  if parseU64 text < 4294967296 then parseU64 text else 0

def getStatus (machine : Machine) : Except String Status :=
  match machine.meminfo with
  | .error e => .error e
  | .ok text =>
    let m := Lines.eachLine MemoryLines.read ⟨0,0,0,0⟩ text
    .ok
      { memoryTotalKb := m.totalKb
        memoryUsedKb := m.totalKb - m.availableKb
        memoryAvailableKb := m.availableKb
        swapTotalKb := m.swapTotalKb
        swapUsedKb := m.swapTotalKb - m.swapFreeKb
        swappiness := (machine.swappiness.map fun text => parseU32 (Lines.trimmed text)).getD 0
        zramActive := machine.zramPresent
        profile := "balanced"
        workload := "idle" }

structure Handled where
  dispatched : Option IpcCommand
  written : List Write
  response : Option IpcResponse
  exits : Bool
  deriving DecidableEq, Repr

def reply (cmd : IpcCommand) (response : IpcResponse) : Handled := ⟨some cmd,[],some response,false⟩

def writeDropCaches (machine : Machine) (cmd : IpcCommand) (level : Nat) (done failed : String) :
    Handled :=
  match machine.dropCaches with
  | none => { reply cmd (.ok done) with written := [.dropCaches level] }
  | some e => reply cmd (.error (failed ++ e))

def dispatch (machine : Machine) (cmd : IpcCommand) : Handled :=
  match cmd with
  | .status =>
    match getStatus machine with
    | .ok s => reply cmd (.status s)
    | .error e => reply cmd (.error ("Failed to get status: " ++ e))
  | .optimize =>
    writeDropCaches machine cmd 1 "Optimization triggered" "Optimization failed: "
  | .profileGet => reply cmd (.ok "balanced")
  | .profileSet name => reply cmd (.ok ("Profile set to " ++ name))
  | .clean => writeDropCaches machine cmd 3 "Memory cleaned" "Clean failed: "
  | .configReload => reply cmd (.ok "Config reloaded")
  | .shutdown => ⟨some cmd,[],none,true⟩
  | .monitorStart | .monitorStop | .zramStatus | .zramResize _ =>
    reply cmd (.error "Command not implemented")

-- What one read of the stream returns: the bytes that are there, as far as the buffer holds them.
def read (size : Nat) : List (List UInt8) → List UInt8
  | [] => []
  | chunk :: _ => chunk.take size

def handleClient (serde : SerdeJson) (machine : Machine) (stream : List (List UInt8)) : Handled :=
  let received := read 4096 stream
  if received = [] then ⟨none,[],none,false⟩
  else
    match serde.fromStr (Utf8.lossy received) with
    | .ok cmd => dispatch machine cmd
    | .error e => ⟨none,[],some (.error ("Invalid command: " ++ e)),false⟩

def commandBytes (serde : SerdeJson) (cmd : IpcCommand) : List UInt8 :=
  Utf8.encode (serde.toString cmd)

def sendCommand (serde : SerdeJson) (cmd : IpcCommand) : List UInt8 :=
  commandBytes serde cmd ++ Utf8.encode ['\n']

def Delivers (stream : List (List UInt8)) (bytes : List UInt8) : Prop :=
  stream.flatten = bytes ∧ ∀ chunk ∈ stream, chunk ≠ []

end Uroam.Service.Ipc
