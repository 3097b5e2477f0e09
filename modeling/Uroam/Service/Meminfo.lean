import Uroam.Service.Ipc
import Uroam.Tuning.Detection
import Uroam.Tuning.Idle

namespace Uroam.Service.Meminfo
open Columns Lines
open Tuning (parseU64)
open Tuning.Detection

structure MemoryInfo where
  totalKb : Nat
  availableKb : Nat
  freeKb : Nat
  usedKb : Nat
  buffersKb : Nat
  cachedKb : Nat
  swapTotalKb : Nat
  swapFreeKb : Nat
  swapUsedKb : Nat
  swapCachedKb : Nat
  dirtyKb : Nat
  writebackKb : Nat
  deriving DecidableEq, Repr

def MemoryInfo.default : MemoryInfo := ⟨0,0,0,0,0,0,0,0,0,0,0,0⟩

def memoryTable : List (List Char × (MemoryInfo → List Char → MemoryInfo)) :=
  [(memTotal,fun info value => { info with totalKb := parseU64 value }),
    (memAvailable,fun info value => { info with availableKb := parseU64 value }),
    ("MemFree:".toList,fun info value => { info with freeKb := parseU64 value }),
    ("Buffers:".toList,fun info value => { info with buffersKb := parseU64 value }),
    ("Cached:".toList,fun info value => { info with cachedKb := parseU64 value }),
    (swapTotal,fun info value => { info with swapTotalKb := parseU64 value }),
    (swapFree,fun info value => { info with swapFreeKb := parseU64 value }),
    ("SwapCached:".toList,fun info value => { info with swapCachedKb := parseU64 value }),
    ("Dirty:".toList,fun info value => { info with dirtyKb := parseU64 value }),
    ("Writeback:".toList,fun info value => { info with writebackKb := parseU64 value })]

def readMemoryInfo (content : Option (List Char)) : Option MemoryInfo :=
  content.map fun text =>
    let info := eachLine (assign memoryTable) MemoryInfo.default text
    { info with
      usedKb := info.totalKb - info.availableKb
      swapUsedKb := info.swapTotalKb - info.swapFreeKb }

structure StatusLocals where
  total : Nat
  available : Nat
  swapAll : Nat
  swapLeft : Nat
  deriving DecidableEq, Repr

def statusTable : List (List Char × (StatusLocals → List Char → StatusLocals)) :=
  [(memTotal,fun s value => { s with total := parseU64 value }),
    (memAvailable,fun s value => { s with available := parseU64 value }),
    (swapTotal,fun s value => { s with swapAll := parseU64 value }),
    (swapFree,fun s value => { s with swapLeft := parseU64 value })]

structure StatusFiles where
  meminfo : Option (List Char)
  swappiness : Option (List Char)
  ksmRun : Option (List Char)
  deriving DecidableEq, Repr

structure Amount (F : Type) where
  used : Nat
  total : Nat
  percent : F
  deriving DecidableEq, Repr

structure StatusReport (F : Type) where
  totals : StatusLocals
  used : Nat
  swapUsed : Nat
  memory : Amount F
  swap : Amount F
  swappiness : List Char
  ksm : List Char
  deriving DecidableEq, Repr

section Command

variable {F : Type} (percent : Nat → Nat → F) (zero : F)

def amount (used total : Nat) : Amount F :=
  ⟨used / 1024,total / 1024,if total > 0 then percent used total else zero⟩

def cmdStatus (files : StatusFiles) : Option (StatusReport F) :=
  files.meminfo.map fun text =>
    let s := eachLine (assign statusTable) ⟨0,0,0,0⟩ text
    let used := s.total - s.available
    let swapUsed := s.swapAll - s.swapLeft
    { totals := s
      used
      swapUsed
      memory := amount percent zero used s.total
      swap := amount percent zero swapUsed s.swapAll
      swappiness := (files.swappiness.map trimmed).getD "unknown".toList
      ksm := (files.ksmRun.map fun text =>
        if trimmed text = ['1'] then "enabled".toList else "disabled".toList).getD "N/A".toList }

end Command

structure Memory where
  total : Nat
  available : Nat
  used : Nat
  swapAll : Nat
  swapUsed : Nat
  deriving DecidableEq, Repr

def Memory.of (total available swapAll swapLeft : Nat) : Memory :=
  ⟨total,available,total - available,swapAll,swapAll - swapLeft⟩

def memoryOf (text : List Char) : Memory :=
  Memory.of (latest text memTotal 0) (latest text memAvailable 0) (latest text swapTotal 0)
    (latest text swapFree 0)

def systemMemory {F : Type} (info : SystemInfo F) : Memory :=
  ⟨info.totalRamKb,info.availableRamKb,info.usedRamKb,info.swapTotalKb,info.swapUsedKb⟩

def MemoryInfo.memory (info : MemoryInfo) : Memory :=
  ⟨info.totalKb,info.availableKb,info.usedKb,info.swapTotalKb,info.swapUsedKb⟩

def statusMemory (s : Ipc.Status) : Memory :=
  ⟨s.memoryTotalKb,s.memoryAvailableKb,s.memoryUsedKb,s.swapTotalKb,s.swapUsedKb⟩

def StatusReport.numbers {F : Type} (r : StatusReport F) : Memory :=
  ⟨r.totals.total,r.totals.available,r.used,r.totals.swapAll,r.swapUsed⟩

structure Reads {S : Type} (table : List (List Char × (S → List Char → S)))
    (total available swapAll swapLeft : S → Nat) : Prop where
  total_column : Column table memTotal parseU64 total
  available_column : Column table memAvailable parseU64 available
  swapAll_column : Column table swapTotal parseU64 swapAll
  swapLeft_column : Column table swapFree parseU64 swapLeft

theorem Reads.memory {S : Type} {table : List (List Char × (S → List Char → S))}
    {total available swapAll swapLeft : S → Nat} (h : Reads table total available swapAll swapLeft)
    {s : S} (hzero : total s = 0 ∧ available s = 0 ∧ swapAll s = 0 ∧ swapLeft s = 0)
    (text : List Char) :
    let after := eachLine (assign table) s text
    Memory.of (total after) (available after) (swapAll after) (swapLeft after) = memoryOf text := by
  obtain ⟨htotal,havailable,hall,hleft⟩ := hzero
  simp only [latest_column h.total_column,latest_column h.available_column,
    latest_column h.swapAll_column,latest_column h.swapLeft_column,htotal,havailable,hall,hleft]
  rfl

theorem memoryTable_nodup : (memoryTable.map Prod.fst).Nodup := by
  change [memTotal,memAvailable,"MemFree:".toList,"Buffers:".toList,"Cached:".toList,swapTotal,
    swapFree,"SwapCached:".toList,"Dirty:".toList,"Writeback:".toList].Nodup
  decide +kernel

theorem memoryTable_reads : Reads memoryTable MemoryInfo.totalKb MemoryInfo.availableKb
    MemoryInfo.swapTotalKb MemoryInfo.swapFreeKb where
  total_column := column_at memoryTable_nodup (n := 0) rfl (fun _ _ => rfl) (by simp [memoryTable])
  available_column :=
    column_at memoryTable_nodup (n := 1) rfl (fun _ _ => rfl) (by simp [memoryTable])
  swapAll_column :=
    column_at memoryTable_nodup (n := 5) rfl (fun _ _ => rfl) (by simp [memoryTable])
  swapLeft_column :=
    column_at memoryTable_nodup (n := 6) rfl (fun _ _ => rfl) (by simp [memoryTable])

theorem statusTable_nodup : (statusTable.map Prod.fst).Nodup := by
  change [memTotal,memAvailable,swapTotal,swapFree].Nodup
  decide +kernel

theorem statusTable_reads : Reads statusTable StatusLocals.total StatusLocals.available
    StatusLocals.swapAll StatusLocals.swapLeft where
  total_column := column_at statusTable_nodup (n := 0) rfl (fun _ _ => rfl) (by simp [statusTable])
  available_column :=
    column_at statusTable_nodup (n := 1) rfl (fun _ _ => rfl) (by simp [statusTable])
  swapAll_column :=
    column_at statusTable_nodup (n := 2) rfl (fun _ _ => rfl) (by simp [statusTable])
  swapLeft_column :=
    column_at statusTable_nodup (n := 3) rfl (fun _ _ => rfl) (by simp [statusTable])

theorem infoTable_reads {F : Type} : Reads (infoTable (F := F)) SystemInfo.totalRamKb
    SystemInfo.availableRamKb SystemInfo.swapTotalKb SystemInfo.swapFreeKb :=
  ⟨total_column,available_column,swapTotal_column,swapFree_column⟩

def ipcTable : List (List Char × (Ipc.MemoryLines → List Char → Ipc.MemoryLines)) :=
  [(memTotal,fun m value => { m with totalKb := parseU64 value }),
    (memAvailable,fun m value => { m with availableKb := parseU64 value }),
    (swapTotal,fun m value => { m with swapTotalKb := parseU64 value }),
    (swapFree,fun m value => { m with swapFreeKb := parseU64 value })]

theorem ipcTable_read : Ipc.MemoryLines.read = assign ipcTable := rfl

theorem ipcTable_nodup : (ipcTable.map Prod.fst).Nodup := statusTable_nodup

theorem ipcTable_reads : Reads ipcTable Ipc.MemoryLines.totalKb Ipc.MemoryLines.availableKb
    Ipc.MemoryLines.swapTotalKb Ipc.MemoryLines.swapFreeKb where
  total_column := column_at ipcTable_nodup (n := 0) rfl (fun _ _ => rfl) (by simp [ipcTable])
  available_column := column_at ipcTable_nodup (n := 1) rfl (fun _ _ => rfl) (by simp [ipcTable])
  swapAll_column := column_at ipcTable_nodup (n := 2) rfl (fun _ _ => rfl) (by simp [ipcTable])
  swapLeft_column := column_at ipcTable_nodup (n := 3) rfl (fun _ _ => rfl) (by simp [ipcTable])

def swapTable : List (List Char × (Nat × Nat → List Char → Nat × Nat)) :=
  [(swapTotal,fun totals value => (parseU64 value,totals.2)),
    (swapFree,fun totals value => (totals.1,parseU64 value))]

theorem swapTable_nodup : (swapTable.map Prod.fst).Nodup := by
  change [swapTotal,swapFree].Nodup
  decide +kernel

theorem swapTotal_read : Column swapTable swapTotal parseU64 Prod.fst :=
  column_at swapTable_nodup (n := 0) rfl (fun _ _ => rfl) (by simp [swapTable])

theorem swapFree_read : Column swapTable swapFree parseU64 Prod.snd :=
  column_at swapTable_nodup (n := 1) rfl (fun _ _ => rfl) (by simp [swapTable])

section Agreement

variable (text : List Char)

theorem detect_memory {F : Type} (percent : Nat → Nat → F) (zero : F) (seen : Contents) :
    (SystemInfo.detectSystemInfo percent (SystemInfo.default zero)
      { seen with meminfo := some text }).map systemMemory = some (memoryOf text) :=
  congrArg some (infoTable_reads.memory ⟨rfl,rfl,rfl,rfl⟩ text)

theorem readMemoryInfo_memory :
    (readMemoryInfo (some text)).map MemoryInfo.memory = some (memoryOf text) :=
  congrArg some (memoryTable_reads.memory ⟨rfl,rfl,rfl,rfl⟩ text)

theorem getStatus_memory (machine : Ipc.Machine) :
    (Ipc.getStatus { machine with meminfo := .ok text }).map statusMemory =
      .ok (memoryOf text) := by
  have hread := ipcTable_reads.memory (s := ⟨0,0,0,0⟩) ⟨rfl,rfl,rfl,rfl⟩ text
  rw [← ipcTable_read] at hread
  exact congrArg Except.ok hread

theorem cmdStatus_memory {F : Type} (percent : Nat → Nat → F) (zero : F) (files : StatusFiles) :
    (cmdStatus percent zero { files with meminfo := some text }).map StatusReport.numbers =
      some (memoryOf text) :=
  congrArg some (statusTable_reads.memory ⟨rfl,rfl,rfl,rfl⟩ text)

theorem getSwapUsedKb_memory :
    Tuning.Idle.getSwapUsedKb (some text) = (memoryOf text).swapUsed :=
  congrArg₂ (· - ·) (latest_column swapTotal_read text (0,0))
    (latest_column swapFree_read text (0,0))

theorem meminfo_readers_agree {F : Type} (percent : Nat → Nat → F) (zero : F) (seen : Contents)
    (machine : Ipc.Machine) (files : StatusFiles) :
    ∃ m : Memory,
      (SystemInfo.detectSystemInfo percent (SystemInfo.default zero)
        { seen with meminfo := some text }).map systemMemory = some m ∧
      (readMemoryInfo (some text)).map MemoryInfo.memory = some m ∧
      (Ipc.getStatus { machine with meminfo := .ok text }).map statusMemory = .ok m ∧
      (cmdStatus percent zero { files with meminfo := some text }).map StatusReport.numbers =
        some m ∧
      Tuning.Idle.getSwapUsedKb (some text) = m.swapUsed :=
  ⟨memoryOf text,detect_memory text percent zero seen,readMemoryInfo_memory text,
    getStatus_memory text machine,cmdStatus_memory text percent zero files,
    getSwapUsedKb_memory text⟩

end Agreement

end Uroam.Service.Meminfo
