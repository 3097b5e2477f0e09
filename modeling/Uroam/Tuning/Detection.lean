import Mathlib.Algebra.Group.Nat.Defs
import Uroam.Library.Columns
import Uroam.Library.Lines
import Uroam.Tuning.Classifier

namespace Uroam.Tuning.Detection
open Columns Lines

section Text

def memTotal : List Char := "MemTotal:".toList
def memAvailable : List Char := "MemAvailable:".toList
def swapTotal : List Char := "SwapTotal:".toList
def swapFree : List Char := "SwapFree:".toList

def latest (text key : List Char) (old : Nat) : Nat :=
  ((lastValue key (keyedLines text)).map parseU64).getD old

theorem latest_eq_iff (text key : List Char) (x y : Nat) :
    latest text key x = latest text key y ↔
      (lastValue key (keyedLines text) = none → x = y) := by
  unfold latest
  cases lastValue key (keyedLines text) <;> simp

theorem latest_column {S : Type} {table : List (List Char × (S → List Char → S))} {key : List Char}
    {field : S → Nat} (h : Column table key parseU64 field) (text : List Char) (s : S) :
    field (eachLine (assign table) s text) = latest text key (field s) := by
  rw [eachLine_keyed,column_lines h]
  rfl

end Text

@[ext] structure SystemInfo (F : Type) where
  totalRamKb : Nat
  availableRamKb : Nat
  usedRamKb : Nat
  memoryPercent : F
  swapTotalKb : Nat
  swapFreeKb : Nat
  swapUsedKb : Nat
  swapPercent : F
  cpuCores : Nat
  numaNodes : Nat
  thpEnabled : Bool
  ksmEnabled : Bool
  zramDevices : Nat
  zswapEnabled : Bool
  deriving DecidableEq, Repr

def SystemInfo.default {F : Type} (zero : F) : SystemInfo F :=
  ⟨0,0,0,zero,0,0,0,zero,0,0,false,false,0,false⟩

-- The texts and directories of one detection; `none` is what cannot be read. Of the entries of the
-- node directory only whether they can be read is used.
structure Contents where
  meminfo : Option (List Char)
  cpuinfo : Option (List Char)
  nodeDevices : Option (List Bool)
  thpPresent : Bool
  ksmPresent : Bool
  block : Option (List (Option (List Char)))
  deriving DecidableEq, Repr

def asU32 (n : Nat) : Nat := n % 2 ^ 32

def countCores (cpuinfo : Option (List Char)) : Nat :=
  let cores := (textLines (cpuinfo.getD [])).countP fun l => "processor".toList <+: l
  max (asU32 cores) 1

def countNodes : Option (List Bool) → Nat
  | none => 1
  | some entries => asU32 (entries.countP id)

def countZram : Option (List (Option (List Char))) → Nat
  | none => 0
  | some entries => asU32 ((entries.filterMap id).countP fun name => "zram".toList <+: name)

section Detect

variable {F : Type} (percent : Nat → Nat → F)

def infoTable : List (List Char × (SystemInfo F → List Char → SystemInfo F)) :=
  [(memTotal,fun info value => { info with totalRamKb := parseU64 value }),
    (memAvailable,fun info value => { info with availableRamKb := parseU64 value }),
    (swapTotal,fun info value => { info with swapTotalKb := parseU64 value }),
    (swapFree,fun info value => { info with swapFreeKb := parseU64 value })]

def SystemInfo.totals (info : SystemInfo F) : SystemInfo F :=
  let used := info.totalRamKb - info.availableRamKb
  let swapUsed := info.swapTotalKb - info.swapFreeKb
  { info with
    usedRamKb := used
    memoryPercent := if info.totalRamKb > 0 then percent used info.totalRamKb else info.memoryPercent
    swapUsedKb := swapUsed
    swapPercent := if info.swapTotalKb > 0 then percent swapUsed info.swapTotalKb else info.swapPercent }

def SystemInfo.detectSystemInfo (info : SystemInfo F) (seen : Contents) : Option (SystemInfo F) :=
  seen.meminfo.map fun text =>
    { (eachLine (assign infoTable) info text).totals percent with
      cpuCores := countCores seen.cpuinfo
      numaNodes := countNodes seen.nodeDevices
      thpEnabled := seen.thpPresent
      ksmEnabled := seen.ksmPresent
      zramDevices := countZram seen.block }

theorem infoTable_nodup : (infoTable (F := F).map Prod.fst).Nodup := by
  change [memTotal,memAvailable,swapTotal,swapFree].Nodup
  decide +kernel

theorem total_column : Column infoTable memTotal parseU64 (SystemInfo.totalRamKb (F := F)) :=
  column_at infoTable_nodup (n := 0) rfl (fun _ _ => rfl) (by simp [infoTable])

theorem available_column :
    Column infoTable memAvailable parseU64 (SystemInfo.availableRamKb (F := F)) :=
  column_at infoTable_nodup (n := 1) rfl (fun _ _ => rfl) (by simp [infoTable])

theorem swapTotal_column : Column infoTable swapTotal parseU64 (SystemInfo.swapTotalKb (F := F)) :=
  column_at infoTable_nodup (n := 2) rfl (fun _ _ => rfl) (by simp [infoTable])

theorem swapFree_column : Column infoTable swapFree parseU64 (SystemInfo.swapFreeKb (F := F)) :=
  column_at infoTable_nodup (n := 3) rfl (fun _ _ => rfl) (by simp [infoTable])

section Outcome

variable (info : SystemInfo F) (text : List Char)

theorem untouched_kept {R : Type} {field : SystemInfo F → R}
    (h : ∀ e ∈ infoTable, ∀ s v, field (e.2 s v) = field s) :
    field (eachLine (assign infoTable) info text) = field info := by
  rw [eachLine_keyed,kept_lines h]

def SystemInfo.after (seen : Contents) : SystemInfo F :=
  let total := latest text memTotal info.totalRamKb
  let available := latest text memAvailable info.availableRamKb
  let swapAll := latest text swapTotal info.swapTotalKb
  let swapLeft := latest text swapFree info.swapFreeKb
  { totalRamKb := total
    availableRamKb := available
    usedRamKb := total - available
    memoryPercent := if total > 0 then percent (total - available) total else info.memoryPercent
    swapTotalKb := swapAll
    swapFreeKb := swapLeft
    swapUsedKb := swapAll - swapLeft
    swapPercent := if swapAll > 0 then percent (swapAll - swapLeft) swapAll else info.swapPercent
    cpuCores := countCores seen.cpuinfo
    numaNodes := countNodes seen.nodeDevices
    thpEnabled := seen.thpPresent
    ksmEnabled := seen.ksmPresent
    zramDevices := countZram seen.block
    zswapEnabled := info.zswapEnabled }

theorem detect_after (seen : Contents) :
    info.detectSystemInfo percent seen =
      seen.meminfo.map fun text => info.after percent text seen := by
  unfold SystemInfo.detectSystemInfo
  congr 1
  funext text
  have htotal := latest_column total_column text info
  have havailable := latest_column available_column text info
  have hswapTotal := latest_column swapTotal_column text info
  have hswapFree := latest_column swapFree_column text info
  have hmemory : (eachLine (assign infoTable) info text).memoryPercent = info.memoryPercent :=
    untouched_kept info text (by simp [infoTable])
  have hswap : (eachLine (assign infoTable) info text).swapPercent = info.swapPercent :=
    untouched_kept info text (by simp [infoTable])
  have hzswap : (eachLine (assign infoTable) info text).zswapEnabled = info.zswapEnabled :=
    untouched_kept info text (by simp [infoTable])
  simp only [SystemInfo.totals,SystemInfo.after,htotal,havailable,hswapTotal,hswapFree,hmemory,
    hswap,hzswap]

end Outcome

structure Carried (a b : SystemInfo F) (text : List Char) : Prop where
  zswap : a.zswapEnabled = b.zswapEnabled
  total : lastValue memTotal (keyedLines text) = none → a.totalRamKb = b.totalRamKb
  available : lastValue memAvailable (keyedLines text) = none → a.availableRamKb = b.availableRamKb
  swapAll : lastValue swapTotal (keyedLines text) = none → a.swapTotalKb = b.swapTotalKb
  swapLeft : lastValue swapFree (keyedLines text) = none → a.swapFreeKb = b.swapFreeKb
  memoryPercent : latest text memTotal a.totalRamKb = 0 → a.memoryPercent = b.memoryPercent
  swapPercent : latest text swapTotal a.swapTotalKb = 0 → a.swapPercent = b.swapPercent

theorem quotient_iff {total : Nat} (p x y : F) :
    (if total > 0 then p else x) = (if total > 0 then p else y) ↔ (total = 0 → x = y) := by
  cases total <;> simp

theorem after_eq_iff (a b : SystemInfo F) (text : List Char) (seen : Contents) :
    a.after percent text seen = b.after percent text seen ↔ Carried a b text := by
  constructor
  · intro h
    have htotal : latest text memTotal a.totalRamKb = latest text memTotal b.totalRamKb :=
      congrArg SystemInfo.totalRamKb h
    have havailable :
        latest text memAvailable a.availableRamKb = latest text memAvailable b.availableRamKb :=
      congrArg SystemInfo.availableRamKb h
    have hswapAll : latest text swapTotal a.swapTotalKb = latest text swapTotal b.swapTotalKb :=
      congrArg SystemInfo.swapTotalKb h
    have hswapLeft : latest text swapFree a.swapFreeKb = latest text swapFree b.swapFreeKb :=
      congrArg SystemInfo.swapFreeKb h
    have hzswap := congrArg SystemInfo.zswapEnabled h
    have hmemory := congrArg SystemInfo.memoryPercent h
    have hswap := congrArg SystemInfo.swapPercent h
    simp only [SystemInfo.after,← htotal,← havailable,← hswapAll,← hswapLeft,quotient_iff]
      at hmemory hswap
    exact ⟨hzswap,(latest_eq_iff ..).mp htotal,
      (latest_eq_iff ..).mp havailable,(latest_eq_iff ..).mp hswapAll,
      (latest_eq_iff ..).mp hswapLeft,hmemory,hswap⟩
  · intro h
    have htotal := (latest_eq_iff text memTotal a.totalRamKb b.totalRamKb).mpr h.total
    have havailable := (latest_eq_iff text memAvailable _ _).mpr h.available
    have hswapAll := (latest_eq_iff text swapTotal a.swapTotalKb b.swapTotalKb).mpr h.swapAll
    have hswapLeft := (latest_eq_iff text swapFree _ _).mpr h.swapLeft
    unfold SystemInfo.after
    simp only [← htotal,← havailable,← hswapAll,← hswapLeft,h.zswap]
    congr 1
    · exact (quotient_iff ..).mpr h.memoryPercent
    · exact (quotient_iff ..).mpr h.swapPercent

theorem detect_same_iff (a b : SystemInfo F) (seen : Contents) :
    (∀ a' b', a.detectSystemInfo percent seen = some a' →
        b.detectSystemInfo percent seen = some b' → a' = b') ↔
      ∀ text, seen.meminfo = some text → Carried a b text := by
  rw [detect_after,detect_after]
  cases hmem : seen.meminfo with
  | none => simp
  | some text => simp [after_eq_iff]

end Detect

section Classified

def operands (used total : Nat) : Option (Nat × Nat) := some (used,total)

def SystemInfo.classified (info : SystemInfo (Option (Nat × Nat))) : Tuning.SystemInfo :=
  ⟨info.totalRamKb,info.availableRamKb,info.usedRamKb,info.memoryPercent,info.swapTotalKb,
    info.swapFreeKb,info.swapUsedKb⟩

theorem assign_classified (info : SystemInfo (Option (Nat × Nat)))
    (line : List Char × List Char) :
    (assign infoTable info line).classified = info.classified.readLine line := by
  simp only [assign,infoTable,apply_ite SystemInfo.classified]
  rfl

theorem lines_classified (info : SystemInfo (Option (Nat × Nat)))
    (lines : List (List Char × List Char)) :
    (lines.foldl (assign infoTable) info).classified =
      lines.foldl Tuning.SystemInfo.readLine info.classified := by
  induction lines generalizing info with
  | nil => rfl
  | cons line lines ih => rw [List.foldl_cons,List.foldl_cons,ih,assign_classified]

theorem detect_classified (info : SystemInfo (Option (Nat × Nat))) (seen : Contents) :
    (info.detectSystemInfo operands seen).map SystemInfo.classified =
      seen.meminfo.map fun text => info.classified.detect (keyedLines text) := by
  unfold SystemInfo.detectSystemInfo
  rw [Option.map_map]
  congr 1
  funext text
  have hlines := lines_classified info (keyedLines text)
  rw [← eachLine_keyed] at hlines
  unfold Tuning.SystemInfo.detect
  rw [← hlines]
  rfl

end Classified

section Sample

def fresh : SystemInfo (Option (Nat × Nat)) := SystemInfo.default none

def machine (meminfo : String) : Contents :=
  { meminfo := some meminfo.toList
    cpuinfo := some "processor : 0".toList
    nodeDevices := none
    thpPresent := true
    ksmPresent := true
    block := some [some "sda".toList,some "zram0".toList] }

def swapHalf : Contents :=
  machine "MemTotal: 4000 kB\nMemAvailable: 1000 kB\nSwapTotal: 1000 kB\nSwapFree: 500 kB\n"

def swapOff : Contents :=
  machine "MemTotal: 4000 kB\nMemAvailable: 1000 kB\nSwapTotal: 0 kB\nSwapFree: 0 kB\n"

theorem swap_percent_survives :
    (fresh.detectSystemInfo operands swapOff).map SystemInfo.swapPercent = some none ∧
    ((fresh.detectSystemInfo operands swapHalf).bind fun info =>
      (info.detectSystemInfo operands swapOff).map SystemInfo.swapPercent) =
        some (some (500,1000)) := by
  decide +kernel

end Sample

end Uroam.Tuning.Detection
