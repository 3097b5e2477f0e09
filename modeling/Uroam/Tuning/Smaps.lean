import Mathlib.Algebra.Order.BigOperators.Group.List
import Mathlib.Algebra.Order.Ring.Nat
import Uroam.Library.Lines
import Uroam.Library.Settings
import Uroam.Tuning.Classifier
import Uroam.Tuning.History

namespace Uroam.Tuning.Smaps
open Lines

structure ProcessInfo where
  pid : Nat
  name : List Char
  cmdline : List (List Char)
  rssKb : Nat
  swapKb : Nat
  workloadType : WorkloadType
  priority : Priority
  deriving DecidableEq, Repr

structure ProcDir where
  name : Option (List Char)
  comm : Option (List Char)
  cmdline : Option (List Char)
  smaps : Option (List Char)
  deriving DecidableEq, Repr

def rssKey : List Char := ['R','s','s',':']
def swapKey : List Char := ['S','w','a','p',':']

def sizeOf (line : List Char) : Nat :=
  ((getElem? (splitWhitespace line) 1).bind (parseUnsigned 64)).getD 0

def smapsLine (sizes : Nat × Nat) (line : List Char) : Nat × Nat :=
  if rssKey <+: line then (sizeOf line,sizes.2)
  else if swapKey <+: line then (sizes.1,sizeOf line)
  else sizes

def smapsSizes (smaps : Option (List Char)) : Nat × Nat :=
  (textLines (smaps.getD [])).foldl smapsLine (0,0)

def ProcDir.pid (d : ProcDir) : Option Nat :=
  d.name.bind fun name => if name.all Char.isDigit = true then parseUnsigned 32 name else none

def ProcDir.commText (d : ProcDir) : List Char := trimmed (d.comm.getD [])

def ProcDir.cmdlineText (d : ProcDir) : List Char :=
  trimmed ((d.cmdline.getD []).map fun c => if c = '\x00' then ' ' else c)

section Scan

variable (prim : Primitives)

def processInfo (d : ProcDir) (pid : Nat) : ProcessInfo :=
  let sizes := smapsSizes d.smaps
  let workload := classifyProcess prim d.commText d.cmdlineText
  { pid
    name := d.commText
    cmdline := d.cmdlineText.splitOn ' '
    rssKb := sizes.1
    swapKb := sizes.2
    workloadType := workload
    priority := determinePriority workload }

def scanDir (d : ProcDir) : Option ProcessInfo := d.pid.map (processInfo prim d)

structure Scan where
  processes : List ProcessInfo
  workloadCounts : WorkloadType → Nat

def scanProcesses (proc : Option (List (Option ProcDir))) : Option Scan :=
  proc.map fun entries =>
    let processes := entries.filterMap fun entry => entry.bind (scanDir prim)
    { processes, workloadCounts := fun w => processes.countP fun p => p.workloadType = w }

def ProcessInfo.classified (p : ProcessInfo) : Tuning.ProcessInfo :=
  ⟨p.pid,p.workloadType,p.priority⟩

def ProcDir.entry (d : ProcDir) : Option ProcEntry :=
  d.pid.map fun pid => ⟨pid,d.commText,d.cmdlineText⟩

theorem scanDir_classified (d : ProcDir) :
    (scanDir prim d).map ProcessInfo.classified = d.entry.map (scanEntry prim) := by
  unfold scanDir ProcDir.entry
  cases d.pid <;> rfl

theorem listed_classified (entries : List (Option ProcDir)) :
    (entries.filterMap fun entry => entry.bind (scanDir prim)).map ProcessInfo.classified =
      (entries.filterMap fun entry => entry.bind ProcDir.entry).map (scanEntry prim) := by
  rw [List.map_filterMap,List.map_filterMap]
  congr 1
  funext entry
  cases entry with
  | none => rfl
  | some d => exact scanDir_classified prim d

theorem scan_classified (c : Classifier) (seen : Observation)
    (proc : Option (List (Option ProcDir)))
    (h : seen.proc = proc.map fun entries => entries.filterMap fun e => e.bind ProcDir.entry) :
    (c.scanProcesses prim seen).map (fun c => (c.processes,c.workloadCounts)) =
      (scanProcesses prim proc).map fun scan =>
        (scan.processes.map ProcessInfo.classified,scan.workloadCounts) := by
  rw [Classifier.scanProcesses,h,scanProcesses]
  cases proc with
  | none => rfl
  | some entries =>
    simp only [Option.map_some,Classifier.scanned,← listed_classified prim entries,
      List.countP_map]
    rfl

end Scan

section Mappings

def SizeLine (key : List Char) (n : Nat) (line : List Char) : Prop :=
  ∃ gap, Gap whitespace gap ∧ line = key ++ spaced [(gap,Nat.toDigits 10 n),([' '],['k','B'])]

structure Mapping where
  lines : List (List Char)
  rss : Nat
  swap : Nat
  one_line : ∀ l ∈ lines, '\n' ∉ l
  rss_line : ∃ line, SizeLine rssKey rss line ∧
    lines.filter (fun l => rssKey <+: l) = [line]
  swap_line : ∃ line, SizeLine swapKey swap line ∧
    lines.filter (fun l => swapKey <+: l) = [line]

def joined (ls : List (List Char)) : List Char := ls.flatMap fun l => l ++ ['\n']

def smapsText (ms : List Mapping) : List Char := ms.flatMap fun m => joined m.lines

def totals (ms : List Mapping) : Nat × Nat := ((ms.map Mapping.rss).sum,(ms.map Mapping.swap).sum)

end Mappings

section Reading

def chomped (line : List Char) : List Char := (stripSuffix '\r' line).getD line

theorem textLines_joined {ls : List (List Char)} (h : ∀ l ∈ ls, '\n' ∉ l) (rest : List Char) :
    textLines (joined ls ++ rest) = ls.map chomped ++ textLines rest := by
  induction ls with
  | nil => rfl
  | cons l ls ih =>
    have hl := h l List.mem_cons_self
    have hsplit : joined (l :: ls) ++ rest = l ++ '\n' :: (joined ls ++ rest) := by
      simp [joined]
    rw [hsplit,textLines,lines_cons hl]
    exact congrArg _ (ih fun m hm => h m (List.mem_cons_of_mem l hm))

theorem textLines_smaps (ms : List Mapping) :
    textLines (smapsText ms) = ms.flatMap fun m => m.lines.map chomped := by
  induction ms with
  | nil => rfl
  | cons m ms ih =>
    rw [smapsText,List.flatMap_cons,textLines_joined m.one_line,List.flatMap_cons]
    exact congrArg _ ih

structure Key (key : List Char) : Prop where
  word : Word whitespace key
  noReturn : '\r' ∉ key

theorem rss_key : Key rssKey := ⟨⟨by decide,clean_of_all rfl⟩,by decide⟩

theorem swap_key : Key swapKey := ⟨⟨by decide,clean_of_all rfl⟩,by decide⟩

theorem key_chomped {key : List Char} (hkey : Key key) (line : List Char) :
    key <+: chomped line ↔ key <+: line := by
  unfold chomped stripSuffix
  split
  · next hlast =>
    obtain ⟨before,rfl⟩ := List.getLast?_eq_some_iff.mp hlast
    rw [Option.getD_some,List.dropLast_concat,List.prefix_concat_iff]
    refine (or_iff_right ?_).symm
    rintro rfl
    exact hkey.noReturn (by simp)
  · rfl

theorem size_words {key line : List Char} {n : Nat} (hkey : Key key) (h : SizeLine key n line) :
    splitWhitespace line = [key,Nat.toDigits 10 n,['k','B']] := by
  obtain ⟨gap,hgap,rfl⟩ := h
  have hunit : Word whitespace ['k','B'] := ⟨by decide,clean_of_all rfl⟩
  have hfields : ∀ f ∈ [(gap,Nat.toDigits 10 n),([' '],['k','B'])],
      Gap whitespace f.1 ∧ Word whitespace f.2 := by
    intro f hf
    rcases List.mem_pair.mp hf with rfl | rfl
    · exact ⟨hgap,digits_word n⟩
    · exact ⟨gap_one rfl,hunit⟩
  have hhead := spaced_head (fun f hf => (hfields f hf).1) blanks_nil
  have hrest := words_spaced hfields blanks_nil
  rw [List.append_nil] at hhead hrest
  rw [splitWhitespace,words_word hkey.word hhead,hrest]
  rfl

theorem size_read {key line : List Char} {n : Nat} (hkey : Key key) (h : SizeLine key n line)
    (hn : n < 2 ^ 64) : sizeOf line = n := by
  unfold sizeOf
  rw [size_words hkey h]
  change ((some (Nat.toDigits 10 n)).bind (parseUnsigned 64)).getD 0 = n
  rw [Option.bind_some,parseUnsigned_digits hn]
  rfl

theorem size_chomped {key line : List Char} {n : Nat} (h : SizeLine key n line) :
    chomped line = line := by
  obtain ⟨gap,-,rfl⟩ := h
  have hlast : (key ++ spaced [(gap,Nat.toDigits 10 n),([' '],['k','B'])]).getLast? = some 'B' := by
    simp [spaced,List.getLast?_append]
  rw [chomped,stripSuffix,if_neg (by rw [hlast]; decide)]
  rfl

def sizeFor (key line : List Char) : Option Nat := if key <+: line then some (sizeOf line) else none

theorem sizeFor_other {key : List Char} (line : List Char)
    (h : decide (key <+: line) = false) : sizeFor key line = none :=
  if_neg (of_decide_eq_false h)

theorem last_size {key line : List Char} {n : Nat} {ls : List (List Char)} (hkey : Key key)
    (h : SizeLine key n line) (hn : n < 2 ^ 64)
    (hone : ls.filter (fun l => key <+: l) = [line]) :
    Settings.lastSome (sizeFor key) (ls.map chomped) = some n := by
  have hkept : (ls.map chomped).filter (fun l => key <+: l) = [line] := by
    rw [List.filter_map]
    simp only [Function.comp_def,key_chomped hkey]
    rw [hone,List.map_singleton,size_chomped h]
  have hstart : key <+: line := by
    obtain ⟨gap,-,rfl⟩ := h
    exact List.prefix_append ..
  rw [← Settings.lastSome_filter sizeFor_other,hkept]
  simp [sizeFor,hstart,size_read hkey h hn]

theorem smapsLine_rss (sizes : Nat × Nat) (line : List Char) :
    (smapsLine sizes line).1 = (sizeFor rssKey line).getD sizes.1 := by
  unfold smapsLine sizeFor
  split
  · rfl
  · split <;> rfl

theorem smapsLine_swap (sizes : Nat × Nat) (line : List Char) :
    (smapsLine sizes line).2 = (sizeFor swapKey line).getD sizes.2 := by
  unfold smapsLine sizeFor
  split
  · next hrss =>
    have hswap : ¬ swapKey <+: line := by
      rintro ⟨rest,rfl⟩
      simp [rssKey,swapKey] at hrss
    rw [if_neg hswap]
    rfl
  · split <;> rfl

theorem mapping_sizes (m : Mapping) (hrss : m.rss < 2 ^ 64) (hswap : m.swap < 2 ^ 64)
    (sizes : Nat × Nat) : (m.lines.map chomped).foldl smapsLine sizes = (m.rss,m.swap) := by
  obtain ⟨rssLine,hrssLine,hrssOne⟩ := m.rss_line
  obtain ⟨swapLine,hswapLine,hswapOne⟩ := m.swap_line
  apply Prod.ext
  · rw [Settings.foldl_field smapsLine_rss,last_size rss_key hrssLine hrss hrssOne]
    rfl
  · rw [Settings.foldl_field smapsLine_swap,last_size swap_key hswapLine hswap hswapOne]
    rfl

theorem sizes_last (ms : List Mapping) (h : ∀ m ∈ ms, m.rss < 2 ^ 64 ∧ m.swap < 2 ^ 64)
    (sizes : Nat × Nat) :
    ms.foldl (fun sizes m => (m.lines.map chomped).foldl smapsLine sizes) sizes =
      (ms.getLast?.map fun m => (m.rss,m.swap)).getD sizes := by
  rcases List.eq_nil_or_concat ms with rfl | ⟨before,m,rfl⟩
  · rfl
  · obtain ⟨hrss,hswap⟩ := h m (by simp)
    rw [List.concat_eq_append,List.foldl_append,List.foldl_cons,List.foldl_nil,
      mapping_sizes m hrss hswap]
    simp

theorem smaps_last (ms : List Mapping) (h : ∀ m ∈ ms, m.rss < 2 ^ 64 ∧ m.swap < 2 ^ 64) :
    smapsSizes (some (smapsText ms)) = (ms.getLast?.map fun m => (m.rss,m.swap)).getD (0,0) := by
  rw [smapsSizes,Option.getD_some,textLines_smaps,List.foldl_flatMap]
  exact sizes_last ms h (0,0)

end Reading

theorem sum_last_iff (ns : List Nat) : ns.getLast?.getD 0 = ns.sum ↔ ∀ n ∈ ns.dropLast, n = 0 := by
  rcases List.eq_nil_or_concat ns with rfl | ⟨before,n,rfl⟩
  · simp
  · rw [List.concat_eq_append,List.getLast?_concat,Option.getD_some,List.sum_append,
      List.dropLast_concat,← List.sum_eq_zero_iff_forall_eq_nat]
    simp only [List.sum_cons,List.sum_nil]
    omega

def OnlyLast (ms : List Mapping) : Prop := ∀ m ∈ ms.dropLast, m.rss = 0 ∧ m.swap = 0

theorem last_totals_iff (ms : List Mapping) :
    (ms.getLast?.map fun m => (m.rss,m.swap)).getD (0,0) = totals ms ↔ OnlyLast ms := by
  have hrss := sum_last_iff (ms.map Mapping.rss)
  have hswap := sum_last_iff (ms.map Mapping.swap)
  rw [List.getLast?_map,← List.map_dropLast,List.forall_mem_map] at hrss hswap
  have hsplit : (ms.getLast?.map fun m => (m.rss,m.swap)).getD (0,0) =
      ((ms.getLast?.map Mapping.rss).getD 0,(ms.getLast?.map Mapping.swap).getD 0) := by
    cases ms.getLast? <;> rfl
  rw [hsplit,totals,Prod.mk.injEq,hrss,hswap,OnlyLast]
  constructor
  · rintro ⟨hr,hs⟩ m hm
    exact ⟨hr m hm,hs m hm⟩
  · intro h
    exact ⟨fun m hm => (h m hm).1,fun m hm => (h m hm).2⟩

structure Listing where
  dir : ProcDir
  pid : Nat
  mappings : List Mapping
  named : dir.pid = some pid
  smaps : dir.smaps = some (smapsText mappings)
  rss_total : (totals mappings).1 < 2 ^ 64
  swap_total : (totals mappings).2 < 2 ^ 64

inductive Entry where
  | unreadable
  | other (dir : ProcDir) (h : dir.pid = none)
  | process (l : Listing)

def Entry.raw : Entry → Option ProcDir
  | .unreadable => none
  | .other dir _ => some dir
  | .process l => some l.dir

def Entry.listing : Entry → Option Listing
  | .process l => some l
  | _ => none

theorem listing_small (l : Listing) : ∀ m ∈ l.mappings, m.rss < 2 ^ 64 ∧ m.swap < 2 ^ 64 := by
  intro m hm
  have hrss : m.rss ≤ (totals l.mappings).1 := List.le_sum_of_mem (List.mem_map_of_mem hm)
  have hswap : m.swap ≤ (totals l.mappings).2 := List.le_sum_of_mem (List.mem_map_of_mem hm)
  exact ⟨Nat.lt_of_le_of_lt hrss l.rss_total,Nat.lt_of_le_of_lt hswap l.swap_total⟩

section Recorded

variable (prim : Primitives)

def ProcessInfo.sizes (p : ProcessInfo) : Nat × Nat := (p.rssKb,p.swapKb)

theorem scan_listing (l : Listing) :
    (processInfo prim l.dir l.pid).sizes =
      (l.mappings.getLast?.map fun m => (m.rss,m.swap)).getD (0,0) := by
  rw [← smaps_last l.mappings (listing_small l),← l.smaps]
  rfl

theorem scan_entries (entries : List Entry) :
    ((entries.map Entry.raw).filterMap fun entry => entry.bind (scanDir prim)) =
      (entries.filterMap Entry.listing).map fun l => processInfo prim l.dir l.pid := by
  rw [List.filterMap_map,List.map_filterMap]
  congr 1
  funext entry
  cases entry with
  | unreadable => rfl
  | other dir h => simp [Entry.raw,Entry.listing,scanDir,h]
  | process l => simp [Entry.raw,Entry.listing,scanDir,l.named]

theorem scan_totals_iff (entries : List Entry) :
    (scanProcesses prim (some (entries.map Entry.raw))).map
        (fun scan => scan.processes.map ProcessInfo.sizes) =
      some ((entries.filterMap Entry.listing).map fun l => totals l.mappings) ↔
    ∀ l ∈ entries.filterMap Entry.listing, OnlyLast l.mappings := by
  rw [scanProcesses,Option.map_map,Option.map_some,Option.some_inj]
  dsimp only [Function.comp_apply]
  rw [scan_entries,List.map_map,List.map_inj_left]
  refine forall_congr' fun l => forall_congr' fun _ => ?_
  rw [← last_totals_iff,← scan_listing prim l]
  rfl

end Recorded

section Sample

def sizeText (key : List Char) (n : Nat) : List Char :=
  key ++ spaced [([' '],Nat.toDigits 10 n),([' '],['k','B'])]

theorem sizeText_line (key : List Char) (n : Nat) : SizeLine key n (sizeText key n) :=
  ⟨[' '],gap_one rfl,rfl⟩

def heapMapping : Mapping where
  lines := ["00400000-00401000 rw-p [heap]".toList,sizeText rssKey 4,sizeText swapKey 0]
  rss := 4
  swap := 0
  one_line := by decide +kernel
  rss_line := ⟨_,sizeText_line rssKey 4,by decide +kernel⟩
  swap_line := ⟨_,sizeText_line swapKey 0,by decide +kernel⟩

def stackMapping : Mapping where
  lines := ["7ff00000-7ff02000 rw-p [stack]".toList,sizeText rssKey 8,sizeText swapKey 0]
  rss := 8
  swap := 0
  one_line := by decide +kernel
  rss_line := ⟨_,sizeText_line rssKey 8,by decide +kernel⟩
  swap_line := ⟨_,sizeText_line swapKey 0,by decide +kernel⟩

def shell : Listing where
  dir := ⟨some ['4','2'],some ['s','h','\n'],none,some (smapsText [heapMapping,stackMapping])⟩
  pid := 42
  mappings := [heapMapping,stackMapping]
  named := by decide +kernel
  smaps := rfl
  rss_total := by decide
  swap_total := by decide

theorem second_mapping_replaces :
    (scanProcesses asciiPrimitives (some [some shell.dir])).map
        (fun scan => scan.processes.map ProcessInfo.sizes) = some [(8,0)] ∧
      totals shell.mappings = (12,0) := by
  decide +kernel

end Sample

end Uroam.Tuning.Smaps
