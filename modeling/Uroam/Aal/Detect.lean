import Mathlib.Algebra.Order.Ring.Int
import Mathlib.Data.List.Infix
import Uroam.Library.Loops

namespace Uroam.Aal
open Loops

abbrev U32 := BitVec 32
abbrev U64 := BitVec 64
abbrev Long := BitVec 64

def aalMaxCpus : ℕ := 256
def aalMaxNumaNodes : ℕ := 16
def aalPageSize4kb : U64 := 4096
def aalPageSize2mb : U64 := 2 * 1024 * 1024

section Text

def readLines (size : ℕ) : ℕ → List Char → List Char → List (List Char)
  | _, [], [] => []
  | _, line, [] => [line.reverse]
  | room, line, c :: cs =>
    if c = '\n' ∨ room ≤ 1 then (c :: line).reverse :: readLines size (size - 1) [] cs
    else readLines size (room - 1) (c :: line) cs

def cString (buffer : List Char) : List Char := buffer.takeWhile (· ≠ Char.ofNat 0)

def fgets (size : ℕ) (contents : List Char) : List (List Char) :=
  (readLines size (size - 1) [] contents).map cString

def strstr (text pattern : List Char) : Option ℕ :=
  (List.range (text.length + 1)).find? fun i => decide (pattern <+: text.drop i)

def strchr (text : List Char) (c : Char) : Option ℕ := strstr text [c]

def isspace (c : Char) : Bool := c = ' ' || (9 ≤ c.toNat && c.toNat ≤ 13)

def digitsValue (digits : List Char) : ℤ :=
  digits.foldl (fun value c => value * 10 + (c.toNat - 48)) 0

def strtol (text : List Char) : ℤ :=
  let value (sign : ℤ) (rest : List Char) : ℤ := sign * digitsValue (rest.takeWhile Char.isDigit)
  let exact : ℤ := match text.dropWhile isspace with
    | '-' :: rest => value (-1) rest
    | '+' :: rest => value 1 rest
    | rest => value 1 rest
  max (-2 ^ 63) (min (2 ^ 63 - 1) exact)

def atoi (text : List Char) : U32 := .ofInt 32 (strtol text)

def atoll (text : List Char) : U64 := .ofInt 64 (strtol text)

end Text

structure Dirent where
  dName : List Char
  meminfo : Option (List Char)
  deriving DecidableEq, Repr

structure Answers where
  physPages : Long
  ramPageSize : Long
  pageSize : Long
  transparentHugepage : Bool
  numaMaps : Bool
  cpuinfo : Option (List Char)
  nodeAccess : Bool
  nodeDir : Option (List Dirent)
  nprocessorsConf : Long
  nprocessorsOnln : Long
  deriving DecidableEq, Repr

inductive MemModel where
  | flat
  | near
  | uma
  | numa
  deriving DecidableEq, Repr

structure MemoryInfo where
  pageSize : U64
  hugePageSize : U64
  supportedPages : U32
  hasTransparentHugepages : Bool
  hasExplicitHugepages : Bool

structure CacheInfo where
  cacheLineSize : U32
  l1dCacheSize : U32
  l2CacheSize : U32
  l3CacheSize : U32

structure NumaInfo where
  nodeCount : U32
  nodeMemSize : ℕ → U64
  nodeOfCpu : ℕ → U32

structure SystemInfo where
  memory : MemoryInfo
  cache : CacheInfo
  numa : NumaInfo
  memModel : MemModel
  cpuCount : U32
  onlineCpuCount : U32
  threadCount : U32
  totalRamKb : U64
  basePageSize : U64

def SystemInfo.zero : SystemInfo where
  memory := ⟨0, 0, 0, false, false⟩
  cache := ⟨0, 0, 0, 0⟩
  numa := ⟨0, fun _ => 0, fun _ => 0⟩
  memModel := .flat
  cpuCount := 0
  onlineCpuCount := 0
  threadCount := 0
  totalRamKb := 0
  basePageSize := 0

def aalDetectTotalRam (os : Answers) (info : SystemInfo) : SystemInfo :=
  { info with totalRamKb := os.physPages * os.ramPageSize / 1024 }

def aalDetectMemory (os : Answers) (info : SystemInfo) : SystemInfo :=
  let pageSize := if 0 < os.pageSize.toInt then os.pageSize else aalPageSize4kb
  { info with
    memory := ⟨pageSize, aalPageSize2mb, 1, os.transparentHugepage, false⟩
    memModel := if os.numaMaps then .numa else info.memModel
    basePageSize := pageSize }

def cacheLine (cache : CacheInfo) (line : List Char) : CacheInfo :=
  match strstr line "cache size".toList, strchr line ':' with
  | some _, some colon =>
    let size := atoi (line.drop (colon + 1)) * 1024
    if (strstr line "L1".toList).isSome then
      if (strstr line "d".toList).isSome then { cache with l1dCacheSize := size } else cache
    else if (strstr line "L2".toList).isSome then { cache with l2CacheSize := size }
    else if (strstr line "L3".toList).isSome then { cache with l3CacheSize := size }
    else cache
  | _, _ => cache

def aalDetectCache (os : Answers) (info : SystemInfo) : SystemInfo :=
  let defaults : CacheInfo := ⟨64, 32 * 1024, 256 * 1024, 8 * 1024 * 1024⟩
  let lines := os.cpuinfo.elim [] (fgets 512)
  { info with cache := lines.foldl cacheLine defaults }

def backToBlank (line : List Char) : ℕ → ℕ
  | 0 => 0
  | k + 1 => if getElem? line k = some ' ' then k + 1 else backToBlank line k

def memTotal (line : List Char) : Option U64 :=
  match strstr line "MemTotal:".toList, strstr line "kB".toList with
  | some _, some kbp =>
    some (atoll ((line.drop (backToBlank line kbp)).dropWhile Char.isDigit) * 1024)
  | _, _ => none

def readMeminfo (nodeId : ℕ) (sizes : ℕ → U64) (line : List Char) : ℕ → U64 :=
  match memTotal line with
  | some size => Function.update sizes nodeId size
  | none => sizes

def readNode (sizes : ℕ → U64) (entry : Dirent) : ℕ → U64 :=
  let name := cString entry.dName
  let nodeId := (atoi (name.drop 4)).toInt
  if "node".toList <+: name ∧ 0 ≤ nodeId ∧ nodeId < aalMaxNumaNodes then
    (entry.meminfo.elim [] (fgets 128)).foldl (readMeminfo nodeId.toNat) sizes
  else sizes

def countNodes (sizes : ℕ → U64) : U32 :=
  upTo aalMaxNumaNodes (fun count i => if 0 < sizes i then .ofNat 32 (i + 1) else count) 1

def aalDetectNuma (os : Answers) (info : SystemInfo) : SystemInfo :=
  let total := info.totalRamKb * 1024
  let single : NumaInfo :=
    { info.numa with nodeCount := 1, nodeMemSize := Function.update (fun _ => 0) 0 total }
  match os.nodeAccess, os.nodeDir with
  | true, some entries =>
    let found := entries.foldl readNode (fun _ => 0)
    let sizes := if found 0 = 0 then Function.update found 0 total else found
    { info with numa := { info.numa with nodeCount := countNodes sizes, nodeMemSize := sizes } }
  | _, _ => { info with numa := single }

def aalDetectCpuCount (os : Answers) (info : SystemInfo) : SystemInfo :=
  let cpuCount : U32 := os.nprocessorsConf.setWidth 32
  let onlineCpuCount : U32 := os.nprocessorsOnln.setWidth 32
  let info := { info with cpuCount, onlineCpuCount, threadCount := onlineCpuCount }
  if info.cpuCount = 0 ∨ aalMaxCpus < info.cpuCount.toNat then
    { info with cpuCount := 1, onlineCpuCount := 1 }
  else info

structure AalState where
  info : SystemInfo
  initialized : Bool

def aalInit (os : Answers) (s : AalState) : AalState :=
  if s.initialized then s
  else
    { info := aalDetectCpuCount os (aalDetectNuma os (aalDetectCache os (aalDetectMemory os
        (aalDetectTotalRam os .zero))))
      initialized := true }

structure Consistent (info : SystemInfo) : Prop where
  online : 1 ≤ info.onlineCpuCount.toNat ∧ info.onlineCpuCount.toNat ≤ info.cpuCount.toNat
  cpus : info.cpuCount.toNat ≤ aalMaxCpus
  threads : info.threadCount = info.onlineCpuCount
  nodes : 1 ≤ info.numa.nodeCount.toNat ∧ info.numa.nodeCount.toNat ≤ aalMaxNumaNodes
  nodeOfCpu : ∀ c, c < aalMaxCpus → (info.numa.nodeOfCpu c).toNat < info.numa.nodeCount.toNat

def InRange (cpuCount : U32) : Prop := 1 ≤ cpuCount.toNat ∧ cpuCount.toNat ≤ aalMaxCpus

def CountsAgree (os : Answers) : Prop :=
  let conf : U32 := os.nprocessorsConf.setWidth 32
  let onln : U32 := os.nprocessorsOnln.setWidth 32
  InRange conf ∧ 1 ≤ onln.toNat ∧ onln.toNat ≤ conf.toNat ∨ ¬ InRange conf ∧ onln = 1

theorem node_count_range (sizes : ℕ → U64) :
    1 ≤ (countNodes sizes).toNat ∧ (countNodes sizes).toNat ≤ aalMaxNumaNodes := by
  have hround : ∀ i (count : U32), i < aalMaxNumaNodes →
      (1 ≤ count.toNat ∧ count.toNat ≤ aalMaxNumaNodes) →
      1 ≤ (if 0 < sizes i then BitVec.ofNat 32 (i + 1) else count).toNat ∧
        (if 0 < sizes i then BitVec.ofNat 32 (i + 1) else count).toNat ≤ aalMaxNumaNodes := by
    intro i count hi hcount
    split
    · simp only [aalMaxNumaNodes] at hi ⊢
      simp only [BitVec.toNat_ofNat]
      omega
    · exact hcount
  exact upTo_invariant
    (I := fun _ (count : U32) => 1 ≤ count.toNat ∧ count.toNat ≤ aalMaxNumaNodes)
    (by decide) hround

theorem numa_range (os : Answers) (info : SystemInfo) :
    1 ≤ (aalDetectNuma os info).numa.nodeCount.toNat ∧
      (aalDetectNuma os info).numa.nodeCount.toNat ≤ aalMaxNumaNodes := by
  unfold aalDetectNuma
  dsimp only
  split
  · exact node_count_range _
  · exact ⟨le_refl 1,(by decide : 1 ≤ aalMaxNumaNodes)⟩

theorem numa_node_of_cpu (os : Answers) (info : SystemInfo) :
    (aalDetectNuma os info).numa.nodeOfCpu = info.numa.nodeOfCpu := by
  unfold aalDetectNuma
  dsimp only
  split <;> rfl

theorem unusable_iff (count : U32) :
    count = 0 ∨ aalMaxCpus < count.toNat ↔ ¬ InRange count := by
  have hzero : count = 0 ↔ count.toNat = 0 := by
    rw [← BitVec.toNat_inj]
    rfl
  rw [hzero]
  unfold InRange
  omega

theorem counts_iff (os : Answers) (info : SystemInfo)
    (hnodes : 1 ≤ info.numa.nodeCount.toNat ∧ info.numa.nodeCount.toNat ≤ aalMaxNumaNodes)
    (hzero : info.numa.nodeOfCpu = fun _ => 0) :
    Consistent (aalDetectCpuCount os info) ↔ CountsAgree os := by
  have hcpu : ∀ c, c < aalMaxCpus → (info.numa.nodeOfCpu c).toNat < info.numa.nodeCount.toNat := by
    intro c _
    rw [hzero]
    exact hnodes.1
  unfold aalDetectCpuCount CountsAgree
  dsimp only
  split
  · next hunusable =>
    have hbad := (unusable_iff _).mp hunusable
    constructor
    · exact fun h => .inr ⟨hbad,h.threads⟩
    · rintro (⟨hgood,_⟩ | ⟨_,honln⟩)
      · exact absurd hgood hbad
      · exact ⟨⟨le_refl 1,le_refl 1⟩,(by decide : 1 ≤ aalMaxCpus),honln,hnodes,hcpu⟩
  · next husable =>
    have hrange := not_not.mp fun hbad => husable ((unusable_iff _).mpr hbad)
    constructor
    · exact fun h => .inl ⟨hrange,h.online⟩
    · rintro (⟨_,honline⟩ | ⟨hbad,_⟩)
      · exact ⟨honline,hrange.2,rfl,hnodes,hcpu⟩
      · exact absurd hrange hbad

theorem info_consistent_iff (os : Answers) (s : AalState) (hfresh : s.initialized = false) :
    Consistent (aalInit os s).info ↔ CountsAgree os := by
  rw [aalInit,if_neg (by simp [hfresh])]
  refine counts_iff os _ (numa_range os _) ?_
  rw [numa_node_of_cpu]
  rfl

def machine (conf onln : Long) : Answers where
  physPages := 4194304
  ramPageSize := 4096
  pageSize := 4096
  transparentHugepage := true
  numaMaps := true
  cpuinfo := none
  nodeAccess := false
  nodeDir := none
  nprocessorsConf := conf
  nprocessorsOnln := onln

def unloaded : AalState := ⟨.zero, false⟩

theorem info_consistent_iff_octa :
    Consistent (aalInit (machine 8 8) unloaded).info ↔ CountsAgree (machine 8 8) :=
  info_consistent_iff (machine 8 8) unloaded rfl

theorem many_cpus_disagree :
    ¬ ∀ (os : Answers) (s : AalState), s.initialized = false → Consistent (aalInit os s).info := by
  intro h
  have hthreads := (h (machine 512 512) unloaded rfl).threads
  exact absurd hthreads (by decide +kernel)

end Uroam.Aal
