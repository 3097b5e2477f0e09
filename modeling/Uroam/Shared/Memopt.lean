import Mathlib.Data.Finset.Sort
import Uroam.Library.Pages

namespace Uroam.Memopt

abbrev SizeT := BitVec 64
abbrev U64 := BitVec 64
abbrev Addr := ℕ
abbrev Page := ℕ

def memoptPoolSizeDefault : SizeT := 1 <<< 30
def memoptPageSize : ℕ := 4096
def memoptHugepageSize : ℕ := 2 <<< 20

def memoptAllocNone : U64 := 0x00
def memoptAllocHugepage : U64 := 0x01
def memoptAllocZeroed : U64 := 0x04

structure Space where
  mapped : Finset Page
  bytes : Addr → BitVec 8

structure Process where
  gTotalAllocated : SizeT
  gTotalFreed : SizeT
  gPoolUsed : SizeT
  gPoolTotal : SizeT
  gAllocationCount : U64
  gFreeCount : U64
  gInitialized : Bool
  space : Space

def Process.fresh (bytes : Addr → BitVec 8) : Process where
  gTotalAllocated := 0
  gTotalFreed := 0
  gPoolUsed := 0
  gPoolTotal := 0
  gAllocationCount := 0
  gFreeCount := 0
  gInitialized := false
  space := { mapped := ∅, bytes }

def mapPages (space : Space) (page : Page) (n : ℕ) : Space where
  mapped := space.mapped ∪ Finset.Ico page (page + n)
  bytes a := if page * memoptPageSize ≤ a ∧ a < (page + n) * memoptPageSize then 0
    else space.bytes a

-- `MAP_PRIVATE | MAP_ANONYMOUS`; the kernel's answer is the first page, or `MAP_FAILED`.
def mmap (space : Space) (size : SizeT) : Option Page → Option Addr × Space
  | none => (none, space)
  | some page =>
    (some (page * memoptPageSize), mapPages space page (Pages.count memoptPageSize size.toNat))

def mmapHugetlb (space : Space) (size : SizeT) : Option Page → Option Addr × Space
  | none => (none, space)
  | some page =>
    (some (page * memoptPageSize), mapPages space page
      (Pages.count memoptHugepageSize size.toNat * (memoptHugepageSize / memoptPageSize)))

def munmap (space : Space) (ptr : Addr) (len : ℕ) : Space :=
  { space with mapped := space.mapped \ Pages.touched memoptPageSize ptr len }

def memset (space : Space) (ptr : Addr) (value : BitVec 8) (len : ℕ) : Space :=
  { space with bytes := fun a => if ptr ≤ a ∧ a < ptr + len then value else space.bytes a }

def memcpy (space : Space) (dst src : Addr) (len : ℕ) : Space :=
  { space with
    bytes := fun a => if dst ≤ a ∧ a < dst + len then space.bytes (src + (a - dst))
      else space.bytes a }

def memoptInit (p : Process) : ℤ × Process :=
  if p.gInitialized then (0, p)
  else (0, { p with
    gTotalAllocated := 0
    gTotalFreed := 0
    gPoolUsed := 0
    gPoolTotal := memoptPoolSizeDefault
    gAllocationCount := 0
    gFreeCount := 0
    gInitialized := true })

inductive MemoptWorkload where
  | general
  | aiInference
  | aiTraining
  | gaming
  | background
  deriving DecidableEq, Repr

def memoptInitWithPolicy (_workload : MemoptWorkload) (p : Process) : ℤ × Process := memoptInit p

def memoptShutdown (p : Process) : Process := { p with gInitialized := false, gPoolUsed := 0 }

def memoptAllocFlags (size : SizeT) (flags : U64) (huge small : Option Page) (p : Process) :
    Option Addr × Process :=
  let first := if flags &&& memoptAllocHugepage ≠ 0 then mmapHugetlb p.space size huge
    else (none, p.space)
  let second := match first.1 with
    | some ptr => (some ptr, first.2)
    | none => mmap first.2 size small
  match second.1 with
  | none => (none, { p with space := second.2 })
  | some ptr =>
    (some ptr, { p with
      gTotalAllocated := p.gTotalAllocated + size
      gPoolUsed := p.gPoolUsed + size
      gAllocationCount := p.gAllocationCount + 1
      space := if flags &&& memoptAllocZeroed ≠ 0 then memset second.2 ptr 0 size.toNat
        else second.2 })

def memoptAlloc (size : SizeT) (answer : Option Page) (p : Process) : Option Addr × Process :=
  memoptAllocFlags size memoptAllocNone none answer p

def memoptFree (ptr : Option Addr) (p : Process) : Process :=
  match ptr with
  | none => p
  | some ptr =>
    { p with
      gFreeCount := p.gFreeCount + 1
      gPoolUsed := if p.gPoolUsed > 4096 then p.gPoolUsed - 4096 else 0
      space := munmap p.space ptr 4096 }

def memoptRealloc (ptr : Option Addr) (size : SizeT) (answer : Option Page) (p : Process) :
    Option Addr × Process :=
  match memoptAlloc size answer p, ptr with
  | (some new, q), some old =>
    (some new, memoptFree (some old) { q with space := memcpy q.space new old 4096 })
  | r, _ => r

def memoptCalloc (nmemb size : SizeT) (answer : Option Page) (p : Process) :
    Option Addr × Process :=
  match memoptAlloc (nmemb * size) answer p with
  | (some ptr, q) => (some ptr, { q with space := memset q.space ptr 0 (nmemb * size).toNat })
  | r => r

def memoptAllocOnNode (size : SizeT) (_node : ℤ) (answer : Option Page) (p : Process) :
    Option Addr × ℤ × Process :=
  let r := memoptAlloc size answer p
  (r.1, if r.1.isSome then 0 else -1, r.2)

def memoptNumaAwareAlloc (size : SizeT) (_preferredNode : ℤ) (answer : Option Page) (p : Process) :
    Option Addr × Process :=
  memoptAlloc size answer p

def memoptNumaAwareFree (ptr : Option Addr) (_size : SizeT) (_node : ℤ) (p : Process) : Process :=
  memoptFree ptr p

structure MemoptStats where
  totalAllocated : SizeT
  totalFreed : SizeT
  poolUsed : SizeT
  poolTotal : SizeT
  compressionRatio : SizeT
  ksmPagesShared : SizeT
  ksmPagesSharing : SizeT
  allocationCount : U64
  freeCount : U64
  deriving DecidableEq, Repr

def memoptGetStats (p : Process) : MemoptStats where
  totalAllocated := p.gTotalAllocated
  totalFreed := p.gTotalFreed
  poolUsed := p.gPoolUsed
  poolTotal := p.gPoolTotal
  compressionRatio := 200
  ksmPagesShared := 0
  ksmPagesSharing := 0
  allocationCount := p.gAllocationCount
  freeCount := p.gFreeCount

end Uroam.Memopt
