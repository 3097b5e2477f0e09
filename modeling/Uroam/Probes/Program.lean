import Mathlib.Algebra.BigOperators.Group.List.Basic
import Mathlib.Algebra.GroupWithZero.Nat

namespace Uroam.Probes

abbrev U32 := BitVec 32
abbrev U64 := BitVec 64

def uroamAlloc : U32 := 1
def uroamFree : U32 := 2

structure Task where
  pidTgid : U64
  comm : List UInt8
  mm : Option Nat
  deriving DecidableEq, Repr

structure Context where
  current : Task
  ktime : U64
  deriving DecidableEq, Repr

structure KmemCache where
  id : Nat
  objectSize : U32
  deriving DecidableEq, Repr

structure AllocEvent where
  timestamp : U64
  pid : U32
  tid : U32
  type : U32
  size : U64
  gfpFlags : U64
  numaNode : U32
  addr : U64
  comm : List UInt8
  deriving DecidableEq, Repr

def AllocEvent.zero : AllocEvent := ⟨0,0,0,0,0,0,0,0,[]⟩

structure Maps where
  uroamEvents : List AllocEvent
  uroamStats : U64
  deriving DecidableEq, Repr

def Context.pid (ctx : Context) : U32 := (ctx.current.pidTgid >>> 32).setWidth 32

def Context.tid (ctx : Context) : U32 := ctx.current.pidTgid.setWidth 32

def Maps.output (m : Maps) (evt : AllocEvent) : Maps :=
  { m with uroamEvents := m.uroamEvents ++ [evt] }

-- A 64-bit shift of the BPF machine takes the low six bits of its count.
def shiftedOne (count : U32) : U64 := 1#64 <<< (count.toNat % 64)

def uroamAllocPages (pageShift : Nat) (ctx : Context) (gfpMask order : U32) (m : Maps) : Maps :=
  let size := shiftedOne (order + BitVec.ofNat 32 pageShift)
  let evt := { AllocEvent.zero with
    timestamp := ctx.ktime
    pid := ctx.pid
    tid := ctx.tid
    type := uroamAlloc
    size := size
    gfpFlags := gfpMask.setWidth 64
    numaNode := 0
    comm := ctx.current.comm }
  let m := m.output evt
  { m with uroamStats := m.uroamStats + size }

def uroamFreePages (ctx : Context) (order : U32) (m : Maps) : Maps :=
  let size := shiftedOne (order + 12)
  m.output { AllocEvent.zero with
    timestamp := ctx.ktime
    pid := ctx.pid
    tid := ctx.tid
    type := uroamFree
    size := size
    comm := ctx.current.comm }

def uroamCacheAllocRet (ctx : Context) (ptr : U64) (m : Maps) : Maps :=
  m.output { AllocEvent.zero with
    timestamp := ctx.ktime
    pid := ctx.pid
    tid := ctx.tid
    type := uroamAlloc
    size := 0
    addr := ptr
    comm := ctx.current.comm }

def uroamCacheFree (ctx : Context) (cachep : KmemCache) (m : Maps) : Maps :=
  m.output { AllocEvent.zero with
    timestamp := ctx.ktime
    pid := ctx.pid
    tid := ctx.tid
    type := uroamFree
    size := cachep.objectSize.setWidth 64
    comm := ctx.current.comm }

def uroamSysMmap (ctx : Context) (len : U64) (m : Maps) : Maps :=
  m.output { AllocEvent.zero with
    timestamp := ctx.ktime
    pid := ctx.pid
    type := uroamAlloc
    size := len
    comm := ctx.current.comm }

def brkDelta (brk oldBrk : U64) : U64 := if brk > oldBrk then brk - oldBrk else oldBrk - brk

def uroamSysBrk (ctx : Context) (breakOf : Nat → U64) (brk : U64) (m : Maps) : Maps :=
  match ctx.current.mm with
  | none => m
  | some mm =>
    m.output { AllocEvent.zero with
      timestamp := ctx.ktime
      pid := ctx.pid
      type := uroamAlloc
      size := brkDelta brk (breakOf mm)
      comm := ctx.current.comm }

def eventBytes (type : U32) (es : List AllocEvent) : Nat :=
  ((es.filter fun evt => evt.type == type).map fun evt => evt.size.toNat).sum

def Maps.bytes (m : Maps) (type : U32) : Nat := eventBytes type m.uroamEvents

theorem bytes_output (m : Maps) (evt : AllocEvent) (type : U32) :
    (m.output evt).bytes type = m.bytes type + if evt.type = type then evt.size.toNat else 0 := by
  simp only [Maps.bytes,eventBytes,Maps.output,List.filter_append,List.map_append,List.sum_append]
  split_ifs with ht
  · simp [ht]
  · simp [ht]

theorem alloc_ne_free : uroamAlloc ≠ uroamFree := by decide

theorem allocPages_bytes (pageShift : Nat) (ctx : Context) (gfpMask order : U32) (m : Maps) :
    (uroamAllocPages pageShift ctx gfpMask order m).bytes uroamAlloc =
      m.bytes uroamAlloc + (shiftedOne (order + BitVec.ofNat 32 pageShift)).toNat ∧
    (uroamAllocPages pageShift ctx gfpMask order m).bytes uroamFree = m.bytes uroamFree := by
  constructor
  · exact bytes_output m _ uroamAlloc
  · exact bytes_output m _ uroamFree

theorem freePages_bytes (ctx : Context) (order : U32) (m : Maps) :
    (uroamFreePages ctx order m).bytes uroamAlloc = m.bytes uroamAlloc ∧
    (uroamFreePages ctx order m).bytes uroamFree =
      m.bytes uroamFree + (shiftedOne (order + 12)).toNat :=
  ⟨bytes_output m _ uroamAlloc,bytes_output m _ uroamFree⟩

theorem cacheAllocRet_bytes (ctx : Context) (ptr : U64) (m : Maps) :
    (uroamCacheAllocRet ctx ptr m).bytes uroamAlloc = m.bytes uroamAlloc ∧
    (uroamCacheAllocRet ctx ptr m).bytes uroamFree = m.bytes uroamFree :=
  ⟨bytes_output m _ uroamAlloc,bytes_output m _ uroamFree⟩

theorem cacheFree_bytes (ctx : Context) (cachep : KmemCache) (m : Maps) :
    (uroamCacheFree ctx cachep m).bytes uroamAlloc = m.bytes uroamAlloc ∧
    (uroamCacheFree ctx cachep m).bytes uroamFree =
      m.bytes uroamFree + cachep.objectSize.toNat := by
  constructor
  · exact bytes_output m _ uroamAlloc
  · rw [uroamCacheFree,bytes_output]
    simp only [if_true]
    rw [BitVec.toNat_setWidth,Nat.mod_eq_of_lt (by omega)]

theorem sysMmap_bytes (ctx : Context) (len : U64) (m : Maps) :
    (uroamSysMmap ctx len m).bytes uroamAlloc = m.bytes uroamAlloc + len.toNat ∧
    (uroamSysMmap ctx len m).bytes uroamFree = m.bytes uroamFree :=
  ⟨bytes_output m _ uroamAlloc,bytes_output m _ uroamFree⟩

theorem brkDelta_toNat (brk oldBrk : U64) :
    (brkDelta brk oldBrk).toNat =
      (brk.toNat - oldBrk.toNat) + (oldBrk.toNat - brk.toNat) := by
  unfold brkDelta
  split_ifs with h
  · have hlt : oldBrk.toNat < brk.toNat := h
    rw [BitVec.toNat_sub_of_le (BitVec.le_of_lt h)]
    omega
  · have hle : brk.toNat ≤ oldBrk.toNat := Nat.le_of_not_lt h
    rw [BitVec.toNat_sub_of_le hle]
    omega

end Uroam.Probes
