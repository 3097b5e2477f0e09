import Mathlib.Algebra.BigOperators.Group.List.Basic
import Mathlib.Algebra.GroupWithZero.Nat
import Mathlib.Logic.Function.Basic
import Uroam.Library.Tally
import Uroam.Probes.Program

namespace Uroam.Probes
open Runs Tally

inductive Call where
  | allocPages (gfpMask order : U32) (page : Option U64)
  | freePages (page : U64) (order : U32)
  | cacheAlloc (cachep : KmemCache) (ptr : Option U64)
  | cacheFree (cachep : KmemCache) (ptr : U64)
  | mmap (len : U64)
  | brk (brk : U64) (granted : Bool)
  deriving DecidableEq, Repr

structure Traced where
  ctx : Context
  call : Call
  deriving DecidableEq, Repr

structure PageBlock where
  page : U64
  order : U32
  deriving DecidableEq, Repr

structure SlabObject where
  cachep : KmemCache
  ptr : U64
  deriving DecidableEq, Repr

structure Memory where
  pages : List PageBlock
  objects : List SlabObject
  breakOf : Nat → U64

def Memory.after (m : Memory) (t : Traced) : Memory :=
  match t.call with
  | .allocPages _ order (some page) => { m with pages := ⟨page,order⟩ :: m.pages }
  | .allocPages _ _ none => m
  | .freePages page order => { m with pages := m.pages.erase ⟨page,order⟩ }
  | .cacheAlloc cachep (some ptr) => { m with objects := ⟨cachep,ptr⟩ :: m.objects }
  | .cacheAlloc _ none => m
  | .cacheFree cachep ptr => { m with objects := m.objects.erase ⟨cachep,ptr⟩ }
  | .mmap _ => m
  | .brk brk granted =>
    match t.ctx.current.mm with
    | some mm => if granted then { m with breakOf := Function.update m.breakOf mm brk } else m
    | none => m

structure World where
  memory : Memory
  maps : Maps

section Steps

variable (pageShift : Nat)

def World.step (w : World) (t : Traced) : World :=
  ⟨w.memory.after t,
    match t.call with
    | .allocPages gfpMask order _ => uroamAllocPages pageShift t.ctx gfpMask order w.maps
    | .freePages _ order => uroamFreePages t.ctx order w.maps
    | .cacheAlloc _ ptr => uroamCacheAllocRet t.ctx (ptr.getD 0) w.maps
    | .cacheFree cachep _ => uroamCacheFree t.ctx cachep w.maps
    | .mmap len => uroamSysMmap t.ctx len w.maps
    | .brk brk _ => uroamSysBrk t.ctx w.memory.breakOf brk w.maps⟩

-- What the kernel allows: a block is given out once until it is freed, its bytes can be counted in
-- 64 bits, only what is allocated is freed, and brk(0) never moves the break.
def Legal (w : World) (t : Traced) : Prop :=
  match t.call with
  | .allocPages _ order (some page) =>
    (∀ block ∈ w.memory.pages, block.page ≠ page) ∧ order.toNat + pageShift < 64 ∧ order.toNat + 12 < 64
  | .allocPages _ _ none => True
  | .freePages page order => ⟨page,order⟩ ∈ w.memory.pages
  | .cacheAlloc _ (some ptr) => ∀ object ∈ w.memory.objects, object.ptr ≠ ptr
  | .cacheAlloc _ none => True
  | .cacheFree cachep ptr => ⟨cachep,ptr⟩ ∈ w.memory.objects
  | .mmap _ => True
  | .brk brk granted => brk = 0 → granted = false

end Steps

def World.opened (breaks : Nat → U64) (stats : U64) : World := ⟨⟨[],[],breaks⟩,⟨[],stats⟩⟩

structure Closed (breaks : Nat → U64) (w : World) : Prop where
  pages : w.memory.pages = []
  objects : w.memory.objects = []
  breaks : w.memory.breakOf = breaks

def Balanced (w : World) : Prop := w.maps.bytes uroamAlloc = w.maps.bytes uroamFree

def Traced.basePages (t : Traced) : Nat :=
  match t.call with
  | .allocPages _ order (some _) => 2 ^ order.toNat
  | _ => 0

def Traced.refusedBytes (pageShift : Nat) (t : Traced) : Nat :=
  match t.call with
  | .allocPages _ order none => (shiftedOne (order + BitVec.ofNat 32 pageShift)).toNat
  | _ => 0

def Traced.objectBytes (t : Traced) : Nat :=
  match t.call with
  | .cacheAlloc cachep (some _) => cachep.objectSize.toNat
  | _ => 0

def Traced.mappedBytes (t : Traced) : Nat :=
  match t.call with
  | .mmap len => len.toNat
  | _ => 0

def Memory.distance (m : Memory) (t : Traced) : Nat :=
  match t.call, t.ctx.current.mm with
  | .brk brk _, some mm =>
    (brk.toNat - (m.breakOf mm).toNat) + ((m.breakOf mm).toNat - brk.toNat)
  | _, _ => 0

def basePages (trace : List Traced) : Nat := (trace.map Traced.basePages).sum

def refusedBytes (pageShift : Nat) (trace : List Traced) : Nat :=
  (trace.map (Traced.refusedBytes pageShift)).sum

def objectBytes (trace : List Traced) : Nat := (trace.map Traced.objectBytes).sum

def mappedBytes (trace : List Traced) : Nat := (trace.map Traced.mappedBytes).sum

def brkDistance (breaks : Nat → U64) (trace : List Traced) : Nat :=
  total Memory.after Memory.distance ⟨[],[],breaks⟩ trace

def Cancels (pageShift : Nat) (breaks : Nat → U64) (trace : List Traced) : Prop :=
  2 ^ pageShift * basePages trace + refusedBytes pageShift trace + mappedBytes trace +
      brkDistance breaks trace =
    2 ^ 12 * basePages trace + objectBytes trace

theorem shiftedOne_toNat {count : U32} (h : count.toNat < 64) :
    (shiftedOne count).toNat = 2 ^ count.toNat := by
  have hpow : 2 ^ count.toNat < 2 ^ 64 := Nat.pow_lt_pow_right (by omega) h
  rw [shiftedOne,Nat.mod_eq_of_lt h,BitVec.toNat_shiftLeft,Nat.shiftLeft_eq]
  simpa using Nat.mod_eq_of_lt hpow

theorem blockBytes {order : U32} {shift : Nat} (h : order.toNat + shift < 64) :
    (shiftedOne (order + BitVec.ofNat 32 shift)).toNat = 2 ^ shift * 2 ^ order.toNat := by
  have hcount : (order + BitVec.ofNat 32 shift).toNat = order.toNat + shift := by
    rw [BitVec.toNat_add,BitVec.toNat_ofNat]
    omega
  rw [shiftedOne_toNat (by omega),hcount,Nat.pow_add,Nat.mul_comm]

def PageBlock.bytes (block : PageBlock) : Nat := (shiftedOne (block.order + 12)).toNat

def SlabObject.bytes (object : SlabObject) : Nat := object.cachep.objectSize.toNat

def Memory.bytes (m : Memory) : Nat :=
  (m.pages.map PageBlock.bytes).sum + (m.objects.map SlabObject.bytes).sum

def World.owed (w : World) : Nat := w.memory.bytes + w.maps.bytes uroamFree

def World.reported (w : World) : Nat := w.maps.bytes uroamAlloc

theorem alloc_step {pageShift : Nat} {w : World} {t : Traced} (h : Legal pageShift w t) :
    (w.step pageShift t).reported = w.reported +
      (2 ^ pageShift * t.basePages + t.refusedBytes pageShift + t.mappedBytes +
        w.memory.distance t) := by
  unfold World.reported
  obtain ⟨ctx,call⟩ := t
  cases call with
  | allocPages gfpMask order page =>
    have hbytes := (allocPages_bytes pageShift ctx gfpMask order w.maps).1
    cases page with
    | none =>
      simpa [World.step,Traced.basePages,Traced.refusedBytes,Traced.mappedBytes,Memory.distance]
        using hbytes
    | some page =>
      have hfits : order.toNat + pageShift < 64 := h.2.1
      rw [blockBytes hfits] at hbytes
      simpa [World.step,Traced.basePages,Traced.refusedBytes,Traced.mappedBytes,Memory.distance]
        using hbytes
  | freePages page order => exact (freePages_bytes ctx order w.maps).1
  | cacheAlloc cachep ptr => exact (cacheAllocRet_bytes ctx (ptr.getD 0) w.maps).1
  | cacheFree cachep ptr => exact (cacheFree_bytes ctx cachep w.maps).1
  | mmap len =>
    have hbytes := (sysMmap_bytes ctx len w.maps).1
    simpa [World.step,Traced.basePages,Traced.refusedBytes,Traced.mappedBytes,Memory.distance]
      using hbytes
  | brk brk granted =>
    rcases hmm : ctx.current.mm with _ | mm
    · simp [World.step,uroamSysBrk,Traced.basePages,Traced.refusedBytes,Traced.mappedBytes,
        Memory.distance,hmm]
    · simp [World.step,uroamSysBrk,Traced.basePages,Traced.refusedBytes,Traced.mappedBytes,
        Memory.distance,hmm,bytes_output,brkDelta_toNat]

theorem free_step {pageShift : Nat} {w : World} {t : Traced} (h : Legal pageShift w t) :
    (w.step pageShift t).owed = w.owed + (2 ^ 12 * t.basePages + t.objectBytes) := by
  obtain ⟨ctx,call⟩ := t
  cases call with
  | allocPages gfpMask order page =>
    have hbytes := (allocPages_bytes pageShift ctx gfpMask order w.maps).2
    cases page with
    | none => simpa [World.owed,World.step,Memory.after,Traced.basePages,Traced.objectBytes] using hbytes
    | some page =>
      have hblock : (PageBlock.mk page order).bytes = 2 ^ 12 * 2 ^ order.toNat := blockBytes h.2.2
      simp only [World.owed,World.step,Memory.after,Memory.bytes,Traced.basePages,
        Traced.objectBytes,hbytes,List.map_cons,List.sum_cons,hblock]
      omega
  | freePages page order =>
    have hheld := List.sum_map_erase PageBlock.bytes (show ⟨page,order⟩ ∈ w.memory.pages from h)
    have hbytes : (uroamFreePages ctx order w.maps).bytes uroamFree =
        w.maps.bytes uroamFree + (PageBlock.mk page order).bytes := (freePages_bytes ctx order w.maps).2
    simp only [World.owed,World.step,Memory.after,Memory.bytes,Traced.basePages,Traced.objectBytes,
      hbytes]
    omega
  | cacheAlloc cachep ptr =>
    have hbytes := (cacheAllocRet_bytes ctx (ptr.getD 0) w.maps).2
    cases ptr with
    | none => simpa [World.owed,World.step,Memory.after,Traced.basePages,Traced.objectBytes] using hbytes
    | some ptr =>
      have hobject : (SlabObject.mk cachep ptr).bytes = cachep.objectSize.toNat := rfl
      simp only [World.owed,World.step,Memory.after,Memory.bytes,Traced.basePages,
        Traced.objectBytes,hbytes,List.map_cons,List.sum_cons,hobject]
      omega
  | cacheFree cachep ptr =>
    have hheld := List.sum_map_erase SlabObject.bytes (show ⟨cachep,ptr⟩ ∈ w.memory.objects from h)
    have hbytes : (uroamCacheFree ctx cachep w.maps).bytes uroamFree =
        w.maps.bytes uroamFree + (SlabObject.mk cachep ptr).bytes := (cacheFree_bytes ctx cachep w.maps).2
    simp only [World.owed,World.step,Memory.after,Memory.bytes,Traced.basePages,Traced.objectBytes,
      hbytes]
    omega
  | mmap len =>
    have hbytes := (sysMmap_bytes ctx len w.maps).2
    simpa [World.owed,World.step,Memory.after,Traced.basePages,Traced.objectBytes] using hbytes
  | brk brk granted =>
    rcases hmm : ctx.current.mm with _ | mm
    · simp [World.owed,World.step,Memory.after,uroamSysBrk,Traced.basePages,Traced.objectBytes,hmm]
    · have hbytes : ((w.step pageShift ⟨ctx,.brk brk granted⟩).maps).bytes uroamFree =
          w.maps.bytes uroamFree := by
        simp [World.step,uroamSysBrk,hmm,bytes_output,alloc_ne_free]
      have hmemory : ((w.step pageShift ⟨ctx,.brk brk granted⟩).memory).bytes = w.memory.bytes := by
        cases granted <;> simp [World.step,Memory.after,Memory.bytes,hmm]
      rw [World.owed,hbytes,hmemory]
      rfl

theorem step_memory (pageShift : Nat) (w : World) (t : Traced) :
    (w.step pageShift t).memory = w.memory.after t := rfl

section Traces

variable {pageShift : Nat} {breaks : Nat → U64} {stats : U64} {trace : List Traced}

theorem allocated_bytes
    (h : Along (World.step pageShift) (Legal pageShift) (World.opened breaks stats) trace) :
    (exec (World.step pageShift) (World.opened breaks stats) trace).reported =
      2 ^ pageShift * basePages trace + refusedBytes pageShift trace + mappedBytes trace +
        brkDistance breaks trace := by
  have hrun := accumulated (World.step pageShift) (fun _ _ => alloc_step) trace
    (World.opened breaks stats) h
  have hmoved := total_map (World.step pageShift) (step_memory pageShift) Memory.distance trace
    (World.opened breaks stats)
  rw [total_add,total_add,total_add,total_mul,total_stateless,total_stateless,total_stateless,
    hmoved] at hrun
  have hstart : (World.opened breaks stats).reported = 0 := rfl
  rw [hrun,hstart,Nat.zero_add]
  rfl

theorem freed_bytes
    (h : Along (World.step pageShift) (Legal pageShift) (World.opened breaks stats) trace) :
    (exec (World.step pageShift) (World.opened breaks stats) trace).owed =
      2 ^ 12 * basePages trace + objectBytes trace := by
  have hrun := accumulated (World.step pageShift) (fun _ _ => free_step) trace
    (World.opened breaks stats) h
  rw [total_add,total_mul,total_stateless,total_stateless] at hrun
  have hstart : (World.opened breaks stats).owed = 0 := rfl
  rw [hrun,hstart,Nat.zero_add]
  rfl

theorem closed_owed {w : World} (h : Closed breaks w) : w.owed = w.maps.bytes uroamFree := by
  rw [World.owed,Memory.bytes,h.pages,h.objects]
  exact Nat.zero_add _

theorem events_balance_iff
    (hlegal : Along (World.step pageShift) (Legal pageShift) (World.opened breaks stats) trace)
    (hclosed : Closed breaks (exec (World.step pageShift) (World.opened breaks stats) trace)) :
    Balanced (exec (World.step pageShift) (World.opened breaks stats) trace) ↔
      Cancels pageShift breaks trace := by
  have hfree := freed_bytes hlegal
  rw [closed_owed hclosed] at hfree
  rw [Cancels,← allocated_bytes hlegal,← hfree]
  rfl

theorem page_blocks_cancel_iff (hrefused : refusedBytes pageShift trace = 0)
    (hmapped : mappedBytes trace = 0) (hbrk : brkDistance breaks trace = 0)
    (hobjects : objectBytes trace = 0) :
    Cancels pageShift breaks trace ↔ pageShift = 12 ∨ basePages trace = 0 := by
  rw [Cancels,hrefused,hmapped,hbrk,hobjects]
  simp only [Nat.add_zero]
  rcases Nat.eq_zero_or_pos (basePages trace) with hnone | hsome
  · simp [hnone]
  · rw [Nat.mul_right_cancel_iff hsome,Nat.pow_right_inj (by decide)]
    simp [hsome.ne']

end Traces

def sampleTask : Task := ⟨0x0000002a0000002a#64,[],some 1⟩

def sampleBreaks : Nat → U64 := fun _ => 0x1000

def sampleTrace : List Traced :=
  [⟨⟨sampleTask,1⟩,.allocPages 0xcc0 0 (some 0xea00#64)⟩,
    ⟨⟨sampleTask,2⟩,.cacheAlloc ⟨3,8192⟩ (some 0xff80#64)⟩,⟨⟨sampleTask,3⟩,.brk 0x2000 true⟩,
    ⟨⟨sampleTask,4⟩,.brk 0x1000 true⟩,⟨⟨sampleTask,5⟩,.cacheFree ⟨3,8192⟩ 0xff80⟩,
    ⟨⟨sampleTask,6⟩,.freePages 0xea00#64 0⟩]

theorem sampleTrace_legal (stats : U64) :
    Along (World.step 12) (Legal 12) (World.opened sampleBreaks stats) sampleTrace := by
  refine ⟨⟨?_,by decide,by decide⟩,?_,?_,?_,?_,?_,trivial⟩
  · simp [World.opened]
  · simp [Legal,World.opened,World.step,Memory.after]
  · exact fun h => absurd h (by decide)
  · exact fun h => absurd h (by decide)
  · exact List.mem_singleton.mpr rfl
  · exact List.mem_singleton.mpr rfl

theorem sampleTrace_closed (stats : U64) :
    Closed sampleBreaks (exec (World.step 12) (World.opened sampleBreaks stats) sampleTrace) := by
  refine ⟨rfl,rfl,?_⟩
  funext mm
  by_cases hmm : mm = 1
  · subst hmm
    rfl
  · simp [sampleTrace,sampleTask,World.step,World.opened,Memory.after,hmm,sampleBreaks]

theorem events_balance_iff_sample :
    Balanced (exec (World.step 12) (World.opened sampleBreaks 0) sampleTrace) :=
  (events_balance_iff (sampleTrace_legal 0) (sampleTrace_closed 0)).mpr (by
    unfold Cancels
    decide)

def pageTrace : List Traced :=
  [⟨⟨sampleTask,1⟩,.allocPages 0xcc0 0 (some 0xea00#64)⟩,⟨⟨sampleTask,2⟩,.freePages 0xea00#64 0⟩]

theorem pageTrace_legal (breaks : Nat → U64) (stats : U64) :
    Along (World.step 16) (Legal 16) (World.opened breaks stats) pageTrace := by
  refine ⟨⟨?_,by decide,by decide⟩,?_,trivial⟩
  · simp [World.opened]
  · exact List.mem_singleton.mpr rfl

theorem pageTrace_closed (breaks : Nat → U64) (stats : U64) :
    Closed breaks (exec (World.step 16) (World.opened breaks stats) pageTrace) :=
  ⟨rfl,rfl,rfl⟩

theorem wide_pages_unbalanced : ¬ ∀ (pageShift : Nat) (breaks : Nat → U64) (stats : U64)
    (trace : List Traced),
    Along (World.step pageShift) (Legal pageShift) (World.opened breaks stats) trace →
    Closed breaks (exec (World.step pageShift) (World.opened breaks stats) trace) →
    Balanced (exec (World.step pageShift) (World.opened breaks stats) trace) := by
  intro h
  have hsame := h 16 (fun _ => 0) 0 pageTrace (pageTrace_legal _ _) (pageTrace_closed _ _)
  exact absurd hsame (by unfold Balanced; decide)

end Uroam.Probes
