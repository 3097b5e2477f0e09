import Uroam.Library.Layout
import Uroam.Probes.Balance

namespace Uroam.Probes
open Runs ByteOrder Layout

def taskCommLen : ℕ := 16

def commBytes (comm : List UInt8) : List Byte := comm.map UInt8.toBitVec

def commOf (bs : List Byte) : List UInt8 := bs.map UInt8.ofBitVec

def allocEventFields : List Field :=
  [word 8,word 4,word 4,word 4,word 8,word 8,word 4,word 8,packed taskCommLen]

def allocEventTFields : List Field :=
  [word 8,word 4,word 4,word 4,word 8,word 8,word 4,word 8,packed 16]

def AllocEvent.values (evt : AllocEvent) : List (List Byte) :=
  [wordBytes evt.timestamp,wordBytes evt.pid,wordBytes evt.tid,wordBytes evt.type,
    wordBytes evt.size,wordBytes evt.gfpFlags,wordBytes evt.numaNode,wordBytes evt.addr,
    commBytes evt.comm]

def AllocEvent.record (evt : AllocEvent) : List Byte := encode allocEventFields evt.values

def allocEventT (data : List Byte) : AllocEvent :=
  match decode allocEventTFields data with
  | [timestamp,pid,tid,type,size,gfpFlags,numaNode,addr,comm] =>
    ⟨join 64 timestamp,join 32 pid,join 32 tid,join 32 type,join 64 size,join 64 gfpFlags,
      join 32 numaNode,join 64 addr,commOf comm⟩
  | _ => .zero

structure PrintedEvent where
  milliseconds : U64
  type : String
  pid : U32
  tid : U32
  kilobytes : U64
  gfp : U64
  comm : List UInt8
  deriving DecidableEq, Repr

def printAllocEvent (evt : AllocEvent) : PrintedEvent where
  milliseconds := evt.timestamp / 1000000
  type := if evt.type = uroamAlloc then "ALLOC" else "FREE"
  pid := evt.pid
  tid := evt.tid
  kilobytes := evt.size / 1024
  gfp := evt.gfpFlags
  comm := evt.comm.takeWhile (· ≠ 0)

def perfEventReadCb (data : List Byte) : Int × Option PrintedEvent :=
  if data.length < totalSize allocEventTFields then (-1,none)
  else (0,some (printAllocEvent (allocEventT data)))

def AllocEvent.Whole (evt : AllocEvent) : Prop := evt.comm.length = taskCommLen

theorem commOf_commBytes (comm : List UInt8) : commOf (commBytes comm) = comm := by
  have hbyte : UInt8.ofBitVec ∘ UInt8.toBitVec = id := rfl
  rw [commOf,commBytes,List.map_map,hbyte,List.map_id]

theorem event_fits {evt : AllocEvent} (h : evt.Whole) : Fits allocEventFields evt.values := by
  have hcomm : (commBytes evt.comm).length = taskCommLen := List.length_map _ |>.trans h
  simp [allocEventFields,AllocEvent.values,word,packed,hcomm]

theorem record_read {evt : AllocEvent} (h : evt.Whole) (pad : List Byte) :
    allocEventT (evt.record ++ pad) = evt := by
  have hdecode : decode allocEventTFields (evt.record ++ pad) = evt.values :=
    decode_encode (event_fits h) pad
  simp only [allocEventT,hdecode,AllocEvent.values]
  simp only [join_wordBytes,commOf_commBytes]

theorem record_printed {evt : AllocEvent} (h : evt.Whole) (pad : List Byte) :
    perfEventReadCb (evt.record ++ pad) = (0,some (printAllocEvent evt)) := by
  have hlength : evt.record.length = totalSize allocEventTFields := encode_length (event_fits h)
  rw [perfEventReadCb,if_neg (by simp [hlength]),record_read h]

theorem step_events (pageShift : Nat) (w : World) (t : Traced) :
    (w.step pageShift t).maps.uroamEvents = w.maps.uroamEvents ∨
    ∃ evt, evt.comm = t.ctx.current.comm ∧
      (w.step pageShift t).maps.uroamEvents = w.maps.uroamEvents ++ [evt] := by
  unfold World.step
  cases t.call with
  | allocPages => exact .inr ⟨_,rfl,rfl⟩
  | freePages => exact .inr ⟨_,rfl,rfl⟩
  | cacheAlloc => exact .inr ⟨_,rfl,rfl⟩
  | cacheFree => exact .inr ⟨_,rfl,rfl⟩
  | mmap => exact .inr ⟨_,rfl,rfl⟩
  | brk brk granted =>
    dsimp only [uroamSysBrk]
    cases t.ctx.current.mm with
    | none => exact .inl rfl
    | some mm => exact .inr ⟨_,rfl,rfl⟩

theorem events_whole (pageShift : Nat) (trace : List Traced) (w : World)
    (hcomm : ∀ t ∈ trace, t.ctx.current.comm.length = taskCommLen)
    (hw : ∀ evt ∈ w.maps.uroamEvents, evt.Whole) :
    ∀ evt ∈ (exec (World.step pageShift) w trace).maps.uroamEvents, evt.Whole := by
  have hstep : ∀ (w : World) (t : Traced), (∀ evt ∈ w.maps.uroamEvents, evt.Whole) →
      t.ctx.current.comm.length = taskCommLen →
      ∀ evt ∈ (w.step pageShift t).maps.uroamEvents, evt.Whole := by
    intro w t hw ht
    rcases step_events pageShift w t with hs | ⟨evt,hevt,hs⟩
    · rw [hs]
      exact hw
    · rw [hs]
      intro e he
      rcases List.mem_append.mp he with he | he
      · exact hw e he
      · rw [List.mem_singleton.mp he,AllocEvent.Whole,hevt]
        exact ht
  exact invariant (World.step pageShift) hstep trace w hw
    ((along_forall (World.step pageShift) _ trace w).mpr hcomm)

theorem records_printed (pageShift : Nat) (breaks : Nat → U64) (stats : U64) (trace : List Traced)
    (hcomm : ∀ t ∈ trace, t.ctx.current.comm.length = taskCommLen) (pad : ℕ → List Byte) :
    let events := (exec (World.step pageShift) (.opened breaks stats) trace).maps.uroamEvents
    (events.mapIdx fun i evt => evt.record ++ pad i).map perfEventReadCb =
      events.map fun evt => (0,some (printAllocEvent evt)) := by
  intro events
  have hwhole : ∀ evt ∈ events, evt.Whole :=
    events_whole pageShift trace (.opened breaks stats) hcomm (fun _ he => by cases he)
  apply List.ext_getElem
  · simp
  · intro i _ _
    simp only [List.getElem_mapIdx,List.getElem_map]
    exact record_printed (hwhole _ (List.getElem_mem _)) (pad i)

def shellTask : Task := ⟨0x0000002a0000002b#64,[98,97,115,104,0,0,0,0,0,0,0,0,0,0,0,0],some 1⟩

def shellTrace : List Traced :=
  [⟨⟨shellTask,1⟩,.allocPages 0xcc0 0 (some 0xea00#64)⟩,⟨⟨shellTask,2⟩,.brk 0x5000 true⟩,
    ⟨⟨shellTask,3⟩,.mmap 0x10000⟩]

theorem records_printed_shell :
    let events := (exec (World.step 12) (.opened (fun _ => 0) 0) shellTrace).maps.uroamEvents
    (events.mapIdx fun i evt => evt.record ++ List.replicate i 0).map perfEventReadCb =
      events.map fun evt => (0,some (printAllocEvent evt)) :=
  records_printed 12 (fun _ => 0) 0 shellTrace (by decide) fun i => List.replicate i 0

end Uroam.Probes
