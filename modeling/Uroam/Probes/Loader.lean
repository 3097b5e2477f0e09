import Uroam.Aal.Detect
import Uroam.Library.Settings
import Uroam.Library.Slots
import Uroam.Library.Tally

namespace Uroam.Probes.Ebpf
open Runs Tally Slots Settings Aal

structure BpfFile where
  opens : Bool
  loads : Bool
  programs : List Int
  uroamEvents : Int
  uroamStats : Int
  deriving DecidableEq, Repr

structure EbpfContext where
  obj : Slots.Slot
  file : BpfFile
  mapFd : Int
  progFd : Int
  deriving DecidableEq, Repr

structure Loader where
  ctx : EbpfContext
  running : Bool
  deriving DecidableEq, Repr

def noFile : BpfFile := ⟨false,false,[],-1,-1⟩

def Loader.loaded : Loader := ⟨⟨.empty,noFile,0,0⟩,false⟩

def EbpfContext.memset (ctx : EbpfContext) : EbpfContext :=
  { ctx with obj := ctx.obj.clear, mapFd := 0, progFd := 0 }

-- The loop leaves the first positive descriptor, or the last one where none is positive.
def programFd (before : Int) : List Int → Int
  | [] => before
  | fd :: fds => if 0 < fd then fd else programFd fd fds

def BpfFile.mapFd (file : BpfFile) : Int :=
  if file.uroamEvents < 0 then file.uroamStats else file.uroamEvents

def ebpfLoadObject (file : BpfFile) (ctx : EbpfContext) : Int × EbpfContext :=
  if file.opens then
    let opened := { ctx with obj := ctx.obj.fill, file }
    if file.loads then
      (0,{ opened with
        progFd := programFd ctx.progFd file.programs
        mapFd := file.mapFd })
    else (-1,{ opened with obj := opened.obj.free })
  else (-1,{ ctx with obj := ctx.obj.clear })

def ebpfInit (file : BpfFile) (l : Loader) : Int × Loader :=
  let done := ebpfLoadObject file l.ctx.memset
  (if done.1 = 0 then 0 else -1,{ l with ctx := done.2 })

def ebpfAttach (l : Loader) : Int × Loader :=
  if l.ctx.obj.held = none then (-1,l) else (0,{ l with running := true })

def ebpfStartMonitoring (l : Loader) : Int × Loader :=
  if l.ctx.obj.held = none then (-1,l) else (0,{ l with running := true })

def ebpfStopMonitoring (l : Loader) : Loader := { l with running := false }

def ebpfShutdown (l : Loader) : Loader :=
  let stopped := ebpfStopMonitoring l
  let ctx := { stopped.ctx with obj := stopped.ctx.obj.free }
  { stopped with ctx := ctx.memset }

def ebpfGetStats (lookup : Int × Nat) (totalAlloc : Option Nat) (l : Loader) : Int × Option Nat :=
  if l.ctx.obj.held = none then (-1,totalAlloc)
  else if l.ctx.file.uroamStats < 0 then (-1,totalAlloc)
  else (lookup.1,if lookup.1 = 0 then totalAlloc.map fun _ => lookup.2 else totalAlloc)

def ebpfSetFilterPid (l : Loader) : Int := if l.ctx.obj.held = none then -1 else 0

inductive Call where
  | init (file : BpfFile)
  | attach
  | startMonitoring
  | stopMonitoring
  | shutdown
  deriving DecidableEq, Repr

def Loader.call (l : Loader) : Call → Loader
  | .init file => (ebpfInit file l).2
  | .attach => (ebpfAttach l).2
  | .startMonitoring => (ebpfStartMonitoring l).2
  | .stopMonitoring => ebpfStopMonitoring l
  | .shutdown => ebpfShutdown l

def overwritten (l : Loader) : Call → Nat
  | .init _ => l.ctx.obj.count
  | _ => 0

def BpfFile.good (file : BpfFile) : Bool := file.opens && file.loads

def Monitors (l : Loader) : Prop := l.running = true → l.ctx.obj.held ≠ none

def KeepsObject (l : Loader) : Call → Prop
  | .init file => l.running = true → file.good = true
  | _ => True

variable {l : Loader}

theorem memset_none (ctx : EbpfContext) : ctx.memset.obj.held = none := rfl

theorem load_accounted {ctx : EbpfContext} (h : ctx.obj.Accounted) (file : BpfFile) :
    (ebpfLoadObject file ctx).2.obj.Accounted := by
  unfold ebpfLoadObject
  split_ifs
  · exact Slot.fill_accounted h
  · exact Slot.free_accounted (Slot.fill_accounted h)
  · exact Slot.clear_accounted h

theorem load_held {ctx : EbpfContext} (file : BpfFile) :
    (ebpfLoadObject file ctx).2.obj.held ≠ none ↔ file.good = true := by
  unfold ebpfLoadObject BpfFile.good
  split_ifs with ho hl
  · simp [ho,hl]
  · simp [hl]
  · simp [ho]

theorem load_lost {ctx : EbpfContext} (h : ctx.obj.held = none) (file : BpfFile) :
    (ebpfLoadObject file ctx).2.obj.lost = ctx.obj.lost := by
  unfold ebpfLoadObject
  split_ifs <;> simp [Slot.fill,Slot.free,Slot.clear,h]

theorem shutdown_obj (l : Loader) : (ebpfShutdown l).ctx.obj = l.ctx.obj.free := by
  simp [ebpfShutdown,ebpfStopMonitoring,EbpfContext.memset,Slot.clear,Slot.free]

theorem call_accounted (h : l.ctx.obj.Accounted) (c : Call) : (l.call c).ctx.obj.Accounted := by
  cases c with
  | init file => exact load_accounted (Slot.clear_accounted h) file
  | attach =>
    simp only [Loader.call,ebpfAttach]
    split_ifs <;> exact h
  | startMonitoring =>
    simp only [Loader.call,ebpfStartMonitoring]
    split_ifs <;> exact h
  | stopMonitoring => exact h
  | shutdown =>
    rw [Loader.call,shutdown_obj]
    exact Slot.free_accounted h

theorem call_lost (c : Call) :
    (l.call c).ctx.obj.lost.length = l.ctx.obj.lost.length + overwritten l c := by
  cases c with
  | init file =>
    have hload := load_lost (memset_none l.ctx) file
    simp only [Loader.call,ebpfInit,hload]
    simp [EbpfContext.memset,Slot.clear,overwritten,Slot.count]
  | attach =>
    simp only [Loader.call,ebpfAttach]
    split_ifs <;> rfl
  | startMonitoring =>
    simp only [Loader.call,ebpfStartMonitoring]
    split_ifs <;> rfl
  | stopMonitoring => rfl
  | shutdown =>
    rw [Loader.call,shutdown_obj]
    rfl

theorem call_monitors (h : Monitors l) (c : Call) : Monitors (l.call c) ↔ KeepsObject l c := by
  cases c with
  | init file => exact imp_congr_right fun _ => load_held file
  | attach =>
    simp only [Loader.call,ebpfAttach,KeepsObject,iff_true]
    split_ifs with hn
    · exact h
    · exact fun _ => hn
  | startMonitoring =>
    simp only [Loader.call,ebpfStartMonitoring,KeepsObject,iff_true]
    split_ifs with hn
    · exact h
    · exact fun _ => hn
  | stopMonitoring => exact iff_of_true (fun hr => absurd hr Bool.false_ne_true) trivial
  | shutdown => exact iff_of_true (fun hr => absurd hr Bool.false_ne_true) trivial

theorem objects_accounted (calls : List Call) :
    Throughout Loader.call (fun l => l.ctx.obj.Accounted) .loaded calls ∧
    (exec Loader.call .loaded calls).ctx.obj.lost.length =
      total Loader.call overwritten .loaded calls := by
  constructor
  · exact throughout_of_invariant Loader.call (G := fun l => l.ctx.obj.Accounted)
      (fun _ c h => call_accounted h c) (fun _ h => h) calls .loaded Slot.empty_accounted
  · have hlost := @accumulated _ _ Loader.call (fun _ _ => True) (fun l => l.ctx.obj.lost.length)
      overwritten (fun _ c _ => call_lost c) calls .loaded (along_true Loader.call calls .loaded)
    simpa [Loader.loaded,Slot.empty] using hlost

theorem running_monitors_iff (calls : List Call) :
    Throughout Loader.call Monitors .loaded calls ↔ Along Loader.call KeepsObject .loaded calls := by
  have hexact := exact_condition Loader.call (G := Monitors) (P := Monitors) (Q := fun _ _ => True)
    (C := KeepsObject) (E := fun _ _ => True) (fun _ h => h)
    (fun _ c h _ hc => ⟨(call_monitors h c).mpr hc,trivial⟩)
    (fun _ c h _ hp _ => (call_monitors h c).mp hp) calls .loaded
    (fun hr => absurd hr Bool.false_ne_true) (along_true Loader.call calls .loaded)
  rw [← hexact,and_iff_left (along_true Loader.call calls .loaded)]

def Call.Opens : Call → Prop
  | .init _ => True
  | _ => False

theorem call_closed (h : l.ctx.obj.held = none) {c : Call} (hc : ¬ c.Opens) :
    (l.call c).ctx.obj.held = none := by
  cases c with
  | init file => exact absurd trivial hc
  | attach =>
    rw [Loader.call,ebpfAttach,if_pos h]
    exact h
  | startMonitoring =>
    rw [Loader.call,ebpfStartMonitoring,if_pos h]
    exact h
  | stopMonitoring => exact h
  | shutdown =>
    rw [Loader.call,shutdown_obj]
    rfl

theorem refused_after_shutdown (calls later : List Call) (hlater : ∀ c ∈ later, ¬ c.Opens)
    (lookup : Int × Nat) (totalAlloc : Option Nat) :
    let l := exec Loader.call .loaded (calls ++ .shutdown :: later)
    ebpfGetStats lookup totalAlloc l = (-1,totalAlloc) ∧ ebpfSetFilterPid l = -1 ∧
      ebpfAttach l = (-1,l) ∧ ebpfStartMonitoring l = (-1,l) := by
  intro l
  have hshut : (ebpfShutdown (exec Loader.call .loaded calls)).ctx.obj.held = none := by
    rw [shutdown_obj]
    rfl
  have hclosed : l.ctx.obj.held = none := by
    change (exec Loader.call .loaded (calls ++ .shutdown :: later)).ctx.obj.held = none
    rw [exec_append,exec_cons]
    exact invariant Loader.call (I := fun l => l.ctx.obj.held = none)
      (E := fun _ c => ¬ c.Opens) (fun _ _ h hc => call_closed h hc) later _ hshut
      ((along_forall Loader.call _ later _).mpr hlater)
  exact ⟨if_pos hclosed,if_pos hclosed,if_pos hclosed,if_pos hclosed⟩

def nul : Char := Char.ofNat 0

abbrev CText := { text : List Char // nul ∉ text }

def strncpy (dest : List Char) (src : CText) (n : ℕ) : List Char :=
  let copied := src.val.take n
  copied ++ List.replicate (n - copied.length) nul ++ dest.drop n

def objPathSize : ℕ := 256

structure PathSound (path : List Char) : Prop where
  length : path.length = objPathSize
  terminated : path.drop (objPathSize - 1) = [nul]

abbrev PathArray := { path : List Char // PathSound path }

theorem cString_padded {text : List Char} (h : nul ∉ text) (rest : List Char) :
    cString (text ++ nul :: rest) = text := by
  induction text with
  | nil => rfl
  | cons c text ih =>
    rw [List.mem_cons,not_or] at h
    have hne : c ≠ Char.ofNat 0 := fun he => h.1 he.symm
    rw [List.cons_append,cString,List.takeWhile_cons_of_pos (by simpa using hne)]
    exact congrArg (c :: ·) (ih h.2)

theorem strncpy_path {path : List Char} (h : PathSound path) (value : CText) :
    strncpy path value (objPathSize - 1) =
      value.val.take (objPathSize - 1) ++
        nul :: List.replicate (objPathSize - 1 - (value.val.take (objPathSize - 1)).length) nul := by
  rw [strncpy,h.terminated,List.append_assoc,← List.replicate_succ',List.replicate_succ]

theorem strncpy_sound {path : List Char} (h : PathSound path) (value : CText) :
    PathSound (strncpy path value (objPathSize - 1)) where
  length := by
    rw [strncpy_path h]
    simp only [List.length_append,List.length_cons,List.length_replicate,List.length_take,
      objPathSize]
    omega
  terminated := by
    have hlength : (value.val.take (objPathSize - 1) ++ List.replicate
        (objPathSize - 1 - (value.val.take (objPathSize - 1)).length) nul).length =
          objPathSize - 1 := by
      simp only [List.length_append,List.length_replicate,List.length_take]
      omega
    rw [strncpy,h.terminated]
    exact List.drop_left' hlength

def PathArray.strncpy (path : PathArray) (value : CText) : PathArray :=
  ⟨Ebpf.strncpy path.val value (objPathSize - 1),strncpy_sound path.property value⟩

theorem PathArray.strncpy_text (path : PathArray) (value : CText) :
    cString (path.strncpy value).val = value.val.take (objPathSize - 1) := by
  have hno : nul ∉ value.val.take (objPathSize - 1) := fun h => value.property (List.mem_of_mem_take h)
  exact (congrArg cString (strncpy_path path.property value)).trans (cString_padded hno _)

structure EbpfConfig where
  objPath : PathArray
  verbose : Bool
  polling : Bool
  sampleRate : U32

def zeroPath : PathArray :=
  ⟨List.replicate objPathSize nul,List.length_replicate,List.drop_replicate⟩

def defaultPath : CText := ⟨"./uroam.bpf.o".toList,by decide⟩

def EbpfConfig.static : EbpfConfig := ⟨zeroPath.strncpy defaultPath,false,false,1⟩

def flagText (value : CText) : Bool := value.val = ['1'] || value.val = "true".toList

def ebpfSetConfig (config : EbpfConfig) (pair : CText × CText) : EbpfConfig :=
  let (key,value) := pair
  if key.val = "obj_path".toList then { config with objPath := config.objPath.strncpy value }
  else if key.val = "verbose".toList then { config with verbose := flagText value }
  else if key.val = "polling".toList then { config with polling := flagText value }
  else if key.val = "sample_rate".toList then { config with sampleRate := atoi value.val }
  else config

def valueOf (key : String) (pair : CText × CText) : Option CText :=
  if pair.1.val = key.toList then some pair.2 else none

theorem last_field {B : Type} (field : EbpfConfig → B) (key : String) (read : CText → B)
    (h : ∀ config pair, field (ebpfSetConfig config pair) =
      ((valueOf key pair).map read).getD (field config)) (pairs : List (CText × CText))
    (config : EbpfConfig) : field (pairs.foldl ebpfSetConfig config) =
      ((lastSome (valueOf key) pairs).map read).getD (field config) := by
  rw [foldl_field h,lastSome_value]

theorem config_last (pairs : List (CText × CText)) (config : EbpfConfig) :
    let last := fun key => lastSome (valueOf key) pairs
    let final := pairs.foldl ebpfSetConfig config
    cString final.objPath.val =
      ((last "obj_path").map fun value => value.val.take (objPathSize - 1)).getD
        (cString config.objPath.val) ∧
    final.verbose = ((last "verbose").map flagText).getD config.verbose ∧
    final.polling = ((last "polling").map flagText).getD config.polling ∧
    final.sampleRate = ((last "sample_rate").map fun value => atoi value.val).getD
      config.sampleRate := by
  refine ⟨?_,?_,?_,?_⟩
  · refine last_field (fun c => cString c.objPath.val) "obj_path" _ (fun c pair => ?_) pairs config
    unfold ebpfSetConfig valueOf
    dsimp only
    split_ifs
    · exact c.objPath.strncpy_text pair.2
    all_goals rfl
  · refine last_field EbpfConfig.verbose "verbose" _ (fun c pair => ?_) pairs config
    unfold ebpfSetConfig valueOf
    dsimp only
    split_ifs <;> first | rfl | simp_all
  · refine last_field EbpfConfig.polling "polling" _ (fun c pair => ?_) pairs config
    unfold ebpfSetConfig valueOf
    dsimp only
    split_ifs <;> first | rfl | simp_all
  · refine last_field EbpfConfig.sampleRate "sample_rate" _ (fun c pair => ?_) pairs config
    unfold ebpfSetConfig valueOf
    dsimp only
    split_ifs <;> first | rfl | simp_all

end Uroam.Probes.Ebpf
