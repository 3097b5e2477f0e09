import Mathlib.Data.List.Nodup
import Uroam.Service.Ipc
import Uroam.Tuning.Engine

namespace Uroam.Service.Running
open Runs Tuning Ipc

inductive LoopPoint where
  | detect
  | writing (rest : List Write)
  | sleeping
  | returned
  deriving DecidableEq, Repr

structure Uroamd where
  classifier : Classifier
  point : LoopPoint
  store : Store
  exited : Bool

def Uroamd.start (init : Store) : Uroamd := ⟨Classifier.new,.detect,init,false⟩

inductive Turn where
  | loop (pass : Pass) (granted : Bool)
  | client (machine : Machine) (stream : List (List UInt8))
  | join

-- The error of a write to oom_score_adj is dropped.
def ignored : Write → Bool
  | .oomScoreAdj _ _ => true
  | _ => false

section Daemon

variable (serde : SerdeJson) (prim : Primitives) (cfg : Tuning.Config)

def Uroamd.detect (u : Uroamd) (pass : Pass) : Uroamd :=
  match u.classifier.detectSystemInfo pass.seen with
  | none => { u with point := .returned }
  | some detected =>
    match detected.scanProcesses prim pass.seen with
    | none => { u with classifier := detected.clear, point := .returned }
    | some scanned =>
      { u with
        classifier := scanned
        point := .writing (applyMode cfg scanned (scanned.mode prim pass.walk)) }

def Uroamd.loopTurn (u : Uroamd) (pass : Pass) (granted : Bool) : Uroamd :=
  match u.point with
  | .detect => u.detect prim cfg pass
  | .writing [] => { u with point := .sleeping }
  | .writing (w :: rest) =>
    if granted then { u with store := u.store.write [w], point := .writing rest }
    else if ignored w then { u with point := .writing rest }
    else { u with point := .returned }
  | .sleeping => { u with point := .detect }
  | .returned => u

def Uroamd.clientTurn (u : Uroamd) (handled : Handled) : Uroamd :=
  { u with store := u.store.write handled.written, exited := handled.exits }

def Uroamd.step (u : Uroamd) (t : Turn) : Uroamd :=
  if u.exited then u
  else
    match t with
    | .loop pass granted => u.loopTurn prim cfg pass granted
    | .client machine stream => u.clientTurn (handleClient serde machine stream)
    | .join =>
      match u.point with
      | .returned => { u with exited := true }
      | _ => u

def Turn.pass : Turn → Option Pass
  | .loop pass _ => some pass
  | _ => none

end Daemon

section Clients

variable (serde : SerdeJson)

end Clients

variable {serde : SerdeJson} {prim : Primitives} {cfg : Tuning.Config} {u : Uroamd}

section Passes

theorem write_concat (store : Store) (done : List Write) (w : Write) :
    store.write (done ++ [w]) = (store.write done).write [w] := List.foldl_append ..

end Passes

structure Midway (prim : Primitives) (cfg : Tuning.Config) (before : System) (pass : Pass)
    (store : Store) (rest : List Write) : Prop where
  writes : ∃ done, (runOptimizationPass prim cfg before.classifier pass).2 = done ++ rest ∧
    store = before.store.write done

theorem Midway.written {before : System} {pass : Pass} {store : Store} {w : Write}
    {rest : List Write} (h : Midway prim cfg before pass store (w :: rest)) :
    Midway prim cfg before pass (store.write [w]) rest := by
  obtain ⟨done,hwrites,rfl⟩ := h.writes
  refine ⟨done ++ [w],?_,(write_concat ..).symm⟩
  rw [hwrites,List.append_assoc,List.singleton_append]

def Uroamd.Settled (u : Uroamd) (s : System) : Prop := u.classifier = s.classifier ∧ u.store = s.store

variable {init : Store} {passes : List Pass}

end Uroam.Service.Running
