import Mathlib.Data.List.Nodup
import Mathlib.Logic.Function.Basic
import Uroam.Library.Runs

namespace Uroam.Service.Ipc
open Runs

inductive AcceptPoint where
  | unspawned
  | accept
  | testRunning (conn : Nat)
  | handle (conn : Nat)
  | closing (conn : Nat)
  | ended
  deriving DecidableEq, Repr

structure Listener where
  point : AcceptPoint
  backlog : List Nat
  opened : List Nat
  served : List (Nat × Bool)
  deriving DecidableEq, Repr

def Listener.new : Listener := ⟨.unspawned,[],[],[]⟩

def AcceptPoint.inHand : AcceptPoint → List Nat
  | .testRunning conn => [conn]
  | .handle conn => [conn]
  | .closing conn => [conn]
  | _ => []

inductive Owner where
  | idle
  | removeStale
  | bind
  | setRunning (i : Nat)
  | spawn (i : Nat)
  | clearRunning
  | removeFile
  deriving DecidableEq, Repr

structure IpcServer where
  owner : Owner
  running : Bool
  path : Option Nat
  bound : Nat
  listeners : Nat → Listener
  clients : Nat
  ready : Nat → Bool

def IpcServer.new : IpcServer := ⟨.idle,false,none,0,fun _ => .new,0,fun _ => false⟩

-- A client speaks when it sends a command other than Shutdown, or hangs up.
inductive Turn where
  | start
  | stop
  | owner (granted : Bool)
  | connect
  | speak (conn : Nat)
  | thread (i : Nat)
  deriving DecidableEq, Repr

def IpcServer.set (s : IpcServer) (i : Nat) (l : Listener) : IpcServer :=
  { s with listeners := Function.update s.listeners i l }

def IpcServer.removeFile (s : IpcServer) (granted : Bool) : IpcServer :=
  if granted then { s with path := none } else s

-- The next call of start or of stop. bind is refused where the file is still there.
def IpcServer.ownerTurn (s : IpcServer) (granted : Bool) : IpcServer :=
  match s.owner with
  | .idle => s
  | .removeStale => { s.removeFile granted with owner := .bind }
  | .bind =>
    if granted ∧ s.path = none then
      { s with path := some s.bound, bound := s.bound + 1, owner := .setRunning s.bound }
    else { s with owner := .idle }
  | .setRunning i => { s with running := true, owner := .spawn i }
  | .spawn i => { s.set i { s.listeners i with point := .accept } with owner := .idle }
  | .clearRunning => { s with running := false, owner := .removeFile }
  | .removeFile => { s.removeFile granted with owner := .idle }

def Listener.connect (l : Listener) (conn : Nat) : Listener :=
  if l.point = .ended then l
  else { l with backlog := l.backlog ++ [conn], opened := l.opened ++ [conn] }

-- handle_client reads until its client has spoken. A thread that leaves its loop drops the socket,
-- and with it what still waits there.
def Listener.thread (running : Bool) (ready : Nat → Bool) (l : Listener) : Listener :=
  match l.point with
  | .accept =>
    match l.backlog with
    | [] => l
    | conn :: rest => { l with point := .testRunning conn, backlog := rest }
  | .testRunning conn => { l with point := if running then .handle conn else .closing conn }
  | .handle conn =>
    if ready conn then { l with point := .accept, served := l.served ++ [(conn,true)] } else l
  | .closing conn =>
    { l with
      point := .ended
      backlog := []
      served := l.served ++ [(conn,false)] ++ l.backlog.map fun conn => (conn,false) }
  | .unspawned => l
  | .ended => l

def IpcServer.step (s : IpcServer) : Turn → IpcServer
  | .start => if s.owner = .idle then { s with owner := .removeStale } else s
  | .stop => if s.owner = .idle then { s with owner := .clearRunning } else s
  | .owner granted => s.ownerTurn granted
  | .connect =>
    match s.path with
    | none => s
    | some i => { s.set i ((s.listeners i).connect s.clients) with clients := s.clients + 1 }
  | .speak conn => { s with ready := Function.update s.ready conn true }
  | .thread i => s.set i ((s.listeners i).thread s.running s.ready)

structure Listener.Sound (clients : Nat) (l : Listener) : Prop where
  order : l.opened = l.served.map Prod.fst ++ l.point.inHand ++ l.backlog
  sorted : l.opened.Pairwise (· < ·)
  known : ∀ conn ∈ l.opened, conn < clients

def AcceptPoint.Serving : AcceptPoint → Prop
  | .accept => True
  | .testRunning _ => True
  | .handle _ => True
  | _ => False

def IpcServer.Attended (s : IpcServer) : Prop :=
  ∀ i, s.path = some i → s.running = true ∧ (s.listeners i).point.Serving

def IpcServer.Answers (s : IpcServer) : Prop := s.owner = .idle → s.Attended

def Unlinks (s : IpcServer) (t : Turn) : Prop :=
  s.owner = .removeFile → t = .owner false → s.path = none

variable {s : IpcServer} {l : Listener}

theorem new_listener_sound (clients : Nat) : Listener.new.Sound clients :=
  ⟨rfl,List.Pairwise.nil,fun _ h => by cases h⟩

theorem Listener.Sound.later {n m : Nat} (h : l.Sound n) (hle : n ≤ m) : l.Sound m :=
  { h with known := fun conn hc => Nat.lt_of_lt_of_le (h.known conn hc) hle }

theorem connect_sound {n : Nat} (h : l.Sound n) : (l.connect n).Sound (n + 1) := by
  unfold Listener.connect
  split
  · exact h.later (Nat.le_succ n)
  · refine ⟨?_,?_,?_⟩
    · simp only [h.order,List.append_assoc]
    · simp only [List.pairwise_append,List.pairwise_singleton,List.mem_singleton]
      exact ⟨h.sorted,trivial,fun a ha b hb => hb ▸ h.known a ha⟩
    · intro conn hc
      rcases List.mem_append.mp hc with hc | hc
      · exact Nat.lt_succ_of_lt (h.known conn hc)
      · exact List.mem_singleton.mp hc ▸ Nat.lt_succ_self n

theorem thread_opened (running : Bool) (ready : Nat → Bool) :
    (l.thread running ready).opened = l.opened := by
  unfold Listener.thread
  split
  · split <;> rfl
  · rfl
  · split <;> rfl
  all_goals rfl

theorem thread_sound {n : Nat} (h : l.Sound n) (running : Bool) (ready : Nat → Bool) :
    (l.thread running ready).Sound n := by
  have horder : (l.thread running ready).opened = (l.thread running ready).served.map Prod.fst ++
      (l.thread running ready).point.inHand ++ (l.thread running ready).backlog := by
    rw [thread_opened,h.order]
    unfold Listener.thread
    cases hp : l.point with
    | accept => cases hb : l.backlog <;> simp [hp,hb,AcceptPoint.inHand]
    | testRunning conn => cases running <;> simp [AcceptPoint.inHand]
    | handle conn => cases hr : ready conn <;> simp [hp,hr,AcceptPoint.inHand]
    | closing conn => simp [AcceptPoint.inHand,Function.comp_def]
    | unspawned => simp [hp]
    | ended => simp [hp]
  refine ⟨horder,?_,?_⟩
  · rw [thread_opened]
    exact h.sorted
  · rw [thread_opened]
    exact h.known

def Staged (s : IpcServer) : Prop :=
  match s.owner with
  | .setRunning i => s.path = some i ∧ (s.listeners i).point = .unspawned
  | .spawn i => s.path = some i ∧ (s.listeners i).point = .unspawned
  | .removeFile => s.running = false
  | _ => True

structure Good (s : IpcServer) : Prop where
  listeners : ∀ i, (s.listeners i).Sound s.clients
  fresh : ∀ i, s.bound ≤ i → s.listeners i = .new
  path : ∀ i, s.path = some i → i < s.bound
  staged : Staged s

theorem new_good : Good .new where
  listeners := fun _ => new_listener_sound 0
  fresh := fun _ _ => rfl
  path := fun _ h => by cases h
  staged := trivial

theorem set_listener (i j : Nat) (l : Listener) :
    (s.set i l).listeners j = if j = i then l else s.listeners j := by
  simp [IpcServer.set,Function.update_apply]

theorem set_sound {n : Nat} {i : Nat} {l : Listener} (hl : l.Sound n)
    (h : ∀ i, (s.listeners i).Sound n) (j : Nat) : ((s.set i l).listeners j).Sound n := by
  rw [set_listener]
  split
  · exact hl
  · exact h j

theorem set_fresh {i : Nat} {l : Listener} (hi : i < s.bound)
    (h : ∀ i, s.bound ≤ i → s.listeners i = .new) (j : Nat) (hj : s.bound ≤ j) :
    (s.set i l).listeners j = .new := by
  rw [set_listener,if_neg (by omega)]
  exact h j hj

theorem thread_serving (h : l.point.Serving) (ready : Nat → Bool) :
    (l.thread true ready).point.Serving := by
  unfold Listener.thread
  cases hp : l.point with
  | accept => cases hb : l.backlog <;> simp [AcceptPoint.Serving,hp]
  | testRunning conn => trivial
  | handle conn => cases hr : ready conn <;> simp [AcceptPoint.Serving,hp,hr]
  | closing conn => simp [AcceptPoint.Serving,hp] at h
  | unspawned => simp [AcceptPoint.Serving,hp] at h
  | ended => simp [AcceptPoint.Serving,hp] at h

theorem thread_unspawned (h : l.point = .unspawned) (running : Bool) (ready : Nat → Bool) :
    l.thread running ready = l := by
  simp [Listener.thread,h]

theorem connect_point (conn : Nat) : (l.connect conn).point = l.point := by
  unfold Listener.connect
  split <;> rfl

theorem turn_point (i j : Nat) {l : Listener} {P : AcceptPoint → Prop}
    (h : P (s.listeners j).point) (hl : P (s.listeners i).point → P l.point) :
    P ((s.set i l).listeners j).point := by
  rw [set_listener]
  split
  · rename_i hij
    exact hl (hij ▸ h)
  · exact h

theorem staged_kept {t : IpcServer} (h : Staged s) (howner : t.owner = s.owner)
    (hpath : t.path = s.path) (hrunning : t.running = s.running)
    (hunspawned : ∀ i, (s.listeners i).point = .unspawned → (t.listeners i).point = .unspawned) :
    Staged t := by
  unfold Staged at h ⊢
  rw [howner]
  cases ho : s.owner with
  | setRunning i =>
    simp only [ho] at h ⊢
    exact ⟨hpath.trans h.1,hunspawned i h.2⟩
  | spawn i =>
    simp only [ho] at h ⊢
    exact ⟨hpath.trans h.1,hunspawned i h.2⟩
  | removeFile =>
    simp only [ho] at h ⊢
    exact hrunning.trans h
  | _ => trivial

theorem thread_good (h : Good s) (i : Nat) : Good (s.step (.thread i)) where
  listeners := set_sound (thread_sound (h.listeners i) s.running s.ready) h.listeners
  fresh := by
    intro j hj
    rw [IpcServer.step,set_listener]
    split
    · rename_i hij
      rw [← hij,h.fresh j hj]
      rfl
    · exact h.fresh j hj
  path := h.path
  staged := by
    refine staged_kept h.staged rfl rfl rfl fun j hj => ?_
    refine turn_point i j (P := (· = .unspawned)) hj fun hi => ?_
    rw [thread_unspawned hi]
    exact hi

theorem connect_good (h : Good s) : Good (s.step .connect) := by
  simp only [IpcServer.step]
  split
  · exact h
  · rename_i i hi
    have hlater : ∀ j, (s.listeners j).Sound (s.clients + 1) := fun j =>
      (h.listeners j).later (Nat.le_succ _)
    refine ⟨?_,?_,h.path,?_⟩
    · exact set_sound (connect_sound (h.listeners i)) hlater
    · exact set_fresh (h.path i hi) h.fresh
    · refine staged_kept h.staged rfl rfl rfl fun j hj => ?_
      exact turn_point i j (P := (· = .unspawned)) hj fun hi => (connect_point _).trans hi

theorem removeFile_path {i : Nat} {granted : Bool} (h : (s.removeFile granted).path = some i) :
    s.path = some i := by
  cases granted with
  | true => cases h
  | false => exact h

theorem owner_good (h : Good s) (granted : Bool) : Good (s.step (.owner granted)) := by
  have hstaged := h.staged
  unfold Staged at hstaged
  have hremoved : ∀ i, (s.removeFile granted).path = some i → i < s.bound :=
    fun i hi => h.path i (removeFile_path hi)
  simp only [IpcServer.step,IpcServer.ownerTurn]
  cases ho : s.owner with
  | idle => exact h
  | removeStale =>
    cases granted <;> exact { h with path := hremoved, staged := trivial }
  | bind =>
    dsimp only
    split_ifs
    · exact { h with
        fresh := fun i hi => h.fresh i (Nat.le_of_succ_le hi)
        path := fun i hi => by cases hi; exact Nat.lt_succ_self _
        staged := ⟨rfl,congrArg Listener.point (h.fresh s.bound (Nat.le_refl _))⟩ }
    · exact { h with staged := trivial }
  | setRunning i =>
    simp only [ho] at hstaged
    exact { h with staged := hstaged }
  | spawn i =>
    simp only [ho] at hstaged
    have hsound := h.listeners i
    have horder := hsound.order
    rw [hstaged.2] at horder
    have hspawned : ({ s.listeners i with point := .accept } : Listener).Sound s.clients :=
      { hsound with order := horder }
    exact ⟨set_sound hspawned h.listeners,set_fresh (h.path i hstaged.1) h.fresh,h.path,trivial⟩
  | clearRunning => exact { h with staged := rfl }
  | removeFile =>
    cases granted <;> exact { h with path := hremoved, staged := trivial }

theorem step_good (h : Good s) (t : Turn) : Good (s.step t) := by
  cases t with
  | start =>
    simp only [IpcServer.step]
    split
    · exact { h with staged := trivial }
    · exact h
  | stop =>
    simp only [IpcServer.step]
    split
    · exact { h with staged := trivial }
    · exact h
  | owner granted => exact owner_good h granted
  | connect => exact connect_good h
  | speak conn => exact { h with }
  | thread i => exact thread_good h i

def Minded (s : IpcServer) : Prop :=
  match s.owner with
  | .setRunning _ => True
  | .spawn _ => s.running = true
  | .removeFile => True
  | _ => s.Attended

theorem minded_kept {t : IpcServer} (h : Minded s) (howner : t.owner = s.owner)
    (hpath : t.path = s.path) (hrunning : t.running = s.running)
    (hserving : ∀ i, s.running = true → (s.listeners i).point.Serving →
      (t.listeners i).point.Serving) : Minded t := by
  have hattended : s.Attended → t.Attended := by
    intro ha i hi
    rw [hpath] at hi
    obtain ⟨hr,hs⟩ := ha i hi
    exact ⟨hrunning ▸ hr,hserving i hr hs⟩
  unfold Minded at h ⊢
  rw [howner]
  cases ho : s.owner with
  | setRunning i => trivial
  | spawn i =>
    simp only [ho] at h ⊢
    exact hrunning.trans h
  | removeFile => trivial
  | _ =>
    simp only [ho] at h ⊢
    exact hattended h

theorem owner_minded (hg : Good s) (h : Minded s) {granted : Bool} (hu : Unlinks s (.owner granted)) :
    Minded (s.step (.owner granted)) := by
  have hstaged := hg.staged
  unfold Staged at hstaged
  unfold Minded at h
  have hremoved : s.Attended → (s.removeFile granted).Attended := by
    intro ha i hi
    cases granted with
    | true => cases hi
    | false => exact ha i hi
  simp only [IpcServer.step,IpcServer.ownerTurn]
  cases ho : s.owner with
  | idle =>
    simp only [ho] at h
    simpa only [Minded,ho] using h
  | removeStale =>
    simp only [ho] at h
    exact hremoved h
  | bind =>
    simp only [ho] at h
    dsimp only
    split_ifs
    · trivial
    · exact h
  | setRunning i => rfl
  | spawn i =>
    simp only [ho] at h hstaged
    intro j hj
    obtain rfl : i = j := Option.some.inj (hstaged.1.symm.trans hj)
    refine ⟨h,?_⟩
    show ((s.set i _).listeners i).point.Serving
    rw [set_listener,if_pos rfl]
    trivial
  | clearRunning => trivial
  | removeFile =>
    intro i hi
    cases granted with
    | true => cases hi
    | false => cases (hu ho rfl).symm.trans (show s.path = some i from hi)

theorem step_minded (hg : Good s) (h : Minded s) {t : Turn} (hu : Unlinks s t) :
    Minded (s.step t) := by
  cases t with
  | start =>
    simp only [IpcServer.step]
    split
    · rename_i ho
      simp only [Minded,ho] at h
      exact h
    · exact h
  | stop =>
    simp only [IpcServer.step]
    split
    · rename_i ho
      simp only [Minded,ho] at h
      exact h
    · exact h
  | owner granted => exact owner_minded hg h hu
  | connect =>
    simp only [IpcServer.step]
    split
    · exact h
    · rename_i i hi
      refine minded_kept h rfl rfl rfl fun j _ hj => ?_
      exact turn_point i j hj fun hi => (connect_point _).symm ▸ hi
  | speak conn => exact minded_kept h rfl rfl rfl fun _ _ hj => hj
  | thread i =>
    refine minded_kept h rfl rfl rfl fun j hr hj => ?_
    refine turn_point i j hj fun hi => ?_
    rw [hr]
    exact thread_serving hi s.ready

theorem unlinks_of_answers (hg : Good s) {t : Turn} (h : (s.step t).Answers) : Unlinks s t := by
  rintro ho rfl
  cases hp : s.path with
  | none => rfl
  | some i =>
    have hrunning : s.running = false := by
      have hstaged := hg.staged
      simpa only [Staged,ho] using hstaged
    simp only [IpcServer.step,IpcServer.ownerTurn,ho] at h
    have hup : s.running = true := (h rfl i hp).1
    exact absurd (hup.symm.trans hrunning) (by decide)

theorem answers_iff (turns : List Turn) :
    Throughout IpcServer.step IpcServer.Answers .new turns ↔ Along IpcServer.step Unlinks .new turns := by
  have hexact := exact_condition IpcServer.step (G := fun s => Good s ∧ Minded s)
    (P := IpcServer.Answers) (Q := fun _ _ => True) (C := Unlinks) (E := fun _ _ => True)
    (fun s hg ho => by
      have hminded := hg.2
      simpa only [Minded,ho] using hminded)
    (fun s t hg _ hu => ⟨⟨step_good hg.1 t,step_minded hg.1 hg.2 hu⟩,trivial⟩)
    (fun s t hg _ hp _ => unlinks_of_answers hg.1 hp) turns .new
    ⟨new_good,fun i hi => by cases hi⟩ (along_true IpcServer.step turns .new)
  rw [← hexact,and_iff_left (along_true IpcServer.step turns .new)]

end Uroam.Service.Ipc
