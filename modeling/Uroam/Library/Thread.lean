import Uroam.Library.Runs

namespace Thread
open Runs

inductive Event (L O : Type) where
  | acquire (lock : L)
  | release (lock : L)
  | op (action : O)
  deriving DecidableEq, Repr

inductive Stop where
  | deadlock
  | outOfFuel
  deriving DecidableEq, Repr

structure Ran (S L O α : Type) where
  result : Except Stop α
  state : S
  events : List (Event L O)

structure Code (S L O α : Type) where
  run : List L → S → Ran S L O α

variable {S L O α β : Type}

def unlock (l : L) : Code S L O Unit := ⟨fun _ s => ⟨.ok (),s,[.release l]⟩⟩

def emit (action : O) : Code S L O Unit := ⟨fun _ s => ⟨.ok (),s,[.op action]⟩⟩

def get : Code S L O S := ⟨fun _ s => ⟨.ok s,s,[]⟩⟩

def modify (f : S → S) : Code S L O Unit := ⟨fun _ s => ⟨.ok (),f s,[]⟩⟩

def exhausted : Code S L O α := ⟨fun _ s => ⟨.error .outOfFuel,s,[]⟩⟩

@[simp] theorem unlock_run (l : L) (held : List L) (s : S) :
    (unlock l : Code S L O Unit).run held s = ⟨.ok (),s,[.release l]⟩ := rfl

@[simp] theorem emit_run (action : O) (held : List L) (s : S) :
    (emit action : Code S L O Unit).run held s = ⟨.ok (),s,[.op action]⟩ := rfl

@[simp] theorem get_run (held : List L) (s : S) :
    (get : Code S L O S).run held s = ⟨.ok s,s,[]⟩ := rfl

@[simp] theorem modify_run (f : S → S) (held : List L) (s : S) :
    (modify f : Code S L O Unit).run held s = ⟨.ok (),f s,[]⟩ := rfl

@[simp] theorem exhausted_run (held : List L) (s : S) :
    (exhausted : Code S L O α).run held s = ⟨.error .outOfFuel,s,[]⟩ := rfl

variable [DecidableEq L]

def Event.after (held : List L) : Event L O → List L
  | .acquire lock => lock :: held
  | .release lock => held.erase lock
  | .op _ => held

@[simp] theorem after_acquire (held : List L) (lock : L) :
    Event.after held (.acquire lock : Event L O) = lock :: held := rfl

@[simp] theorem after_release (held : List L) (lock : L) :
    Event.after held (.release lock : Event L O) = held.erase lock := rfl

@[simp] theorem after_op (held : List L) (action : O) :
    Event.after held (.op action) = held := rfl

@[simp] theorem after_ops (held : List L) (ops : List O) :
    exec Event.after held (ops.map Event.op) = held := by
  induction ops with
  | nil => rfl
  | cons o ops ih => exact ih

def Ran.andThen (held : List L) (x : Ran S L O α) (f : α → Code S L O β) : Ran S L O β :=
  match x.result with
  | .error stop => ⟨.error stop,x.state,x.events⟩
  | .ok a =>
    let next := (f a).run (exec Event.after held x.events) x.state
    ⟨next.result,next.state,x.events ++ next.events⟩

instance : Monad (Code S L O) where
  pure a := ⟨fun _ s => ⟨.ok a,s,[]⟩⟩
  bind x f := ⟨fun held s => (x.run held s).andThen held f⟩

-- A thread that asks for a lock it holds waits for itself: the request is its last event.
def lock (l : L) : Code S L O Unit := ⟨fun held s =>
  if l ∈ held then ⟨.error .deadlock,s,[.acquire l]⟩ else ⟨.ok (),s,[.acquire l]⟩⟩

section Evaluation

variable (held : List L) (s : S)

@[simp] theorem pure_run (a : α) : (pure a : Code S L O α).run held s = ⟨.ok a,s,[]⟩ := rfl

@[simp] theorem bind_run (x : Code S L O α) (f : α → Code S L O β) :
    (x >>= f).run held s = (x.run held s).andThen held f := rfl

@[simp] theorem ok_andThen (a : α) (es : List (Event L O)) (f : α → Code S L O β) :
    (⟨.ok a,s,es⟩ : Ran S L O α).andThen held f =
      ⟨((f a).run (exec Event.after held es) s).result,((f a).run (exec Event.after held es) s).state,
        es ++ ((f a).run (exec Event.after held es) s).events⟩ := rfl

@[simp] theorem error_andThen (stop : Stop) (es : List (Event L O)) (f : α → Code S L O β) :
    (⟨.error stop,s,es⟩ : Ran S L O α).andThen held f = ⟨.error stop,s,es⟩ := rfl

theorem lock_free {l : L} (h : l ∉ held) :
    (lock l : Code S L O Unit).run held s = ⟨.ok (),s,[.acquire l]⟩ := by
  simp [lock,h]

theorem lock_held {l : L} (h : l ∈ held) :
    (lock l : Code S L O Unit).run held s = ⟨.error .deadlock,s,[.acquire l]⟩ := by
  simp [lock,h]

end Evaluation

def Heeds (rule : List L → Event L O → Prop) (held : List L) (es : List (Event L O)) : Prop :=
  Along Event.after rule held es

@[simp] theorem heeds_nil (rule : List L → Event L O → Prop) (held : List L) :
    Heeds rule held [] := trivial

@[simp] theorem heeds_cons (rule : List L → Event L O → Prop) (held : List L) (e : Event L O)
    (es : List (Event L O)) :
    Heeds rule held (e :: es) ↔ rule held e ∧ Heeds rule (Event.after held e) es := Iff.rfl

theorem heeds_append (rule : List L → Event L O → Prop) (held : List L)
    (es fs : List (Event L O)) :
    Heeds rule held (es ++ fs) ↔
      Heeds rule held es ∧ Heeds rule (exec Event.after held es) fs :=
  along_append ..

theorem andThen_ok_iff {held : List L} {x : Ran S L O α} {f : α → Code S L O β}
    (hf : ∀ a held s, ∃ b, ((f a).run held s).result = .ok b) :
    (∃ b, (x.andThen held f).result = .ok b) ↔ ∃ a, x.result = .ok a := by
  obtain ⟨result,s,es⟩ := x
  cases result with
  | error stop => simp
  | ok a => simpa using hf a (exec Event.after held es) s

theorem andThen_heeds_iff {rule : List L → Event L O → Prop} {held : List L} {x : Ran S L O α}
    {f : α → Code S L O β} (hf : ∀ a held s, Heeds rule held ((f a).run held s).events) :
    Heeds rule held (x.andThen held f).events ↔ Heeds rule held x.events := by
  obtain ⟨result,s,es⟩ := x
  cases result with
  | error stop => exact Iff.rfl
  | ok a =>
    rw [ok_andThen,heeds_append]
    exact and_iff_left (hf a _ s)

theorem heeds_first {rule : List L → Event L O → Prop} {held : List L} {s : S}
    {x : Code S L O α} {f : α → Code S L O β}
    (h : Heeds rule held ((x >>= f).run held s).events) :
    Heeds rule held (x.run held s).events := by
  rw [bind_run] at h
  generalize x.run held s = ran at h
  obtain ⟨result,s',es⟩ := ran
  cases result with
  | error stop => exact h
  | ok a => exact ((heeds_append ..).mp h).1

def Keeps (rule : List L → Event L O → Prop) (held : List L) (x : Code S L O α)
    (held' : List L) : Prop :=
  ∀ s, Heeds rule held (x.run held s).events ∧
    ∀ a, (x.run held s).result = .ok a → exec Event.after held (x.run held s).events = held'

section Rules

variable {rule : List L → Event L O → Prop} {held mid held' : List L}

theorem keeps_pure (a : α) : Keeps rule held (pure a : Code S L O α) held :=
  fun _ => ⟨trivial,fun _ _ => rfl⟩

theorem keeps_bind {x : Code S L O α} {f : α → Code S L O β} (hx : Keeps rule held x mid)
    (hf : ∀ a, Keeps rule mid (f a) held') : Keeps rule held (x >>= f) held' := by
  intro s
  obtain ⟨hrule,hheld⟩ := hx s
  rw [bind_run]
  generalize x.run held s = ran at hrule hheld
  obtain ⟨result,s',es⟩ := ran
  cases result with
  | error stop => exact ⟨hrule,fun a ha => nomatch ha⟩
  | ok a =>
    have hmid : exec Event.after held es = mid := hheld a rfl
    rw [ok_andThen,hmid]
    refine ⟨(heeds_append ..).mpr ⟨hrule,?_⟩,?_⟩
    · rw [hmid]
      exact (hf a s').1
    · intro b hb
      rw [exec_append,hmid]
      exact (hf a s').2 b hb

theorem keeps_get : Keeps rule held (get : Code S L O S) held :=
  fun _ => ⟨trivial,fun _ _ => rfl⟩

theorem keeps_modify (f : S → S) : Keeps rule held (modify f) held :=
  fun _ => ⟨trivial,fun _ _ => rfl⟩

theorem keeps_exhausted : Keeps rule held (exhausted : Code S L O α) held' :=
  fun _ => ⟨trivial,fun _ h => nomatch h⟩

theorem keeps_emit {action : O} (h : rule held (.op action)) :
    Keeps rule held (emit action : Code S L O Unit) held :=
  fun _ => ⟨⟨h,trivial⟩,fun _ _ => rfl⟩

theorem keeps_lock {l : L} (h : rule held (.acquire l)) :
    Keeps rule held (lock l : Code S L O Unit) (l :: held) := by
  intro s
  by_cases hl : l ∈ held
  · rw [lock_held _ _ hl]
    exact ⟨⟨h,trivial⟩,fun _ hr => nomatch hr⟩
  · rw [lock_free _ _ hl]
    exact ⟨⟨h,trivial⟩,fun _ _ => rfl⟩

theorem keeps_unlock {l : L} (h : rule (l :: held) (.release l)) :
    Keeps rule (l :: held) (unlock l : Code S L O Unit) held :=
  fun _ => ⟨⟨h,trivial⟩,fun _ _ => List.erase_cons_head ..⟩

end Rules

def NoRelock (l : L) (held : List L) (es : List (Event L O)) : Prop :=
  Heeds (fun held e => e = .acquire l → l ∉ held) held es

theorem noRelock_append {l : L} {held : List L} {es fs : List (Event L O)} :
    NoRelock l held (es ++ fs) ↔ NoRelock l held es ∧ NoRelock l (exec Event.after held es) fs :=
  heeds_append ..

@[simp] theorem noRelock_nil {l : L} {held : List L} : NoRelock (O := O) l held [] := trivial

@[simp] theorem noRelock_cons {l : L} {held : List L} {e : Event L O} {es : List (Event L O)} :
    NoRelock l held (e :: es) ↔
      (e = .acquire l → l ∉ held) ∧ NoRelock l (Event.after held e) es := Iff.rfl

def sleepRule (spins : L → Bool) (sleeps : Event L O → Bool) (held : List L) (e : Event L O) :
    Prop :=
  sleeps e = true → ∀ l ∈ held, spins l = false

def SleepFree (spins : L → Bool) (sleeps : Event L O → Bool) (held : List L)
    (es : List (Event L O)) : Prop :=
  Heeds (sleepRule spins sleeps) held es

end Thread
