import Uroam.Kernel.Hooks
import Uroam.Library.Racing

namespace Uroam.Kernel.Hooks
open Runs Tally Racing

inductive Hook where
  | mmap
  | brk
  deriving DecidableEq, Repr

abbrev Bytes := { n : U64 // 0 < n.toNat }

inductive HookPoint where
  | outside
  | counting (hook : Hook) (size : Bytes)
  | adding (hook : Hook) (size : Bytes) (seen : U64)
  | added
  deriving DecidableEq

structure Tasks where
  hooks : HookState
  points : ℕ → HookPoint

-- What the original mmap answers. A length of zero it refuses.
structure Mapped where
  len : U64
  ret : U64
  refuses : len = 0 → ret.toInt < 0

inductive Turn where
  | mmap (task : ℕ) (answer : Mapped)
  | brk (task : ℕ) (oldBrk ret brk : U64)
  | access (task : ℕ)
  | enabledStore (val : Bool)

def HookState.bytes (h : HookState) : Hook → U64
  | .mmap => h.totalMmapBytes
  | .brk => h.totalBrkBytes

def HookState.setBytes (h : HookState) (hook : Hook) (v : U64) : HookState :=
  match hook with
  | .mmap => { h with totalMmapBytes := v }
  | .brk => { h with totalBrkBytes := v }

theorem mapped_pos {answer : Mapped} (h : 0 ≤ answer.ret.toInt) : 0 < answer.len.toNat := by
  refine Nat.pos_of_ne_zero fun hzero => ?_
  have hrefused := answer.refuses (BitVec.eq_of_toNat_eq hzero)
  omega

theorem grown_pos {size : U64} (h : 0 < size) : 0 < size.toNat := BitVec.lt_def.mp h

def Tasks.at (t : Tasks) (task : ℕ) (p : HookPoint) : Tasks :=
  { t with points := Function.update t.points task p }

def Tasks.mmap (t : Tasks) (task : ℕ) (answer : Mapped) : Tasks :=
  if h : 0 ≤ answer.ret.toInt ∧ t.hooks.globalState.enabled = true then
    t.at task (.counting .mmap ⟨answer.len,mapped_pos h.1⟩)
  else t

def Tasks.brk (t : Tasks) (task : ℕ) (oldBrk ret brk : U64) : Tasks :=
  if 0 ≤ ret.toInt ∧ t.hooks.globalState.enabled = true then
    if h : 0 < brkSize oldBrk brk then
      t.at task (.counting .brk ⟨brkSize oldBrk brk,grown_pos h⟩)
    else t
  else t

def Tasks.access (t : Tasks) (task : ℕ) : Tasks :=
  match t.points task with
  | .outside => t
  | .counting hook size => t.at task (.adding hook size (t.hooks.bytes hook))
  | .adding hook size seen =>
    { t.at task .added with hooks := t.hooks.setBytes hook (seen + size.val) }
  | .added => { t.at task .outside with hooks := uroamRecordAllocation t.hooks }

def Tasks.step (t : Tasks) : Turn → Tasks
  | .mmap task answer => if t.points task = .outside then t.mmap task answer else t
  | .brk task oldBrk ret brk =>
    if t.points task = .outside then t.brk task oldBrk ret brk else t
  | .access task => t.access task
  | .enabledStore val =>
    { t with hooks := { t.hooks with globalState := { t.hooks.globalState with enabled := val } } }

def Tasks.start (globalState : GlobalState) (allocRecords : ℕ → AllocRecord) (brk : ℕ → U64) :
    Tasks :=
  ⟨⟨0,0,allocRecords,globalState,brk⟩,fun _ => .outside⟩

def Tasks.storedBytes (t : Tasks) : Turn → ℕ
  | .access task =>
    match t.points task with
    | .adding _ size _ => size.val.toNat
    | _ => 0
  | _ => 0

def Tasks.Undisturbed (t : Tasks) : Turn → Prop
  | .access task =>
    match t.points task with
    | .adding hook _ seen => t.hooks.bytes hook = seen
    | _ => True
  | _ => True

section Counter

variable (hook : Hook)

def HookPoint.loaded : HookPoint → Option (ℕ × ℕ)
  | .adding h size seen => if h = hook then some (seen.toNat,size.val.toNat) else none
  | _ => none

def Tasks.loaded (t : Tasks) (task : ℕ) : Option (ℕ × ℕ) := (t.points task).loaded hook

def Tasks.move (t : Tasks) : Turn → Move ℕ
  | .access task =>
    match t.points task with
    | .counting h size => if h = hook then .load task size.val.toNat else .idle
    | .adding h _ _ => if h = hook then .store task else .idle
    | _ => .idle
  | _ => .idle

variable {hook} {t : Tasks} {task : ℕ}

theorem at_loaded (p : HookPoint) :
    (t.at task p).loaded hook = Function.update (t.loaded hook) task (p.loaded hook) := by
  funext i
  simp only [Tasks.loaded,Tasks.at,Function.update_apply]
  split <;> rfl

theorem at_silent {p : HookPoint} (h : p.loaded hook = (t.points task).loaded hook) :
    (t.at task p).loaded hook = t.loaded hook := by
  rw [at_loaded,h]
  exact Function.update_eq_self task (t.loaded hook)

variable (hook) in
theorem mmap_silent (h : t.points task = .outside) (answer : Mapped) :
    (t.mmap task answer).hooks = t.hooks ∧ (t.mmap task answer).loaded hook = t.loaded hook := by
  unfold Tasks.mmap
  split_ifs
  · exact ⟨rfl,at_silent (by rw [h]; rfl)⟩
  · exact ⟨rfl,rfl⟩

variable (hook) in
theorem brk_silent (h : t.points task = .outside) (oldBrk ret brk : U64) :
    (t.brk task oldBrk ret brk).hooks = t.hooks ∧
      (t.brk task oldBrk ret brk).loaded hook = t.loaded hook := by
  unfold Tasks.brk
  split_ifs
  · exact ⟨rfl,at_silent (by rw [h]; rfl)⟩
  · exact ⟨rfl,rfl⟩
  · exact ⟨rfl,rfl⟩

theorem setBytes_same (h : HookState) (v : U64) : (h.setBytes hook v).bytes hook = v := by
  cases hook <;> rfl

theorem setBytes_other {other : Hook} (h : HookState) (hne : other ≠ hook) (v : U64) :
    (h.setBytes other v).bytes hook = h.bytes hook := by
  cases hook <;> cases other <;> first | rfl | exact absurd rfl hne

theorem record_bytes (h : HookState) : (uroamRecordAllocation h).bytes hook = h.bytes hook := by
  cases hook <;> rfl

theorem step_quiet (turn : Turn) (h : ∀ task, turn ≠ .access task) :
    (t.step turn).hooks.bytes hook = t.hooks.bytes hook ∧
      (t.step turn).loaded hook = t.loaded hook := by
  cases turn with
  | access task => exact absurd rfl (h task)
  | enabledStore val => exact ⟨by cases hook <;> rfl,rfl⟩
  | mmap task answer =>
    unfold Tasks.step
    dsimp only
    split_ifs with hpoint
    · have hsilent := mmap_silent hook hpoint answer
      exact ⟨by rw [hsilent.1],hsilent.2⟩
    · exact ⟨rfl,rfl⟩
  | brk task oldBrk ret brk =>
    unfold Tasks.step
    dsimp only
    split_ifs with hpoint
    · have hsilent := brk_silent hook hpoint oldBrk ret brk
      exact ⟨by rw [hsilent.1],hsilent.2⟩
    · exact ⟨rfl,rfl⟩

variable (hook) in
theorem access_counting {h : Hook} {size : Bytes} (hpoint : t.points task = .counting h size) :
    (t.access task).hooks = t.hooks ∧
      (t.access task).loaded hook =
        if h = hook then
          Function.update (t.loaded hook) task (some ((t.hooks.bytes hook).toNat,size.val.toNat))
        else t.loaded hook := by
  unfold Tasks.access
  rw [hpoint]
  refine ⟨rfl,?_⟩
  split_ifs with hsame
  · subst hsame
    rw [at_loaded,HookPoint.loaded,if_pos rfl]
  · refine at_silent ?_
    rw [hpoint,HookPoint.loaded,if_neg hsame]
    rfl

variable (hook) in
theorem access_adding {h : Hook} {size : Bytes} {seen : U64}
    (hpoint : t.points task = .adding h size seen) :
    (t.access task).hooks = t.hooks.setBytes h (seen + size.val) ∧
      (t.access task).loaded hook =
        if h = hook then Function.update (t.loaded hook) task none else t.loaded hook := by
  unfold Tasks.access
  rw [hpoint]
  refine ⟨rfl,?_⟩
  change (t.at task .added).loaded hook = _
  split_ifs with hsame
  · rw [at_loaded]
    rfl
  · refine at_silent ?_
    rw [hpoint,HookPoint.loaded,if_neg hsame]
    rfl

theorem access_idle (hmove : t.move hook (.access task) = .idle) :
    (t.access task).hooks.bytes hook = t.hooks.bytes hook ∧
      (t.access task).loaded hook = t.loaded hook := by
  unfold Tasks.move at hmove
  cases hpoint : t.points task with
  | outside =>
    unfold Tasks.access
    rw [hpoint]
    exact ⟨rfl,rfl⟩
  | counting h size =>
    simp only [hpoint] at hmove
    have hother : ¬ h = hook := fun hsame => by simp [hsame] at hmove
    have haccess := access_counting hook hpoint
    rw [if_neg hother] at haccess
    exact ⟨by rw [haccess.1],haccess.2⟩
  | adding h size seen =>
    simp only [hpoint] at hmove
    have hother : ¬ h = hook := fun hsame => by simp [hsame] at hmove
    have haccess := access_adding hook hpoint
    rw [if_neg hother] at haccess
    exact ⟨by rw [haccess.1,setBytes_other _ hother],haccess.2⟩
  | added =>
    unfold Tasks.access
    rw [hpoint]
    refine ⟨record_bytes t.hooks,?_⟩
    change (t.at task .outside).loaded hook = _
    exact at_silent (by rw [hpoint]; rfl)

theorem move_load {turn : Turn} {i amount : ℕ} (hmove : t.move hook turn = .load i amount) :
    turn = .access i ∧ ∃ size : Bytes, t.points i = .counting hook size ∧ amount = size.val.toNat := by
  unfold Tasks.move at hmove
  cases turn with
  | access task =>
    dsimp only at hmove
    cases hpoint : t.points task with
    | counting h size =>
      simp only [hpoint] at hmove
      split_ifs at hmove with hsame
      obtain ⟨rfl,rfl⟩ := Move.load.inj hmove
      exact ⟨rfl,size,hsame ▸ hpoint,rfl⟩
    | adding h size seen =>
      simp only [hpoint] at hmove
      split_ifs at hmove
    | outside | added =>
      simp only [hpoint] at hmove
      cases hmove
  | _ => cases hmove

theorem move_store {turn : Turn} {i : ℕ} (hmove : t.move hook turn = .store i) :
    turn = .access i ∧ ∃ size seen, t.points i = .adding hook size seen := by
  unfold Tasks.move at hmove
  cases turn with
  | access task =>
    dsimp only at hmove
    cases hpoint : t.points task with
    | counting h size =>
      simp only [hpoint] at hmove
      split_ifs at hmove
    | adding h size seen =>
      simp only [hpoint] at hmove
      split_ifs at hmove with hsame
      obtain rfl := Move.store.inj hmove
      exact ⟨rfl,size,seen,hsame ▸ hpoint⟩
    | outside | added =>
      simp only [hpoint] at hmove
      cases hmove
  | _ => cases hmove

theorem hooks_count (hook : Hook) :
    Counts Tasks.step (fun t => (t.hooks.bytes hook).toNat) (Tasks.loaded hook) (Tasks.move hook)
      64 where
  idle t turn hmove := by
    by_cases haccess : ∃ task, turn = .access task
    · obtain ⟨task,rfl⟩ := haccess
      obtain ⟨hbytes,hloaded⟩ := access_idle hmove
      exact ⟨congrArg BitVec.toNat hbytes,hloaded⟩
    · obtain ⟨hbytes,hloaded⟩ := step_quiet turn (not_exists.mp haccess)
      exact ⟨congrArg BitVec.toNat hbytes,hloaded⟩
  load t turn i amount hmove := by
    obtain ⟨rfl,size,hpoint,rfl⟩ := move_load hmove
    have haccess := access_counting hook hpoint
    rw [if_pos rfl] at haccess
    exact ⟨congrArg (fun h => (HookState.bytes h hook).toNat) haccess.1,haccess.2,size.property⟩
  store t turn i hmove := by
    obtain ⟨rfl,size,seen,hpoint⟩ := move_store hmove
    have haccess := access_adding hook hpoint
    rw [if_pos rfl] at haccess
    refine ⟨seen.toNat,size.val.toNat,?_,?_,haccess.2⟩
    · simp [Tasks.loaded,hpoint,HookPoint.loaded]
    · have hbytes : (t.step (.access i)).hooks.bytes hook = seen + size.val := by
        change (t.access i).hooks.bytes hook = _
        rw [haccess.1,setBytes_same]
      rw [hbytes,BitVec.toNat_add]

end Counter

section Stats

theorem stored_split (t : Tasks) (turn : Turn) :
    t.storedBytes turn =
      (t.move .mmap turn).added (t.loaded .mmap) + (t.move .brk turn).added (t.loaded .brk) := by
  cases turn with
  | access task =>
    unfold Tasks.storedBytes Tasks.move
    cases hpoint : t.points task with
    | outside | added => simp [Move.added,hpoint]
    | counting hook size => cases hook <;> simp [Move.added,hpoint]
    | adding hook size seen =>
      cases hook <;> simp [Move.added,Tasks.loaded,HookPoint.loaded,hpoint]
  | _ => rfl

theorem undisturbed_split (t : Tasks) (turn : Turn) :
    t.Undisturbed turn ↔
      (t.move .mmap turn).Undisturbed (t.hooks.bytes .mmap).toNat (t.loaded .mmap) ∧
        (t.move .brk turn).Undisturbed (t.hooks.bytes .brk).toNat (t.loaded .brk) := by
  cases turn with
  | access task =>
    unfold Tasks.Undisturbed Tasks.move
    cases hpoint : t.points task with
    | outside | added => simp [Move.Undisturbed,hpoint]
    | counting hook size => cases hook <;> simp [Move.Undisturbed,hpoint]
    | adding hook size seen =>
      cases hook <;>
        simp [Move.Undisturbed,Tasks.loaded,HookPoint.loaded,hpoint,BitVec.toNat_inj]
  | _ => exact iff_of_true trivial ⟨trivial,trivial⟩

theorem start_exact (globalState : GlobalState) (allocRecords : ℕ → AllocRecord) (brk : ℕ → U64)
    (hook : Hook) :
    Exact ((Tasks.start globalState allocRecords brk).hooks.bytes hook).toNat
      ((Tasks.start globalState allocRecords brk).loaded hook) 0 := by
  refine ⟨?_,fun i seen amount hi => by cases hi⟩
  cases hook <;> rfl

theorem alloc_stats_exact_iff (globalState : GlobalState) (allocRecords : ℕ → AllocRecord)
    (brk : ℕ → U64) (turns : List Turn)
    (hbound : total Tasks.step Tasks.storedBytes (.start globalState allocRecords brk) turns <
      2 ^ 64) :
    (uroamGetAllocStats
          (exec Tasks.step (.start globalState allocRecords brk) turns).hooks).totalBytes.toNat =
        total Tasks.step Tasks.storedBytes (.start globalState allocRecords brk) turns ↔
      Along Tasks.step Tasks.Undisturbed (.start globalState allocRecords brk) turns := by
  have hexact := start_exact globalState allocRecords brk
  generalize Tasks.start globalState allocRecords brk = t at hbound hexact ⊢
  have hstored : Tasks.storedBytes = fun t turn =>
      (t.move .mmap turn).added (t.loaded .mmap) + (t.move .brk turn).added (t.loaded .brk) := by
    funext t turn
    exact stored_split t turn
  have hfree : Tasks.Undisturbed = fun t turn =>
      (t.move .mmap turn).Undisturbed (t.hooks.bytes .mmap).toNat (t.loaded .mmap) ∧
        (t.move .brk turn).Undisturbed (t.hooks.bytes .brk).toNat (t.loaded .brk) := by
    funext t turn
    exact propext (undisturbed_split t turn)
  rw [hstored,total_add] at hbound
  rw [hstored,total_add,hfree,along_and]
  have hmmap := exact_iff (hooks_count .mmap) turns (hexact .mmap) (by omega)
  have hbrk := exact_iff (hooks_count .brk) turns (hexact .brk) (by omega)
  have hmmap_le := run_le (hooks_count .mmap) turns (hexact .mmap) (by omega)
  have hbrk_le := run_le (hooks_count .brk) turns (hexact .brk) (by omega)
  have hsum : (uroamGetAllocStats (exec Tasks.step t turns).hooks).totalBytes.toNat =
      (((exec Tasks.step t turns).hooks.bytes .mmap).toNat +
        ((exec Tasks.step t turns).hooks.bytes .brk).toNat) % 2 ^ 64 := BitVec.toNat_add ..
  -- Neither total is above its sum, so both are exact or what they give together is short.
  rw [hsum,Nat.mod_eq_of_lt (by omega),← hmmap,← hbrk]
  omega

def overlapping : List Turn :=
  [.mmap 0 ⟨4096,65536,by decide⟩,.mmap 1 ⟨8192,131072,by decide⟩,.access 0,.access 1,.access 0,.access 1]

def freshTasks : Tasks := .start freshHooks.globalState freshHooks.allocRecords freshHooks.brk

theorem alloc_stats_exact_iff_overlapping :
    (uroamGetAllocStats (exec Tasks.step freshTasks overlapping).hooks).totalBytes.toNat ≠
      total Tasks.step Tasks.storedBytes freshTasks overlapping := by
  intro hequal
  obtain ⟨-,-,-,-,-,hlast,-⟩ :=
    (alloc_stats_exact_iff _ _ _ overlapping (by decide +kernel)).mp hequal
  have hstale : (4096 : U64) = 0 := hlast
  exact absurd hstale (by decide)

end Stats

end Uroam.Kernel.Hooks
