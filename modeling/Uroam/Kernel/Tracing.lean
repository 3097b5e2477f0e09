import Uroam.Library.Slots
import Uroam.Library.Tally
import Uroam.Kernel.State

namespace Uroam.Kernel.Tracing
open Runs Tally Slots

def enodev : Int := 19

inductive Address where
  | entry
  | hook
  deriving DecidableEq, Repr

-- A struct kprobe with the flag and the captured address kept for it. It is live from a granted
-- registration to the next unregister call; returned counts such calls made while addr was what
-- the kernel had registered, missed those made after the handler had replaced it.
structure Kprobe where
  hooked : Bool
  original : Option Address
  addr : Option Address
  live : Bool
  granted : Nat
  returned : Nat
  missed : Nat
  deriving DecidableEq, Repr

def Kprobe.static : Kprobe := ⟨false,none,none,false,0,0,0⟩

structure Tracer where
  ftraceBuffer : Slots.Slot
  ftraceEnabled : Bool
  mmap : Kprobe
  brk : Kprobe
  deriving DecidableEq, Repr

def Tracer.loaded : Tracer := ⟨.empty,false,.static,.static⟩

-- The parameter use_ftrace may be written between any two of its reads.
structure UseFtrace where
  enabling : Bool
  starting : Bool
  installing : Bool
  deriving DecidableEq, Repr

-- What the kernel answers, and whether the mmap probe is hit, with the module enabled, before the
-- brk probe is registered.
structure Grants where
  buffer : Bool
  mmap : Int
  hit : Bool
  brk : Int
  deriving DecidableEq, Repr

def registerKprobe (answer : Int) (kp : Kprobe) : Int × Kprobe :=
  if answer < 0 then (answer,kp)
  else (0,{ kp with live := true, addr := some .entry, granted := kp.granted + 1 })

def unregisterKprobe (kp : Kprobe) : Kprobe :=
  if kp.addr = some .entry then { kp with live := false, returned := kp.returned + 1 }
  else { kp with live := false, addr := none, missed := kp.missed + 1 }

def uroamKprobeHandler (enabled : Bool) (kp : Kprobe) : Kprobe :=
  if enabled then { kp with original := kp.original.or kp.addr, addr := some .hook } else kp

def Kprobe.hit (enabled : Bool) (kp : Kprobe) : Kprobe :=
  if kp.live ∨ 0 < kp.missed then uroamKprobeHandler enabled kp else kp

def uroamFtraceInit (useFtrace : Bool) (g : Grants) (t : Tracer) : Int × Tracer :=
  if useFtrace then
    if g.buffer then (0,{ t with ftraceBuffer := t.ftraceBuffer.fill, ftraceEnabled := true })
    else (-enomem,{ t with ftraceBuffer := t.ftraceBuffer.clear })
  else (-enodev,t)

def uroamFtraceExit (t : Tracer) : Tracer :=
  { t with ftraceBuffer := t.ftraceBuffer.free, ftraceEnabled := false }

def uroamInstallKprobes (useFtrace : Bool) (g : Grants) (t : Tracer) : Int × Tracer :=
  if useFtrace ∧ t.ftraceEnabled then (0,t)
  else
    let mmap := registerKprobe g.mmap t.mmap
    if mmap.1 < 0 then (mmap.1,{ t with mmap := mmap.2 })
    else
      let hooked := ({ mmap.2 with hooked := true } : Kprobe).hit g.hit
      let brk := registerKprobe g.brk t.brk
      if brk.1 < 0 then
        (brk.1,{ t with mmap := { unregisterKprobe hooked with hooked := false }, brk := brk.2 })
      else (0,{ t with mmap := hooked, brk := { brk.2 with hooked := true } })

def Kprobe.remove (kp : Kprobe) : Kprobe :=
  if kp.hooked then { unregisterKprobe kp with hooked := false } else kp

def uroamRemoveKprobes (t : Tracer) : Tracer :=
  { t with mmap := t.mmap.remove, brk := t.brk.remove }

def uroamEnableHookTracing (u : UseFtrace) (g : Grants) (t : Tracer) : Int × Tracer :=
  if u.enabling then
    let init := uroamFtraceInit u.starting g t
    if init.1 = 0 then init else uroamInstallKprobes u.installing g init.2
  else uroamInstallKprobes u.installing g t

def uroamDisableHookTracing (t : Tracer) : Tracer :=
  uroamRemoveKprobes (if t.ftraceEnabled then uroamFtraceExit t else t)

def uroamHooksInit (u : UseFtrace) (g : Grants) (t : Tracer) : Int × Tracer :=
  let enabled := uroamEnableHookTracing u g t
  if enabled.1 < 0 then (0,enabled.2) else enabled

def uroamHooksExit (t : Tracer) : Tracer := uroamDisableHookTracing t

inductive Call where
  | enableHookTracing (u : UseFtrace) (g : Grants)
  | disableHookTracing
  | hooksInit (u : UseFtrace) (g : Grants)
  | hooksExit
  | mmapHit (enabled : Bool)
  | brkHit (enabled : Bool)
  deriving DecidableEq, Repr

def Tracer.call (t : Tracer) : Call → Tracer
  | .enableHookTracing u g => (uroamEnableHookTracing u g t).2
  | .disableHookTracing => uroamDisableHookTracing t
  | .hooksInit u g => (uroamHooksInit u g t).2
  | .hooksExit => uroamHooksExit t
  | .mmapHit enabled => { t with mmap := t.mmap.hit enabled }
  | .brkHit enabled => { t with brk := t.brk.hit enabled }

def Call.enables : Call → Option (UseFtrace × Grants)
  | .enableHookTracing u g => some (u,g)
  | .hooksInit u g => some (u,g)
  | _ => none

def Call.disables : Call → Bool
  | .disableHookTracing => true
  | .hooksExit => true
  | _ => false

def Call.requestsBuffer (c : Call) : Bool := c.enables.any fun e => e.1.enabling && e.1.starting

def overwritten (t : Tracer) (c : Call) : Nat :=
  if c.requestsBuffer then t.ftraceBuffer.count else 0

def Kprobe.replaced (kp : Kprobe) : Bool := kp.hooked && decide (kp.addr = some .hook)

def undone (useFtrace : Bool) (g : Grants) (t : Tracer) : Bool :=
  !(useFtrace && t.ftraceEnabled) && decide (0 ≤ g.mmap) && g.hit && decide (g.brk < 0)

def undoneBy (t : Tracer) (e : UseFtrace × Grants) : Bool :=
  !(e.1.enabling && e.1.starting && e.2.buffer) && undone e.1.installing e.2 t

def mmapMissed (t : Tracer) (c : Call) : Nat :=
  (c.disables && t.mmap.replaced || c.enables.any (undoneBy t)).toNat

def brkMissed (t : Tracer) (c : Call) : Nat := (c.disables && t.brk.replaced).toNat

-- The kernel grants no registration of a probe that is registered.
def Refuses (t : Tracer) (c : Call) : Prop :=
  ∀ u g, c.enables = some (u,g) → t.mmap.live = true → g.mmap < 0

structure Kprobe.Accounted (kp : Kprobe) : Prop where
  live : kp.live = kp.hooked
  granted : kp.granted = kp.returned + kp.missed + kp.hooked.toNat
  named : kp.live = true → kp.addr ≠ none
  held : kp.live = true ∨ 0 < kp.missed → kp.original.or kp.addr = some .entry
  captured : kp.addr = some .hook → kp.original = some .entry
  original : kp.original ≠ some .hook

structure Accounted (t : Tracer) : Prop where
  buffers : t.ftraceBuffer.Accounted
  mmap : t.mmap.Accounted
  brk : t.brk.Accounted
  both : t.mmap.hooked = t.brk.hooked
  enabled : t.ftraceBuffer.held ≠ none → t.ftraceEnabled = true

structure Cleared (t : Tracer) : Prop where
  buffer : t.ftraceBuffer.held = none
  enabled : t.ftraceEnabled = false
  mmap : t.mmap.live = false ∧ t.mmap.hooked = false
  brk : t.brk.live = false ∧ t.brk.hooked = false

variable {t : Tracer} {kp : Kprobe}

theorem static_accounted : Kprobe.static.Accounted := by
  refine ⟨rfl,rfl,fun h => ?_,fun h => ?_,fun h => ?_,fun h => ?_⟩
  · cases h
  · simp [Kprobe.static] at h
  · cases h
  · cases h

theorem loaded_accounted : Accounted .loaded :=
  ⟨Slot.empty_accounted,static_accounted,static_accounted,rfl,fun h => absurd rfl h⟩

@[simp] theorem hit_hooked (enabled : Bool) : (kp.hit enabled).hooked = kp.hooked := by
  unfold Kprobe.hit uroamKprobeHandler
  split_ifs <;> rfl

@[simp] theorem hit_missed (enabled : Bool) : (kp.hit enabled).missed = kp.missed := by
  unfold Kprobe.hit uroamKprobeHandler
  split_ifs <;> rfl

theorem hit_accounted (h : kp.Accounted) (enabled : Bool) : (kp.hit enabled).Accounted := by
  unfold Kprobe.hit uroamKprobeHandler
  split_ifs with hheld
  · have hentry := h.held hheld
    refine { h with
      named := fun _ hnone => ?_, held := fun _ => ?_, captured := fun _ => hentry, original := ?_ }
    · cases hnone
    · rw [hentry,Option.some_or]
    · rw [hentry]
      exact fun hhook => by cases hhook
  · exact h
  · exact h

def Kprobe.installed (kp : Kprobe) : Kprobe :=
  { kp with live := true, addr := some .entry, granted := kp.granted + 1, hooked := true }

theorem installed_accounted (h : kp.Accounted) (hh : kp.hooked = false) :
    kp.installed.Accounted := by
  have hg := h.granted
  rw [hh] at hg
  refine ⟨rfl,congrArg Nat.succ hg,fun _ hnone => ?_,fun _ => ?_,fun he => ?_,h.original⟩
  · cases hnone
  · cases ho : kp.original with
    | none => simp [Kprobe.installed,ho]
    | some a =>
      cases a with
      | entry => simp [Kprobe.installed,ho]
      | hook => exact absurd ho h.original
  · cases he

def Kprobe.released (kp : Kprobe) : Kprobe := { unregisterKprobe kp with hooked := false }

theorem released_accounted (h : kp.Accounted) (hh : kp.hooked = true) : kp.released.Accounted := by
  have hg := h.granted
  rw [hh,Bool.toNat_true] at hg
  have hentry := h.held (.inl (h.live.trans hh))
  unfold Kprobe.released unregisterKprobe
  split_ifs with ha
  · refine ⟨rfl,?_,fun hlive => ?_,fun _ => hentry,h.captured,h.original⟩
    · change kp.granted = kp.returned + 1 + kp.missed + 0
      omega
    · cases hlive
  · have horiginal : kp.original = some .entry := by
      cases ho : kp.original with
      | none =>
        rw [ho,Option.none_or] at hentry
        exact absurd hentry ha
      | some a => simpa [ho] using hentry
    refine ⟨rfl,?_,fun hlive => ?_,fun _ => ?_,fun he => ?_,h.original⟩
    · change kp.granted = kp.returned + (kp.missed + 1) + 0
      omega
    · cases hlive
    · rw [horiginal,Option.some_or]
    · cases he

theorem released_missed (h : kp.Accounted) (hh : kp.hooked = true) :
    kp.released.missed = kp.missed + (decide (kp.addr = some .hook)).toNat := by
  unfold Kprobe.released unregisterKprobe
  cases ha : kp.addr with
  | none => exact absurd ha (h.named (h.live.trans hh))
  | some a => cases a <;> rfl

theorem remove_accounted (h : kp.Accounted) : kp.remove.Accounted := by
  unfold Kprobe.remove
  split_ifs with hh
  · exact released_accounted h hh
  · exact h

theorem remove_hooked : kp.remove.hooked = false := by
  unfold Kprobe.remove
  split_ifs with hh
  · rfl
  · exact Bool.eq_false_iff.mpr hh

theorem remove_missed (h : kp.Accounted) :
    kp.remove.missed = kp.missed + kp.replaced.toNat := by
  unfold Kprobe.remove Kprobe.replaced
  cases hh : kp.hooked with
  | false => rfl
  | true => exact released_missed h hh

theorem enable_eq (u : UseFtrace) (g : Grants) : (uroamEnableHookTracing u g t).2 =
    if u.enabling && u.starting then
      if g.buffer then { t with ftraceBuffer := t.ftraceBuffer.fill, ftraceEnabled := true }
      else (uroamInstallKprobes u.installing g { t with ftraceBuffer := t.ftraceBuffer.clear }).2
    else (uroamInstallKprobes u.installing g t).2 := by
  unfold uroamEnableHookTracing uroamFtraceInit
  cases u.enabling <;> cases u.starting <;> cases g.buffer <;> rfl

theorem clear_accounts (h : Accounted t) :
    Accounted { t with ftraceBuffer := t.ftraceBuffer.clear } :=
  { h with
    buffers := Slot.clear_accounted h.buffers
    enabled := fun hn => absurd rfl hn }

theorem install_eq (h : Accounted t) (useFtrace : Bool) {g : Grants}
    (hg : t.mmap.live = true → g.mmap < 0) :
    (uroamInstallKprobes useFtrace g t).2 =
        (if (useFtrace = true ∧ t.ftraceEnabled = true) ∨ g.mmap < 0 then t
        else if g.brk < 0 then { t with mmap := (t.mmap.installed.hit g.hit).released }
        else { t with mmap := t.mmap.installed.hit g.hit, brk := t.brk.installed }) ∧
      (¬ g.mmap < 0 → t.mmap.hooked = false ∧ t.brk.hooked = false) := by
  constructor
  · unfold uroamInstallKprobes registerKprobe
    by_cases hf : useFtrace = true ∧ t.ftraceEnabled = true
    · rw [if_pos hf,if_pos (.inl hf)]
    · rw [if_neg hf]
      by_cases hgm : g.mmap < 0
      · simp only [hgm,if_true,or_true]
      · by_cases hgb : g.brk < 0
        · simp only [hf,hgm,hgb,if_true,if_false,or_self]
          rfl
        · simp only [hf,hgm,hgb,if_false,or_self]
          rfl
  · intro hgm
    have hh : t.mmap.hooked = false :=
      Bool.eq_false_iff.mpr fun hh => hgm (hg (h.mmap.live.trans hh))
    exact ⟨hh,h.both ▸ hh⟩

theorem install_accounted (h : Accounted t) (useFtrace : Bool) {g : Grants}
    (hg : t.mmap.live = true → g.mmap < 0) : Accounted (uroamInstallKprobes useFtrace g t).2 := by
  obtain ⟨heq,hfree⟩ := install_eq h useFtrace hg
  rw [heq]
  split_ifs with hkept hbrk
  · exact h
  · obtain ⟨hh,_⟩ := hfree fun hgm => hkept (.inr hgm)
    have hinstalled := hit_accounted (installed_accounted h.mmap hh) g.hit
    have hreleased := released_accounted hinstalled (hit_hooked g.hit)
    exact { h with mmap := hreleased, both := hh.symm.trans h.both }
  · obtain ⟨hh,hb⟩ := hfree fun hgm => hkept (.inr hgm)
    have hmmap := hit_accounted (installed_accounted h.mmap hh) g.hit
    exact { h with mmap := hmmap, brk := installed_accounted h.brk hb, both := hit_hooked g.hit }

theorem installed_hit_replaced (hit : Bool) :
    decide ((kp.installed.hit hit).addr = some .hook) = hit := by
  cases hit <;> rfl

theorem undone_iff (useFtrace : Bool) (g : Grants) : undone useFtrace g t = true ↔
    ¬ ((useFtrace = true ∧ t.ftraceEnabled = true) ∨ g.mmap < 0) ∧ g.hit = true ∧ g.brk < 0 := by
  cases useFtrace <;> simp [undone,and_assoc]

theorem install_missed (h : Accounted t) (useFtrace : Bool) {g : Grants}
    (hg : t.mmap.live = true → g.mmap < 0) : (uroamInstallKprobes useFtrace g t).2.mmap.missed =
      t.mmap.missed + (undone useFtrace g t).toNat := by
  have hiff := undone_iff (t := t) useFtrace g
  obtain ⟨heq,hfree⟩ := install_eq h useFtrace hg
  rw [heq]
  by_cases hkept : (useFtrace = true ∧ t.ftraceEnabled = true) ∨ g.mmap < 0
  · rw [if_pos hkept,Bool.eq_false_iff.mpr fun hu => (hiff.mp hu).1 hkept]
    rfl
  · rw [if_neg hkept]
    obtain ⟨hh,_⟩ := hfree fun hgm => hkept (.inr hgm)
    by_cases hgb : g.brk < 0
    · have hinstalled := hit_accounted (installed_accounted h.mmap hh) g.hit
      have hundone : undone useFtrace g t = g.hit := by
        rw [Bool.eq_iff_iff,hiff]
        exact ⟨fun hu => hu.2.1,fun hhit => ⟨hkept,hhit,hgb⟩⟩
      rw [if_pos hgb,hundone]
      refine (released_missed hinstalled (hit_hooked g.hit)).trans ?_
      rw [hit_missed,installed_hit_replaced]
      rfl
    · rw [if_neg hgb,Bool.eq_false_iff.mpr fun hu => hgb (hiff.mp hu).2.2]
      exact hit_missed g.hit

theorem install_frame (useFtrace : Bool) (g : Grants) :
    (uroamInstallKprobes useFtrace g t).2.ftraceBuffer = t.ftraceBuffer ∧
      (uroamInstallKprobes useFtrace g t).2.brk.missed = t.brk.missed := by
  unfold uroamInstallKprobes registerKprobe
  dsimp only
  split_ifs <;> exact ⟨rfl,rfl⟩

theorem enable_accounted (h : Accounted t) (u : UseFtrace) {g : Grants}
    (hg : t.mmap.live = true → g.mmap < 0) : Accounted (uroamEnableHookTracing u g t).2 := by
  rw [enable_eq]
  split_ifs
  · exact { h with
      buffers := Slot.fill_accounted h.buffers
      enabled := fun _ => rfl }
  · exact install_accounted (clear_accounts h) u.installing hg
  · exact install_accounted h u.installing hg

theorem enable_missed (h : Accounted t) (u : UseFtrace) {g : Grants}
    (hg : t.mmap.live = true → g.mmap < 0) :
    (uroamEnableHookTracing u g t).2.mmap.missed = t.mmap.missed + (undoneBy t (u,g)).toNat := by
  rw [enable_eq,undoneBy]
  cases u.enabling && u.starting with
  | false => exact install_missed h u.installing hg
  | true =>
    cases g.buffer with
    | true => rfl
    | false => exact install_missed (clear_accounts h) u.installing hg

theorem enable_brk_missed (u : UseFtrace) (g : Grants) :
    (uroamEnableHookTracing u g t).2.brk.missed = t.brk.missed := by
  rw [enable_eq]
  split_ifs
  · rfl
  · exact (install_frame u.installing g).2
  · exact (install_frame u.installing g).2

theorem enable_lost (u : UseFtrace) (g : Grants) :
    (uroamEnableHookTracing u g t).2.ftraceBuffer.lost.length =
      t.ftraceBuffer.lost.length + if u.enabling && u.starting then t.ftraceBuffer.count else 0 := by
  rw [enable_eq]
  split_ifs
  · exact List.length_append
  · rw [(install_frame u.installing g).1]
    exact List.length_append
  · rw [(install_frame u.installing g).1]
    rfl

theorem hooksInit_state (u : UseFtrace) (g : Grants) :
    (uroamHooksInit u g t).2 = (uroamEnableHookTracing u g t).2 := by
  unfold uroamHooksInit
  dsimp only
  split_ifs <;> rfl

theorem disable_eq (h : Accounted t) : uroamDisableHookTracing t =
    ⟨t.ftraceBuffer.free,false,t.mmap.remove,t.brk.remove⟩ := by
  unfold uroamDisableHookTracing
  cases he : t.ftraceEnabled with
  | true => rfl
  | false =>
    have hnone : t.ftraceBuffer.held = none := by
      by_contra hn
      rw [h.enabled hn] at he
      cases he
    rw [if_neg Bool.false_ne_true,uroamRemoveKprobes,he,Slot.free_eq hnone]

theorem disable_accounted (h : Accounted t) : Accounted (uroamDisableHookTracing t) := by
  rw [disable_eq h]
  exact ⟨Slot.free_accounted h.buffers,remove_accounted h.mmap,remove_accounted h.brk,
    remove_hooked.trans remove_hooked.symm,fun hn => absurd rfl hn⟩

theorem disable_cleared (h : Accounted t) : Cleared (uroamDisableHookTracing t) := by
  have hcleared : ∀ {kp : Kprobe}, kp.Accounted → kp.remove.live = false ∧ kp.remove.hooked = false :=
    fun hkp => ⟨(remove_accounted hkp).live.trans remove_hooked,remove_hooked⟩
  rw [disable_eq h]
  exact ⟨rfl,rfl,hcleared h.mmap,hcleared h.brk⟩

theorem call_accounted (h : Accounted t) {c : Call} (hc : Refuses t c) : Accounted (t.call c) := by
  cases c with
  | enableHookTracing u g => exact enable_accounted h u (hc u g rfl)
  | hooksInit u g =>
    rw [Tracer.call,hooksInit_state]
    exact enable_accounted h u (hc u g rfl)
  | disableHookTracing => exact disable_accounted h
  | hooksExit => exact disable_accounted h
  | mmapHit enabled =>
    exact { h with
      mmap := hit_accounted h.mmap enabled
      both := (hit_hooked enabled).trans h.both }
  | brkHit enabled =>
    exact { h with
      brk := hit_accounted h.brk enabled
      both := h.both.trans (hit_hooked enabled).symm }

theorem call_lost (h : Accounted t) (c : Call) :
    (t.call c).ftraceBuffer.lost.length = t.ftraceBuffer.lost.length + overwritten t c := by
  have hdisable : (uroamDisableHookTracing t).ftraceBuffer.lost = t.ftraceBuffer.lost := by
    rw [disable_eq h]
    rfl
  cases c with
  | enableHookTracing u g => exact enable_lost u g
  | hooksInit u g =>
    rw [Tracer.call,hooksInit_state]
    exact enable_lost u g
  | disableHookTracing => exact congrArg List.length hdisable
  | hooksExit => exact congrArg List.length hdisable
  | mmapHit enabled => rfl
  | brkHit enabled => rfl

theorem call_mmap_missed (h : Accounted t) {c : Call} (hc : Refuses t c) :
    (t.call c).mmap.missed = t.mmap.missed + mmapMissed t c := by
  have hdisable : (uroamDisableHookTracing t).mmap.missed =
      t.mmap.missed + (t.mmap.replaced || false).toNat := by
    rw [disable_eq h,Bool.or_false]
    exact remove_missed h.mmap
  cases c with
  | enableHookTracing u g => exact enable_missed h u (hc u g rfl)
  | hooksInit u g =>
    rw [Tracer.call,hooksInit_state]
    exact enable_missed h u (hc u g rfl)
  | disableHookTracing => exact hdisable
  | hooksExit => exact hdisable
  | mmapHit enabled => exact hit_missed enabled
  | brkHit enabled => rfl

theorem call_brk_missed (h : Accounted t) (c : Call) :
    (t.call c).brk.missed = t.brk.missed + brkMissed t c := by
  have hdisable : (uroamDisableHookTracing t).brk.missed = t.brk.missed + t.brk.replaced.toNat := by
    rw [disable_eq h]
    exact remove_missed h.brk
  cases c with
  | enableHookTracing u g => exact enable_brk_missed u g
  | hooksInit u g =>
    rw [Tracer.call,hooksInit_state]
    exact enable_brk_missed u g
  | disableHookTracing => exact hdisable
  | hooksExit => exact hdisable
  | mmapHit enabled => rfl
  | brkHit enabled => exact hit_missed enabled

theorem tracing_accounted (calls : List Call) (hcalls : Along Tracer.call Refuses .loaded calls) :
    Throughout Tracer.call Accounted .loaded calls ∧
    (exec Tracer.call .loaded calls).ftraceBuffer.lost.length =
      total Tracer.call overwritten .loaded calls ∧
    (exec Tracer.call .loaded calls).mmap.missed = total Tracer.call mmapMissed .loaded calls ∧
    (exec Tracer.call .loaded calls).brk.missed = total Tracer.call brkMissed .loaded calls ∧
    Cleared (uroamDisableHookTracing (exec Tracer.call .loaded calls)) := by
  have hkeeps : ∀ t c, Accounted t → Refuses t c → Accounted (Tracer.call t c) :=
    fun _ _ h hc => call_accounted h hc
  have hlost := @accumulated_under _ _ Tracer.call Accounted Refuses
    (fun t => t.ftraceBuffer.lost.length) overwritten hkeeps (fun _ c h _ => call_lost h c) calls
    .loaded loaded_accounted hcalls
  have hmmap := @accumulated_under _ _ Tracer.call Accounted Refuses (fun t => t.mmap.missed)
    mmapMissed hkeeps (fun _ _ h hc => call_mmap_missed h hc) calls .loaded loaded_accounted hcalls
  have hbrk := @accumulated_under _ _ Tracer.call Accounted Refuses (fun t => t.brk.missed)
    brkMissed hkeeps (fun _ c h _ => call_brk_missed h c) calls .loaded loaded_accounted hcalls
  have hend := invariant Tracer.call hkeeps calls .loaded loaded_accounted hcalls
  refine ⟨?_,?_,?_,?_,disable_cleared hend⟩
  · exact throughout_under Tracer.call hkeeps (fun _ h => h) calls .loaded loaded_accounted hcalls
  · simpa [Tracer.loaded,Slot.empty] using hlost
  · simpa [Tracer.loaded,Kprobe.static] using hmmap
  · simpa [Tracer.loaded,Kprobe.static] using hbrk

def probesOnly : UseFtrace := ⟨false,false,false⟩

def hitBetween : List Call :=
  [.hooksInit probesOnly ⟨true,0,false,0⟩,.mmapHit true,.enableHookTracing probesOnly ⟨true,-22,false,0⟩,
    .hooksExit]

theorem tracing_accounted_hit : (exec Tracer.call .loaded hitBetween).mmap.missed = 1 := by
  have hcalls : Along Tracer.call Refuses .loaded hitBetween := by
    refine ⟨?_,?_,?_,?_,trivial⟩
    · exact fun _ _ _ hlive => nomatch hlive
    · exact fun _ _ hnone => nomatch hnone
    · rintro u g henables _
      obtain ⟨-,rfl⟩ := Prod.mk.inj (Option.some.inj henables)
      decide
    · exact fun _ _ hnone => nomatch hnone
  exact (tracing_accounted hitBetween hcalls).2.2.1.trans (by decide)

end Uroam.Kernel.Tracing
