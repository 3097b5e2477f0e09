import Mathlib.Tactic.Tauto
import Uroam.Kernel.Lifecycle

namespace Uroam.Kernel.Lifecycle

section Ladder

variable (w : Writes) (m : Mod) (r : Resource)

theorem cleanupNetlink_releases : (cleanupNetlink m).releases r = m.releases r + match r with
    | .procEntries | .sysfsObject | .netlinkSocket => (m.held r).toNat
    | .pressureMonitor | .allocationHooks | .distanceTable | .trackingThread => 0 := by
  cases r <;> simp [cleanupNetlink,cleanupSysfs,cleanupProc]

theorem cleanupPressure_releases : (cleanupPressure w m).releases r = m.releases r + match r with
    | .procEntries | .sysfsObject | .netlinkSocket => (m.held r).toNat
    | .pressureMonitor => (w.read m.params [.ladderPressure]).enablePressureMonitor.toNat
    | .allocationHooks | .distanceTable | .trackingThread => 0 := by
  cases r <;> simp [cleanupPressure,cleanupNetlink_releases,Writes.read]

theorem cleanupHooks_releases : (cleanupHooks w m).releases r = m.releases r + match r with
    | .procEntries | .sysfsObject | .netlinkSocket => (m.held r).toNat
    | .pressureMonitor =>
      (w.read m.params [.ladderHooks, .ladderPressure]).enablePressureMonitor.toNat
    | .allocationHooks => (m.held r && (w.read m.params [.ladderHooks]).enableAllocationHooks).toNat
    | .distanceTable | .trackingThread => 0 := by
  cases r <;> simp [cleanupHooks,cleanupPressure_releases,Writes.read]

theorem cleanupNuma_releases : (cleanupNuma w m).releases r = m.releases r + match r with
    | .procEntries | .sysfsObject | .netlinkSocket => (m.held r).toNat
    | .pressureMonitor =>
      (w.read m.params [.ladderNuma, .ladderHooks, .ladderPressure]).enablePressureMonitor.toNat
    | .allocationHooks =>
      (m.held r && (w.read m.params [.ladderNuma, .ladderHooks]).enableAllocationHooks).toNat
    | .distanceTable => (m.held r && (w.read m.params [.ladderNuma]).enableNumaAware).toNat
    | .trackingThread => 0 := by
  cases r <;> simp [cleanupNuma,cleanupHooks_releases,Writes.read]

theorem exit_releases : (uroamExit w m).releases r = m.releases r + match r with
    | .procEntries | .sysfsObject | .netlinkSocket | .trackingThread => (m.held r).toNat
    | .pressureMonitor =>
      (w.read m.params [.exitNuma, .exitHooks, .exitPressure]).enablePressureMonitor.toNat
    | .allocationHooks =>
      (m.held r && (w.read m.params [.exitNuma, .exitHooks]).enableAllocationHooks).toNat
    | .distanceTable => (m.held r && (w.read m.params [.exitNuma]).enableNumaAware).toNat := by
  cases r <;> simp [uroamExit,Writes.read]

@[simp] theorem cleanupPressure_acquired :
    (cleanupPressure w m).acquired r ↔ m.acquired r := by
  simp [cleanupPressure,cleanupNetlink,cleanupSysfs,cleanupProc]

@[simp] theorem cleanupHooks_acquired : (cleanupHooks w m).acquired r ↔ m.acquired r := by
  simp [cleanupHooks]

@[simp] theorem cleanupNuma_acquired : (cleanupNuma w m).acquired r ↔ m.acquired r := by
  simp [cleanupNuma]

@[simp] theorem exit_acquired : (uroamExit w m).acquired r ↔ m.acquired r := by
  simp [uroamExit]

end Ladder

structure Started (m : Mod) : Prop where
  unreleased : ∀ r, m.releases r = 0
  acquired : ∀ r, m.acquired r ↔ m.held r = true
  proc : m.held .procEntries = true
  sysfs : m.held .sysfsObject = true
  netlink : m.held .netlinkSocket = true
  thread : m.held .trackingThread = false

theorem Started.acquire {m : Mod} (h : Started m) {r : Resource} (hr : r ≠ .trackingThread) :
    Started (m.acquire r) := by
  refine ⟨fun s => ?_,fun s => ?_,?_,?_,?_,?_⟩
  · simpa using h.unreleased s
  · simp [h.acquired,or_comm]
  · simp [h.proc]
  · simp [h.sysfs]
  · simp [h.netlink]
  · simp [h.thread,hr.symm]

theorem Started.sync {m : Mod} (h : Started m) (writes : List ParamWrite) :
    Started (m.sync writes) :=
  ⟨h.unreleased,h.acquired,h.proc,h.sysfs,h.netlink,h.thread⟩

def Settled (m : Mod) : Prop := ∀ r, m.acquired r → m.releases r = 1

def Untouched (m : Mod) : Prop := ∀ r, ¬ m.acquired r → m.releases r = 0

def Unloads (w : Writes) (loaded : Int × Mod) : Prop :=
  if loaded.1 < 0 then Settled loaded.2
  else Settled (uroamExit w loaded.2) ∧ Untouched (uroamExit w loaded.2)

theorem forall_resource {P : Resource → Prop} : (∀ r, P r) ↔
    P .procEntries ∧ P .sysfsObject ∧ P .netlinkSocket ∧ P .pressureMonitor ∧
      P .allocationHooks ∧ P .distanceTable ∧ P .trackingThread := by
  constructor
  · intro h
    exact ⟨h _,h _,h _,h _,h _,h _,h _⟩
  · rintro ⟨h1,h2,h3,h4,h5,h6,h7⟩ r
    cases r <;> assumption

section Stages

variable {w : Writes} {m : Mod} (o : Outcomes)

theorem settled_pressure (h : Started m) (hh : m.held .allocationHooks = false)
    (ht : m.held .distanceTable = false) :
    Settled (cleanupPressure w m) ↔
      (m.held .pressureMonitor = true →
        (w.read m.params [.ladderPressure]).enablePressureMonitor = true) := by
  simp [Settled,forall_resource,cleanupPressure_releases,h.unreleased,h.acquired,h.proc,h.sysfs,
    h.netlink,h.thread,hh,ht]

theorem settled_hooks (h : Started m) (ht : m.held .distanceTable = false) :
    Settled (cleanupHooks w m) ↔
      (m.held .allocationHooks = true →
        (w.read m.params [.ladderHooks]).enableAllocationHooks = true) ∧
      (m.held .pressureMonitor = true →
        (w.read m.params [.ladderHooks, .ladderPressure]).enablePressureMonitor = true) := by
  simp [Settled,forall_resource,cleanupHooks_releases,h.unreleased,h.acquired,h.proc,h.sysfs,
    h.netlink,h.thread,ht]
  tauto

theorem settled_numa (h : Started m) :
    Settled (cleanupNuma w m) ↔
      (m.held .distanceTable = true → (w.read m.params [.ladderNuma]).enableNumaAware = true) ∧
      (m.held .allocationHooks = true →
        (w.read m.params [.ladderNuma, .ladderHooks]).enableAllocationHooks = true) ∧
      (m.held .pressureMonitor = true →
        (w.read m.params [.ladderNuma, .ladderHooks, .ladderPressure]).enablePressureMonitor =
          true) := by
  simp [Settled,forall_resource,cleanupNuma_releases,h.unreleased,h.acquired,h.proc,h.sysfs,
    h.netlink,h.thread]
  tauto

theorem unloads_exit (h : Started m) (ret : Int) :
    Settled (uroamExit w (uroamNumaInit ret (m.acquire .trackingThread))) ∧
      Untouched (uroamExit w (uroamNumaInit ret (m.acquire .trackingThread))) ↔
      (m.held .distanceTable = true ∨ 0 ≤ ret →
        (w.read m.params [.exitNuma]).enableNumaAware = true) ∧
      (m.held .allocationHooks = true →
        (w.read m.params [.exitNuma, .exitHooks]).enableAllocationHooks = true) ∧
      (m.held .pressureMonitor = true ↔
        (w.read m.params [.exitNuma, .exitHooks, .exitPressure]).enablePressureMonitor = true) := by
  by_cases hret : 0 ≤ ret
  all_goals
    simp [Settled,Untouched,forall_resource,exit_releases,h.unreleased,h.acquired,h.proc,h.sysfs,
      h.netlink,h.thread,hret]
    cases m.held .distanceTable <;> cases m.held .allocationHooks <;>
      cases m.held .pressureMonitor <;> simp [and_assoc,and_comm]

end Stages

section Conditions

variable (w : Writes) (o : Outcomes)

def trackingSafe (p : Params) (pressure hooks table : Bool) : Prop :=
  if o.trackingThread < 0 then
    (table = true → (w.read p [.ladderNuma]).enableNumaAware = true) ∧
    (hooks = true → (w.read p [.ladderNuma, .ladderHooks]).enableAllocationHooks = true) ∧
    (pressure = true →
      (w.read p [.ladderNuma, .ladderHooks, .ladderPressure]).enablePressureMonitor = true)
  else
    (table = true ∨ 0 ≤ o.trackingNuma → (w.read p [.exitNuma]).enableNumaAware = true) ∧
    (hooks = true → (w.read p [.exitNuma, .exitHooks]).enableAllocationHooks = true) ∧
    (pressure = true ↔
      (w.read p [.exitNuma, .exitHooks, .exitPressure]).enablePressureMonitor = true)

def numaSafe (p : Params) (pressure hooks : Bool) : Prop :=
  let now := w.read p [.initNuma]
  if now.enableNumaAware = true ∧ o.numa < 0 then
    (hooks = true → (w.read now [.ladderHooks]).enableAllocationHooks = true) ∧
    (pressure = true →
      (w.read now [.ladderHooks, .ladderPressure]).enablePressureMonitor = true)
  else trackingSafe w o now pressure hooks now.enableNumaAware

def hooksSafe (p : Params) (pressure : Bool) : Prop :=
  let now := w.read p [.initHooks]
  if now.enableAllocationHooks = true ∧ o.hooks < 0 then
    pressure = true → (w.read now [.ladderPressure]).enablePressureMonitor = true
  else numaSafe w o now pressure now.enableAllocationHooks

def pressureSafe (p : Params) : Prop :=
  let now := w.read p [.initPressure]
  now.enablePressureMonitor = true ∧ o.pressure < 0 ∨ hooksSafe w o now now.enablePressureMonitor

def unloadSafe (p : Params) : Prop :=
  o.procEntries < 0 ∨ o.sysfsEntries < 0 ∨ o.netlink < 0 ∨ pressureSafe w o p

variable {w o} {m : Mod}

theorem tracking_unloads (h : Started m) : Unloads w (initTracking w o m) ↔
    trackingSafe w o m.params (m.held .pressureMonitor) (m.held .allocationHooks)
      (m.held .distanceTable) := by
  unfold initTracking uroamTrackingInit trackingSafe Unloads
  by_cases ht : o.trackingThread < 0
  · simp only [ht,if_true]
    exact settled_numa h
  · simp only [ht,if_false]
    exact unloads_exit h o.trackingNuma

theorem unloads_failed {ret : Int} (hr : ret < 0) : Unloads w (ret,m) ↔ Settled m := by
  simp [Unloads,hr]

theorem numa_unloads (h : Started m) (ht : m.held .distanceTable = false) :
    Unloads w (initNuma w o m) ↔
      numaSafe w o m.params (m.held .pressureMonitor) (m.held .allocationHooks) := by
  have hs := h.sync (w .initNuma)
  have ht' : (m.sync (w .initNuma)).held .distanceTable = false := ht
  change Unloads w (initNuma w o m) ↔ numaSafe w o m.params
    ((m.sync (w .initNuma)).held .pressureMonitor) ((m.sync (w .initNuma)).held .allocationHooks)
  have hread : w.read m.params [.initNuma] = (m.sync (w .initNuma)).params := rfl
  simp only [initNuma,numaSafe,hread]
  generalize m.sync (w .initNuma) = now at hs ht'
  cases hn : now.params.enableNumaAware with
  | true =>
    by_cases ho : o.numa < 0
    · simp only [ho,if_true,and_self]
      exact (unloads_failed ho).trans (settled_hooks hs ht')
    · have hinit : uroamNumaInit o.numa now = now.acquire .distanceTable := by
        simp [uroamNumaInit,Int.not_lt.mp ho,ht']
      simp only [ho,if_true,if_false,and_false,hinit]
      simpa using tracking_unloads (w := w) (o := o) (hs.acquire (r := .distanceTable) (by simp))
  | false =>
    simpa [ht'] using tracking_unloads (w := w) (o := o) hs

theorem hooks_unloads (h : Started m) (ht : m.held .distanceTable = false)
    (hh : m.held .allocationHooks = false) :
    Unloads w (initHooks w o m) ↔ hooksSafe w o m.params (m.held .pressureMonitor) := by
  have hs := h.sync (w .initHooks)
  have ht' : (m.sync (w .initHooks)).held .distanceTable = false := ht
  have hh' : (m.sync (w .initHooks)).held .allocationHooks = false := hh
  change Unloads w (initHooks w o m) ↔
    hooksSafe w o m.params ((m.sync (w .initHooks)).held .pressureMonitor)
  have hread : w.read m.params [.initHooks] = (m.sync (w .initHooks)).params := rfl
  simp only [initHooks,hooksSafe,hread]
  generalize m.sync (w .initHooks) = now at hs ht' hh'
  cases hn : now.params.enableAllocationHooks with
  | true =>
    by_cases ho : o.hooks < 0
    · simp only [ho,if_true,and_self]
      exact (unloads_failed ho).trans (settled_pressure hs hh' ht')
    · simp only [ho,if_true,if_false,and_false]
      have hnuma := numa_unloads (w := w) (o := o) (hs.acquire (r := .allocationHooks) (by simp))
        (by simp [ht'])
      simpa using hnuma
  | false =>
    simpa [hh'] using numa_unloads (w := w) (o := o) hs ht'

theorem pressure_unloads (h : Started m) (ht : m.held .distanceTable = false)
    (hh : m.held .allocationHooks = false) (hp : m.held .pressureMonitor = false) :
    Unloads w (initPressure w o m) ↔ pressureSafe w o m.params := by
  have hs := h.sync (w .initPressure)
  have ht' : (m.sync (w .initPressure)).held .distanceTable = false := ht
  have hh' : (m.sync (w .initPressure)).held .allocationHooks = false := hh
  have hp' : (m.sync (w .initPressure)).held .pressureMonitor = false := hp
  have hread : w.read m.params [.initPressure] = (m.sync (w .initPressure)).params := rfl
  simp only [initPressure,pressureSafe,hread]
  generalize m.sync (w .initPressure) = now at hs ht' hh' hp'
  cases hn : now.params.enablePressureMonitor with
  | true =>
    by_cases ho : o.pressure < 0
    · simp only [ho,if_true,and_self,true_or,iff_true]
      apply (unloads_failed ho).mpr
      simp [Settled,forall_resource,hs.unreleased,hs.acquired,hs.proc,
        hs.sysfs,hs.netlink,hs.thread,ht',hh',hp',cleanupNetlink,cleanupSysfs,cleanupProc]
    · simp only [ho,if_true,if_false,and_false,false_or]
      have hhooks := hooks_unloads (w := w) (o := o) (hs.acquire (r := .pressureMonitor) (by simp))
        (by simp [ht']) (by simp [hh'])
      simpa using hhooks
  | false =>
    simpa [hp'] using hooks_unloads (w := w) (o := o) hs ht' hh'

theorem insmod_releases (params : Params) (r : Resource) : (Mod.insmod params).releases r = 0 := rfl

theorem insmod_acquired (params : Params) (r : Resource) : ¬ (Mod.insmod params).acquired r :=
  List.not_mem_nil

theorem insmod_held (params : Params) (r : Resource) : (Mod.insmod params).held r = false := rfl

theorem insmod_started (params : Params) :
    Started ((((Mod.insmod params).acquire .procEntries).acquire .sysfsObject).acquire
      .netlinkSocket) := by
  refine ⟨fun r => ?_,fun r => ?_,?_,?_,?_,?_⟩
  · simp [insmod_releases]
  · cases r <;> simp [insmod_acquired,insmod_held]
  all_goals simp [insmod_held]

theorem unload_exact (w : Writes) (o : Outcomes) (params : Params) :
    Unloads w (uroamInit w o (.insmod params)) ↔ unloadSafe w o params := by
  unfold uroamInit unloadSafe
  by_cases hproc : o.procEntries < 0
  · simp [hproc,Unloads,Settled,insmod_acquired]
  · by_cases hsys : o.sysfsEntries < 0
    · simp [hproc,hsys,Unloads,Settled,insmod_acquired,insmod_releases,cleanupProc,insmod_held]
    · by_cases hnl : o.netlink < 0
      · simp [hproc,hsys,hnl,Unloads,Settled,insmod_acquired,insmod_releases,cleanupSysfs,
          cleanupProc,insmod_held]
      · simp only [hproc,hsys,hnl,if_false,false_or]
        exact pressure_unloads (insmod_started params) (by simp [insmod_held])
          (by simp [insmod_held]) (by simp [insmod_held])

theorem distance_table_leaks :
    ¬ ∀ (w : Writes) (o : Outcomes) (params : Params),
      Unloads w (uroamInit w o (.insmod params)) := by
  intro h
  obtain ⟨hsettled,_⟩ := h (fun _ => []) ⟨0,0,0,0,0,0,0,0⟩ ⟨true,false,false⟩
  exact absurd (hsettled .distanceTable (by decide)) (by decide)

end Conditions

end Uroam.Kernel.Lifecycle
