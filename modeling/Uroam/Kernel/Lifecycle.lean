import Mathlib.Data.List.Basic
import Mathlib.Logic.Function.Basic

namespace Uroam.Kernel.Lifecycle

inductive Resource where
  | procEntries
  | sysfsObject
  | netlinkSocket
  | pressureMonitor
  | allocationHooks
  | distanceTable
  | trackingThread
  deriving DecidableEq, Repr

inductive Act where
  | acquire (r : Resource)
  | release (r : Resource)
  deriving DecidableEq, Repr

structure Params where
  enablePressureMonitor : Bool
  enableAllocationHooks : Bool
  enableNumaAware : Bool
  deriving DecidableEq, Repr

inductive ParamWrite where
  | enablePressureMonitor (value : Bool)
  | enableAllocationHooks (value : Bool)
  | enableNumaAware (value : Bool)
  deriving DecidableEq, Repr

def Params.write (p : Params) : ParamWrite → Params
  | .enablePressureMonitor value => { p with enablePressureMonitor := value }
  | .enableAllocationHooks value => { p with enableAllocationHooks := value }
  | .enableNumaAware value => { p with enableNumaAware := value }

inductive Point where
  | initPressure
  | initHooks
  | initNuma
  | ladderNuma
  | ladderHooks
  | ladderPressure
  | exitNuma
  | exitHooks
  | exitPressure
  deriving DecidableEq, Repr

abbrev Writes := Point → List ParamWrite

structure Outcomes where
  procEntries : Int
  sysfsEntries : Int
  netlink : Int
  pressure : Int
  hooks : Int
  numa : Int
  trackingThread : Int
  trackingNuma : Int
  deriving DecidableEq, Repr

structure Mod where
  params : Params
  held : Resource → Bool
  log : List Act

def Mod.insmod (params : Params) : Mod := { params, held := fun _ => false, log := [] }

def Mod.sync (m : Mod) (writes : List ParamWrite) : Mod :=
  { m with params := writes.foldl Params.write m.params }

def Mod.acquire (m : Mod) (r : Resource) : Mod :=
  { m with held := Function.update m.held r true, log := m.log ++ [.acquire r] }

def Mod.release (m : Mod) (r : Resource) : Mod :=
  { m with held := Function.update m.held r false, log := m.log ++ [.release r] }

def Mod.releaseHeld (m : Mod) (r : Resource) : Mod := if m.held r then m.release r else m

abbrev uroamRemoveProcEntries : Mod → Mod := (·.releaseHeld .procEntries)
abbrev uroamRemoveSysfsEntries : Mod → Mod := (·.releaseHeld .sysfsObject)
abbrev uroamNetlinkExit : Mod → Mod := (·.releaseHeld .netlinkSocket)
abbrev uroamHooksExit : Mod → Mod := (·.releaseHeld .allocationHooks)
abbrev uroamNumaExit : Mod → Mod := (·.releaseHeld .distanceTable)
abbrev uroamTrackingExit : Mod → Mod := (·.releaseHeld .trackingThread)

abbrev uroamPressureExit : Mod → Mod := (·.release .pressureMonitor)

def exitIf (flag : Bool) (exit : Mod → Mod) (m : Mod) : Mod := if flag then exit m else m

def uroamNumaInit (ret : Int) (m : Mod) : Mod :=
  if 0 ≤ ret ∧ m.held .distanceTable = false then m.acquire .distanceTable else m

def uroamTrackingInit (o : Outcomes) (m : Mod) : Int × Mod :=
  if o.trackingThread < 0 then (o.trackingThread,m)
  else (0,uroamNumaInit o.trackingNuma (m.acquire .trackingThread))

section

variable (w : Writes)

def cleanupProc (m : Mod) : Mod := uroamRemoveProcEntries m

def cleanupSysfs (m : Mod) : Mod := cleanupProc (uroamRemoveSysfsEntries m)

def cleanupNetlink (m : Mod) : Mod := cleanupSysfs (uroamNetlinkExit m)

def cleanupPressure (m : Mod) : Mod :=
  let m := m.sync (w .ladderPressure)
  cleanupNetlink (exitIf m.params.enablePressureMonitor uroamPressureExit m)

def cleanupHooks (m : Mod) : Mod :=
  let m := m.sync (w .ladderHooks)
  cleanupPressure w (exitIf m.params.enableAllocationHooks uroamHooksExit m)

def cleanupNuma (m : Mod) : Mod :=
  let m := m.sync (w .ladderNuma)
  cleanupHooks w (exitIf m.params.enableNumaAware uroamNumaExit m)

def initTracking (o : Outcomes) (m : Mod) : Int × Mod :=
  let tracked := uroamTrackingInit o m
  if tracked.1 < 0 then (tracked.1,cleanupNuma w tracked.2) else (0,tracked.2)

def initNuma (o : Outcomes) (m : Mod) : Int × Mod :=
  let m := m.sync (w .initNuma)
  if m.params.enableNumaAware then
    if o.numa < 0 then (o.numa,cleanupHooks w m)
    else initTracking w o (uroamNumaInit o.numa m)
  else initTracking w o m

def initHooks (o : Outcomes) (m : Mod) : Int × Mod :=
  let m := m.sync (w .initHooks)
  if m.params.enableAllocationHooks then
    if o.hooks < 0 then (o.hooks,cleanupPressure w m)
    else initNuma w o (m.acquire .allocationHooks)
  else initNuma w o m

def initPressure (o : Outcomes) (m : Mod) : Int × Mod :=
  let m := m.sync (w .initPressure)
  if m.params.enablePressureMonitor then
    if o.pressure < 0 then (o.pressure,cleanupNetlink m)
    else initHooks w o (m.acquire .pressureMonitor)
  else initHooks w o m

def uroamInit (o : Outcomes) (m : Mod) : Int × Mod :=
  if o.procEntries < 0 then (o.procEntries,m)
  else
    let m := m.acquire .procEntries
    if o.sysfsEntries < 0 then (o.sysfsEntries,cleanupProc m)
    else
      let m := m.acquire .sysfsObject
      if o.netlink < 0 then (o.netlink,cleanupSysfs m)
      else initPressure w o (m.acquire .netlinkSocket)

def uroamExit (m : Mod) : Mod :=
  let m := uroamTrackingExit m
  let m := m.sync (w .exitNuma)
  let m := exitIf m.params.enableNumaAware uroamNumaExit m
  let m := m.sync (w .exitHooks)
  let m := exitIf m.params.enableAllocationHooks uroamHooksExit m
  let m := m.sync (w .exitPressure)
  let m := exitIf m.params.enablePressureMonitor uroamPressureExit m
  uroamRemoveProcEntries (uroamRemoveSysfsEntries (uroamNetlinkExit m))

end

def Mod.acquired (m : Mod) (r : Resource) : Prop := .acquire r ∈ m.log

instance (m : Mod) (r : Resource) : Decidable (m.acquired r) :=
  inferInstanceAs (Decidable (_ ∈ m.log))

def Mod.releases (m : Mod) (r : Resource) : Nat := m.log.count (.release r)

section Effects

variable (m : Mod) (r s : Resource)

@[simp] theorem acquire_params : (m.acquire r).params = m.params := rfl

@[simp] theorem acquire_held : (m.acquire s).held r = (decide (r = s) || m.held r) := by
  by_cases h : r = s <;> simp [Mod.acquire,h]

@[simp] theorem acquire_acquired : (m.acquire s).acquired r ↔ m.acquired r ∨ r = s := by
  simp [Mod.acquired,Mod.acquire]

@[simp] theorem acquire_releases : (m.acquire s).releases r = m.releases r := by
  simp [Mod.releases,Mod.acquire,List.count_append]

@[simp] theorem releaseHeld_params : (m.releaseHeld s).params = m.params := by
  unfold Mod.releaseHeld
  split <;> rfl

@[simp] theorem releaseHeld_held : (m.releaseHeld s).held r = (m.held r && decide (r ≠ s)) := by
  unfold Mod.releaseHeld Mod.release
  by_cases h : r = s
  · subst h
    cases hh : m.held r <;> simp [hh]
  · split <;> simp [h]

@[simp] theorem releaseHeld_acquired : (m.releaseHeld s).acquired r ↔ m.acquired r := by
  unfold Mod.releaseHeld Mod.acquired Mod.release
  split <;> simp

@[simp] theorem releaseHeld_releases :
    (m.releaseHeld s).releases r = m.releases r + (m.held s && decide (r = s)).toNat := by
  unfold Mod.releaseHeld Mod.releases Mod.release
  by_cases h : r = s
  · subst h
    cases m.held r <;> simp [List.count_append]
  · have hne : s ≠ r := fun he => h he.symm
    split <;> simp [List.count_append,h,hne]

@[simp] theorem release_held : (m.release s).held r = (m.held r && decide (r ≠ s)) := by
  by_cases h : r = s <;> simp [Mod.release,h]

@[simp] theorem release_acquired : (m.release s).acquired r ↔ m.acquired r := by
  simp [Mod.acquired,Mod.release]

@[simp] theorem release_releases :
    (m.release s).releases r = m.releases r + (decide (r = s)).toNat := by
  by_cases h : r = s
  · simp [Mod.releases,Mod.release,List.count_append,h]
  · have hne : s ≠ r := fun he => h he.symm
    simp [Mod.releases,Mod.release,List.count_append,h,hne]

section Gated

variable (flag : Bool)

@[simp] theorem exitIf_held : (exitIf flag (·.releaseHeld s) m).held r =
    (m.held r && !(flag && decide (r = s))) := by
  cases flag <;> simp [exitIf]

@[simp] theorem exitIf_params : (exitIf flag (·.releaseHeld s) m).params = m.params := by
  cases flag <;> simp [exitIf]

@[simp] theorem exitIf_acquired :
    (exitIf flag (·.releaseHeld s) m).acquired r ↔ m.acquired r := by
  cases flag <;> simp [exitIf]

@[simp] theorem exitIf_releases : (exitIf flag (·.releaseHeld s) m).releases r =
    m.releases r + (m.held s && flag && decide (r = s)).toNat := by
  cases flag <;> simp [exitIf]

@[simp] theorem exitIf_release_held : (exitIf flag (·.release s) m).held r =
    (m.held r && !(flag && decide (r = s))) := by
  cases flag <;> simp [exitIf]

@[simp] theorem exitIf_release_acquired :
    (exitIf flag (·.release s) m).acquired r ↔ m.acquired r := by
  cases flag <;> simp [exitIf]

@[simp] theorem exitIf_release_releases : (exitIf flag (·.release s) m).releases r =
    m.releases r + (flag && decide (r = s)).toNat := by
  cases flag <;> simp [exitIf]

end Gated

@[simp] theorem numaInit_params (ret : Int) : (uroamNumaInit ret m).params = m.params := by
  unfold uroamNumaInit
  split <;> rfl

@[simp] theorem numaInit_held (ret : Int) : (uroamNumaInit ret m).held r =
    (m.held r || (decide (r = .distanceTable) && decide (0 ≤ ret))) := by
  unfold uroamNumaInit
  by_cases hret : 0 ≤ ret
  · by_cases hr : r = .distanceTable
    · subst hr
      cases ht : m.held .distanceTable <;> simp [hret,ht]
    · cases ht : m.held .distanceTable <;> simp [hret,hr]
  · simp [hret]

@[simp] theorem numaInit_acquired (ret : Int) : (uroamNumaInit ret m).acquired r ↔
    m.acquired r ∨ r = .distanceTable ∧ 0 ≤ ret ∧ m.held .distanceTable = false := by
  unfold uroamNumaInit
  by_cases hret : 0 ≤ ret
  · cases m.held .distanceTable <;> simp [hret]
  · simp [hret]

@[simp] theorem numaInit_releases (ret : Int) :
    (uroamNumaInit ret m).releases r = m.releases r := by
  unfold uroamNumaInit
  split <;> simp

variable (writes : List ParamWrite)

@[simp] theorem sync_params : (m.sync writes).params = writes.foldl Params.write m.params := rfl

@[simp] theorem sync_held : (m.sync writes).held = m.held := rfl

@[simp] theorem sync_acquired : (m.sync writes).acquired r ↔ m.acquired r := Iff.rfl

@[simp] theorem sync_releases : (m.sync writes).releases r = m.releases r := rfl

end Effects

def Writes.read (w : Writes) (p : Params) (points : List Point) : Params :=
  points.foldl (fun p point => (w point).foldl Params.write p) p

end Uroam.Kernel.Lifecycle
