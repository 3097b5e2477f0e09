import Uroam.Library.Runs

namespace Uroam.Kmod
open Runs

def ksmRunStop : Nat := 0

def ksmRunMerge : Nat := 1

structure Knobs where
  enableUroam : Int
  enableKsm : Int
  enableCompact : Int
  scanIntervalMs : Int
  deriving DecidableEq, Repr

def Knobs.loaded : Knobs := ⟨1,0,0,1000⟩

inductive Knob where
  | enableUroam
  | enableKsm
  | enableCompact
  | scanIntervalMs
  deriving DecidableEq, Repr

def Knob.least : Knob → Int
  | .scanIntervalMs => 100
  | _ => 0

def Knob.most : Knob → Int
  | .scanIntervalMs => 60000
  | _ => 1

def Knobs.get (k : Knobs) : Knob → Int
  | .enableUroam => k.enableUroam
  | .enableKsm => k.enableKsm
  | .enableCompact => k.enableCompact
  | .scanIntervalMs => k.scanIntervalMs

def Knobs.set (k : Knobs) : Knob → Int → Knobs
  | .enableUroam, v => { k with enableUroam := v }
  | .enableKsm, v => { k with enableKsm := v }
  | .enableCompact, v => { k with enableCompact := v }
  | .scanIntervalMs, v => { k with scanIntervalMs := v }

def procDointvecMinmax (k : Knobs) (knob : Knob) (v : Int) : Knobs :=
  if knob.least ≤ v ∧ v ≤ knob.most then k.set knob v else k

inductive Point where
  | out
  | allocWorkqueue
  | procMkdir
  | procCreate
  | registerSysctl
  | modTimer
  | errSysctl
  | errEntry
  | errProc
  | live
  | delTimerSync
  | flushWorkqueue
  | awaitFlush (issued : Nat)
  | unregisterSysctl
  | removeStatus
  | removeDir
  | destroyWorkqueue
  deriving DecidableEq, Repr

inductive TimerPoint where
  | queueWork
  | modTimer
  deriving DecidableEq, Repr

inductive ScanPoint where
  | testEnabled
  | testKsm
  | testKsmRun
  | setMerge
  | runKsm
  | testCompact
  | compact
  | leave
  deriving DecidableEq, Repr

inductive Effect where
  | runKsm
  | compact
  deriving DecidableEq, Repr

structure Scanner where
  point : Point
  workqueue : Bool
  procDir : Bool
  procStatus : Bool
  registered : Bool
  sysctlHeader : Bool
  knobs : Knobs
  pending : Bool
  delay : Int
  timer : Option TimerPoint
  issued : Nat
  taken : Nat
  finished : Nat
  scan : Option ScanPoint
  ksmRun : Nat
  log : List Effect
  deriving DecidableEq, Repr

def Scanner.out (ksmRun : Nat) : Scanner :=
  ⟨.out,false,false,false,false,false,.loaded,false,0,none,0,0,0,none,ksmRun,[]⟩

inductive Turn where
  | insmod
  | rmmod
  | call (granted : Bool)
  | expire
  | timer
  | worker
  | sysctl (knob : Knob) (v : Int)
  | ksm (run : Nat)
  deriving DecidableEq, Repr

def call (s : Scanner) (granted : Bool) : Scanner :=
  match s.point with
  | .out => s
  | .allocWorkqueue =>
    if granted then { s with workqueue := true, point := .procMkdir } else { s with point := .out }
  | .procMkdir =>
    if granted then { s with procDir := true, point := .procCreate }
    else { s with point := .errProc }
  | .procCreate =>
    if granted then { s with procStatus := true, point := .registerSysctl }
    else { s with point := .errEntry }
  | .registerSysctl =>
    if granted then { s with registered := true, sysctlHeader := true, point := .modTimer }
    else { s with point := .errSysctl }
  | .modTimer => { s with pending := true, delay := 5000, point := .live }
  | .errSysctl => { s with procStatus := false, point := .errEntry }
  | .errEntry => { s with procDir := false, point := .errProc }
  | .errProc => { s with workqueue := false, point := .out }
  | .live => s
  | .delTimerSync =>
    if s.timer = none then { s with pending := false, point := .flushWorkqueue } else s
  | .flushWorkqueue => { s with point := .awaitFlush s.issued }
  | .awaitFlush issued => if issued ≤ s.finished then { s with point := .unregisterSysctl } else s
  | .unregisterSysctl =>
    if s.sysctlHeader then { s with registered := false, point := .removeStatus }
    else { s with point := .removeStatus }
  | .removeStatus => { s with procStatus := false, point := .removeDir }
  | .removeDir => { s with procDir := false, point := .destroyWorkqueue }
  | .destroyWorkqueue => { s with workqueue := false, point := .out }

-- Work that is already queued is not queued again.
def queueWork (s : Scanner) : Scanner :=
  if s.taken < s.issued then s else { s with issued := s.issued + 1 }

def uroamScanTimerFn (s : Scanner) : Scanner :=
  match s.timer with
  | none => s
  | some .queueWork => { queueWork s with timer := some .modTimer }
  | some .modTimer => { s with pending := true, delay := s.knobs.scanIntervalMs, timer := none }

def uroamScanWorkFn (s : Scanner) : ScanPoint → Scanner
  | .testEnabled =>
    { s with scan := some (if s.knobs.enableUroam = 0 then .leave else .testKsm) }
  | .testKsm =>
    { s with scan := some (if s.knobs.enableKsm = 0 then .testCompact else .testKsmRun) }
  | .testKsmRun =>
    { s with scan := some (if s.ksmRun = ksmRunStop then .testCompact else .setMerge) }
  | .setMerge => { s with ksmRun := ksmRunMerge, scan := some .runKsm }
  | .runKsm => { s with log := s.log ++ [.runKsm], scan := some .testCompact }
  | .testCompact =>
    { s with scan := some (if s.knobs.enableCompact = 0 then .leave else .compact) }
  | .compact => { s with log := s.log ++ [.compact], scan := some .leave }
  | .leave => { s with finished := s.finished + 1, scan := none }

def worker (s : Scanner) : Scanner :=
  match s.scan with
  | none => if s.taken < s.issued then { s with taken := s.taken + 1, scan := some .testEnabled } else s
  | some p => uroamScanWorkFn s p

def step (s : Scanner) : Turn → Scanner
  | .insmod =>
    if s.point = .out then { Scanner.out s.ksmRun with point := .allocWorkqueue, log := s.log } else s
  | .rmmod => if s.point = .live then { s with point := .delTimerSync } else s
  | .call granted => call s granted
  | .expire =>
    if s.pending ∧ s.timer = none then { s with pending := false, timer := some .queueWork } else s
  | .timer => uroamScanTimerFn s
  | .worker => worker s
  | .sysctl knob v => if s.registered then { s with knobs := procDointvecMinmax s.knobs knob v } else s
  | .ksm run => { s with ksmRun := run }

structure Scanner.Resting (s : Scanner) : Prop where
  pending : s.pending = false
  timer : s.timer = none
  issued : s.issued = s.finished
  scan : s.scan = none

structure Scanner.Released (s : Scanner) : Prop where
  workqueue : s.workqueue = false
  procDir : s.procDir = false
  procStatus : s.procStatus = false
  registered : s.registered = false
  resting : s.Resting

structure Scanner.Serving (s : Scanner) : Prop where
  workqueue : s.workqueue = true
  procDir : s.procDir = true
  procStatus : s.procStatus = true
  registered : s.registered = true
  armed : s.pending = !s.timer.isSome

structure Quiet (s : Scanner) : Prop where
  released : s.point = .out → s.Released
  serving : s.point = .live → s.Serving
  knobs : ∀ knob, knob.least ≤ s.knobs.get knob ∧ s.knobs.get knob ≤ knob.most
  delay : s.pending = true → 100 ≤ s.delay

def Sound (s : Scanner) : Turn → Prop
  | .call _ => match s.point with
    | .errSysctl => s.procStatus = true
    | .removeStatus => s.procStatus = true
    | .errEntry => s.procDir = true ∧ s.procStatus = false
    | .removeDir => s.procDir = true ∧ s.procStatus = false
    | .errProc => s.workqueue = true ∧ s.Resting
    | .destroyWorkqueue => s.workqueue = true ∧ s.Resting
    | .unregisterSysctl => s.registered = true
    | _ => True
  | .timer => s.timer ≠ none → s.workqueue = true ∧ s.point ≠ .out
  | .worker => s.taken < s.issued ∨ s.scan ≠ none → s.workqueue = true ∧ s.point ≠ .out
  | _ => True

def Point.objects : Point → Bool × Bool × Bool × Bool
  | .out => (false,false,false,false)
  | .allocWorkqueue => (false,false,false,false)
  | .procMkdir => (true,false,false,false)
  | .procCreate => (true,true,false,false)
  | .registerSysctl => (true,true,true,false)
  | .errSysctl => (true,true,true,false)
  | .errEntry => (true,true,false,false)
  | .errProc => (true,false,false,false)
  | .removeStatus => (true,true,true,false)
  | .removeDir => (true,true,false,false)
  | .destroyWorkqueue => (true,false,false,false)
  | _ => (true,true,true,true)

def Point.ticks : Point → Bool
  | .live => true
  | .delTimerSync => true
  | _ => false

def Point.works : Point → Bool
  | .live => true
  | .delTimerSync => true
  | .flushWorkqueue => true
  | .awaitFlush _ => true
  | _ => false

end Uroam.Kmod
