import Uroam.Kernel.Delivery
import Uroam.Library.Sections
import Uroam.Library.Settings

namespace Uroam.Kernel
open Runs Sections Settings Thread

structure Figures where
  enabled : Bool
  pressureLevel : PsiPressure
  lastPressureTime : U64
  pressureCount : U64
  allocationCount : U64
  reclaimCount : U64
  deriving DecidableEq, Repr

def GlobalState.figures (g : GlobalState) : Figures :=
  ⟨g.enabled,g.pressureLevel,g.lastPressureTime,g.pressureCount,g.allocationCount,g.reclaimCount⟩

structure NlMsgStats where
  allocationCount : U64
  reclaimCount : U64
  pressureCount : U64
  pressureLevel : PsiPressure
  trackedProcesses : Nat
  deriving DecidableEq, Repr

structure NlMsgPressure where
  level : PsiPressure
  timestamp : U64
  count : U64
  deriving DecidableEq, Repr

structure Locals where
  loaded : U64
  text : List String
  stats : NlMsgStats
  pressure : Option NlMsgPressure
  deriving DecidableEq, Repr

def Locals.fresh : Locals := ⟨0,[],⟨0,0,0,.memoryNone,0⟩,none⟩

def uroamGetPressureLevelStr : PsiPressure → String
  | .memoryNone => "NONE"
  | .memorySome => "SOME"
  | .memoryFull => "FULL"

def decimal (n : U64) : String := toString n.toNat

inductive Section where
  | notifyPressure (level : PsiPressure) (now timestamp : U64)
  | recordAllocation
  | recordReclaim
  | enabledStore (val : Bool)
  | procStatusShow
  | sendStats (trackedCount : Nat)
  deriving DecidableEq, Repr

abbrev Access := Micro Figures Locals

def write (f : Figures → Locals → Figures) : Access := fun now => (f now.1 now.2,now.2)

def read (f : Figures → Locals → Locals) : Access := fun now => (now.1,f now.1 now.2)

def seqPrintf (f : Figures → String) : Access := read fun g r => { r with text := r.text ++ [f g] }

def uroamNotifyPressureSection (level : PsiPressure) (now timestamp : U64) : List Access :=
  [write fun g _ => { g with pressureLevel := level },
    read fun g r => { r with loaded := g.pressureCount },
    write fun g r => { g with pressureCount := r.loaded + 1 },
    write fun g _ => { g with lastPressureTime := now },
    read fun g r => { r with pressure := some ⟨level,timestamp,g.pressureCount⟩ }]

def uroamRecordAllocationSection : List Access :=
  [read fun g r => { r with loaded := g.allocationCount },
    write fun g r => { g with allocationCount := r.loaded + 1 }]

def uroamRecordReclaimSection : List Access :=
  [read fun g r => { r with loaded := g.reclaimCount },
    write fun g r => { g with reclaimCount := r.loaded + 1 }]

def uroamEnabledStoreSection (val : Bool) : List Access := [write fun g _ => { g with enabled := val }]

def statusLine (g : Figures) : String :=
  "Module Status: " ++ (if g.enabled then "Enabled" else "Disabled") ++ "\n"

def levelLine (g : Figures) : String :=
  "Pressure Level: " ++ uroamGetPressureLevelStr g.pressureLevel ++ "\n"

def pressureLine (g : Figures) : String := "Pressure Count: " ++ decimal g.pressureCount ++ "\n"

def allocationLine (g : Figures) : String := "Allocation Count: " ++ decimal g.allocationCount ++ "\n"

def reclaimLine (g : Figures) : String := "Reclaim Count: " ++ decimal g.reclaimCount ++ "\n"

def uroamProcStatusShowSection : List Access :=
  [seqPrintf statusLine,seqPrintf levelLine,seqPrintf pressureLine,seqPrintf allocationLine,
    seqPrintf reclaimLine]

def uroamNetlinkSendStatsSection (trackedCount : Nat) : List Access :=
  [read fun g r => { r with stats := { r.stats with allocationCount := g.allocationCount } },
    read fun g r => { r with stats := { r.stats with reclaimCount := g.reclaimCount } },
    read fun g r => { r with stats := { r.stats with pressureCount := g.pressureCount } },
    read fun g r => { r with stats := { r.stats with pressureLevel := g.pressureLevel } },
    read fun _ r => { r with stats := { r.stats with trackedProcesses := trackedCount } }]

def Section.code : Section → List Access
  | .notifyPressure level now timestamp => uroamNotifyPressureSection level now timestamp
  | .recordAllocation => uroamRecordAllocationSection
  | .recordReclaim => uroamRecordReclaimSection
  | .enabledStore val => uroamEnabledStoreSection val
  | .procStatusShow => uroamProcStatusShowSection
  | .sendStats trackedCount => uroamNetlinkSendStatsSection trackedCount

abbrev Threads := Machine Figures Locals Section

def Threads.step : Threads → Sections.Turn Section → Threads := Machine.step Section.code Locals.fresh

def Section.level : Section → Option PsiPressure
  | .notifyPressure level _ _ => some level
  | _ => none

def Section.time : Section → Option U64
  | .notifyPressure _ now _ => some now
  | _ => none

def Section.stored : Section → Option Bool
  | .enabledStore val => some val
  | _ => none

def tally (b : Section → Bool) (sections : List Section) : U64 := BitVec.ofNat 64 (sections.countP b)

def Figures.reported (g : Figures) (sections : List Section) : Figures where
  enabled := (lastSome Section.stored sections).getD g.enabled
  pressureLevel := (lastSome Section.level sections).getD g.pressureLevel
  lastPressureTime := (lastSome Section.time sections).getD g.lastPressureTime
  pressureCount := g.pressureCount + tally (fun s => s.level.isSome) sections
  allocationCount := g.allocationCount + tally (· = .recordAllocation) sections
  reclaimCount := g.reclaimCount + tally (· = .recordReclaim) sections

def Tells (g : Figures) (r : Locals) : Section → Prop
  | .notifyPressure level _ timestamp => r.pressure = some ⟨level,timestamp,g.pressureCount + 1⟩
  | .procStatusShow =>
    r.text = [statusLine g,levelLine g,pressureLine g,allocationLine g,reclaimLine g]
  | .sendStats trackedCount =>
    r.stats = ⟨g.allocationCount,g.reclaimCount,g.pressureCount,g.pressureLevel,trackedCount⟩
  | _ => True

abbrev Section.whole (s : Section) (g : Figures) : Figures × Locals :=
  Sections.whole Section.code Locals.fresh g s

theorem whole_tells (g : Figures) (s : Section) : Tells g (s.whole g).2 s := by
  cases s with
  | notifyPressure level now timestamp => rfl
  | recordAllocation => trivial
  | recordReclaim => trivial
  | enabledStore val => trivial
  | procStatusShow => rfl
  | sendStats trackedCount => rfl

theorem tally_concat (b : Section → Bool) (sections : List Section) (s : Section) :
    tally b (sections ++ [s]) = tally b sections + (if b s then 1 else 0) := by
  unfold tally
  rw [List.countP_append,BitVec.ofNat_add]
  cases hb : b s <;> simp [hb]

theorem reported_concat (g : Figures) (sections : List Section) (s : Section) :
    g.reported (sections ++ [s]) = (s.whole (g.reported sections)).1 := by
  have hfields : ∀ f : Figures, (s.whole f).1 =
      ⟨s.stored.getD f.enabled,s.level.getD f.pressureLevel,s.time.getD f.lastPressureTime,
        f.pressureCount + (if s.level.isSome then 1 else 0),
        f.allocationCount + (if s = .recordAllocation then 1 else 0),
        f.reclaimCount + (if s = .recordReclaim then 1 else 0)⟩ := by
    intro f
    cases s <;> simp [Section.whole,Sections.whole,finish,Section.code,Section.stored,Section.level,
      Section.time,uroamNotifyPressureSection,uroamRecordAllocationSection,
      uroamRecordReclaimSection,uroamEnabledStoreSection,uroamProcStatusShowSection,
      uroamNetlinkSendStatsSection,seqPrintf,write,read]
  rw [hfields]
  unfold Figures.reported
  simp only [lastSome_concat,tally_concat,decide_eq_true_eq,BitVec.add_assoc]
  cases s.stored <;> cases s.level <;> cases s.time <;> rfl

theorem after_reported (g : Figures) (sections : List Section) :
    after Section.code Locals.fresh g sections = g.reported sections := by
  induction sections using List.reverseRecOn with
  | nil => simp [after,Figures.reported,tally]
  | append_singleton sections s ih =>
    rw [after_append,ih,reported_concat]
    rfl

theorem reports_serial (g : Figures) (turns : List (Sections.Turn Section)) :
    let m := exec Threads.step (.start g) turns
    (∀ i j, m.points i ≠ .outside → m.points j ≠ .outside → i = j) ∧
    (∀ pre s r post, m.finished = pre ++ (s,r) :: post →
      Tells (g.reported (pre.map Prod.fst)) r s) ∧
    (m.locked = false → m.shared = g.reported (m.finished.map Prod.fst)) := by
  have hserial := run_serial Section.code Locals.fresh g turns
  refine ⟨fun i j => hserial.alone,fun pre s r post hsplit => ?_,fun hfree => ?_⟩
  · rw [hserial.results pre s r post hsplit,after_reported]
    exact whole_tells _ s
  · exact (hserial.free hfree).2.trans (after_reported g _)

theorem notify_figures {env : Env} {deliver : Option Skb → Kern Unit} {m : Module}
    (h : m.nlSock = false) (level : PsiPressure) (timestamp : U64) :
    ((uroamNotifyPressure env deliver level).run [] m).state.globalState.figures =
      ((Section.notifyPressure level (env.jiffies m.sends) timestamp).whole
        m.globalState.figures).1 := by
  by_cases hb : env.builds m.sends
  · simp [uroamNotifyPressure,uroamNetlinkSendPressure,lock_free,send_closed,hb,h]
    rfl
  · simp [uroamNotifyPressure,uroamNetlinkSendPressure,lock_free,send_unbuilt,hb,Env.unbuilt]
    split <;> rfl

end Uroam.Kernel
