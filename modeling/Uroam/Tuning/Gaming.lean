import Mathlib.Logic.Function.Basic
import Uroam.Library.Runs
import Uroam.Tuning.Classifier
import Uroam.Tuning.Tunable

namespace Uroam.Tuning.Gaming

structure GamingState where
  isSteamRunning : Bool
  isProtonActive : Bool
  isWineRunning : Bool
  shaderCachePids : List Nat
  criticalPids : List Nat
  originalSwappiness : Option Nat
  deriving DecidableEq, Repr

def GamingState.default : GamingState := ⟨false,false,false,[],[],none⟩

def isCriticalProcess (comm cmdline : List Char) : Bool :=
  ["gamescope","gamemoded","gamescope-session","proton","steam","steamwebhelper"].any fun name =>
    contains comm name || contains cmdline name

def isShaderCacheProcess (comm : List Char) : Bool :=
  ["shader-cache","steam","gamescope"].any fun name => contains comm name

def GamingState.scanEntry (toLowercase : List Char → List Char) (state : GamingState)
    (entry : ProcEntry) : GamingState :=
  let comm := toLowercase entry.comm
  let cmdline := toLowercase entry.cmdline
  { state with
    isSteamRunning := state.isSteamRunning || contains comm "steam" || contains cmdline "steam"
    isProtonActive := state.isProtonActive || contains comm "proton" || contains cmdline "proton"
    isWineRunning := state.isWineRunning || contains comm "wine" || contains comm "wine64"
    criticalPids := state.criticalPids ++ if isCriticalProcess comm cmdline then [entry.pid] else []
    shaderCachePids :=
      state.shaderCachePids ++ if isShaderCacheProcess comm then [entry.pid] else [] }

def detectGamingProcesses (toLowercase : List Char → List Char) (state : GamingState)
    (proc : Option (List ProcEntry)) : GamingState × Bool :=
  let cleared := { GamingState.default with originalSwappiness := state.originalSwappiness }
  match proc with
  | none => (cleared,false)
  | some entries => (entries.foldl (GamingState.scanEntry toLowercase) cleared,true)

structure ApplyEnv where
  swappinessReadable : Bool
  writeOk : Tunable → Bool
  ksmExists : Bool
  thpExists : Bool
  oomOk : Nat → Bool
  shaderDirExists : Bool
  createShaderDir : Bool

def parseU32 : Setting → Option Nat
  | .num n => if n < 2 ^ 32 then some n else none
  | .word _ => none

def saveSwappiness (readable : Bool) (store : Store) (state : GamingState) : GamingState :=
  match state.originalSwappiness, if readable then parseU32 (store .swappiness) else none with
  | none, some swappiness => { state with originalSwappiness := some swappiness }
  | _, _ => state

def gamingSettings (env : ApplyEnv) : List (Tunable × Setting) :=
  [(.swappiness,.num 1),(.vfsCachePressure,.num 50),(.pageCluster,.num 0),
    (.minFreeKbytes,.num (64 * 1024))] ++
  (if env.ksmExists then [(.ksmRun,.num 0)] else []) ++
  (if env.thpExists then [(.thpEnabled,.word "[always]")] else [])

structure Applied where
  state : GamingState
  written : List (Tunable × Setting)
  oom : List Write
  ok : Bool

-- The first failed write ends the call, so what is written is a leading part of the list.
def applyGamingOptimizations (env : ApplyEnv) (store : Store) (state : GamingState) : Applied :=
  if state.criticalPids.isEmpty then ⟨state,[],[],true⟩
  else
    let state := saveSwappiness env.swappinessReadable store state
    let settings := gamingSettings env
    let written := settings.takeWhile fun w => env.writeOk w.1
    if written.length < settings.length then ⟨state,written,[],false⟩
    else
      let adjusted := state.criticalPids.takeWhile env.oomOk
      let oom := adjusted.map fun pid => .oomScoreAdj pid (-900)
      if adjusted.length < state.criticalPids.length then ⟨state,written,oom,false⟩
      else ⟨state,written,oom,env.shaderDirExists || env.createShaderDir⟩

def restoreSettings (writeOk : Bool) (store : Store) (state : GamingState) : Store × Bool :=
  match state.originalSwappiness with
  | none => (store,true)
  | some original =>
    if writeOk then (store.write [.tunable .swappiness (.num original)],true) else (store,false)

def cancelWithin100ms (writeOk : Bool) (store : Store) (state : GamingState) : Store × Bool :=
  restoreSettings writeOk store state

inductive Op where
  | detectGamingProcesses (proc : Option (List ProcEntry))
  | applyGamingOptimizations (env : ApplyEnv)
  | restoreSettings (writeOk : Bool)
  | cancelWithin100ms (writeOk : Bool)
  | external (t : Tunable) (value : Setting)

structure Session where
  before : Store
  touched : List Tunable
  outside : Tunable → Option Setting

structure World where
  state : GamingState
  store : Store
  session : Option Session

def start (store : Store) : World := ⟨GamingState.default,store,none⟩

def Session.apply (session : Option Session) (store : Store) (written : List (Tunable × Setting)) :
    Session :=
  let opened := session.getD ⟨store,[],fun _ => none⟩
  { opened with
    touched := opened.touched ++ written.map Prod.fst
    outside := fun t => if t ∈ written.map Prod.fst then none else opened.outside t }

def Session.change (session : Session) (t : Tunable) (value : Setting) : Session :=
  { session with outside := Function.update session.outside t (some value) }

-- A session ends with the first restore that returns Ok.
def World.finish (w : World) (restored : Store × Bool) : World :=
  { w with store := restored.1, session := if restored.2 then none else w.session }

section Steps

variable (toLowercase : List Char → List Char)

def World.step (w : World) : Op → World
  | .detectGamingProcesses proc =>
    { w with state := (Gaming.detectGamingProcesses toLowercase w.state proc).1 }
  | .applyGamingOptimizations env =>
    let applied := Gaming.applyGamingOptimizations env w.store w.state
    { state := applied.state
      store := w.store.write (applied.written.map fun s => .tunable s.1 s.2)
      session := some (Session.apply w.session w.store applied.written) }
  | .restoreSettings writeOk => w.finish (Gaming.restoreSettings writeOk w.store w.state)
  | .cancelWithin100ms writeOk => w.finish (Gaming.cancelWithin100ms writeOk w.store w.state)
  | .external t value =>
    { w with
      store := w.store.write [.tunable t value]
      session := w.session.map fun session => session.change t value }

end Steps

end Uroam.Tuning.Gaming
