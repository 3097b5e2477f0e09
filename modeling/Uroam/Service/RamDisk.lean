import Uroam.Library.Mounts
import Uroam.Library.Runs

namespace Uroam.Service.RamDisk

structure TmpfsConfig where
  buildDir : String
  buildSize : String
  aiCacheDir : String
  aiCacheSize : String
  deriving DecidableEq, Repr

def TmpfsConfig.new : TmpfsConfig := ⟨"/tmp/uroam-build","8G","/tmp/uroam-ai-cache","16G"⟩

structure RamDiskManager where
  config : TmpfsConfig
  buildMounted : Bool
  aiCacheMounted : Bool
  deriving DecidableEq, Repr

def RamDiskManager.withConfig (config : TmpfsConfig) : RamDiskManager := ⟨config,false,false⟩

structure FileSystem where
  source : String
  options : String
  byProgram : Bool
  deriving DecidableEq, Repr

abbrev Files := Mounts.Table String FileSystem

def InPlace (files : Files) (dir : List String) : Prop :=
  files.ownAt FileSystem.byProgram dir = true

-- A failed creation may leave some of the parents behind.
inductive Creation where
  | created
  | failed (depth : Nat)
  deriving DecidableEq, Repr

inductive Command where
  | succeeded
  | failed
  | notRun
  deriving DecidableEq, Repr

structure SetupEnv where
  create : Creation
  mount : Command
  recreate : Bool
  deriving DecidableEq, Repr

structure Setup where
  files : Files
  mounted : Bool
  ok : Bool

def setupDir (env : SetupEnv) (dir : List String) (source size : String) (files : Files)
    (mounted : Bool) : Setup :=
  if files.present dir then ⟨files,true,true⟩
  else
    match env.create with
    | .failed depth => ⟨files.createAll (dir.dropLast.take depth),mounted,false⟩
    | .created =>
      let files := files.createAll dir
      match env.mount with
      | .succeeded => ⟨files.mount dir ⟨source,"size=" ++ size ++ ",mode=1777",true⟩,true,true⟩
      | .failed => ⟨files,mounted,env.recreate⟩
      | .notRun => ⟨files,mounted,true⟩

def umount (runs : Bool) (dir : List String) (files : Files) : Files :=
  if runs then (files.umount dir).getD files else files

structure InitEnv where
  build : SetupEnv
  aiCache : SetupEnv

structure CleanupEnv where
  build : Bool
  aiCache : Bool

inductive Op where
  | start (config : TmpfsConfig)
  | init (env : InitEnv)
  | cleanup (env : CleanupEnv)

structure World where
  files : Files
  manager : RamDiskManager

section Paths

variable (resolve : String → List String)

def World.buildDir (w : World) : List String := resolve w.manager.config.buildDir

def World.aiCacheDir (w : World) : List String := resolve w.manager.config.aiCacheDir

def World.setupBuildDir (env : SetupEnv) (w : World) : World × Bool :=
  let setup := setupDir env (w.buildDir resolve) "uroam-build" w.manager.config.buildSize w.files
    w.manager.buildMounted
  ({ files := setup.files, manager := { w.manager with buildMounted := setup.mounted } },setup.ok)

def World.setupAiCacheDir (env : SetupEnv) (w : World) : World × Bool :=
  let setup := setupDir env (w.aiCacheDir resolve) "uroam-ai-cache" w.manager.config.aiCacheSize
    w.files w.manager.aiCacheMounted
  ({ files := setup.files, manager := { w.manager with aiCacheMounted := setup.mounted } },setup.ok)

def World.init (env : InitEnv) (w : World) : World × Bool :=
  let build := w.setupBuildDir resolve env.build
  if build.2 then build.1.setupAiCacheDir resolve env.aiCache else build

def World.cleanBuild (env : CleanupEnv) (w : World) : World :=
  if w.manager.buildMounted then
    { files := umount env.build (w.buildDir resolve) w.files
      manager := { w.manager with buildMounted := false } }
  else w

def World.cleanAiCache (env : CleanupEnv) (w : World) : World :=
  if w.manager.aiCacheMounted then
    { files := umount env.aiCache (w.aiCacheDir resolve) w.files
      manager := { w.manager with aiCacheMounted := false } }
  else w

def World.cleanup (env : CleanupEnv) (w : World) : World :=
  (w.cleanBuild resolve env).cleanAiCache resolve env

def World.step (w : World) : Op → World
  | .start config => { w with manager := .withConfig config }
  | .init env => (w.init resolve env).1
  | .cleanup env => w.cleanup resolve env

def World.umounts (env : CleanupEnv) (w : World) : List (List String × Files) :=
  (if w.manager.buildMounted then [(w.buildDir resolve,w.files)] else []) ++
  (if w.manager.aiCacheMounted then
    [(w.aiCacheDir resolve,(w.cleanBuild resolve env).files)] else [])

structure FlagsTrue (w : World) : Prop where
  build : w.manager.buildMounted = true → InPlace w.files (w.buildDir resolve)
  aiCache : w.manager.aiCacheMounted = true → InPlace w.files (w.aiCacheDir resolve)

def UmountsInPlace (w : World) : Op → Prop
  | .cleanup env => ∀ call ∈ w.umounts resolve env, InPlace call.2 call.1
  | _ => True

def AbsentOrOwn (files : Files) (dir : List String) : Prop :=
  files.present dir = true → InPlace files dir

def SetupEnv.Passes (env : SetupEnv) (files : Files) (dir : List String) : Prop :=
  files.present dir = true ∨ env.create = .created ∧ (env.mount = .failed → env.recreate = true)

def InitSafe (env : InitEnv) (w : World) : Prop :=
  AbsentOrOwn w.files (w.buildDir resolve) ∧
  (env.build.Passes w.files (w.buildDir resolve) →
    AbsentOrOwn w.files (w.aiCacheDir resolve) ∧
    (w.files.present (w.buildDir resolve) = false →
      w.aiCacheDir resolve <+: w.buildDir resolve →
        w.files.present (w.aiCacheDir resolve) = true ∨
        w.aiCacheDir resolve = w.buildDir resolve ∧ env.build.mount = .succeeded))

def CleanupSafe (env : CleanupEnv) (w : World) : Prop :=
  w.manager.buildMounted = true → w.manager.aiCacheMounted = true → env.build = true →
    (w.files.umount (w.buildDir resolve)).isSome = true →
      w.aiCacheDir resolve ≠ w.buildDir resolve

def Safe (w : World) : Op → Prop
  | .start _ => True
  | .init env => InitSafe resolve env w
  | .cleanup env => CleanupSafe resolve env w

end Paths

end Uroam.Service.RamDisk
