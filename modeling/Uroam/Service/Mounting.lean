import Uroam.Service.RamDisk

namespace Uroam.Service.RamDisk

open Mounts

theorem in_place_present {files : Files} {dir : List String} (h : InPlace files dir) :
    files.present dir = true := Table.present_of_ownAt h

section Setup

variable {env : SetupEnv} {dir : List String} {source size : String} {files : Files}
  {mounted : Bool}

theorem setup_in_place {other : List String} (h : files.present other = true) :
    InPlace (setupDir env dir source size files mounted).files other ↔ InPlace files other := by
  unfold setupDir
  cases hdir : files.present dir with
  | true => exact Iff.rfl
  | false =>
    have hother : other ≠ dir := by
      rintro rfl
      rw [hdir] at h
      cases h
    rw [if_neg Bool.false_ne_true]
    cases env.create with
    | failed depth => simp [InPlace]
    | created =>
      cases env.mount with
      | failed => simp [InPlace]
      | notRun => simp [InPlace]
      | succeeded => simp only [InPlace,Table.ownAt_mount_new hdir hother]

theorem setup_keeps {other : List String} (h : InPlace files other) :
    InPlace (setupDir env dir source size files mounted).files other :=
  (setup_in_place (in_place_present h)).mpr h

theorem setup_single (h : files.Single FileSystem.byProgram) :
    (setupDir env dir source size files mounted).files.Single FileSystem.byProgram := by
  unfold setupDir
  cases hdir : files.present dir with
  | true => exact h
  | false =>
    rw [if_neg Bool.false_ne_true]
    cases hcreate : env.create with
    | failed depth => exact Table.single_createAll h _
    | created =>
      cases hmount : env.mount with
      | failed => exact Table.single_createAll h dir
      | notRun => exact Table.single_createAll h dir
      | succeeded => exact Table.single_mount_new h hdir rfl

theorem setup_mounted (hdir : AbsentOrOwn files dir) (hmounted : mounted = true → InPlace files dir)
    (h : (setupDir env dir source size files mounted).mounted = true) :
    InPlace (setupDir env dir source size files mounted).files dir := by
  cases hpresent : files.present dir with
  | true => exact setup_keeps (hdir hpresent)
  | false =>
    unfold setupDir at h ⊢
    rw [hpresent,if_neg Bool.false_ne_true] at h ⊢
    cases hcreate : env.create with
    | failed depth =>
      rw [hcreate] at h
      simpa [InPlace] using hmounted h
    | created =>
      cases hmount : env.mount with
      | failed =>
        rw [hcreate,hmount] at h
        simpa [InPlace] using hmounted h
      | notRun =>
        rw [hcreate,hmount] at h
        simpa [InPlace] using hmounted h
      | succeeded => exact Table.ownAt_mount_self rfl _ _

theorem setup_present (h : files.present dir = true) :
    setupDir env dir source size files mounted = ⟨files,true,true⟩ := if_pos h

theorem setup_marks
    (h : (setupDir env dir source size files mounted).mounted = true →
      InPlace (setupDir env dir source size files mounted).files dir) : AbsentOrOwn files dir := by
  intro hpresent
  rw [setup_present hpresent] at h
  exact h rfl

theorem setup_ok_iff :
    (setupDir env dir source size files mounted).ok = true ↔ env.Passes files dir := by
  unfold setupDir SetupEnv.Passes
  cases hdir : files.present dir <;> cases hcreate : env.create <;> cases hmount : env.mount <;>
    simp

theorem absent_not_in_place {other : List String} (h : files.present other = false) :
    ¬ InPlace files other := by
  intro hplace
  rw [in_place_present hplace] at h
  cases h

theorem absentOrOwn_createAll (other : List String) :
    AbsentOrOwn (files.createAll dir) other ↔
      AbsentOrOwn files other ∧ (other <+: dir → files.present other = true) := by
  have hown : files.present other = false → ¬ InPlace files other := absent_not_in_place
  simp only [AbsentOrOwn,InPlace,Table.present_createAll,Table.ownAt_createAll] at hown ⊢
  cases hpresent : files.present other with
  | true => simp
  | false => simp [hown hpresent]

theorem absentOrOwn_mount {other : List String} (hdir : files.present dir = false)
    (hother : other ≠ dir) (tag : FileSystem) :
    AbsentOrOwn ((files.createAll dir).mount dir tag) other ↔
      AbsentOrOwn files other ∧ (other <+: dir → files.present other = true) := by
  have hown : files.present other = false → ¬ InPlace files other := absent_not_in_place
  have hsame : ((files.createAll dir).mount dir tag).ownAt FileSystem.byProgram other =
      files.ownAt FileSystem.byProgram other := Table.ownAt_mount_new hdir hother tag
  simp only [AbsentOrOwn,InPlace,hsame,Table.present_mount_new] at hown ⊢
  rcases Decidable.em (dir <+: other) with hbelow | habove
  · have habsent : files.present other = false := by
      cases h : files.present other with
      | false => rfl
      | true =>
        rw [Table.present_ancestor h hbelow] at hdir
        cases hdir
    have hapart : ¬ other <+: dir := fun h =>
      hother (h.eq_of_length (Nat.le_antisymm h.length_le hbelow.length_le))
    simp [hbelow,hother,habsent,hapart]
  · cases hpresent : files.present other with
    | true => simp [habove]
    | false => simp [habove,hown hpresent]

theorem setup_next {other : List String} (hpass : env.Passes files dir) :
    AbsentOrOwn (setupDir env dir source size files mounted).files other ↔
      AbsentOrOwn files other ∧ (files.present dir = false → other <+: dir →
        files.present other = true ∨ other = dir ∧ env.mount = .succeeded) := by
  cases hdir : files.present dir with
  | true => simp [setup_present hdir]
  | false =>
    have hcreate : env.create = .created := by
      rcases hpass with hpass | hpass
      · rw [hdir] at hpass
        cases hpass
      · exact hpass.1
    cases hmount : env.mount with
    | succeeded =>
      have hfiles : (setupDir env dir source size files mounted).files =
          (files.createAll dir).mount dir ⟨source,"size=" ++ size ++ ",mode=1777",true⟩ := by
        simp [setupDir,hdir,hcreate,hmount]
      rw [hfiles]
      rcases eq_or_ne other dir with rfl | hother
      · have hself : InPlace ((files.createAll other).mount other
            ⟨source,"size=" ++ size ++ ",mode=1777",true⟩) other := Table.ownAt_mount_self rfl _ _
        simp [AbsentOrOwn,hself,hdir]
      · simp [absentOrOwn_mount hdir hother,hother]
    | failed => simp [setupDir,hdir,hcreate,hmount,absentOrOwn_createAll]
    | notRun => simp [setupDir,hdir,hcreate,hmount,absentOrOwn_createAll]

end Setup

section Umount

variable {runs : Bool} {dir : List String} {files : Files}

theorem umount_cases (runs : Bool) (dir : List String) (files : Files) :
    (umount runs dir files = files ∧ ¬ (runs = true ∧ (files.umount dir).isSome = true)) ∨
      (runs = true ∧ ∃ below, files.umount dir = some below ∧ umount runs dir files = below) := by
  unfold umount
  cases runs with
  | false => exact .inl ⟨rfl,by simp⟩
  | true =>
    cases hu : files.umount dir with
    | none => exact .inl ⟨rfl,by simp⟩
    | some below => exact .inr ⟨rfl,below,rfl,rfl⟩

theorem umount_keeps {other : List String} (h : InPlace files other) (hne : other ≠ dir) :
    InPlace (umount runs dir files) other := by
  rcases umount_cases runs dir files with ⟨hsame,-⟩ | ⟨-,below,hu,hafter⟩
  · rw [hsame]
    exact h
  · rw [hafter]
    exact Table.ownAt_umount hu h hne

theorem umount_single (h : files.Single FileSystem.byProgram) (hdir : InPlace files dir) :
    (umount runs dir files).Single FileSystem.byProgram := by
  rcases umount_cases runs dir files with ⟨hsame,-⟩ | ⟨-,below,hu,hafter⟩
  · rw [hsame]
    exact h
  · rw [hafter]
    exact Table.single_umount h hu hdir

theorem umount_self_iff (h : files.Single FileSystem.byProgram) (hdir : InPlace files dir) :
    InPlace (umount runs dir files) dir ↔ ¬ (runs = true ∧ (files.umount dir).isSome = true) := by
  rcases umount_cases runs dir files with ⟨hsame,hnot⟩ | ⟨hruns,below,hu,hafter⟩
  · rw [hsame]
    exact iff_of_true hdir hnot
  · have hgone := Table.ownAt_umount_self h hu hdir
    rw [hafter]
    simp [InPlace,hgone,hruns,hu]

end Umount

section Paths

variable (resolve : String → List String)

structure Sound (w : World) : Prop where
  flags : FlagsTrue resolve w
  single : w.files.Single FileSystem.byProgram

theorem init_failed {w : World} {env : InitEnv}
    (h : (w.setupBuildDir resolve env.build).2 = false) :
    w.init resolve env = w.setupBuildDir resolve env.build := by
  simp [World.init,h]

theorem init_passed {w : World} {env : InitEnv}
    (h : (w.setupBuildDir resolve env.build).2 = true) :
    w.init resolve env =
      (w.setupBuildDir resolve env.build).1.setupAiCacheDir resolve env.aiCache := by
  simp [World.init,h]

theorem init_sound {w : World} {env : InitEnv} (h : Sound resolve w)
    (hsafe : InitSafe resolve env w) : Sound resolve (w.init resolve env).1 := by
  have hbuild : (w.setupBuildDir resolve env.build).1.manager.buildMounted = true →
      InPlace (w.setupBuildDir resolve env.build).1.files (w.buildDir resolve) :=
    setup_mounted hsafe.1 h.flags.build
  have hsingle : (w.setupBuildDir resolve env.build).1.files.Single FileSystem.byProgram :=
    setup_single h.single
  have hcache : w.manager.aiCacheMounted = true →
      InPlace (w.setupBuildDir resolve env.build).1.files (w.aiCacheDir resolve) :=
    fun hm => setup_keeps (h.flags.aiCache hm)
  cases hok : (w.setupBuildDir resolve env.build).2 with
  | false =>
    rw [init_failed resolve hok]
    exact ⟨⟨hbuild,hcache⟩,hsingle⟩
  | true =>
    have hpass := setup_ok_iff.mp hok
    have hnext : AbsentOrOwn (w.setupBuildDir resolve env.build).1.files (w.aiCacheDir resolve) :=
      (setup_next hpass).mpr (hsafe.2 hpass)
    rw [init_passed resolve hok]
    exact ⟨⟨fun hm => setup_keeps (hbuild hm),setup_mounted hnext hcache⟩,setup_single hsingle⟩

theorem init_safe {w : World} {env : InitEnv}
    (hflags : FlagsTrue resolve (w.init resolve env).1) : InitSafe resolve env w := by
  refine ⟨?_,?_⟩
  · intro hpresent
    have hsetup : w.setupBuildDir resolve env.build =
        ({ w with manager := { w.manager with buildMounted := true } },true) := by
      simp [World.setupBuildDir,setup_present hpresent]
    have hbuild := hflags.build
    rw [init_passed resolve (by rw [hsetup]),hsetup] at hbuild
    exact (setup_in_place hpresent).mp (hbuild rfl)
  · intro hpass
    have hok : (w.setupBuildDir resolve env.build).2 = true := setup_ok_iff.mpr hpass
    have hcache := hflags.aiCache
    rw [init_passed resolve hok] at hcache
    have hnext : AbsentOrOwn (w.setupBuildDir resolve env.build).1.files (w.aiCacheDir resolve) :=
      setup_marks hcache
    exact (setup_next hpass).mp hnext

theorem clean_build_files {w : World} {env : CleanupEnv} {other : List String}
    (h : InPlace w.files other) (hne : other ≠ w.buildDir resolve) :
    InPlace (w.cleanBuild resolve env).files other := by
  unfold World.cleanBuild
  split_ifs
  · exact umount_keeps h hne
  · exact h

theorem umounts_in_place_iff {w : World} {env : CleanupEnv} (h : Sound resolve w) :
    UmountsInPlace resolve w (.cleanup env) ↔ CleanupSafe resolve env w := by
  have hcalls : UmountsInPlace resolve w (.cleanup env) ↔
      (w.manager.buildMounted = true → InPlace w.files (w.buildDir resolve)) ∧
      (w.manager.aiCacheMounted = true →
        InPlace (w.cleanBuild resolve env).files (w.aiCacheDir resolve)) := by
    unfold UmountsInPlace World.umounts
    cases w.manager.buildMounted <;> cases w.manager.aiCacheMounted <;> simp
  rw [hcalls,and_iff_right h.flags.build]
  unfold CleanupSafe
  constructor
  · intro hcache hbuild hmounted hruns hsome hsame
    have hplace := hcache hmounted
    rw [World.cleanBuild,if_pos hbuild,hsame] at hplace
    exact (umount_self_iff h.single (h.flags.build hbuild)).mp hplace ⟨hruns,hsome⟩
  · intro hsafe hmounted
    have hplace := h.flags.aiCache hmounted
    cases hbuild : w.manager.buildMounted with
    | false => simpa [World.cleanBuild,hbuild] using hplace
    | true =>
      by_cases hsame : w.aiCacheDir resolve = w.buildDir resolve
      · rw [World.cleanBuild,if_pos hbuild,hsame]
        refine (umount_self_iff h.single (h.flags.build hbuild)).mpr ?_
        rintro ⟨hruns,hsome⟩
        exact hsafe hbuild hmounted hruns hsome hsame
      · exact clean_build_files resolve hplace hsame

theorem cleanup_sound {w : World} {env : CleanupEnv} (h : Sound resolve w)
    (hsafe : CleanupSafe resolve env w) : Sound resolve (w.cleanup resolve env) := by
  have hcalls := (umounts_in_place_iff resolve h).mpr hsafe
  have hbuild : (w.cleanBuild resolve env).files.Single FileSystem.byProgram := by
    unfold World.cleanBuild
    split_ifs with hm
    · exact umount_single h.single (h.flags.build hm)
    · exact h.single
  have hmounted : (w.cleanBuild resolve env).manager.aiCacheMounted = w.manager.aiCacheMounted ∧
      (w.cleanBuild resolve env).manager.buildMounted = false ∧
      (w.cleanBuild resolve env).aiCacheDir resolve = w.aiCacheDir resolve := by
    cases hm : w.manager.buildMounted <;> simp [World.cleanBuild,World.aiCacheDir,hm]
  obtain ⟨hcache,hfalse,hdir⟩ := hmounted
  unfold World.cleanup World.cleanAiCache
  split_ifs with hm
  · rw [hcache] at hm
    refine ⟨⟨fun hb => ?_,fun hc => ?_⟩,umount_single hbuild ?_⟩
    · cases hfalse.symm.trans hb
    · cases hc
    · rw [hdir]
      exact hcalls (w.aiCacheDir resolve,(w.cleanBuild resolve env).files)
        (by simp [World.umounts,hm])
  · refine ⟨⟨fun hb => ?_,fun hc => absurd hc hm⟩,hbuild⟩
    cases hfalse.symm.trans hb

theorem step_sound {w : World} {op : Op} (h : Sound resolve w) (hsafe : Safe resolve w op) :
    Sound resolve (w.step resolve op) ∧ UmountsInPlace resolve w op := by
  cases op with
  | start config => exact ⟨⟨⟨nofun,nofun⟩,h.single⟩,trivial⟩
  | init env => exact ⟨init_sound resolve h hsafe,trivial⟩
  | cleanup env =>
    exact ⟨cleanup_sound resolve h hsafe,(umounts_in_place_iff resolve h).mpr hsafe⟩

theorem step_safe {w : World} {op : Op} (h : Sound resolve w)
    (hflags : FlagsTrue resolve (w.step resolve op)) (humounts : UmountsInPlace resolve w op) :
    Safe resolve w op := by
  cases op with
  | start config => trivial
  | init env => exact init_safe resolve hflags
  | cleanup env => exact (umounts_in_place_iff resolve h).mp humounts

theorem mounts_in_place_iff (files : Files) (config : TmpfsConfig) (ops : List Op)
    (hfiles : ∀ dir, files.count FileSystem.byProgram dir = 0) :
    Runs.Throughout (World.step resolve) (FlagsTrue resolve) ⟨files,.withConfig config⟩ ops ∧
        Runs.Along (World.step resolve) (UmountsInPlace resolve) ⟨files,.withConfig config⟩ ops ↔
      Runs.Along (World.step resolve) (Safe resolve) ⟨files,.withConfig config⟩ ops := by
  refine Runs.exact_condition (World.step resolve) (G := Sound resolve) (E := fun _ _ => True)
    (fun w h => h.flags) (fun w op h _ hsafe => step_sound resolve h hsafe)
    (fun w op h _ hflags humounts => step_safe resolve h hflags humounts) ops _ ?_
    (Runs.along_true (World.step resolve) ops _)
  exact ⟨⟨nofun,nofun⟩,Mounts.Table.single_none hfiles⟩

end Paths

section Sample

def tmpPath (text : String) : List String :=
  if text = TmpfsConfig.new.buildDir then ["tmp","uroam-build"]
  else if text = TmpfsConfig.new.aiCacheDir then ["tmp","uroam-ai-cache"]
  else ["tmp"]

def mountsSucceed : InitEnv := ⟨⟨.created,.succeeded,true⟩,⟨.created,.succeeded,true⟩⟩

theorem mounts_in_place_iff_sample :
    Runs.Throughout (World.step tmpPath) (FlagsTrue tmpPath) ⟨.root [["tmp"]],.withConfig .new⟩
        [.init mountsSucceed,.cleanup ⟨true,true⟩] ∧
      Runs.Along (World.step tmpPath) (UmountsInPlace tmpPath) ⟨.root [["tmp"]],.withConfig .new⟩
        [.init mountsSucceed,.cleanup ⟨true,true⟩] := by
  refine (mounts_in_place_iff tmpPath (.root [["tmp"]]) .new _ (fun _ => rfl)).mpr
    ⟨⟨?_,fun _ => ⟨?_,?_⟩⟩,?_,trivial⟩
  · exact fun hpresent => absurd hpresent (by decide +kernel)
  · exact fun hpresent => absurd hpresent (by decide +kernel)
  · exact fun _ hparent => absurd hparent (by decide +kernel)
  · exact fun _ _ _ _ => by decide +kernel

theorem left_directory_taken_for_mount :
    ¬ Runs.Throughout (World.step tmpPath) (FlagsTrue tmpPath)
      ⟨.root [["tmp","uroam-build"]],.withConfig .new⟩ [.init mountsSucceed] := by
  rintro ⟨-,hflags⟩
  exact absurd (hflags.build (by decide +kernel)) (by unfold InPlace; decide +kernel)

end Sample

end Uroam.Service.RamDisk
