import Mathlib.Logic.Function.Basic
import Uroam.Integrations.Contexts

namespace Uroam.Integrations

structure Configs where
  objects : ℕ → UROAMConfig
  current : ℕ

-- A program of with-blocks. `init` and `set_config` replace the object and leave its fields; a
-- body may raise, and then what follows it is not run.
inductive Body where
  | done
  | raise
  | setConfig (config : ℕ) (rest : Body)
  | within (manager : ContextManager) (body rest : Body)

def Configs.modify (c : Configs) (config : UROAMConfig) : Configs :=
  { c with objects := Function.update c.objects c.current config }

def Configs.enter (c : Configs) (manager : ContextManager) : Frame × Configs :=
  let entered := manager.enter (c.objects c.current)
  (entered.1,c.modify entered.2)

def Configs.leave (c : Configs) (frame : Frame) : Configs :=
  c.modify (contextFinally frame (c.objects c.current))

def Body.run : Body → Configs → Configs × Bool
  | .done, c => (c,false)
  | .raise, c => (c,true)
  | .setConfig config rest, c => rest.run { c with current := config }
  | .within manager body rest, c =>
    let entered := c.enter manager
    let inside := body.run entered.2
    let left := inside.1.leave entered.1
    if inside.2 then (left,true) else rest.run left

def Body.Restores : Body → Configs → Prop
  | .done, _ => True
  | .raise, _ => True
  | .setConfig config rest, c => rest.Restores { c with current := config }
  | .within manager body rest, c =>
    let entered := c.enter manager
    let inside := body.run entered.2
    let left := inside.1.leave entered.1
    body.Restores entered.2 ∧ left.objects = c.objects ∧ (inside.2 = false → rest.Restores left)

def Body.exit : Body → ℕ → ℕ × Bool
  | .done, current => (current,false)
  | .raise, current => (current,true)
  | .setConfig config rest, _ => rest.exit config
  | .within _ body rest, current =>
    let inside := body.exit current
    if inside.2 then (inside.1,true) else rest.exit inside.1

def Body.Kept : Body → (ℕ → UROAMConfig) → ℕ → Prop
  | .done, _, _ => True
  | .raise, _, _ => True
  | .setConfig config rest, objects, _ => rest.Kept objects config
  | .within manager body rest, objects, current =>
    let inside := body.exit current
    body.Kept (Function.update objects current manager.sets) current ∧
      (inside.1 = current ∨
        manager.sets = objects current ∧ objects inside.1 = objects current) ∧
      (inside.2 = false → rest.Kept objects inside.1)

theorem enter_eq (c : Configs) (manager : ContextManager) :
    c.enter manager =
      (⟨(c.objects c.current).workloadType,(c.objects c.current).priority⟩,
        c.modify manager.sets) := by
  unfold Configs.enter
  rw [enter_sets]

theorem leave_eq (c : Configs) (config : UROAMConfig) :
    c.leave ⟨config.workloadType,config.priority⟩ = c.modify config := rfl

theorem run_exit (body : Body) (c : Configs) :
    ((body.run c).1.current,(body.run c).2) = body.exit c.current := by
  induction body generalizing c with
  | done => rfl
  | raise => rfl
  | setConfig config rest ih => exact ih { c with current := config }
  | within manager body rest ihBody ihRest =>
    have hbody := ihBody (c.enter manager).2
    have hcurrent : (c.enter manager).2.current = c.current := rfl
    rw [hcurrent] at hbody
    obtain ⟨hend,hraised⟩ := Prod.ext_iff.mp hbody
    dsimp only at hend hraised
    unfold Body.run Body.exit
    dsimp only
    rw [← hraised,← hend]
    split_ifs
    · rfl
    · exact ihRest _

theorem run_objects (body : Body) (c : Configs) (h : body.Restores c) :
    (body.run c).1.objects = c.objects := by
  induction body generalizing c with
  | done => rfl
  | raise => rfl
  | setConfig config rest ih => exact ih { c with current := config } h
  | within manager body rest ihBody ihRest =>
    obtain ⟨-,hleft,hrest⟩ := h
    unfold Body.run
    dsimp only
    split_ifs with hraised
    · exact hleft
    · rw [ihRest _ (hrest (by simpa using hraised)),hleft]

theorem given_back_iff (objects : ℕ → UROAMConfig) (current last : ℕ) (set : UROAMConfig) :
    Function.update (Function.update objects current set) last (objects current) = objects ↔
      last = current ∨ set = objects current ∧ objects last = objects current := by
  by_cases hsame : last = current
  · subst hsame
    rw [Function.update_idem,Function.update_eq_self]
    exact iff_of_true rfl (.inl rfl)
  · rw [or_iff_right hsame]
    constructor
    · intro h
      have hset := congrFun h current
      have hlast := congrFun h last
      rw [Function.update_of_ne (Ne.symm hsame),Function.update_self] at hset
      rw [Function.update_self] at hlast
      exact ⟨hset,hlast.symm⟩
    · rintro ⟨hset,hlast⟩
      rw [hset,Function.update_eq_self,← hlast,Function.update_eq_self]

theorem blocks_restore_iff (body : Body) (objects : ℕ → UROAMConfig) (current : ℕ) :
    body.Restores ⟨objects,current⟩ ↔ body.Kept objects current := by
  induction body generalizing objects current with
  | done => exact Iff.rfl
  | raise => exact Iff.rfl
  | setConfig config rest ih => exact ih objects config
  | within manager body rest ihBody ihRest =>
    have hinside := ihBody (Function.update objects current manager.sets) current
    have hentered : Configs.modify ⟨objects,current⟩ manager.sets =
        ⟨Function.update objects current manager.sets,current⟩ := rfl
    unfold Body.Restores Body.Kept
    rw [enter_eq]
    dsimp only
    rw [hentered,hinside]
    refine and_congr_right fun hkept => ?_
    have hobjects := run_objects body _ (hinside.mpr hkept)
    obtain ⟨hend,hraised⟩ := Prod.ext_iff.mp
      (run_exit body ⟨Function.update objects current manager.sets,current⟩)
    dsimp only at hobjects hend hraised
    rw [leave_eq,← hend,← hraised]
    generalize body.run ⟨Function.update objects current manager.sets,current⟩ = inside at *
    have hleft : (inside.1.modify (objects current)).objects = objects ↔
        inside.1.current = current ∨
          manager.sets = objects current ∧ objects inside.1.current = objects current := by
      rw [← given_back_iff,Configs.modify,hobjects]
    rw [hleft]
    refine and_congr_right fun hback => imp_congr_right fun _ => ?_
    have hsame : inside.1.modify (objects current) = ⟨objects,inside.1.current⟩ := by
      rw [Configs.modify,Configs.mk.injEq]
      exact ⟨hleft.mpr hback,rfl⟩
    rw [hsame]
    exact ihRest objects inside.1.current

end Uroam.Integrations
