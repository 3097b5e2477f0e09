import Uroam.Library.Loops
import Uroam.Library.Ownership
import Uroam.Library.Runs

namespace Uroam.Integrations
open Runs Ownership

variable {B : Type}

structure Libc (B : Type) where
  malloc : Int → Option B
  posixMemalign : Int → Int → Except Int B

structure Env (B : Type) where
  enabled : Bool
  libc : Libc B

-- The state is what the C library has handed out, whatever becomes of it.
abbrev Python (B : Type) := ExceptT String (StateM (List B))

def Python.call {A : Type} (given : List B) (p : Python B A) : Except String A × List B :=
  StateT.run (ExceptT.run p) given

def malloc (env : Env B) (size : Int) : Python B (Option B) := do
  let block := env.libc.malloc size
  modify (· ++ block.toList)
  return block

def posixMemalign (env : Env B) (alignment size : Int) : Python B (Except Int B) := do
  let answer := env.libc.posixMemalign alignment size
  modify (· ++ answer.toOption.toList)
  return answer

def allocate (env : Env B) (size alignment : Int) : Python B (Option B) := do
  if env.enabled && decide (alignment > 0) then
    match ← posixMemalign env alignment size with
    | .ok block => return some block
    | .error code =>
      throw ("Failed to allocate memory: Failed to allocate aligned memory: " ++ toString code)
  else malloc env size

structure MemoryPool (B : Type) where
  size : Int
  count : Int
  freeBlocks : List B
  allocated : Int

def MemoryPool.preallocate (p : MemoryPool B) (env : Env B) : Python B (MemoryPool B) := do
  let block ← Integrations.allocate env p.size 0
  return { p with freeBlocks := p.freeBlocks ++ block.toList }

def MemoryPool.init (envs : ℕ → Env B) (size count : Int) : Python B (MemoryPool B) :=
  (List.range count.toNat).foldlM (fun p i => p.preallocate (envs i)) ⟨size,count,[],0⟩

def MemoryPool.allocate (p : MemoryPool B) (env : Env B) : Python B (Option B × MemoryPool B) :=
  match p.freeBlocks.getLast? with
  | some block =>
    return (some block,{ p with freeBlocks := p.freeBlocks.dropLast, allocated := p.allocated + 1 })
  | none => do
    let block ← Integrations.allocate env p.size 0
    return (block,p)

def MemoryPool.free (p : MemoryPool B) (block : B) : MemoryPool B × List B :=
  if (p.freeBlocks.length : Int) < p.count then
    ({ p with freeBlocks := p.freeBlocks ++ [block], allocated := p.allocated - 1 },[])
  else (p,[block])

structure World (B : Type) where
  pool : MemoryPool B
  held : List B
  obtained : List B
  returned : List B

inductive PoolCall (B : Type) where
  | allocate (env : Env B)
  | free (block : B)

def preallocated (envs : ℕ → Env B) (size : Int) (n : ℕ) : List B :=
  (List.range n).filterMap fun i => (envs i).libc.malloc size

def World.start (envs : ℕ → Env B) (size count : Int) : Except String (World B) :=
  match (MemoryPool.init envs size count).call [] with
  | (.error message,_) => .error message
  | (.ok pool,obtained) => .ok ⟨pool,[],obtained,[]⟩

def World.ledger (w : World B) : Ledger B :=
  ⟨w.pool.freeBlocks ++ w.held,w.obtained,w.returned⟩

def Legal (w : World B) : PoolCall B → Prop
  | .allocate env => w.pool.freeBlocks = [] →
      ∀ b, env.libc.malloc w.pool.size = some b → b ∉ w.held
  | .free block => block ∈ w.held

def FreshStart (envs : ℕ → Env B) (size count : Int) : Prop :=
  ∀ i < count.toNat, ∀ b, (envs i).libc.malloc size = some b → b ∉ preallocated envs size i

structure Sound (count : Int) (w : World B) : Prop where
  free_nodup : w.pool.freeBlocks.Nodup
  apart : ∀ b ∈ w.pool.freeBlocks, b ∉ w.held
  bounded : (w.pool.freeBlocks.length : Int) ≤ max count 0
  accounted : w.obtained.Perm (w.pool.freeBlocks ++ w.held ++ w.returned)

def HandsOut (w : World B) : PoolCall B → Prop
  | .allocate env => ∀ b pool,
      ((w.pool.allocate env).call w.obtained).1 = .ok (some b,pool) → b ∉ w.held
  | .free _ => True

structure Kept (count : Int) (w : World B) : Prop where
  balanced : Balanced w.ledger
  bounded : (w.pool.freeBlocks.length : Int) ≤ max count 0
  sized : w.pool.count = count

theorem call_bind {A C : Type} {p : Python B A} {f : A → Python B C} {given after : List B} {a : A}
    (h : p.call given = (.ok a,after)) : (p >>= f).call given = (f a).call after := by
  change (ExceptT.run p).run given = (.ok a,after) at h
  change (ExceptT.run (p >>= f)).run given = _
  rw [ExceptT.run_bind,StateT.run_bind,h]
  rfl

theorem allocate_unaligned (env : Env B) (size : Int) (given : List B) :
    (Integrations.allocate env size 0).call given =
      (.ok (env.libc.malloc size),given ++ (env.libc.malloc size).toList) := by
  rw [Integrations.allocate,if_neg (by simp)]
  rfl

theorem allocate_pops {p : MemoryPool B} {before : List B} {block : B}
    (h : p.freeBlocks = before ++ [block]) (env : Env B) (given : List B) :
    (p.allocate env).call given =
      (.ok (some block,{ p with freeBlocks := before, allocated := p.allocated + 1 }),given) := by
  simp [MemoryPool.allocate,h]
  rfl

theorem allocate_falls_back {p : MemoryPool B} (h : p.freeBlocks = []) (env : Env B)
    (given : List B) :
    (p.allocate env).call given =
      (.ok (env.libc.malloc p.size,p),given ++ (env.libc.malloc p.size).toList) := by
  unfold MemoryPool.allocate
  rw [h]
  exact call_bind (allocate_unaligned env p.size given)

theorem kept_sound {count : Int} {w : World B} (h : Kept count w) : Sound count w := by
  obtain ⟨hfree,-,hapart⟩ := List.nodup_append'.mp h.balanced.nodup
  refine ⟨hfree,?_,h.bounded,h.balanced.accounted⟩
  intro b hb hheld
  exact hapart hb hheld

theorem preallocated_succ (envs : ℕ → Env B) (size : Int) (n : ℕ) :
    preallocated envs size (n + 1) =
      preallocated envs size n ++ ((envs n).libc.malloc size).toList := by
  rw [preallocated,List.range_succ,List.filterMap_append]
  cases hblock : (envs n).libc.malloc size <;> simp [preallocated,hblock]

theorem preallocate_appends (p : MemoryPool B) (env : Env B) (given : List B) :
    (p.preallocate env).call given =
      (.ok { p with freeBlocks := p.freeBlocks ++ (env.libc.malloc p.size).toList },
        given ++ (env.libc.malloc p.size).toList) :=
  call_bind (allocate_unaligned env p.size given)

theorem init_ok (envs : ℕ → Env B) (size count : Int) (n : ℕ) :
    ((List.range n).foldlM (fun p i => MemoryPool.preallocate p (envs i)) ⟨size,count,[],0⟩ :
        Python B (MemoryPool B)).call [] =
      (.ok ⟨size,count,preallocated envs size n,0⟩,preallocated envs size n) := by
  induction n with
  | zero => rfl
  | succ n ih =>
    rw [List.range_succ,List.foldlM_append,call_bind ih,List.foldlM_cons,
      call_bind (preallocate_appends _ (envs n) _),preallocated_succ]
    rfl

theorem preallocated_nodup {envs : ℕ → Env B} {size : Int} {n : ℕ}
    (h : ∀ i < n, ∀ b, (envs i).libc.malloc size = some b → b ∉ preallocated envs size i) :
    (preallocated envs size n).Nodup := by
  induction n with
  | zero => exact List.nodup_nil
  | succ n ih =>
    have hbefore := ih fun i hi => h i (Nat.lt_succ_of_lt hi)
    rw [preallocated_succ]
    cases hblock : (envs n).libc.malloc size with
    | none => simpa using hbefore
    | some block =>
      have hnew := h n (Nat.lt_succ_self n) block hblock
      have hlast : (block :: preallocated envs size n).Nodup := List.nodup_cons.mpr ⟨hnew,hbefore⟩
      exact (List.perm_append_singleton ..).nodup_iff.mpr hlast

theorem start_ok (envs : ℕ → Env B) (size count : Int) :
    World.start envs size count =
      .ok ⟨⟨size,count,preallocated envs size count.toNat,0⟩,[],
        preallocated envs size count.toNat,[]⟩ := by
  rw [World.start,MemoryPool.init,init_ok]

theorem preallocated_fits (envs : ℕ → Env B) (size count : Int) :
    ((preallocated envs size count.toNat).length : Int) ≤ max count 0 := by
  have hlength := List.length_filterMap_le (fun i => (envs i).libc.malloc size)
    (List.range count.toNat)
  rw [List.length_range] at hlength
  unfold preallocated
  omega

theorem start_kept {envs : ℕ → Env B} {size count : Int} (h : FreshStart envs size count) :
    ∃ w, World.start envs size count = .ok w ∧ Kept count w := by
  refine ⟨_,start_ok envs size count,⟨?_,?_⟩,preallocated_fits envs size count,rfl⟩
  · simpa [World.ledger] using preallocated_nodup h
  · simp [World.ledger]

section Calls

variable [DecidableEq B]

def World.step (w : World B) : PoolCall B → World B
  | .allocate env =>
    match (w.pool.allocate env).call w.obtained with
    | (.error _,obtained) => { w with obtained }
    | (.ok (block,pool),obtained) =>
      { pool, held := w.held ++ block.toList, obtained, returned := w.returned }
  | .free block =>
    let freed := w.pool.free block
    { pool := freed.1
      held := w.held.erase block
      obtained := w.obtained
      returned := w.returned ++ freed.2 }

theorem step_pop {w : World B} {before : List B} {block : B}
    (hfree : w.pool.freeBlocks = before ++ [block]) (env : Env B) :
    w.step (.allocate env) =
      ⟨{ w.pool with freeBlocks := before, allocated := w.pool.allocated + 1 },w.held ++ [block],
        w.obtained,w.returned⟩ := by
  simp [World.step,allocate_pops hfree env]

theorem step_refused {w : World B} (hfree : w.pool.freeBlocks = []) {env : Env B}
    (hnone : env.libc.malloc w.pool.size = none) : w.step (.allocate env) = w := by
  simp [World.step,allocate_falls_back hfree env,hnone]

theorem step_fallback {w : World B} (hfree : w.pool.freeBlocks = []) {env : Env B} {block : B}
    (hsome : env.libc.malloc w.pool.size = some block) :
    w.step (.allocate env) =
      ⟨w.pool,w.held ++ [block],w.obtained ++ [block],w.returned⟩ := by
  simp [World.step,allocate_falls_back hfree env,hsome]

theorem step_kept {w : World B} {block : B}
    (hroom : (w.pool.freeBlocks.length : Int) < w.pool.count) :
    w.step (.free block) =
      ⟨{ w.pool with
          freeBlocks := w.pool.freeBlocks ++ [block], allocated := w.pool.allocated - 1 },
        w.held.erase block,w.obtained,w.returned⟩ := by
  simp [World.step,MemoryPool.free,hroom]

theorem step_returned {w : World B} {block : B}
    (hfull : ¬ (w.pool.freeBlocks.length : Int) < w.pool.count) :
    w.step (.free block) = ⟨w.pool,w.held.erase block,w.obtained,w.returned ++ [block]⟩ := by
  simp [World.step,MemoryPool.free,hfull]

theorem kept_pop {count : Int} {w : World B} {before : List B} {block : B} (h : Kept count w)
    (hfree : w.pool.freeBlocks = before ++ [block]) (env : Env B) :
    Kept count (w.step (.allocate env)) ∧ HandsOut w (.allocate env) := by
  constructor
  · rw [step_pop hfree env]
    refine ⟨h.balanced.moved ?_ rfl rfl,?_,h.sized⟩
    · simp only [World.ledger,hfree,List.append_assoc]
      exact List.Perm.append_left before List.perm_append_comm
    · have hbounded := h.bounded
      rw [hfree,List.length_append] at hbounded
      dsimp only
      omega
  · intro b pool hb
    rw [allocate_pops hfree env] at hb
    cases hb
    exact (kept_sound h).apart block (by simp [hfree])

theorem kept_fallback {count : Int} {w : World B} (h : Kept count w)
    (hfree : w.pool.freeBlocks = []) {env : Env B} (hlegal : Legal w (.allocate env)) :
    Kept count (w.step (.allocate env)) ∧ HandsOut w (.allocate env) := by
  have hnew := hlegal hfree
  constructor
  · cases hblock : env.libc.malloc w.pool.size with
    | none =>
      rw [step_refused hfree hblock]
      exact h
    | some block =>
      rw [step_fallback hfree hblock]
      refine ⟨h.balanced.gained (b := block) ?_ ?_ rfl rfl,h.bounded,h.sized⟩
      · simpa [World.ledger,hfree] using hnew block hblock
      · simp only [World.ledger,hfree,List.nil_append]
        exact (List.perm_append_singleton ..).symm
  · intro b pool hb
    rw [allocate_falls_back hfree env] at hb
    cases hblock : env.libc.malloc w.pool.size with
    | none => rw [hblock] at hb; cases hb
    | some block =>
      rw [hblock] at hb
      cases hb
      exact hnew b hblock

theorem kept_free {count : Int} {w : World B} (h : Kept count w) {block : B}
    (hheld : block ∈ w.held) : Kept count (w.step (.free block)) := by
  have herase : w.held.Perm (block :: w.held.erase block) := List.perm_cons_erase hheld
  by_cases hroom : (w.pool.freeBlocks.length : Int) < w.pool.count
  · rw [step_kept hroom]
    refine ⟨h.balanced.moved ?_ rfl rfl,?_,h.sized⟩
    · simp only [World.ledger,List.append_assoc]
      exact List.Perm.append_left _ herase
    · have hsized := h.sized
      dsimp only
      rw [List.length_append,List.length_singleton]
      omega
  · rw [step_returned hroom]
    refine ⟨h.balanced.gaveBack (b := block) ?_ rfl rfl,h.bounded,h.sized⟩
    exact (List.Perm.append_left _ herase).trans List.perm_middle

theorem kept_step {count : Int} (w : World B) (call : PoolCall B) (h : Kept count w)
    (hlegal : Legal w call) : Kept count (w.step call) ∧ HandsOut w call := by
  cases call with
  | allocate env =>
    rcases List.eq_nil_or_concat w.pool.freeBlocks with hnil | ⟨before,block,hfree⟩
    · exact kept_fallback h hnil hlegal
    · exact kept_pop h (hfree.trans List.concat_eq_append) env
  | free block => exact ⟨kept_free h hlegal,trivial⟩

theorem pool_ownership {envs : ℕ → Env B} {size count : Int} (hfresh : FreshStart envs size count) :
    ∃ w, World.start envs size count = .ok w ∧
      ∀ calls : List (PoolCall B), Along World.step Legal w calls →
        Throughout World.step (Sound count) w calls ∧ Along World.step HandsOut w calls := by
  obtain ⟨w,hstart,hkept⟩ := start_kept hfresh
  refine ⟨w,hstart,?_⟩
  intro calls hlegal
  have hrun := exact_condition World.step (G := Kept count) (P := Sound count) (Q := HandsOut)
    (C := fun _ _ => True) (E := Legal) (fun w h => kept_sound h)
    (fun w call h hl _ => kept_step w call h hl) (fun _ _ _ _ _ _ => trivial) calls w hkept hlegal
  exact hrun.mpr (along_true ..)

end Calls

section Sample

def sampleEnv (address : Option ℕ) : Env ℕ :=
  ⟨true,⟨fun _ => address,fun _ _ => .error 12⟩⟩

def sampleEnvs : ℕ → Env ℕ
  | 0 => sampleEnv none
  | _ => sampleEnv (some 4096)

def sampleCalls : List (PoolCall ℕ) :=
  [.allocate (sampleEnv none),.allocate (sampleEnv none),.allocate (sampleEnv (some 8192)),
    .free 4096,.free 8192]

theorem pool_ownership_sample :
    ∃ w, World.start sampleEnvs 64 2 = .ok w ∧ Throughout World.step (Sound 2) w sampleCalls := by
  have hfresh : FreshStart sampleEnvs 64 2 := by
    intro i hi b _
    have hcases : i = 0 ∨ i = 1 := by
      change i < 2 at hi
      omega
    rcases hcases with rfl | rfl <;> simp [preallocated,sampleEnvs,sampleEnv]
  obtain ⟨w,hstart,hcalls⟩ := pool_ownership hfresh
  refine ⟨w,hstart,(hcalls sampleCalls ?_).1⟩
  obtain rfl := Except.ok.inj hstart
  refine ⟨?_,?_,?_,?_,?_,trivial⟩
  · exact fun _ _ hb => nomatch hb
  · exact fun _ _ hb => nomatch hb
  · intro _ b hb
    cases hb
    decide
  · change 4096 ∈ [4096,8192]
    decide
  · change 8192 ∈ [8192]
    decide

theorem negative_count_unbounded :
    ∃ w, World.start sampleEnvs 4096 (-1) = .ok w ∧
      ¬ (w.pool.freeBlocks.length : Int) ≤ w.pool.count :=
  ⟨_,rfl,by decide⟩

end Sample

end Uroam.Integrations
