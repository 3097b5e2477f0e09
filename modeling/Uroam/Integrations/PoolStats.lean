import Uroam.Integrations.MemoryPool

namespace Uroam.Integrations
open Runs

variable {B : Type}

structure PoolStats where
  size : Int
  count : Int
  free : Int
  allocated : Int
  deriving DecidableEq, Repr

def MemoryPool.getStats (p : MemoryPool B) : PoolStats :=
  { size := p.size, count := p.count, free := p.freeBlocks.length, allocated := p.allocated }

structure FigureExact (w : World B) : Prop where
  counted : w.pool.getStats.allocated = w.held.length
  nonneg : 0 ≤ w.pool.getStats.allocated

def FreesHeld (w : World B) : PoolCall B → Prop
  | .allocate _ => True
  | .free block => block ∈ w.held

def Served (w : World B) : PoolCall B → Prop
  | .allocate env => w.pool.freeBlocks = [] → env.libc.malloc w.pool.size = none
  | .free _ => True

structure FromPool (count : Int) (w : World B) : Prop where
  counted : w.pool.allocated = w.held.length
  fits : (w.pool.freeBlocks.length + w.held.length : Int) ≤ max count 0
  sized : w.pool.count = count

theorem fromPool_exact {count : Int} {w : World B} (h : FromPool count w) : FigureExact w := by
  have hfigure : w.pool.getStats.allocated = w.held.length := h.counted
  refine ⟨hfigure,?_⟩
  rw [hfigure]
  exact Int.natCast_nonneg _

theorem start_fromPool (envs : ℕ → Env B) (size count : Int) :
    ∃ w, World.start envs size count = .ok w ∧ FromPool count w := by
  refine ⟨_,start_ok envs size count,rfl,?_,rfl⟩
  simpa using preallocated_fits envs size count

section Calls

variable [DecidableEq B]

theorem fromPool_allocate {count : Int} {w : World B} (h : FromPool count w) {env : Env B}
    (hserved : Served w (.allocate env)) : FromPool count (w.step (.allocate env)) := by
  rcases List.eq_nil_or_concat w.pool.freeBlocks with hnil | ⟨before,block,hconcat⟩
  · rw [step_refused hnil (hserved hnil)]
    exact h
  · have hfree := hconcat.trans List.concat_eq_append
    obtain ⟨hcounted,hfits,hsized⟩ := h
    rw [step_pop hfree env]
    rw [hfree] at hfits
    refine ⟨?_,?_,hsized⟩
    · dsimp only
      rw [hcounted,List.length_append]
      rfl
    · simp only [List.length_append,List.length_singleton] at hfits ⊢
      omega

theorem fromPool_free {count : Int} {w : World B} (h : FromPool count w) {block : B}
    (hheld : block ∈ w.held) : FromPool count (w.step (.free block)) := by
  obtain ⟨hcounted,hfits,hsized⟩ := h
  have hlength := List.length_erase_of_mem hheld
  have hsome : 0 < w.held.length := List.length_pos_of_mem hheld
  have hroom : (w.pool.freeBlocks.length : Int) < w.pool.count := by omega
  rw [step_kept hroom]
  refine ⟨?_,?_,hsized⟩
  · dsimp only
    omega
  · simp only [List.length_append,List.length_singleton]
    omega

theorem exact_served {count : Int} {w : World B} (h : FromPool count w) {call : PoolCall B}
    (hexact : FigureExact (w.step call)) : Served w call := by
  cases call with
  | free block => trivial
  | allocate env =>
    intro hfree
    cases hmalloc : env.libc.malloc w.pool.size with
    | none => rfl
    | some block =>
      have hfigure : w.pool.allocated = (w.held ++ [block]).length := by
        have hcounted := hexact.counted
        rwa [step_fallback hfree hmalloc] at hcounted
      rw [h.counted,List.length_append,List.length_singleton] at hfigure
      omega

theorem figure_exact_iff (envs : ℕ → Env B) (size count : Int) :
    ∃ w, World.start envs size count = .ok w ∧
      ∀ calls : List (PoolCall B), Along World.step FreesHeld w calls →
        (Throughout World.step FigureExact w calls ↔ Along World.step Served w calls) := by
  obtain ⟨w,hstart,hpool⟩ := start_fromPool envs size count
  refine ⟨w,hstart,?_⟩
  intro calls hlegal
  have hgood : ∀ (w : World B) (call : PoolCall B), FromPool count w → FreesHeld w call →
      Served w call → FromPool count (w.step call) ∧ True := by
    intro w call h hheld hserved
    cases call with
    | allocate env => exact ⟨fromPool_allocate h hserved,trivial⟩
    | free block => exact ⟨fromPool_free h hheld,trivial⟩
  have hrun := exact_condition World.step (fun w h => fromPool_exact h) hgood
    (fun w call h _ hexact _ => exact_served h hexact) calls w hpool hlegal
  rwa [and_iff_left (along_true ..)] at hrun

end Calls

section Sample

theorem figure_exact_sample :
    ∃ w, World.start sampleEnvs 4096 2 = .ok w ∧
      (Throughout World.step FigureExact w [.allocate (sampleEnv none),.free 4096] ↔
        Along World.step Served w [.allocate (sampleEnv none),.free 4096]) := by
  obtain ⟨w,hstart,hcalls⟩ := figure_exact_iff sampleEnvs 4096 2
  refine ⟨w,hstart,hcalls _ ?_⟩
  obtain rfl := Except.ok.inj hstart
  refine ⟨trivial,?_,trivial⟩
  change 4096 ∈ [4096]
  exact List.mem_singleton_self _

theorem fallback_not_counted :
    ∃ w, World.start (fun _ => sampleEnv none) 4096 1 = .ok w ∧
      let taken := w.step (.allocate (sampleEnv (some 8192)))
      let freed := taken.step (.free 8192)
      Along World.step FreesHeld w [.allocate (sampleEnv (some 8192)),.free 8192] ∧
        taken.pool.getStats.allocated = 0 ∧ taken.held = [8192] ∧
        freed.pool.getStats.allocated = -1 ∧ freed.held = [] := by
  refine ⟨_,rfl,⟨trivial,?_,trivial⟩,rfl,rfl,rfl,rfl⟩
  change 8192 ∈ [8192]
  decide

end Sample

end Uroam.Integrations
