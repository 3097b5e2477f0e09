import Uroam.Shared.Session

namespace Uroam.Memopt
open Runs

def liveBytes (live : List Block) : ℕ := (live.map (fun b => b.size.toNat)).sum

structure StatsBalanced (s : Session) : Prop where
  used : (memoptGetStats s.process).poolUsed.toNat = liveBytes s.live
  balance : ((memoptGetStats s.process).totalAllocated.toNat : ℤ) -
    (memoptGetStats s.process).totalFreed.toNat = (memoptGetStats s.process).poolUsed.toNat

def NoRelease (_ : Session) (c : Call) : Prop := c.released = none

instance (s : Session) (c : Call) : Decidable (NoRelease s c) :=
  inferInstanceAs (Decidable (c.released = none))

structure Unreleased (l : Ledger) : Prop where
  placed : WellPlaced l
  allocated : l.totalAllocated.toNat = l.granted
  freed : l.totalFreed = 0
  used : l.poolUsed.toNat = l.granted
  live : liveBytes l.live = l.granted

theorem unreleased_balanced {s : Session} (h : Unreleased s.ledger) : StatsBalanced s := by
  have hfreed : s.process.gTotalFreed = 0 := h.freed
  have hallocated : s.process.gTotalAllocated.toNat = s.granted := h.allocated
  have hused : s.process.gPoolUsed.toNat = s.granted := h.used
  have hlive : liveBytes s.live = s.granted := h.live
  refine ⟨?_,?_⟩
  · simp only [memoptGetStats]
    omega
  · simp [memoptGetStats,hfreed,hallocated,hused]

theorem unreleased_grant {l : Ledger} (h : Unreleased l) {page : Page} {n : ℕ} {size : SizeT}
    (ha : l.admits (.grant page n size)) (hb : (l.move (.grant page n size)).granted < 2 ^ 64) :
    Unreleased (l.move (.grant page n size)) := by
  have hsum : l.granted + size.toNat < 2 ^ 64 := hb
  refine ⟨placed_grant h.placed ha,?_,h.freed,?_,?_⟩
  · simp only [Ledger.move,BitVec.toNat_add,h.allocated]
    omega
  · simp only [Ledger.move,BitVec.toNat_add,h.used]
    omega
  · have hlive := h.live
    simp only [Ledger.move,liveBytes,List.map_cons,List.sum_cons] at hlive ⊢
    omega

theorem unreleased_grants {l : Ledger} (h : Unreleased l) (c : Call)
    (ha : Along Ledger.move Ledger.admits l c.grantMoves)
    (hb : (exec Ledger.move l c.grantMoves).granted < 2 ^ 64) :
    Unreleased (exec Ledger.move l c.grantMoves) := by
  rcases grantMoves_cases c with hc | ⟨page,n,size,hc⟩ <;> rw [hc] at ha hb ⊢
  · exact h
  · exact unreleased_grant h ha.1 hb

theorem liveBytes_release {l : Ledger} (h : WellPlaced l) {b : Block} (hb : b ∈ l.live) :
    liveBytes (l.move (.release b.ptr)).live < liveBytes l.live := by
  obtain ⟨xs,ys,hl,hw,_⟩ := split_held h hb
  have hpos := size_pos (h.sized b hb)
  have hrest : (l.move (.release b.ptr)).live = xs ++ ys := hw
  rw [hrest,hl]
  simp only [liveBytes,List.map_append,List.map_cons,List.sum_append,List.sum_cons]
  omega

theorem call_grants {s : Session} {c : Call} (h : Unreleased s.ledger) (ha : s.admits c)
    (hb : (s.call c).granted < 2 ^ 64) :
    Unreleased (exec Ledger.move s.ledger c.grantMoves) := by
  have hall := moves_admitted ha
  rw [Call.moves,along_append] at hall
  have hledger := call_refines h.placed ha
  rw [Call.moves,exec_append] at hledger
  have hgranted : (exec Ledger.move s.ledger c.grantMoves).granted = (s.call c).granted := by
    have heq := congrArg Ledger.granted hledger
    cases hr : c.released <;> simpa [hr,releases,Ledger.move,Session.ledger] using heq.symm
  exact unreleased_grants h c hall.1 (hgranted ▸ hb)

theorem stats_step_good {s : Session} {c : Call} (h : Unreleased s.ledger) (ha : s.admits c)
    (hb : (s.call c).granted < 2 ^ 64) (hc : NoRelease s c) : Unreleased (s.call c).ledger := by
  have hn : c.released = none := hc
  have hg := call_grants h ha hb
  rw [call_refines h.placed ha]
  simpa [Call.moves,hn,releases] using hg

theorem stats_step_bad {s : Session} {c : Call} (h : Unreleased s.ledger) (ha : s.admits c)
    (hb : (s.call c).granted < 2 ^ 64) (hp : StatsBalanced (s.call c)) : NoRelease s c := by
  have hg := call_grants h ha hb
  have hledger := call_refines h.placed ha
  rw [Call.moves,exec_append] at hledger
  cases hr : c.released with
  | none => exact hr
  | some ptr =>
    exfalso
    have hheld := admits_released ha
    rw [hr] at hheld
    obtain ⟨b,hmem,rfl⟩ := hheld
    have hless := liveBytes_release hg.placed (held_after_grants hmem c)
    rw [hr,releases] at hledger
    have hlive : (s.call c).live = ((exec Ledger.move s.ledger c.grantMoves).move
        (.release b.ptr)).live := congrArg Ledger.live hledger
    have hta : (s.call c).process.gTotalAllocated =
        (exec Ledger.move s.ledger c.grantMoves).totalAllocated :=
      congrArg Ledger.totalAllocated hledger
    have htf : (s.call c).process.gTotalFreed = 0 :=
      (congrArg Ledger.totalFreed hledger).trans hg.freed
    have hused := hp.used
    have hbal := hp.balance
    simp only [memoptGetStats,hta,htf,hg.allocated] at hused hbal
    have hlv := hg.live
    rw [hlive] at hused
    simp at hbal
    omega

theorem init_unreleased (bytes : Addr → BitVec 8) :
    Unreleased (Session.start (memoptInit (.fresh bytes)).2).ledger :=
  ⟨start_placed,rfl,rfl,rfl,rfl⟩

theorem stats_run_exact (bytes : Addr → BitVec 8) (calls : List Call)
    (hcalls : Along Session.call (fun s c => s.admits c ∧ (s.call c).granted < 2 ^ 64)
      (.start (memoptInit (.fresh bytes)).2) calls) :
    Throughout Session.call StatsBalanced (.start (memoptInit (.fresh bytes)).2) calls ↔
      Along Session.call NoRelease (.start (memoptInit (.fresh bytes)).2) calls := by
  have hrun := exact_condition Session.call
    (G := fun s => Unreleased s.ledger) (Q := fun _ _ => True)
    (fun s hs => unreleased_balanced hs)
    (fun s c hs he hc => ⟨stats_step_good hs he.1 he.2 hc,trivial⟩)
    (fun s c hs he hp _ => stats_step_bad hs he.1 he.2 hp) calls _ (init_unreleased bytes) hcalls
  simpa [along_true] using hrun

theorem stats_run_exact_sample :
    Throughout Session.call StatsBalanced (.start (memoptInit (.fresh fun _ => 0)).2)
      [.alloc 1024 (some 16), .allocFlags 4096 4 none (some 20), .free none] :=
  (stats_run_exact (fun _ => 0) [.alloc 1024 (some 16), .allocFlags 4096 4 none (some 20), .free none]
    ⟨by decide,by decide,by decide,trivial⟩).mpr ⟨by decide,by decide,by decide,trivial⟩

theorem freed_bytes_uncounted :
    ¬ Throughout Session.call StatsBalanced (.start (memoptInit (.fresh fun _ => 0)).2)
      [.alloc 8192 (some 16), .free (some 65536)] := by
  intro h
  have hfinal := (throughout_iff _ _ _ _).mp h _ List.prefix_rfl
  exact absurd hfinal.balance (by decide)

end Uroam.Memopt
