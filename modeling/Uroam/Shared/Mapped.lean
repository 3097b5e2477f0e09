import Uroam.Shared.Session

namespace Uroam.Memopt
open Runs

def PagesExact (l : Ledger) : Prop := ∀ page, page ∈ l.mapped ↔ ∃ b ∈ l.live, page ∈ b.pages

def Call.withoutHugepages : Call → Prop
  | .allocFlags _ flags _ _ => flags &&& memoptAllocHugepage = 0
  | _ => True

instance : (c : Call) → Decidable c.withoutHugepages
  | .allocFlags _ flags _ _ => inferInstanceAs (Decidable (flags &&& memoptAllocHugepage = 0))
  | .alloc _ _ | .calloc _ _ _ | .realloc _ _ _ | .free _ => instDecidableTrue

def OnePageRelease (s : Session) (c : Call) : Prop :=
  ∀ b ∈ s.live, some b.ptr = c.released → b.size.toNat ≤ 4096

instance (s : Session) (c : Call) : Decidable (OnePageRelease s c) := List.decidableBAll _ _

theorem small_grants {c : Call} (h : c.withoutHugepages) :
    ∃ size answer, c.grantMoves = grants size answer := by
  cases c with
  | alloc size answer => exact ⟨size,answer,rfl⟩
  | allocFlags size flags huge small =>
    have hf : flags &&& memoptAllocHugepage = 0#64 := h
    exact ⟨size,small,by simp [Call.grantMoves,grantsFlags,hf]⟩
  | calloc nmemb size answer => exact ⟨nmemb * size,answer,rfl⟩
  | realloc ptr size answer => exact ⟨size,answer,rfl⟩
  | free ptr => exact ⟨0,none,rfl⟩

theorem exact_grants {l : Ledger} (h : PagesExact l) (size : SizeT) (answer : Option Page) :
    PagesExact (exec Ledger.move l (grants size answer)) := by
  cases answer with
  | none => exact h
  | some page =>
    intro k
    have hk := h k
    simp only [grants,exec_cons,exec_nil,Ledger.move,Finset.mem_union,List.mem_cons,
      exists_eq_or_imp,pages_at]
    rw [hk]
    exact or_comm

theorem exact_release {l : Ledger} (hw : WellPlaced l) (h : PagesExact l) {b : Block}
    (hb : b ∈ l.live) : PagesExact (l.move (.release b.ptr)) ↔ b.size.toNat ≤ 4096 := by
  obtain ⟨xs,ys,hl,hwo,hother⟩ := split_held hw hb
  obtain ⟨page,_,hpage⟩ := hw.aligned b hb
  have hpos := size_pos (hw.sized b hb)
  simp only [PagesExact,Ledger.move,hwo,release_touches hpage,Finset.mem_sdiff,
    Finset.mem_singleton]
  constructor
  · intro hx
    by_contra hbig
    have hsecond : page + 1 ∈ b.pages := by
      rw [Block.pages,hpage]
      exact Pages.second_mem_touched (by decide) (not_le.mp hbig)
    obtain ⟨c,hc,hk⟩ := (hx (page + 1)).mp ⟨hw.resident b hb hsecond,Nat.succ_ne_self page⟩
    exact Finset.disjoint_left.mp (hother c hc) hsecond hk
  · intro hsmall k
    have hone : b.pages = {page} := by
      rw [Block.pages,hpage]
      exact Pages.touched_eq_singleton (by decide) hpos hsmall
    have hk := h k
    rw [hl] at hk
    constructor
    · rintro ⟨hm,hne⟩
      obtain ⟨c,hc,hkc⟩ := hk.mp hm
      have hcb : c ≠ b := by
        rintro rfl
        exact hne (by simpa [hone] using hkc)
      refine ⟨c,?_,hkc⟩
      simp only [List.mem_append,List.mem_cons] at hc ⊢
      tauto
    · rintro ⟨c,hc,hkc⟩
      refine ⟨hk.mpr ⟨c,?_,hkc⟩,?_⟩
      · simp only [List.mem_append,List.mem_cons] at hc ⊢
        tauto
      · rintro rfl
        exact Finset.disjoint_left.mp (hother c hc) (by simp [hone]) hkc

theorem call_exact_iff {s : Session} {c : Call} (hw : WellPlaced s.ledger)
    (h : PagesExact s.ledger) (ha : s.admits c) (hh : c.withoutHugepages) :
    PagesExact (s.call c).ledger ↔ OnePageRelease s c := by
  obtain ⟨size,answer,hm⟩ := small_grants hh
  have hall := moves_admitted ha
  rw [Call.moves,along_append] at hall
  rw [call_refines hw ha,Call.moves,exec_append]
  have hw' := placed_moves hw hall.1
  have h' := exact_grants h size answer
  rw [← hm] at h'
  cases hr : c.released with
  | none =>
    refine ⟨fun _ b _ hb => ?_,fun _ => h'⟩
    simp [hr] at hb
  | some ptr =>
    have hheld := admits_released ha
    rw [hr] at hheld
    obtain ⟨b,hb,rfl⟩ := hheld
    refine (exact_release hw' h' (held_after_grants hb c)).trans ⟨?_,?_⟩
    · intro hsmall c hc hp
      have hcb : c = b := held_unique hw hc hb (by simpa [hr] using hp)
      exact hcb ▸ hsmall
    · intro hone
      exact hone b hb hr.symm

theorem pages_run_exact (process : Process) (hmapped : process.space.mapped = ∅)
    (calls : List Call)
    (hcalls : Along Session.call (fun s c => s.admits c ∧ c.withoutHugepages)
      (.start process) calls) :
    Throughout Session.call (fun s => PagesExact s.ledger) (.start process) calls ↔
      Along Session.call OnePageRelease (.start process) calls := by
  have hstart : WellPlaced (Session.start process).ledger ∧
      PagesExact (Session.start process).ledger :=
    ⟨start_placed,by simp [PagesExact,Session.start,Session.ledger,hmapped]⟩
  have hrun := exact_condition Session.call
    (G := fun s => WellPlaced s.ledger ∧ PagesExact s.ledger) (Q := fun _ _ => True)
    (fun s hs => hs.2)
    (fun s c hs he hc => ⟨⟨call_placed hs.1 he.1,(call_exact_iff hs.1 hs.2 he.1 he.2).mpr hc⟩,trivial⟩)
    (fun s c hs he hp _ => (call_exact_iff hs.1 hs.2 he.1 he.2).mp hp) calls _ hstart hcalls
  simpa [along_true] using hrun

theorem pages_run_exact_sample :
    Throughout Session.call (fun s => PagesExact s.ledger) (.start (.fresh fun _ => 0))
      [.alloc 100 (some 16), .realloc (some 65536) 4096 (some 20), .free (some 81920)] :=
  (pages_run_exact (.fresh fun _ => 0) rfl
    [.alloc 100 (some 16), .realloc (some 65536) 4096 (some 20), .free (some 81920)]
    ⟨by decide,by decide,by decide,trivial⟩).mpr ⟨by decide,by decide,by decide,trivial⟩

theorem freed_page_leaks :
    ¬ Throughout Session.call (fun s => PagesExact s.ledger) (.start (.fresh fun _ => 0))
      [.alloc 8192 (some 16), .free (some 65536)] := by
  intro h
  have hfinal := (throughout_iff _ _ _ _).mp h _ List.prefix_rfl
  have hgone : Pages.touched memoptPageSize 65536 4096 = {16} := Pages.touched_one (by decide) 16
  have hmapped : 17 ∈ (∅ ∪ Finset.Ico 16 (16 + Pages.count memoptPageSize 8192)) \
      Pages.touched memoptPageSize 65536 4096 := by
    rw [hgone]
    decide
  obtain ⟨b,hb,_⟩ := (hfinal 17).mp hmapped
  cases hb

end Uroam.Memopt
