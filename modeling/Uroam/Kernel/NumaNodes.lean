import Uroam.Kernel.Numa
import Uroam.Library.Runs

namespace Uroam.Kernel.Numa
open Loops Runs

structure Refreshed (t : Topology) (m : PageCounts) (s : NumaState) (n : ℕ) (u : NumaState) :
    Prop where
  count : u.nrNumaNodes = s.nrNumaNodes
  table : u.numaDistanceTable = s.numaDistanceTable
  entries : ∀ k, u.numaNodes k =
    if k ∈ t.online ∧ k < n then
      nodeInfo m s.numaDistanceTable s.nrNumaNodes k (s.numaNodes k)
    else s.numaNodes k
  indices : ∀ k, k ∈ u.indices ↔ k ∈ s.indices ∨ k ∈ t.online ∧ k < n

theorem refreshed_step {t : Topology} {m : PageCounts} {s u : NumaState} {n : ℕ}
    (h : Refreshed t m s n u) : Refreshed t m s (n + 1) (updateNode t m u n) := by
  unfold updateNode
  split
  · next hn =>
    refine ⟨h.count,h.table,?_,?_⟩
    · intro k
      by_cases hk : k = n
      · subst hk
        have hsame : u.numaNodes k = s.numaNodes k := by rw [h.entries,if_neg (by simp)]
        simp [hn,h.count,h.table,hsame]
      · have hlt : k < n + 1 ↔ k < n := by omega
        simp only [Function.update_of_ne hk,h.entries,hlt]
    · intro k
      rw [List.mem_cons,h.indices,Nat.lt_succ_iff_lt_or_eq]
      constructor
      · rintro (rfl | hold | ⟨hon,hlt⟩)
        · exact .inr ⟨hn,.inr rfl⟩
        · exact .inl hold
        · exact .inr ⟨hon,.inl hlt⟩
      · rintro (hold | ⟨hon,hlt | rfl⟩)
        · exact .inr (.inl hold)
        · exact .inr (.inr ⟨hon,hlt⟩)
        · exact .inl rfl
  · next hn =>
    have hlt : ∀ k, (k ∈ t.online ∧ k < n + 1 ↔ k ∈ t.online ∧ k < n) := by
      intro k
      rw [Nat.lt_succ_iff_lt_or_eq]
      constructor
      · rintro ⟨hon,hlt | rfl⟩
        · exact ⟨hon,hlt⟩
        · exact absurd hon hn
      · exact fun ⟨hon,hlt⟩ => ⟨hon,.inl hlt⟩
    refine ⟨h.count,h.table,?_,?_⟩
    · intro k
      rw [h.entries]
      simp only [hlt]
    · intro k
      rw [h.indices,hlt]

theorem refreshed_loop (t : Topology) (m : PageCounts) (s : NumaState) (n : ℕ) :
    Refreshed t m s n (upTo n (updateNode t m) s) :=
  upTo_invariant (I := fun k u => Refreshed t m s k u) ⟨rfl,rfl,by simp,by simp⟩
    (fun _ _ _ h => refreshed_step h)

theorem update_refreshed (t : Topology) (m : PageCounts) (s : NumaState) :
    Refreshed t m s s.nrNumaNodes (uroamNumaUpdateNodeInfo t m s) := by
  obtain ⟨hcount,htable,hentries,hindices⟩ := refreshed_loop t m s s.nrNumaNodes
  exact ⟨hcount,htable,hentries,hindices⟩

section Distances

theorem copied_distance (table : ℕ → U8) {nr last : ℕ} (hnr : min maxNumaNodes nr = last + 1)
    (node : ℕ) (distance : ℕ → U32) {i : ℕ} (hi : i < last + 1) :
    copyDistances table nr node distance i =
      (table (node * maxNumaNodes + last)).setWidth 32 := by
  unfold copyDistances
  rw [hnr]
  simp only [fill_same]
  exact fill_hit (f := id) (v := fun _ => (table (node * maxNumaNodes + last)).setWidth 32)
    (fun _ _ h => h) hi

theorem distance_table (t : Topology) (nr : ℕ) {i j : ℕ} (hi : i < min maxNumaNodes nr)
    (hj : j < min maxNumaNodes nr) :
    upTo (min maxNumaNodes nr) (distanceRow t nr) (fun _ => 0) (i * maxNumaNodes + j) =
      tableEntry t i j := by
  have hmax : min maxNumaNodes nr ≤ maxNumaNodes := min_le_left ..
  have hrows : ∀ k (table : ℕ → U8), k < min maxNumaNodes nr →
      (∀ a, a < k → ∀ b, b < min maxNumaNodes nr →
        table (a * maxNumaNodes + b) = tableEntry t a b) →
      ∀ a, a < k + 1 → ∀ b, b < min maxNumaNodes nr →
        distanceRow t nr table k (a * maxNumaNodes + b) = tableEntry t a b := by
    intro k table _ htable a ha b hb
    rcases Nat.lt_succ_iff_lt_or_eq.mp ha with hlt | rfl
    · rw [distanceRow,fill_miss,htable a hlt b hb]
      intro c hc
      simp only [maxNumaNodes] at hmax hb hc ⊢
      omega
    · exact fill_hit (f := fun c => a * maxNumaNodes + c) (v := tableEntry t a)
        (fun _ _ h => Nat.add_left_cancel h) hb
  exact upTo_invariant
    (I := fun k (table : ℕ → U8) => ∀ a, a < k → ∀ b, b < min maxNumaNodes nr →
      table (a * maxNumaNodes + b) = tableEntry t a b)
    (fun _ ha => absurd ha (Nat.not_lt_zero _)) hrows i hi j hj

def DistancesRight (t : Topology) (nr : ℕ) (s : NumaState) : Prop :=
  ∀ n i, n < nr → i < nr →
    ((((s.numaNodes n).distance i).toNat : ℕ) : ℤ) = t.nodeDistance n i

def LastColumn (t : Topology) (nr : ℕ) (s : NumaState) : Prop :=
  s.nrNumaNodes = nr ∧
    (∃ table, s.numaDistanceTable = some table ∧
      ∀ n, n < nr → table (n * maxNumaNodes + (nr - 1)) = .ofInt 8 (t.nodeDistance n (nr - 1 : ℕ))) ∧
    ∀ n i, n < nr → i < nr →
      (s.numaNodes n).distance i = (BitVec.ofInt 8 (t.nodeDistance n (nr - 1 : ℕ))).setWidth 32

variable {t : Topology} {nr : ℕ}

theorem refreshed_distance {m : PageCounts} {s u : NumaState} (hnr : 0 < nr)
    (hmax : nr ≤ maxNumaNodes) (hu : Refreshed t m s nr u) (hcount : s.nrNumaNodes = nr)
    {table : ℕ → U8} (htable : s.numaDistanceTable = some table) {n i : ℕ} (hn : n < nr)
    (hi : i < nr) (hon : n ∈ t.online) :
    (u.numaNodes n).distance i = (table (n * maxNumaNodes + (nr - 1))).setWidth 32 := by
  have hlast : min maxNumaNodes nr = nr - 1 + 1 := by omega
  rw [hu.entries,if_pos ⟨hon,hn⟩,hcount,htable]
  exact copied_distance table hlast n _ (by omega)

theorem last_column_update (hnr : 0 < nr) (hmax : nr ≤ maxNumaNodes) {s : NumaState}
    (h : LastColumn t nr s) (m : PageCounts) : LastColumn t nr (uroamNumaUpdate t s m) := by
  unfold uroamNumaUpdate
  split
  · exact h
  · obtain ⟨hcount,⟨table,htable,hlast⟩,hdistance⟩ := h
    have hu := update_refreshed t m s
    rw [hcount] at hu
    refine ⟨hu.count.trans hcount,⟨table,hu.table.trans htable,hlast⟩,?_⟩
    intro n i hn hi
    by_cases hon : n ∈ t.online
    · rw [refreshed_distance hnr hmax hu hcount htable hn hi hon,hlast n hn]
    · rw [hu.entries,if_neg (fun hk => hon hk.1),hdistance n i hn hi]

theorem init_eq_update (hcard : 1 < t.online.card) (m : PageCounts) (kzalloc : Bool) (s : NumaState) :
    (uroamNumaInit t m kzalloc s).2 = uroamNumaUpdateNodeInfo t m
      (uroamNumaInitDistanceTable t kzalloc { s with nrNumaNodes := t.online.card }) := by
  have hpossible : 1 < t.possible := hcard.trans_le t.onlinePossible
  simp [uroamNumaInit,uroamNumaAvailable,hpossible,Nat.not_le.mpr hcard]

theorem last_column_init (hnr : 2 ≤ nr) (hmax : nr ≤ maxNumaNodes)
    (honline : t.online = Finset.range nr) (m : PageCounts) :
    LastColumn t nr (uroamNumaInit t m true .loaded).2 := by
  have hcard : t.online.card = nr := by rw [honline,Finset.card_range]
  have hpossible : nr ≤ t.possible := hcard ▸ t.onlinePossible
  rw [init_eq_update (by omega),hcard]
  have hu := update_refreshed t m
    (uroamNumaInitDistanceTable t true { NumaState.loaded with nrNumaNodes := nr })
  have hlast : ∀ n, n < nr →
      upTo (min maxNumaNodes nr) (distanceRow t nr) (fun _ => 0) (n * maxNumaNodes + (nr - 1)) =
        .ofInt 8 (t.nodeDistance n (nr - 1 : ℕ)) := by
    intro n hn
    rw [distance_table t nr (by omega) (by omega),tableEntry,if_pos (by omega)]
  refine ⟨hu.count,⟨_,hu.table,hlast⟩,?_⟩
  intro n i hn hi
  have hon : n ∈ t.online := by rw [honline]; exact Finset.mem_range.mpr hn
  rw [refreshed_distance (by omega) hmax hu rfl rfl hn hi hon,hlast n hn]

theorem byte_distance {d : ℤ} (h0 : 0 ≤ d) (h1 : d < 256) :
    ((((BitVec.ofInt 8 d).setWidth 32).toNat : ℕ) : ℤ) = d := by
  obtain ⟨k,rfl⟩ := Int.eq_ofNat_of_zero_le h0
  have hk : k < 256 := by omega
  simp only [BitVec.ofInt_natCast,BitVec.toNat_setWidth,BitVec.toNat_ofNat]
  omega

theorem last_column_right (hdistance : ∀ i j : ℕ, i < nr → j < nr →
      0 ≤ t.nodeDistance i j ∧ t.nodeDistance i j < 256) {s : NumaState}
    (h : LastColumn t nr s) : DistancesRight t nr s ↔
      ∀ n i : ℕ, n < nr → i < nr → t.nodeDistance n i = t.nodeDistance n (nr - 1 : ℕ) := by
  have hvalue : ∀ n i, n < nr → i < nr →
      ((((s.numaNodes n).distance i).toNat : ℕ) : ℤ) = t.nodeDistance n (nr - 1 : ℕ) := by
    intro n i hn hi
    obtain ⟨h0,h1⟩ := hdistance n (nr - 1) hn (by omega)
    rw [h.2.2 n i hn hi,byte_distance h0 h1]
  constructor
  · intro hright n i hn hi
    rw [← hright n i hn hi,hvalue n i hn hi]
  · intro hsame n i hn hi
    rw [hvalue n i hn hi,hsame n i hn hi]

theorem distances_right_iff (t : Topology) (nr : ℕ) (hnr : 2 ≤ nr) (hmax : nr ≤ maxNumaNodes)
    (honline : t.online = Finset.range nr)
    (hdistance : ∀ i j : ℕ, i < nr → j < nr →
      0 ≤ t.nodeDistance i j ∧ t.nodeDistance i j < 256)
    (m : PageCounts) (ms : List PageCounts) :
    Throughout (uroamNumaUpdate t) (DistancesRight t nr) (uroamNumaInit t m true .loaded).2 ms ↔
      ∀ n i : ℕ, n < nr → i < nr → t.nodeDistance n i = t.nodeDistance n (nr - 1 : ℕ) := by
  have hinit := last_column_init hnr hmax honline m
  constructor
  · intro h
    exact (last_column_right hdistance hinit).mp (throughout_head _ h)
  · intro hsame
    exact throughout_of_invariant _
      (fun _ m h => last_column_update (Nat.zero_lt_of_lt hnr) hmax h m)
      (fun _ h => (last_column_right hdistance h).mpr hsame) ms _ hinit

def twoNodes : Topology where
  online := Finset.range 2
  possible := 2
  nodeDistance i j := if i = j then 10 else 20
  onlinePossible := le_rfl

def evenCounts : PageCounts := { present := fun _ => 1024, free := fun _ => 512 }

theorem two_nodes_distances (i j : ℕ) (_ : i < 2) (_ : j < 2) :
    0 ≤ twoNodes.nodeDistance i j ∧ twoNodes.nodeDistance i j < 256 := by
  simp only [twoNodes]
  split <;> omega

theorem distances_right_iff_two :
    Throughout (uroamNumaUpdate twoNodes) (DistancesRight twoNodes 2)
        (uroamNumaInit twoNodes evenCounts true .loaded).2 [evenCounts] ↔
      ∀ n i : ℕ, n < 2 → i < 2 → twoNodes.nodeDistance n i = twoNodes.nodeDistance n (2 - 1 : ℕ) :=
  distances_right_iff twoNodes 2 le_rfl (by decide) rfl two_nodes_distances evenCounts [evenCounts]

theorem local_distance_lost :
    ¬ ∀ (t : Topology) (nr : ℕ), 2 ≤ nr → nr ≤ maxNumaNodes → t.online = Finset.range nr →
      (∀ i j : ℕ, i < nr → j < nr → 0 ≤ t.nodeDistance i j ∧ t.nodeDistance i j < 256) →
      ∀ (m : PageCounts) (ms : List PageCounts),
        Throughout (uroamNumaUpdate t) (DistancesRight t nr)
          (uroamNumaInit t m true .loaded).2 ms := by
  intro h
  have hrun := h twoNodes 2 le_rfl (by decide) rfl two_nodes_distances evenCounts []
  have hzero := throughout_head _ hrun 0 0 (by decide) (by decide)
  exact absurd hzero (by decide +kernel)

end Distances

section Pages

def HoldsPages (info : NumaInfo) (present free : U64) : Prop :=
  info.nrPages.toNat = present.toNat ∧ info.nrFreePages.toNat = free.toNat ∧
    info.totalMemory.toNat = present.toNat * pageSize.toNat ∧
    info.freeMemory.toNat = free.toNat * pageSize.toNat

def InBounds (s : NumaState) : Prop := ∀ k ∈ s.indices, k < maxNumaNodes

def NodesHold (t : Topology) (m : PageCounts) (s : NumaState) : Prop :=
  InBounds s ∧ (2 ≤ t.online.card → ∀ n ∈ t.online, n < maxNumaNodes →
    HoldsPages (s.numaNodes n) (m.present n) (m.free n))

def IdsFit (t : Topology) : Prop := ∀ n ∈ t.online, maxNumaNodes ≤ n → t.online.card ≤ n

def PagesFit (t : Topology) (m : PageCounts) : Prop :=
  ∀ n ∈ t.online, n < maxNumaNodes →
    (m.present n).toNat < 2 ^ 32 ∧ (m.free n).toNat < 2 ^ 32 ∧
      (t.online.card ≤ n → m.present n = 0 ∧ m.free n = 0)

theorem written_pages (m : PageCounts) (table : Option (ℕ → U8)) (nr node : ℕ) (old : NumaInfo) :
    HoldsPages (nodeInfo m table nr node old) (m.present node) (m.free node) ↔
      (m.present node).toNat < 2 ^ 32 ∧ (m.free node).toNat < 2 ^ 32 := by
  have hsize : pageSize.toNat = 4096 := rfl
  simp only [HoldsPages,nodeInfo,BitVec.toNat_setWidth,BitVec.toNat_mul,hsize]
  omega

theorem zero_pages (present free : U64) :
    HoldsPages .zero present free ↔ present = 0 ∧ free = 0 := by
  have hnat : ∀ x : U64, x = 0 ↔ 0 = x.toNat := fun x => by
    rw [← BitVec.toNat_inj,eq_comm]
    rfl
  have hsize : pageSize.toNat = 4096 := rfl
  rw [hnat,hnat]
  simp only [HoldsPages,NumaInfo.zero,hsize]
  change 0 = present.toNat ∧ 0 = free.toNat ∧ 0 = present.toNat * 4096 ∧ 0 = free.toNat * 4096 ↔ _
  omega

structure Bounded (t : Topology) (s : NumaState) : Prop where
  count : s.nrNumaNodes = t.online.card
  unwritten : ∀ k, ¬ (k ∈ t.online ∧ k < t.online.card) → s.numaNodes k = .zero
  written : ∀ k ∈ s.indices, k ∈ t.online ∧ k < t.online.card

variable {t : Topology} {m : PageCounts} {s : NumaState}

theorem update_runs (hcard : 1 < t.online.card) (h : Bounded t s) :
    uroamNumaUpdate t s m = uroamNumaUpdateNodeInfo t m s := by
  have hpossible : 1 < t.possible := hcard.trans_le t.onlinePossible
  simp [uroamNumaUpdate,uroamNumaAvailable,hpossible,h.count,Nat.not_le.mpr hcard]

theorem bounded_update (hcard : 1 < t.online.card) (h : Bounded t s) :
    Bounded t (uroamNumaUpdate t s m) := by
  rw [update_runs hcard h]
  have hu := update_refreshed t m s
  rw [h.count] at hu
  refine ⟨hu.count.trans h.count,?_,?_⟩
  · intro k hk
    rw [hu.entries,if_neg hk,h.unwritten k hk]
  · intro k hk
    rcases (hu.indices k).mp hk with hold | hnew
    · exact h.written k hold
    · exact hnew

theorem indices_fit (hcard : 1 < t.online.card) (h : Bounded t s) :
    InBounds (uroamNumaUpdate t s m) ↔ IdsFit t := by
  rw [update_runs hcard h]
  have hu := update_refreshed t m s
  rw [h.count] at hu
  constructor
  · intro hin n hn hmax
    by_contra hlt
    have hk := hin n ((hu.indices n).mpr (.inr ⟨hn,not_le.mp hlt⟩))
    omega
  · intro hfit k hk
    have hon : k ∈ t.online ∧ k < t.online.card := by
      rcases (hu.indices k).mp hk with hold | hnew
      · exact h.written k hold
      · exact hnew
    by_contra hmax
    have := hfit k hon.1 (not_lt.mp hmax)
    omega

theorem entry_fits (hcard : 1 < t.online.card) (h : Bounded t s) {n : ℕ} (hn : n ∈ t.online) :
    HoldsPages ((uroamNumaUpdate t s m).numaNodes n) (m.present n) (m.free n) ↔
      (m.present n).toNat < 2 ^ 32 ∧ (m.free n).toNat < 2 ^ 32 ∧
        (t.online.card ≤ n → m.present n = 0 ∧ m.free n = 0) := by
  rw [update_runs hcard h,(update_refreshed t m s).entries,h.count]
  by_cases hlt : n < t.online.card
  · rw [if_pos ⟨hn,hlt⟩,written_pages]
    have hge : ¬ t.online.card ≤ n := not_le.mpr hlt
    simp [hge]
  · rw [if_neg (fun hk => hlt hk.2),h.unwritten n (fun hk => hlt hk.2),zero_pages]
    constructor
    · rintro ⟨hp,hf⟩
      simp [hp,hf]
    · exact fun hfit => hfit.2.2 (not_lt.mp hlt)

theorem nodes_hold_update (hcard : 1 < t.online.card) (h : Bounded t s) :
    NodesHold t m (uroamNumaUpdate t s m) ↔ IdsFit t ∧ PagesFit t m := by
  unfold NodesHold
  rw [indices_fit hcard h]
  constructor
  · rintro ⟨hids,hhold⟩
    exact ⟨hids,fun n hn hmax => (entry_fits hcard h hn).mp (hhold hcard n hn hmax)⟩
  · rintro ⟨hids,hpages⟩
    exact ⟨hids,fun _ n hn hmax => (entry_fits hcard h hn).mpr (hpages n hn hmax)⟩

theorem single_node (hcard : t.online.card ≤ 1) (m : PageCounts) (kzalloc : Bool) :
    (uroamNumaInit t m kzalloc .loaded).2 = .loaded := by
  unfold uroamNumaInit
  rw [if_pos hcard]
  split <;> rfl

theorem loaded_holds (hcard : t.online.card ≤ 1) (m : PageCounts) : NodesHold t m .loaded := by
  refine ⟨fun k hk => absurd hk List.not_mem_nil,fun htwo => ?_⟩
  omega

theorem single_node_runs (hcard : t.online.card ≤ 1) (ms : List PageCounts) :
    Along (uroamNumaUpdate t) (fun s m => NodesHold t m (uroamNumaUpdate t s m)) .loaded ms := by
  have hstay : ∀ m, uroamNumaUpdate t .loaded m = .loaded := by
    intro m
    simp [uroamNumaUpdate,NumaState.loaded]
  induction ms with
  | nil => trivial
  | cons m ms ih =>
    refine ⟨?_,?_⟩
    · change NodesHold t m (uroamNumaUpdate t .loaded m)
      rw [hstay]
      exact loaded_holds hcard m
    · rw [hstay]
      exact ih

def NodesHoldThroughout (t : Topology) (m : PageCounts) (kzalloc : Bool)
    (ms : List PageCounts) : Prop :=
  let s := (uroamNumaInit t m kzalloc .loaded).2
  NodesHold t m s ∧
    Along (uroamNumaUpdate t) (fun s m => NodesHold t m (uroamNumaUpdate t s m)) s ms

theorem nodes_hold_iff (t : Topology) (m : PageCounts) (kzalloc : Bool) (ms : List PageCounts) :
    NodesHoldThroughout t m kzalloc ms ↔
      t.online.card ≤ 1 ∨ IdsFit t ∧ ∀ m' ∈ m :: ms, PagesFit t m' := by
  by_cases hcard : t.online.card ≤ 1
  · refine iff_of_true ?_ (.inl hcard)
    unfold NodesHoldThroughout
    rw [single_node hcard]
    exact ⟨loaded_holds hcard m,single_node_runs hcard ms⟩
  · have hmany : 1 < t.online.card := not_le.mp hcard
    have hbounded : Bounded t
        (uroamNumaInitDistanceTable t kzalloc
          { NumaState.loaded with nrNumaNodes := t.online.card }) := by
      cases kzalloc <;> exact ⟨rfl,fun _ _ => rfl,fun k hk => absurd hk List.not_mem_nil⟩
    have hrun := exact_steps (uroamNumaUpdate t) (G := Bounded t) (E := fun _ _ => True)
      (fun _ m h _ => bounded_update (m := m) hmany h)
      (fun _ m h _ => nodes_hold_update (m := m) hmany h) (m :: ms) _ hbounded (along_true ..)
    unfold NodesHoldThroughout
    rw [init_eq_update hmany,← update_runs hmany hbounded]
    refine hrun.trans ?_
    rw [along_forall,or_iff_right hcard]
    constructor
    · intro h
      exact ⟨(h m List.mem_cons_self).1,fun m' hm => (h m' hm).2⟩
    · exact fun h m' hm => ⟨h.1,h.2 m' hm⟩

def gapNodes : Topology where
  online := {0, 2}
  possible := 3
  nodeDistance i j := if i = j then 10 else 20
  onlinePossible := by decide

theorem gap_node_missed :
    ¬ ∀ (t : Topology) (m : PageCounts) (kzalloc : Bool) (ms : List PageCounts),
      NodesHoldThroughout t m kzalloc ms := by
  intro h
  have hhold := (h gapNodes evenCounts true []).1.2 (by decide) 2 (by decide) (by decide)
  exact absurd hhold.1 (by decide +kernel)

end Pages

end Uroam.Kernel.Numa
