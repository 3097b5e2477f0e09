import Mathlib.Data.List.Perm.Basic
import Mathlib.Data.List.Count
import Mathlib.Order.Basic

namespace Plurality

section Leaders

variable {K : Type} (score rank : K → ℕ)

def leader (best : K) (ks : List K) : K :=
  ks.foldl (fun best k => if score k > score best then k else best) best

def Ahead (d k : K) : Prop := score k < score d ∨ score k = score d ∧ rank d < rank k

def Leads (ks : List K) (d : K) : Prop := d ∈ ks ∧ ∀ k ∈ ks, k ≠ d → Ahead score rank d k

variable {score rank}

theorem Ahead.trans {a b c : K} (hab : Ahead score rank a b) (hbc : Ahead score rank b c) :
    Ahead score rank a c := by
  unfold Ahead at *
  omega

theorem Leads.le {ks : List K} {d : K} (h : Leads score rank ks d) :
    ∀ k ∈ ks, score k ≤ score d := by
  intro k hk
  by_cases hd : k = d
  · exact Nat.le_of_eq (congrArg score hd)
  · rcases h.2 k hk hd with hlt | ⟨heq,-⟩
    · exact Nat.le_of_lt hlt
    · exact Nat.le_of_eq heq

theorem Leads.unique {ks : List K} {d e : K} (hd : Leads score rank ks d)
    (he : Leads score rank ks e) : d = e := by
  by_contra hne
  have hfirst : Ahead score rank d e := hd.2 e he.1 (Ne.symm hne)
  have hsecond : Ahead score rank e d := he.2 d hd.1 hne
  unfold Ahead at hfirst hsecond
  omega

theorem leads_extend {ks : List K} {best b d : K} (h : Leads score rank (best :: ks) d)
    (hahead : Ahead score rank best b) : Leads score rank (b :: best :: ks) d := by
  refine ⟨List.mem_cons_of_mem b h.1,?_⟩
  intro k hk hne
  rcases List.mem_cons.mp hk with rfl | hk
  · by_cases hbest : best = d
    · exact hbest ▸ hahead
    · exact (h.2 best List.mem_cons_self hbest).trans hahead
  · exact h.2 k hk hne

theorem leader_leads {best : K} {ks : List K}
    (hsorted : (best :: ks).Pairwise fun a b => rank a < rank b) :
    Leads score rank (best :: ks) (leader score best ks) := by
  induction ks generalizing best with
  | nil => exact ⟨List.mem_singleton_self _,fun k hk hne => absurd (List.mem_singleton.mp hk) hne⟩
  | cons k ks ih =>
    obtain ⟨hbest,hrest⟩ := List.pairwise_cons.mp hsorted
    by_cases hscore : score k > score best
    · have hstep : leader score best (k :: ks) = leader score k ks := by
        simp [leader,hscore]
      rw [hstep]
      exact leads_extend (ih hrest) (.inl hscore)
    · have hstep : leader score best (k :: ks) = leader score best ks := by
        simp [leader,hscore]
      have hkept : (best :: ks).Pairwise fun a b => rank a < rank b :=
        List.pairwise_cons.mpr ⟨fun b hb => hbest b (List.mem_cons_of_mem k hb),
          (List.pairwise_cons.mp hrest).2⟩
      have hahead : Ahead score rank best k := by
        have hrank := hbest k List.mem_cons_self
        unfold Ahead
        omega
      have hlead := leads_extend (ih hkept) hahead
      rw [hstep]
      refine ⟨(List.Perm.swap ..).mem_iff.mp hlead.1,?_⟩
      intro b hb
      exact hlead.2 b ((List.Perm.swap ..).mem_iff.mp hb)

end Leaders

section Votes

variable {K : Type} [DecidableEq K] {rank : K → ℕ}

def winner (first : K) (ks : List K) (votes : List K) : K := leader votes.count first ks

variable {first : K} {ks : List K} (hsorted : (first :: ks).Pairwise fun a b => rank a < rank b)
  (hall : ∀ k, k ∈ first :: ks)

include hsorted hall

theorem winner_iff {votes : List K} {d : K} :
    winner first ks votes = d ↔ ∀ k, k ≠ d → Ahead votes.count rank d k := by
  have hlead : Leads votes.count rank (first :: ks) (winner first ks votes) :=
    leader_leads hsorted
  constructor
  · rintro rfl k hne
    exact hlead.2 k (hall k) hne
  · intro h
    exact hlead.unique ⟨hall d,fun k _ hne => h k hne⟩

theorem winner_maximal (votes : List K) (k : K) :
    votes.count k ≤ votes.count (winner first ks votes) := by
  have hlead : Leads votes.count rank (first :: ks) (winner first ks votes) :=
    leader_leads hsorted
  exact hlead.le k (hall k)

omit hsorted hall in
theorem winner_perm {votes order : List K} (h : order.Perm votes) :
    winner first ks order = winner first ks votes := by
  have hcount : order.count = votes.count := funext fun k => h.count_eq k
  rw [winner,hcount]
  rfl

end Votes

section Samples

variable {K : Type} [DecidableEq K] {rank : K → ℕ}

def others (votes : List K) (d : K) : ℕ := votes.countP fun k => k ≠ d

variable (rank) in
def Secure (n : ℕ) (votes : List K) (d : K) : Prop :=
  ∀ k, k ≠ d → others votes d + votes.count k < n ∨
    others votes d + votes.count k = n ∧ rank d < rank k

theorem length_others (votes : List K) (d : K) :
    votes.length = votes.count d + others votes d := by
  have hcount : votes.count d = votes.countP fun k => k = d :=
    List.countP_congr fun k _ => by simp
  rw [List.length_eq_countP_add_countP fun k => k = d,hcount,others]
  congr 2
  simp

def against (votes : List K) (d : K) : List K :=
  (votes.filter fun k => k ≠ d) ++ votes.filter fun k => k = d

theorem against_perm (votes : List K) (d : K) : (against votes d).Perm votes := by
  have hsplit : votes.filter (fun k => k = d) = votes.filter fun k => !decide (k ≠ d) :=
    List.filter_congr fun k _ => by simp
  rw [against,hsplit]
  exact List.filter_append_perm _ votes

theorem others_length (votes : List K) (d : K) :
    (votes.filter fun k => k ≠ d).length = others votes d :=
  List.countP_eq_length_filter.symm

theorem count_against_self {votes : List K} {d : K} {n : ℕ} (hn : n ≤ votes.length)
    (h : others votes d ≤ n) : ((against votes d).take n).count d = n - others votes d := by
  have hsame : votes.filter (fun k => k = d) = List.replicate (votes.count d) d := by
    rw [← List.filter_eq]
  have hlength := length_others votes d
  rw [against,List.take_append,others_length,List.count_append,hsame,List.take_replicate,
    List.count_replicate_self]
  have hnone : ((votes.filter fun k => k ≠ d).take n).count d = 0 := by
    refine List.count_eq_zero_of_not_mem fun hmem => ?_
    simpa using List.mem_of_mem_take hmem
  omega

theorem count_against_ne {votes : List K} {d k : K} (hk : k ≠ d) {n : ℕ}
    (h : others votes d ≤ n) : ((against votes d).take n).count k = votes.count k := by
  have hother : ((votes.filter fun k => k = d).take (n - others votes d)).count k = 0 := by
    refine List.count_eq_zero_of_not_mem fun hmem => hk ?_
    simpa using (List.mem_filter.mp (List.mem_of_mem_take hmem)).2
  rw [against,List.take_append,others_length,List.count_append,hother,
    List.take_of_length_le (Nat.le_trans (Nat.le_of_eq (others_length votes d)) h)]
  exact List.count_filter (by simpa using hk)

theorem sample_others {votes order : List K} (h : order.Perm votes) {n : ℕ}
    (hn : n ≤ votes.length) (d : K) : n ≤ (order.take n).count d + others votes d := by
  have hsample := length_others (order.take n) d
  have hbound : others (order.take n) d ≤ others order d := (List.take_sublist n order).countP_le
  have hperm : others order d = others votes d := h.countP_eq _
  rw [List.length_take,h.length_eq,Nat.min_eq_left hn] at hsample
  omega

theorem sample_count {votes order : List K} (h : order.Perm votes) (n : ℕ) (k : K) :
    (order.take n).count k ≤ votes.count k := by
  rw [← h.count_eq k]
  exact (List.take_sublist n order).count_le k

variable {first : K} {ks : List K} (hsorted : (first :: ks).Pairwise fun a b => rank a < rank b)
  (hall : ∀ k, k ∈ first :: ks)

def Settled (first : K) (ks : List K) (n : ℕ) (votes : List K) : Prop :=
  ∃ d, (∀ k, votes.count k ≤ votes.count d) ∧
    ∀ order : List K, order.Perm votes → winner first ks (order.take n) = d

include hsorted hall

theorem settled_secure {n : ℕ} (hn : 0 < n) {votes : List K} (hlong : n < votes.length)
    (h : Settled first ks n votes) : ∃ d, Secure rank n votes d := by
  obtain ⟨d,-,hd⟩ := h
  have hwins := hd _ (against_perm votes d)
  refine ⟨d,?_⟩
  have hfew : others votes d ≤ n := by
    by_contra hmany
    obtain ⟨k,hk⟩ : ∃ k, k ∈ (against votes d).take n := by
      refine List.exists_mem_of_length_pos ?_
      rw [List.length_take,(against_perm votes d).length_eq]
      omega
    have hnone : ((against votes d).take n).count d = 0 := by
      refine List.count_eq_zero_of_not_mem fun hmem => ?_
      rw [against,List.take_append_of_le_length (by rw [others_length]; omega)] at hmem
      simpa using List.mem_of_mem_take hmem
    have hmost := winner_maximal hsorted hall ((against votes d).take n) k
    rw [hwins,hnone] at hmost
    exact absurd (List.count_pos_iff.mpr hk) (Nat.not_lt_of_le hmost)
  intro k hk
  have hahead := (winner_iff hsorted hall).mp hwins k hk
  simp only [Ahead] at hahead
  rw [count_against_self (Nat.le_of_lt hlong) hfew,count_against_ne hk hfew] at hahead
  omega

theorem secure_settled {n : ℕ} {votes : List K} (hlong : n < votes.length) {d : K}
    (h : Secure rank n votes d) : Settled first ks n votes := by
  refine ⟨d,?_,?_⟩
  · intro k
    by_cases hk : k = d
    · exact Nat.le_of_eq (congrArg votes.count hk)
    · have hsecure := h k hk
      have hlength := length_others votes d
      omega
  · intro order horder
    refine (winner_iff hsorted hall).mpr fun k hk => ?_
    have hsecure := h k hk
    have hown := sample_others horder (Nat.le_of_lt hlong) d
    have hother := sample_count horder n k
    simp only [Ahead]
    omega

theorem settled_iff {n : ℕ} (hn : 0 < n) (votes : List K) :
    Settled first ks n votes ↔ votes.length ≤ n ∨ ∃ d, Secure rank n votes d := by
  rcases Nat.lt_or_ge n votes.length with hlong | hshort
  · constructor
    · exact fun h => .inr (settled_secure hsorted hall hn hlong h)
    · rintro (hshort | ⟨d,hd⟩)
      · exact absurd hshort (Nat.not_le_of_lt hlong)
      · exact secure_settled hsorted hall hlong hd
  · refine iff_of_true ⟨_,winner_maximal hsorted hall votes,?_⟩ (.inl hshort)
    intro order horder
    rw [List.take_of_length_le (by rw [horder.length_eq]; exact hshort)]
    exact winner_perm horder

end Samples

section Orders

variable {A B : Type} {f : A → Option B}

theorem perm_filterMap {bs : List B} {l : List A} (h : bs.Perm (l.filterMap f)) :
    ∃ l' : List A, l'.Perm l ∧ l'.filterMap f = bs := by
  induction l generalizing bs with
  | nil => exact ⟨[],List.Perm.refl [],(List.perm_nil.mp h).symm⟩
  | cons a l ih =>
    cases ha : f a with
    | none =>
      rw [List.filterMap_cons_none ha] at h
      obtain ⟨l',hl',rfl⟩ := ih h
      exact ⟨a :: l',hl'.cons a,List.filterMap_cons_none ha⟩
    | some b =>
      rw [List.filterMap_cons_some ha] at h
      obtain ⟨before,after,rfl⟩ := List.append_of_mem (h.mem_iff.mpr List.mem_cons_self)
      have hrest : (before ++ after).Perm (l.filterMap f) :=
        (List.perm_middle.symm.trans h).cons_inv
      obtain ⟨l',hl',hsplit⟩ := ih hrest
      obtain ⟨front,back,rfl,hfront,hback⟩ := List.filterMap_eq_append_iff.mp hsplit
      refine ⟨front ++ a :: back,List.perm_middle.trans (hl'.cons a),?_⟩
      rw [List.filterMap_append,List.filterMap_cons_some ha,hfront,hback]

theorem perm_front {l : List A} {a : A} (h : a ∈ l) : ∃ rest, (a :: rest).Perm l := by
  obtain ⟨before,after,rfl⟩ := List.append_of_mem h
  exact ⟨before ++ after,List.perm_middle.symm⟩

theorem perm_front_two {l : List A} {a b : A} (ha : a ∈ l) (hb : b ∈ l) (hne : a ≠ b) :
    ∃ rest, (a :: b :: rest).Perm l := by
  obtain ⟨rest,hrest⟩ := perm_front ha
  have hmem : b ∈ rest := (List.mem_cons.mp (hrest.mem_iff.mpr hb)).resolve_left (Ne.symm hne)
  obtain ⟨last,hlast⟩ := perm_front hmem
  exact ⟨last,(hlast.cons a).trans hrest⟩

end Orders

end Plurality
