import Mathlib.Data.Tree.Basic
import Mathlib.Order.Lattice
import Mathlib.Tactic.Tauto

namespace SearchTree

variable {I K : Type}

def inorder : BinaryTree I → List I
  | .nil => []
  | .node i l r => inorder l ++ i :: inorder r

variable [LinearOrder K]

def search (key : I → K) (k : K) : BinaryTree I → Option I
  | .nil => none
  | .node i l r =>
    if k < key i then search key k l
    else if key i < k then search key k r
    else some i

def link (key : I → K) (i : I) : BinaryTree I → Option (BinaryTree I)
  | .nil => some (.node i .nil .nil)
  | .node j l r =>
    if key i < key j then (link key i l).map fun l' => .node j l' r
    else if key j < key i then (link key i r).map fun r' => .node j l r'
    else none

def Ordered (key : I → K) (t : BinaryTree I) : Prop :=
  (inorder t).Pairwise fun i j => key i < key j

variable {key : I → K}

theorem ordered_nil : Ordered key .nil := List.Pairwise.nil

theorem ordered_node {i : I} {l r : BinaryTree I} :
    Ordered key (.node i l r) ↔ Ordered key l ∧ Ordered key r ∧
      (∀ a ∈ inorder l, key a < key i) ∧ (∀ b ∈ inorder r, key i < key b) := by
  simp only [Ordered,inorder,List.pairwise_append,List.pairwise_cons,List.mem_cons]
  constructor
  · rintro ⟨hl,⟨hir,hr⟩,hlr⟩
    exact ⟨hl,hr,fun a ha => hlr a ha i (.inl rfl),hir⟩
  · rintro ⟨hl,hr,hli,hir⟩
    refine ⟨hl,⟨hir,hr⟩,?_⟩
    rintro a ha b (rfl | hb)
    · exact hli a ha
    · exact (hli a ha).trans (hir b hb)

theorem search_iff {t : BinaryTree I} (h : Ordered key t) (k : K) (i : I) :
    search key k t = some i ↔ i ∈ inorder t ∧ key i = k := by
  induction t with
  | nil => simp [search,inorder]
  | node j l r ihl ihr =>
    obtain ⟨hl,hr,hlj,hjr⟩ := ordered_node.mp h
    simp only [search,inorder,List.mem_append,List.mem_cons]
    split_ifs with hlt hgt
    · rw [ihl hl]
      constructor
      · rintro ⟨hi,rfl⟩
        exact ⟨.inl hi,rfl⟩
      · rintro ⟨hi | rfl | hi,rfl⟩
        · exact ⟨hi,rfl⟩
        · exact absurd hlt (lt_irrefl _)
        · exact absurd (hlt.trans (hjr i hi)) (lt_irrefl _)
    · rw [ihr hr]
      constructor
      · rintro ⟨hi,rfl⟩
        exact ⟨.inr (.inr hi),rfl⟩
      · rintro ⟨hi | rfl | hi,rfl⟩
        · exact absurd (hgt.trans (hlj i hi)) (lt_irrefl _)
        · exact absurd hgt (lt_irrefl _)
        · exact ⟨hi,rfl⟩
    · have hk : key j = k := le_antisymm (not_lt.mp hlt) (not_lt.mp hgt)
      constructor
      · intro hi
        cases hi
        exact ⟨.inr (.inl rfl),hk⟩
      · rintro ⟨hi | rfl | hi,hik⟩
        · exact absurd (hik.trans hk.symm) (hlj i hi).ne
        · rfl
        · exact absurd (hk.trans hik.symm) (hjr i hi).ne

theorem search_none {t : BinaryTree I} (h : Ordered key t) {k : K} :
    search key k t = none ↔ ∀ i ∈ inorder t, key i ≠ k := by
  rw [Option.eq_none_iff_forall_ne_some]
  constructor
  · intro hn i hi hk
    exact hn i ((search_iff h k i).mpr ⟨hi,hk⟩)
  · intro hn i hi
    obtain ⟨hm,hk⟩ := (search_iff h k i).mp hi
    exact hn i hm hk

theorem link_total {i : I} {t : BinaryTree I} (h : ∀ j ∈ inorder t, key j ≠ key i) :
    ∃ t', link key i t = some t' := by
  induction t with
  | nil => exact ⟨_,rfl⟩
  | node j l r ihl ihr =>
    simp only [inorder,List.mem_append,List.mem_cons] at h
    simp only [link]
    split_ifs with hlt hgt
    · obtain ⟨l',hl'⟩ := ihl fun a ha => h a (.inl ha)
      exact ⟨.node j l' r,by simp [hl']⟩
    · obtain ⟨r',hr'⟩ := ihr fun a ha => h a (.inr (.inr ha))
      exact ⟨.node j l r',by simp [hr']⟩
    · exact absurd (le_antisymm (not_lt.mp hlt) (not_lt.mp hgt)) (h j (.inr (.inl rfl)))

theorem mem_link {i : I} {t t' : BinaryTree I} (h : link key i t = some t') (j : I) :
    j ∈ inorder t' ↔ j = i ∨ j ∈ inorder t := by
  induction t generalizing t' with
  | nil =>
    cases h
    simp [inorder]
  | node a l r ihl ihr =>
    simp only [link] at h
    split_ifs at h
    · obtain ⟨l',hl',rfl⟩ := Option.map_eq_some_iff.mp h
      simp only [inorder,List.mem_append,List.mem_cons,ihl hl']
      tauto
    · obtain ⟨r',hr',rfl⟩ := Option.map_eq_some_iff.mp h
      simp only [inorder,List.mem_append,List.mem_cons,ihr hr']
      tauto

theorem link_ordered {i : I} {t t' : BinaryTree I} (ho : Ordered key t)
    (h : link key i t = some t') : Ordered key t' := by
  induction t generalizing t' with
  | nil =>
    cases h
    exact ordered_node.mpr ⟨ordered_nil,ordered_nil,by simp [inorder],by simp [inorder]⟩
  | node a l r ihl ihr =>
    obtain ⟨hl,hr,hla,har⟩ := ordered_node.mp ho
    simp only [link] at h
    split_ifs at h with hlt hgt
    · obtain ⟨l',hl',rfl⟩ := Option.map_eq_some_iff.mp h
      refine ordered_node.mpr ⟨ihl hl hl',hr,?_,har⟩
      intro b hb
      rcases (mem_link hl' b).mp hb with rfl | hb
      · exact hlt
      · exact hla b hb
    · obtain ⟨r',hr',rfl⟩ := Option.map_eq_some_iff.mp h
      refine ordered_node.mpr ⟨hl,ihr hr hr',hla,?_⟩
      intro b hb
      rcases (mem_link hr' b).mp hb with rfl | hb
      · exact hgt
      · exact har b hb

theorem ordered_congr {key' : I → K} {t : BinaryTree I}
    (h : ∀ i ∈ inorder t, key' i = key i) (ho : Ordered key t) : Ordered key' t := by
  refine List.Pairwise.imp_of_mem ?_ ho
  intro i j hi hj hij
  rwa [h i hi,h j hj]

end SearchTree
