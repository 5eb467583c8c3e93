import ShapeSearch.Tree.Basic
import Mathlib.Data.List.Nodup

/-!
# The shape of a finished syntax tree

A tree's arena can be read in two ways: by parent links and children lists, and
by id ranges.  `SyntaxTree.Descends` is the first reading (following parent links
up from a node); `SyntaxTree.Shaped` collects what a finished tree satisfies and
ties the two readings together:

* node 0 is the only node without a parent, every other node's parent has a
  smaller id, and each node is listed once, in increasing order, among its
  parent's children;
* the ids from a node up to its `subtreeEnd` are exactly the node and its
  descendants, so `descendants` lists the subtree in pre-order, and two subtree
  ranges are nested or disjoint;
* spans lie in the source, a child's span in its parent's, and of two nodes the
  earlier either contains the later or ends before it starts.

A builder does not keep these facts as such.  It keeps local ones, collected in
`SyntaxTree.Tiled`: above all that the ranges of a node's children follow one
another without gaps and fill the node's range after the node itself
(`Tiles`).  `Tiled.shaped` derives the global shape from them.
-/

namespace ShapeSearch

namespace Span

theorem contains_refl (a : Span) : a.contains a = true := by
  simp [contains]

theorem contains_trans {a b c : Span} (hab : a.contains b = true) (hbc : b.contains c = true) :
    a.contains c = true := by
  simp only [contains, Bool.and_eq_true, decide_eq_true_eq] at *
  omega

end Span

namespace SyntaxTree

/-- The parent of a node; `none` for the root and for ids past the last node. -/
def parentOf (t : SyntaxTree) (n : Nat) : Option Nat :=
  (t.nodeAt n).parent

/-- The span of a node. -/
def spanOf (t : SyntaxTree) (n : Nat) : Span :=
  (t.nodeAt n).span

/-- `n` is `a` or lies below it: following parent links up from `n` reaches `a`. -/
inductive Descends (t : SyntaxTree) (a : Nat) : Nat → Prop
  | self : Descends t a a
  | parent {n p : Nat} : t.parentOf n = some p → Descends t a p → Descends t a n

theorem lt_size_of_parentOf {t : SyntaxTree} {n p : Nat} (h : t.parentOf n = some p) :
    n < t.size := by
  by_contra hn
  have : t.nodeAt n = default := by
    simp [nodeAt, Array.getElem?_eq_none (Nat.le_of_not_lt hn)]
  simp [parentOf, this] at h
  cases h

namespace Descends

variable {t : SyntaxTree}

theorem trans {a b c : Nat} (hab : t.Descends a b) (hbc : t.Descends b c) : t.Descends a c := by
  induction hbc with
  | self => exact hab
  | parent hp _ ih => exact .parent hp ih

/-- Descent depends on the parent links alone. -/
theorem of_parentOf_eq {t' : SyntaxTree} (he : t'.parentOf = t.parentOf) {a n : Nat}
    (h : t.Descends a n) : t'.Descends a n := by
  induction h with
  | self => exact .self
  | parent hp _ ih => exact .parent (he ▸ hp) ih

/-- A node below a real node is a real node. -/
theorem lt_size {a n : Nat} (ha : a < t.size) (h : t.Descends a n) : n < t.size := by
  cases h with
  | self => exact ha
  | parent hp _ => exact lt_size_of_parentOf hp

/-- When parent links go to smaller ids, an ancestor's id is at most its descendant's. -/
theorem le {a n : Nat} (hlt : ∀ m p, t.parentOf m = some p → p < m) (h : t.Descends a n) :
    a ≤ n := by
  induction h with
  | self => exact Nat.le_refl a
  | parent hp _ ih =>
      have := hlt _ _ hp
      omega

end Descends

/-- What every finished tree satisfies. -/
structure Shaped (t : SyntaxTree) : Prop where
  /-- There is a root, node 0, and it has no parent. -/
  nonempty : 0 < t.size
  root_parent : t.parentOf 0 = none
  /-- Every other node has a parent, and the parent has a smaller id. -/
  parent_isSome : ∀ n, n < t.size → 0 < n → (t.parentOf n).isSome
  parent_lt : ∀ n p, t.parentOf n = some p → p < n
  /-- A node is listed exactly once among its parent's children. -/
  count_children : ∀ n p, t.parentOf n = some p → (t.children p).count n = 1
  /-- Children are listed in increasing id order. -/
  children_sorted : ∀ p, (t.children p).Pairwise (· < ·)
  /-- The ids from a node up to its subtree end are the node and its descendants. -/
  descends_iff : ∀ n m, n < t.size → (t.Descends n m ↔ n ≤ m ∧ m < t.subtreeEnd n)
  /-- `descendants` lists a subtree in pre-order. -/
  descendants_eq : ∀ n, n < t.size →
    t.descendants n = n :: (t.children n).flatMap t.descendants
  /-- Two subtree ranges are nested or disjoint. -/
  nested_or_disjoint : ∀ a b, a < t.size → b < t.size → a ≤ b →
    t.subtreeEnd a ≤ b ∨ t.subtreeEnd b ≤ t.subtreeEnd a
  /-- Spans lie within the source. -/
  span_le : ∀ n, n < t.size →
    (t.spanOf n).startByte ≤ (t.spanOf n).endByte ∧ (t.spanOf n).endByte ≤ t.source.size
  /-- A child's span lies within its parent's. -/
  child_span : ∀ p c, c ∈ t.children p → (t.spanOf p).contains (t.spanOf c) = true
  /-- Id order is byte order: the earlier of two nodes contains the later or ends first. -/
  byte_order : ∀ a b, a < b → b < t.size →
    (t.Descends a b ∧ (t.spanOf a).contains (t.spanOf b) = true) ∨
      (t.spanOf a).endByte ≤ (t.spanOf b).startByte

namespace Shaped

variable {t : SyntaxTree} (hs : t.Shaped)
include hs

theorem lt_subtreeEnd {n : Nat} (hn : n < t.size) : n < t.subtreeEnd n :=
  ((hs.descends_iff n n hn).mp .self).2

/-- A subtree range ends within the arena: its last id is a descendant, hence a node. -/
theorem subtreeEnd_le_size {n : Nat} (hn : n < t.size) : t.subtreeEnd n ≤ t.size := by
  have hlast : t.Descends n (t.subtreeEnd n - 1) := by
    have := hs.lt_subtreeEnd hn
    exact (hs.descends_iff n _ hn).mpr ⟨by omega, by omega⟩
  have := hlast.lt_size hn
  omega

end Shaped

/-- The ranges `[c, e c)` of the ids `cs` follow one another from `lo` and end at `hi`. -/
def Tiles (e : Nat → Nat) : Nat → List Nat → Nat → Prop
  | lo, [], hi => lo = hi
  | lo, c :: cs, hi => c = lo ∧ Tiles e (e c) cs hi

namespace Tiles

variable {e : Nat → Nat}

theorem append_singleton_iff {lo hi x : Nat} :
    ∀ {cs : List Nat}, Tiles e lo (cs ++ [x]) hi ↔ Tiles e lo cs x ∧ e x = hi
  | [] => by simp [Tiles, eq_comm]
  | c :: cs => by
      simp only [List.cons_append, Tiles]
      rw [append_singleton_iff]
      exact and_assoc.symm

theorem congr {e' : Nat → Nat} {lo hi : Nat} :
    ∀ {cs : List Nat}, (∀ c ∈ cs, e' c = e c) → Tiles e lo cs hi → Tiles e' lo cs hi
  | [], _, h => h
  | c :: cs, he, ⟨hc, h⟩ => by
      refine ⟨hc, ?_⟩
      rw [he c (by simp)]
      exact congr (fun d hd => he d (by simp [hd])) h

/-- With nonempty ranges, the tiles lie between the two ends. -/
theorem bounds {lo hi : Nat} :
    ∀ {cs : List Nat}, (∀ c ∈ cs, c < e c) → Tiles e lo cs hi →
      lo ≤ hi ∧ ∀ c ∈ cs, lo ≤ c ∧ e c ≤ hi
  | [], _, h => by simp [Tiles] at h; simp [h]
  | c :: cs, hlt, ⟨hc, h⟩ => by
      obtain ⟨hle, hin⟩ := bounds (fun d hd => hlt d (by simp [hd])) h
      have hc' := hlt c (by simp)
      refine ⟨by omega, ?_⟩
      intro d hd
      rcases List.mem_cons.mp hd with rfl | hd
      · omega
      · have := hin d hd
        omega

/-- The tiles cover exactly the ids from `lo` up to `hi`. -/
theorem cover {lo hi m : Nat} :
    ∀ {cs : List Nat}, (∀ c ∈ cs, c < e c) → Tiles e lo cs hi →
      ((∃ c ∈ cs, c ≤ m ∧ m < e c) ↔ lo ≤ m ∧ m < hi)
  | [], _, h => by simp [Tiles] at h; simp [h]
  | c :: cs, hlt, ⟨hc, h⟩ => by
      have ih := cover (m := m) (fun d hd => hlt d (by simp [hd])) h
      have hb := (bounds (fun d hd => hlt d (by simp [hd])) h).1
      have hc' := hlt c (by simp)
      subst hc
      simp only [List.mem_cons, exists_eq_or_imp, ih]
      omega

/-- Listing each tile's ids in turn lists the ids from `lo` up to `hi`. -/
theorem flatMap_range' {lo hi : Nat} :
    ∀ {cs : List Nat}, (∀ c ∈ cs, c < e c) → Tiles e lo cs hi →
      cs.flatMap (fun c => List.range' c (e c - c)) = List.range' lo (hi - lo)
  | [], _, h => by simp [Tiles] at h; simp [h]
  | c :: cs, hlt, ⟨hc, h⟩ => by
      have ih := flatMap_range' (fun d hd => hlt d (by simp [hd])) h
      have hb := (bounds (fun d hd => hlt d (by simp [hd])) h).1
      have hc' := hlt c (by simp)
      subst hc
      have hsplit : hi - c = (e c - c) + (hi - e c) := by omega
      rw [List.flatMap_cons, ih, hsplit, ← List.range'_append_1,
        Nat.add_sub_cancel' (Nat.le_of_lt hc')]

end Tiles

/-- The local facts a builder keeps, read off a finished tree: parent links and children
lists agree, and each node's children tile the node's range after the node. -/
structure Tiled (t : SyntaxTree) : Prop where
  nonempty : 0 < t.size
  parent_none : ∀ n, n < t.size → (t.parentOf n = none ↔ n = 0)
  parent_lt : ∀ n p, t.parentOf n = some p → p < n
  mem_children : ∀ p c, c ∈ t.children p ↔ c < t.size ∧ t.parentOf c = some p
  children_sorted : ∀ p, (t.children p).Pairwise (· < ·)
  lt_subtreeEnd : ∀ n, n < t.size → n < t.subtreeEnd n
  tiles : ∀ n, n < t.size → Tiles t.subtreeEnd (n + 1) (t.children n) (t.subtreeEnd n)
  span_le : ∀ n, n < t.size →
    (t.spanOf n).startByte ≤ (t.spanOf n).endByte ∧ (t.spanOf n).endByte ≤ t.source.size
  child_span : ∀ p c, c ∈ t.children p → (t.spanOf p).contains (t.spanOf c) = true
  byte_order : ∀ a b, a < b → b < t.size →
    t.Descends a b ∨ (t.spanOf a).endByte ≤ (t.spanOf b).startByte

namespace Tiled

variable {t : SyntaxTree} (ht : t.Tiled)
include ht

theorem lt_subtreeEnd_of_mem {p : Nat} : ∀ c ∈ t.children p, c < t.subtreeEnd c :=
  fun c hc => ht.lt_subtreeEnd c ((ht.mem_children p c).mp hc).1

/-- A child's range lies inside its parent's, after the parent. -/
theorem child_range {p c : Nat} (hc : c ∈ t.children p) :
    p < c ∧ t.subtreeEnd c ≤ t.subtreeEnd p := by
  obtain ⟨hcs, hpc⟩ := (ht.mem_children p c).mp hc
  have hpc' := ht.parent_lt c p hpc
  have hbounds := Tiles.bounds (ht.lt_subtreeEnd_of_mem) (ht.tiles p (by omega))
  exact ⟨hpc', (hbounds.2 c hc).2⟩

/-- A descendant's range lies inside its ancestor's. -/
theorem descends_range {n m : Nat} (h : t.Descends n m) :
    n ≤ m ∧ t.subtreeEnd m ≤ t.subtreeEnd n := by
  induction h with
  | self => exact ⟨Nat.le_refl _, Nat.le_refl _⟩
  | parent hp _ ih =>
      have hc := (ht.mem_children _ _).mpr ⟨lt_size_of_parentOf hp, hp⟩
      have := ht.child_range hc
      omega

/-- Every id in a node's range lies below the node: the range splits into the node and
its children's ranges, and the children's ranges are smaller. -/
theorem descends_of_mem_range {n m : Nat} (hn : n < t.size) (h1 : n ≤ m)
    (h2 : m < t.subtreeEnd n) : t.Descends n m := by
  induction hk : t.subtreeEnd n - n using Nat.strongRecOn generalizing n with
  | _ k ih =>
      rcases Nat.eq_or_lt_of_le h1 with rfl | hlt
      · exact .self
      · obtain ⟨c, hc, hcm, hmc⟩ :=
          (Tiles.cover ht.lt_subtreeEnd_of_mem (ht.tiles n hn)).mpr ⟨hlt, h2⟩
        obtain ⟨hnc, hend⟩ := ht.child_range hc
        obtain ⟨hcs, hpc⟩ := (ht.mem_children n c).mp hc
        have hdc : t.Descends c m := ih (t.subtreeEnd c - c) (by omega) hcs hcm hmc rfl
        exact (Descends.parent hpc .self).trans hdc

theorem descends_iff {n m : Nat} (hn : n < t.size) :
    t.Descends n m ↔ n ≤ m ∧ m < t.subtreeEnd n := by
  constructor
  · intro h
    obtain ⟨h1, h2⟩ := ht.descends_range h
    have := ht.lt_subtreeEnd m (h.lt_size hn)
    exact ⟨h1, by omega⟩
  · rintro ⟨h1, h2⟩
    exact ht.descends_of_mem_range hn h1 h2

theorem descendants_eq {n : Nat} (hn : n < t.size) :
    t.descendants n = n :: (t.children n).flatMap t.descendants := by
  have hcover := Tiles.flatMap_range' ht.lt_subtreeEnd_of_mem (ht.tiles n hn)
  have hnl := ht.lt_subtreeEnd n hn
  have hflat : (t.children n).flatMap t.descendants =
      (t.children n).flatMap fun c => List.range' c (t.subtreeEnd c - c) := rfl
  rw [hflat, hcover]
  show List.range' n (t.subtreeEnd n - n) = n :: List.range' (n + 1) (t.subtreeEnd n - (n + 1))
  rw [show t.subtreeEnd n - n = (t.subtreeEnd n - (n + 1)) + 1 by omega, List.range'_succ]

theorem nested_or_disjoint {a b : Nat} (ha : a < t.size) (hab : a ≤ b) :
    t.subtreeEnd a ≤ b ∨ t.subtreeEnd b ≤ t.subtreeEnd a := by
  by_cases hb : b < t.subtreeEnd a
  · exact .inr (ht.descends_range (ht.descends_of_mem_range ha hab hb)).2
  · exact .inl (Nat.le_of_not_lt hb)

theorem span_of_descends {a b : Nat} (h : t.Descends a b) :
    (t.spanOf a).contains (t.spanOf b) = true := by
  induction h with
  | self => exact Span.contains_refl _
  | parent hp _ ih =>
      have hc := (ht.mem_children _ _).mpr ⟨lt_size_of_parentOf hp, hp⟩
      exact Span.contains_trans ih (ht.child_span _ _ hc)

/-- **The local facts give the global shape.** -/
theorem shaped : t.Shaped where
  nonempty := ht.nonempty
  root_parent := (ht.parent_none 0 ht.nonempty).mpr rfl
  parent_isSome n hn hpos := by
    cases h : t.parentOf n with
    | none => exact absurd ((ht.parent_none n hn).mp h) (Nat.pos_iff_ne_zero.mp hpos)
    | some p => rfl
  parent_lt := ht.parent_lt
  count_children n p h := by
    have hmem := (ht.mem_children p n).mpr ⟨lt_size_of_parentOf h, h⟩
    exact List.count_eq_one_of_mem (ht.children_sorted p).nodup hmem
  children_sorted := ht.children_sorted
  descends_iff _ _ hn := ht.descends_iff hn
  descendants_eq _ hn := ht.descendants_eq hn
  nested_or_disjoint _ _ ha _ hab := ht.nested_or_disjoint ha hab
  span_le := ht.span_le
  child_span := ht.child_span
  byte_order a b hab hb := by
    rcases ht.byte_order a b hab hb with h | h
    · exact .inl ⟨h, ht.span_of_descends h⟩
    · exact .inr h

end Tiled

end SyntaxTree

end ShapeSearch
