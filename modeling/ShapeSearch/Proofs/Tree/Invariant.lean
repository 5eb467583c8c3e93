import ShapeSearch.Proofs.Tree.Building

/-!
# The invariant of tree building

Every builder reached from an empty one by building steps, failed steps included,
satisfies `Builder.Inv`.  Beside the facts a finished tree keeps (`SyntaxTree.Tiled`),
the invariant describes the open nodes:

* the stack is a parent chain, innermost first, and each open node is the last
  child of its parent (`OpenChain`, `open_last`);
* an open node's range provisionally reaches the current size (`reach`), so the
  children of every node tile its range with the open ones included;
* every closed node ends before the earliest place where the innermost open node
  may take its next child (`frontier`), which is what the sibling check needs to
  keep id order and byte order together.

Opening is the only step that adds structure; closing only fixes a range that
`reach` already reports; marking a node missing touches nothing the invariant
reads.  `Builder.Inv.tiled` reads the finished tree's facts off the invariant.
-/

namespace ShapeSearch

namespace Builder

open SyntaxTree

/-- The open nodes, innermost first: each one's parent is the next. -/
def OpenChain (t : SyntaxTree) : List Nat → Prop
  | [] => True
  | s :: rest => t.parentOf s = rest.head? ∧ OpenChain t rest

namespace OpenChain

variable {t : SyntaxTree}

theorem congr {t' : SyntaxTree} :
    ∀ {l : List Nat}, (∀ s ∈ l, t'.parentOf s = t.parentOf s) → OpenChain t l → OpenChain t' l
  | [], _, _ => trivial
  | s :: rest, he, ⟨hs, h⟩ =>
      ⟨(he s (by simp)).trans hs, congr (fun x hx => he x (by simp [hx])) h⟩

/-- Parents have smaller ids, so the chain decreases from the innermost node. -/
theorem sorted (hlt : ∀ n p, t.parentOf n = some p → p < n) :
    ∀ {l : List Nat}, OpenChain t l → l.Pairwise (· > ·)
  | [], _ => .nil
  | s :: rest, ⟨hs, h⟩ => by
      have ih := sorted hlt h
      refine .cons ?_ ih
      intro x hx
      cases rest with
      | nil => simp at hx
      | cons q r =>
          have hq : q < s := hlt s q hs
          rcases List.mem_cons.mp hx with rfl | hx
          · exact hq
          · exact Nat.lt_trans (List.rel_of_pairwise_cons ih hx) hq

/-- The parent of an open node is open. -/
theorem parent_mem :
    ∀ {l : List Nat}, OpenChain t l → ∀ {s q : Nat}, s ∈ l → t.parentOf s = some q → q ∈ l
  | [], _, _, _, hs, _ => by simp at hs
  | s :: rest, ⟨hs, h⟩, x, q, hx, hq => by
      rcases List.mem_cons.mp hx with rfl | hx
      · cases rest with
        | nil => simp [hs] at hq
        | cons r _ =>
            simp only [List.head?_cons] at hs
            rw [hs] at hq
            cases hq
            simp
      · exact List.mem_cons_of_mem _ (parent_mem h hx hq)

/-- Every open node lies above the innermost one. -/
theorem descends_head :
    ∀ {p : Nat} {rest : List Nat}, OpenChain t (p :: rest) → ∀ {s : Nat}, s ∈ p :: rest →
      t.Descends s p
  | p, [], _, _, hs => by
      simp at hs
      subst hs
      exact .self
  | p, q :: rest, ⟨hp, h⟩, s, hs => by
      rcases List.mem_cons.mp hs with rfl | hs
      · exact .self
      · exact .parent hp (descends_head h hs)

/-- An open node other than the innermost one is the parent of an open node. -/
theorem child_mem :
    ∀ {p : Nat} {rest : List Nat}, OpenChain t (p :: rest) → ∀ {q : Nat}, q ∈ rest →
      ∃ s ∈ p :: rest, t.parentOf s = some q
  | _, [], _, _, hq => by simp at hq
  | p, r :: rest, ⟨hp, h⟩, q, hq => by
      rcases List.mem_cons.mp hq with rfl | hq
      · exact ⟨p, by simp, hp⟩
      · obtain ⟨s, hs, hsq⟩ := child_mem h hq
        exact ⟨s, List.mem_cons_of_mem _ hs, hsq⟩

end OpenChain

/-- One past the last node opened inside `n` so far: its subtree end once it is closed,
the current size while it is open. -/
def reach (b : Builder) (n : Nat) : Nat :=
  if n ∈ b.stack then b.nodes.size else b.tree.subtreeEnd n

theorem reach_of_closed {b : Builder} {n : Nat} (hn : n ∉ b.stack) :
    b.reach n = b.tree.subtreeEnd n := by
  simp [reach, hn]

theorem reach_of_open {b : Builder} {n : Nat} (hn : n ∈ b.stack) : b.reach n = b.nodes.size := by
  simp [reach, hn]

/-- The earliest byte where the next child of an open node may start: the end of its
last child, or its own start. -/
def frontier (t : SyntaxTree) (p : Nat) : Nat :=
  match (t.children p).getLast? with
  | some l => (t.spanOf l).endByte
  | none => (t.spanOf p).startByte

theorem frontier_congr {t t' : SyntaxTree} (hch : t'.children = t.children)
    (hsp : t'.spanOf = t.spanOf) : frontier t' = frontier t := by
  funext p
  simp only [frontier, hch, hsp]

/-- The invariant of every builder reached by building steps. -/
structure Inv (b : Builder) : Prop where
  parent_lt : ∀ n p, b.tree.parentOf n = some p → p < n
  parent_none : ∀ n, n < b.nodes.size → (b.tree.parentOf n = none ↔ n = 0)
  mem_children : ∀ p c, c ∈ b.tree.children p ↔ c < b.nodes.size ∧ b.tree.parentOf c = some p
  children_sorted : ∀ p, (b.tree.children p).Pairwise (· < ·)
  open_chain : OpenChain b.tree b.stack
  open_lt : ∀ s ∈ b.stack, s < b.nodes.size
  open_last : ∀ s ∈ b.stack, ∀ q, b.tree.parentOf s = some q →
    (b.tree.children q).getLast? = some s
  lt_reach : ∀ n, n < b.nodes.size → n < b.reach n
  tiles : ∀ n, n < b.nodes.size → Tiles b.reach (n + 1) (b.tree.children n) (b.reach n)
  span_le : ∀ n, n < b.nodes.size →
    (b.tree.spanOf n).startByte ≤ (b.tree.spanOf n).endByte ∧
      (b.tree.spanOf n).endByte ≤ b.source.size
  child_span : ∀ p c, c ∈ b.tree.children p → (b.tree.spanOf p).contains (b.tree.spanOf c) = true
  frontier_le : ∀ p rest, b.stack = p :: rest → ∀ a, a < b.nodes.size → a ∉ b.stack →
    (b.tree.spanOf a).endByte ≤ frontier b.tree p
  byte_order : ∀ a c, a < c → c < b.nodes.size →
    b.tree.Descends a c ∨ (b.tree.spanOf a).endByte ≤ (b.tree.spanOf c).startByte

namespace Inv

variable {b : Builder} (hi : b.Inv)
include hi

theorem stack_sorted : b.stack.Pairwise (· > ·) :=
  OpenChain.sorted hi.parent_lt hi.open_chain

theorem le_top {p s : Nat} {rest : List Nat} (hs : b.stack = p :: rest) (hm : s ∈ b.stack) :
    s ≤ p := by
  have hsort := hi.stack_sorted
  rw [hs] at hsort hm
  rcases List.mem_cons.mp hm with rfl | hm
  · exact Nat.le_refl _
  · exact Nat.le_of_lt (List.rel_of_pairwise_cons hsort hm)

theorem top_not_mem_rest {p : Nat} {rest : List Nat} (hs : b.stack = p :: rest) : p ∉ rest := by
  have hsort := hi.stack_sorted
  rw [hs] at hsort
  intro hp
  exact Nat.lt_irrefl p (List.rel_of_pairwise_cons hsort hp)

/-- The children of the innermost open node are closed. -/
theorem top_child_closed {p c : Nat} {rest : List Nat} (hs : b.stack = p :: rest)
    (hc : c ∈ b.tree.children p) : c ∉ b.stack := by
  intro hm
  have hpc := hi.parent_lt c p ((hi.mem_children p c).mp hc).2
  have := hi.le_top hs hm
  omega

/-- The children of a closed node are closed. -/
theorem child_closed {q c : Nat} (hq : q ∉ b.stack) (hc : c ∈ b.tree.children q) :
    c ∉ b.stack :=
  fun hm => hq (OpenChain.parent_mem hi.open_chain hm ((hi.mem_children q c).mp hc).2)

theorem head_lt {p : Nat} (hp : b.stack.head? = some p) : p < b.nodes.size :=
  hi.open_lt p (List.mem_of_mem_head? hp)

theorem frontier_le_end {p : Nat} (hp : p < b.nodes.size) :
    frontier b.tree p ≤ (b.tree.spanOf p).endByte := by
  unfold frontier
  split
  · rename_i l hl
    have hc : l ∈ b.tree.children p := List.mem_of_getLast? hl
    have := hi.child_span p l hc
    simp only [Span.contains, Bool.and_eq_true, decide_eq_true_eq] at this
    exact this.2
  · exact (hi.span_le p hp).1

end Inv

/-- Past the last node there are no children. -/
theorem children_size_eq_nil (b : Builder) : b.tree.children b.nodes.size = [] := by
  simp only [SyntaxTree.children, SyntaxTree.nodeAt, tree, getD_of_size_le (Nat.le_refl _)]
  rfl

section Open

variable {b : Builder} {spec : NodeSpec} (h : b.openProblem spec = none)
include h

/-- Opening extends the range of every open node, and of the new one, by one node. -/
theorem openNode_reach (n : Nat) :
    (b.openNode spec).1.reach n =
      if n = b.nodes.size ∨ n ∈ b.stack then b.nodes.size + 1 else b.reach n := by
  simp only [reach, openNode_stack h, openNode_size h, List.mem_cons, openNode_subtreeEnd h]
  by_cases h1 : n = b.nodes.size
  · simp [h1]
  · by_cases h2 : n ∈ b.stack <;> simp [h1, h2]

/-- A closed node of the old tree keeps its range. -/
theorem openNode_reach_closed {c : Nat} (hc : c < b.nodes.size) (hcs : c ∉ b.stack) :
    (b.openNode spec).1.reach c = b.reach c := by
  rw [openNode_reach h, if_neg (not_or.mpr ⟨by omega, hcs⟩)]

variable (hi : b.Inv)
include hi

/-- Every closed node ends before the new node starts. -/
theorem closed_end_le {a : Nat} (ha : a < b.nodes.size) (hna : a ∉ b.stack) :
    (b.tree.spanOf a).endByte ≤ spec.span.startByte := by
  have hchk := (openProblem_eq_none h).2.2
  cases hst : b.stack with
  | nil =>
      rw [hst] at hchk
      omega
  | cons p rest =>
      rw [hst] at hchk
      have hfr := hi.frontier_le p rest hst a ha hna
      unfold frontier at hfr
      split at hfr
      · rename_i l hl
        exact Nat.le_trans hfr (hchk.2 l hl)
      · have hc := hchk.1
        simp only [Span.contains, Bool.and_eq_true, decide_eq_true_eq] at hc
        omega

theorem openNode_descends {a c : Nat} (hd : b.tree.Descends a c) (hc : c < b.nodes.size) :
    (b.openNode spec).1.tree.Descends a c := by
  induction hd with
  | self => exact .self
  | @parent n q hq _ ih =>
      have hqn := hi.parent_lt n q hq
      refine .parent ?_ (ih (by omega))
      rw [openNode_parentOf h, if_neg (by omega)]
      exact hq

theorem openNode_parent_lt :
    ∀ n p, (b.openNode spec).1.tree.parentOf n = some p → p < n := by
  intro n p hp
  rw [openNode_parentOf h] at hp
  split_ifs at hp with hn
  · subst hn
    exact hi.head_lt hp
  · exact hi.parent_lt n p hp

theorem openNode_parent_none : ∀ n, n < (b.openNode spec).1.nodes.size →
    ((b.openNode spec).1.tree.parentOf n = none ↔ n = 0) := by
  intro n hn
  rw [openNode_size h] at hn
  rw [openNode_parentOf h]
  split_ifs with hid
  · subst hid
    have hchk := (openProblem_eq_none h).2.2
    cases hst : b.stack with
    | nil =>
        rw [hst] at hchk
        simp [hchk]
    | cons p rest =>
        have := hi.open_lt p (by simp [hst])
        simp only [List.head?_cons, reduceCtorEq, false_iff]
        omega
  · exact hi.parent_none n (by omega)

theorem openNode_mem_children : ∀ p c, c ∈ (b.openNode spec).1.tree.children p ↔
    c < (b.openNode spec).1.nodes.size ∧ (b.openNode spec).1.tree.parentOf c = some p := by
  intro p c
  rw [openNode_children h, openNode_size h, openNode_parentOf h, List.mem_append,
    hi.mem_children]
  by_cases hc : c = b.nodes.size
  · subst hc
    have hp := fun hp => hi.head_lt (p := p) hp
    by_cases htop : b.stack.head? = some p
    · simp [htop, hp htop]
    · simp [htop]
  · split_ifs <;> simp [hc] <;> omega

theorem openNode_children_sorted :
    ∀ p, ((b.openNode spec).1.tree.children p).Pairwise (· < ·) := by
  intro p
  rw [openNode_children h, List.pairwise_append]
  refine ⟨hi.children_sorted p, by split_ifs <;> simp, ?_⟩
  intro x hx y hy
  split_ifs at hy
  · simp only [List.mem_singleton] at hy
    subst hy
    exact ((hi.mem_children p x).mp hx).1
  · simp at hy

theorem openNode_open_chain : OpenChain (b.openNode spec).1.tree (b.openNode spec).1.stack := by
  rw [openNode_stack h]
  refine ⟨by rw [openNode_parentOf h, if_pos rfl], hi.open_chain.congr fun s hs => ?_⟩
  have := hi.open_lt s hs
  rw [openNode_parentOf h, if_neg (by omega)]

theorem openNode_open_lt :
    ∀ s ∈ (b.openNode spec).1.stack, s < (b.openNode spec).1.nodes.size := by
  rw [openNode_stack h, openNode_size h]
  intro s hs
  rcases List.mem_cons.mp hs with rfl | hs
  · omega
  · have := hi.open_lt s hs
    omega

theorem openNode_open_last : ∀ s ∈ (b.openNode spec).1.stack, ∀ q,
    (b.openNode spec).1.tree.parentOf s = some q →
      ((b.openNode spec).1.tree.children q).getLast? = some s := by
  rw [openNode_stack h]
  intro s hs q hq
  rw [openNode_parentOf h] at hq
  rw [openNode_children h]
  rcases List.mem_cons.mp hs with rfl | hs
  · rw [if_pos rfl] at hq
    rw [if_pos ⟨hq, hi.head_lt hq⟩, List.getLast?_concat]
  · have hs' := hi.open_lt s hs
    rw [if_neg (by omega)] at hq
    have hnot : ¬(b.stack.head? = some q ∧ q < b.nodes.size) := by
      rintro ⟨hq1, -⟩
      obtain ⟨rest, hst⟩ := List.head?_eq_some_iff.mp hq1
      have := hi.parent_lt s q hq
      have := hi.le_top hst hs
      omega
    rw [if_neg hnot, List.append_nil]
    exact hi.open_last s hs q hq

theorem openNode_lt_reach :
    ∀ n, n < (b.openNode spec).1.nodes.size → n < (b.openNode spec).1.reach n := by
  intro n hn
  rw [openNode_size h] at hn
  rw [openNode_reach h]
  split_ifs with hcase
  · omega
  · exact hi.lt_reach n (by omega)

/-- The innermost open node takes the new node as its last child. -/
theorem openNode_tiles_top {n : Nat} {rest : List Nat} (hst : b.stack = n :: rest) :
    Tiles (b.openNode spec).1.reach (n + 1) ((b.openNode spec).1.tree.children n)
      ((b.openNode spec).1.reach n) := by
  have hn := hi.open_lt n (by simp [hst])
  rw [openNode_children h, if_pos ⟨by simp [hst], hn⟩, Tiles.append_singleton_iff]
  have hold := hi.tiles n hn
  rw [reach_of_open (by simp [hst] : n ∈ b.stack)] at hold
  refine ⟨Tiles.congr (fun c hc => ?_) hold, ?_⟩
  · exact openNode_reach_closed h ((hi.mem_children n c).mp hc).1 (hi.top_child_closed hst hc)
  · rw [openNode_reach h, openNode_reach h, if_pos (.inl rfl), if_pos (.inr (by simp [hst]))]

/-- An outer open node keeps its children; the last of them is open, and its range grows
with the node's. -/
theorem openNode_tiles_outer {n p : Nat} {rest : List Nat} (hst : b.stack = p :: rest)
    (hn : n ∈ rest) :
    Tiles (b.openNode spec).1.reach (n + 1) ((b.openNode spec).1.tree.children n)
      ((b.openNode spec).1.reach n) := by
  have hnl := hi.open_lt n (by simp [hst, hn])
  have hnp : n ≠ p := fun e => hi.top_not_mem_rest hst (e ▸ hn)
  rw [openNode_children h, if_neg (fun hc => hnp (by simpa [hst] using hc.1.symm)),
    List.append_nil]
  obtain ⟨s, hs, hsn⟩ := OpenChain.child_mem (hst ▸ hi.open_chain) hn
  have hsm : s ∈ b.stack := hst ▸ hs
  have hlast := hi.open_last s hsm n hsn
  obtain ⟨init, hinit⟩ := List.getLast?_eq_some_iff.mp hlast
  have hold := hi.tiles n hnl
  have hsorted := hi.children_sorted n
  rw [hinit, Tiles.append_singleton_iff] at hold
  rw [hinit] at hsorted
  rw [hinit, Tiles.append_singleton_iff]
  refine ⟨Tiles.congr (fun c hc => ?_) hold.1, ?_⟩
  · have hcs : c < s := (List.pairwise_append.mp hsorted).2.2 c hc s (by simp)
    have hcmem : c ∈ b.tree.children n := by
      rw [hinit]
      exact List.mem_append_left _ hc
    have hcc : c ∉ b.stack := by
      intro hcm
      have hlast' := hi.open_last c hcm n ((hi.mem_children n c).mp hcmem).2
      rw [hlast] at hlast'
      injection hlast' with hsc
      omega
    exact openNode_reach_closed h ((hi.mem_children n c).mp hcmem).1 hcc
  · rw [openNode_reach h, openNode_reach h, if_pos (.inr hsm),
      if_pos (.inr (by simp [hst, hn]))]

/-- A closed node keeps its children, which are closed, and its range. -/
theorem openNode_tiles_closed {n : Nat} (hnl : n < b.nodes.size) (hn : n ∉ b.stack) :
    Tiles (b.openNode spec).1.reach (n + 1) ((b.openNode spec).1.tree.children n)
      ((b.openNode spec).1.reach n) := by
  rw [openNode_children h, if_neg (fun hc => hn (List.mem_of_mem_head? hc.1)), List.append_nil,
    openNode_reach_closed h hnl hn]
  refine Tiles.congr (fun c hc => ?_) (hi.tiles n hnl)
  exact openNode_reach_closed h ((hi.mem_children n c).mp hc).1 (hi.child_closed hn hc)

theorem openNode_tiles : ∀ n, n < (b.openNode spec).1.nodes.size →
    Tiles (b.openNode spec).1.reach (n + 1) ((b.openNode spec).1.tree.children n)
      ((b.openNode spec).1.reach n) := by
  intro n hn
  rw [openNode_size h] at hn
  rcases Nat.lt_succ_iff_lt_or_eq.mp hn with hlt | rfl
  · by_cases hopen : n ∈ b.stack
    · cases hst : b.stack with
      | nil => simp [hst] at hopen
      | cons p rest =>
          rw [hst] at hopen
          rcases List.mem_cons.mp hopen with rfl | hrest
          · exact openNode_tiles_top h hi hst
          · exact openNode_tiles_outer h hi hst hrest
    · exact openNode_tiles_closed h hi hlt hopen
  · rw [openNode_children h, children_size_eq_nil, if_neg (fun hc => Nat.lt_irrefl _ hc.2),
      openNode_reach h, if_pos (.inl rfl)]
    rfl

theorem openNode_span_le : ∀ n, n < (b.openNode spec).1.nodes.size →
    ((b.openNode spec).1.tree.spanOf n).startByte ≤ ((b.openNode spec).1.tree.spanOf n).endByte ∧
      ((b.openNode spec).1.tree.spanOf n).endByte ≤ (b.openNode spec).1.source.size := by
  intro n hn
  rw [openNode_size h] at hn
  rw [openNode_spanOf h, openNode_source h]
  split_ifs with hid
  · exact ⟨(openProblem_eq_none h).1, (openProblem_eq_none h).2.1⟩
  · exact hi.span_le n (by omega)

theorem openNode_child_span : ∀ p c, c ∈ (b.openNode spec).1.tree.children p →
    ((b.openNode spec).1.tree.spanOf p).contains ((b.openNode spec).1.tree.spanOf c) = true := by
  intro p c hc
  rw [openNode_children h, List.mem_append] at hc
  rcases hc with hc | hc
  · obtain ⟨hcs, hpc⟩ := (hi.mem_children p c).mp hc
    have hpcl := hi.parent_lt c p hpc
    rw [openNode_spanOf h, openNode_spanOf h, if_neg (by omega), if_neg (by omega)]
    exact hi.child_span p c hc
  · split_ifs at hc with htop
    · simp only [List.mem_singleton] at hc
      subst hc
      rw [openNode_spanOf h, openNode_spanOf h, if_pos rfl, if_neg (by omega)]
      obtain ⟨rest, hst⟩ := List.head?_eq_some_iff.mp htop.1
      have hchk := (openProblem_eq_none h).2.2
      rw [hst] at hchk
      exact hchk.1
    · simp at hc

theorem openNode_frontier_le : ∀ p rest, (b.openNode spec).1.stack = p :: rest →
    ∀ a, a < (b.openNode spec).1.nodes.size → a ∉ (b.openNode spec).1.stack →
      ((b.openNode spec).1.tree.spanOf a).endByte ≤ frontier (b.openNode spec).1.tree p := by
  intro p rest hst a ha hna
  rw [openNode_stack h] at hst hna
  injection hst with hp
  subst hp
  rw [openNode_size h] at ha
  have hna' : a ≠ b.nodes.size ∧ a ∉ b.stack := by simpa using hna
  have hfr : frontier (b.openNode spec).1.tree b.nodes.size = spec.span.startByte := by
    unfold frontier
    rw [openNode_children h, children_size_eq_nil, if_neg (fun hc => Nat.lt_irrefl _ hc.2)]
    simp [openNode_spanOf h]
  rw [hfr, openNode_spanOf h, if_neg hna'.1]
  exact closed_end_le h hi (by omega) hna'.2

theorem openNode_byte_order : ∀ a c, a < c → c < (b.openNode spec).1.nodes.size →
    (b.openNode spec).1.tree.Descends a c ∨
      ((b.openNode spec).1.tree.spanOf a).endByte ≤ ((b.openNode spec).1.tree.spanOf c).startByte := by
  intro a c hac hc
  rw [openNode_size h] at hc
  rw [openNode_spanOf h, openNode_spanOf h, if_neg (by omega : a ≠ b.nodes.size)]
  by_cases hcid : c = b.nodes.size
  · subst hcid
    rw [if_pos rfl]
    by_cases ha : a ∈ b.stack
    · left
      cases hst : b.stack with
      | nil => simp [hst] at ha
      | cons p rest =>
          have hdesc := OpenChain.descends_head (hst ▸ hi.open_chain) (hst ▸ ha)
          have hp := hi.open_lt p (by simp [hst])
          refine .parent ?_ (openNode_descends h hi hdesc hp)
          rw [openNode_parentOf h, if_pos rfl, hst]
          rfl
    · exact .inr (closed_end_le h hi hac ha)
  · rw [if_neg hcid]
    rcases hi.byte_order a c hac (by omega) with hd | hle
    · exact .inl (openNode_descends h hi hd (by omega))
    · exact .inr hle

/-- **Opening a node keeps the invariant.** -/
theorem Inv.openNode : (b.openNode spec).1.Inv where
  parent_lt := openNode_parent_lt h hi
  parent_none := openNode_parent_none h hi
  mem_children := openNode_mem_children h hi
  children_sorted := openNode_children_sorted h hi
  open_chain := openNode_open_chain h hi
  open_lt := openNode_open_lt h hi
  open_last := openNode_open_last h hi
  lt_reach := openNode_lt_reach h hi
  tiles := openNode_tiles h hi
  span_le := openNode_span_le h hi
  child_span := openNode_child_span h hi
  frontier_le := openNode_frontier_le h hi
  byte_order := openNode_byte_order h hi

end Open

section Close

variable {b : Builder} {p : Nat} {rest : List Nat} (hi : b.Inv) (hs : b.stack = p :: rest)
include hi hs

/-- Closing fixes the innermost open node's range where `reach` already had it. -/
theorem close_reach : (b.close).1.reach = b.reach := by
  funext n
  obtain ⟨-, hstack, hsize, -⟩ := close_eq hs
  have hp := hi.open_lt p (by simp [hs])
  have hpr := hi.top_not_mem_rest hs
  simp only [reach, hstack, hsize, close_subtreeEnd hs, hs, List.mem_cons]
  by_cases hn : n = p
  · subst hn
    simp [hpr, hp]
  · by_cases hr : n ∈ rest
    · simp [hr]
    · simp [hr, hn, Ne.symm hn]

/-- **Closing a node keeps the invariant**: the closed node is the last child of the next open
node, whose frontier moves to its end. -/
theorem Inv.close : (b.close).1.Inv := by
  obtain ⟨-, hstack, hsize, hsource⟩ := close_eq hs
  have hpar := close_parentOf hs
  have hch := close_children hs
  have hsp := close_spanOf hs
  have hreach := close_reach hi hs
  have hchain := hi.open_chain
  rw [hs] at hchain
  refine
    { parent_lt := by rw [hpar]; exact hi.parent_lt
      parent_none := by rw [hpar, hsize]; exact hi.parent_none
      mem_children := by rw [hch, hsize, hpar]; exact hi.mem_children
      children_sorted := by rw [hch]; exact hi.children_sorted
      open_chain := by rw [hstack]; exact hchain.2.congr fun s _ => by rw [hpar]
      open_lt := by rw [hstack, hsize]; exact fun s h => hi.open_lt s (by simp [hs, h])
      open_last := by rw [hstack, hpar, hch]; exact fun s h => hi.open_last s (by simp [hs, h])
      lt_reach := by rw [hreach, hsize]; exact hi.lt_reach
      tiles := by rw [hreach, hsize, hch]; exact hi.tiles
      span_le := by rw [hsp, hsize, hsource]; exact hi.span_le
      child_span := by rw [hch, hsp]; exact hi.child_span
      frontier_le := ?_
      byte_order := by
        intro a c hac hc
        rw [hsp]
        rw [hsize] at hc
        rcases hi.byte_order a c hac hc with hd | hle
        · exact .inl (hd.of_parentOf_eq hpar)
        · exact .inr hle }
  intro q r hqr a ha hna
  rw [hstack] at hqr hna
  subst hqr
  rw [hsize] at ha
  have hfr : frontier (b.close).1.tree q = (b.tree.spanOf p).endByte := by
    unfold frontier
    rw [hch, hsp, hi.open_last p (by simp [hs]) q hchain.1]
  rw [hfr, hsp]
  by_cases hap : a = p
  · subst hap
    exact Nat.le_refl _
  · have hna' : a ∉ b.stack := by simp [hs, hap, hna]
    exact Nat.le_trans (hi.frontier_le p (q :: r) hs a ha hna')
      (hi.frontier_le_end (hi.open_lt p (by simp [hs])))

end Close

/-- **Marking a node missing keeps the invariant**: it changes nothing the invariant reads. -/
theorem Inv.markMissing {b : Builder} (hi : b.Inv) : (b.markMissing).1.Inv := by
  cases hs : b.stack with
  | nil =>
      rw [markMissing_of_stack_nil hs]
      exact hi
  | cons p rest =>
      obtain ⟨hpar, hch, hsp, hend, hstack, hsize, hsource⟩ := markMissing_frame hs
      have hreach : (b.markMissing).1.reach = b.reach := by
        funext n
        simp only [reach, hstack, hsize]
        rw [hend]
      exact
        { parent_lt := by rw [hpar]; exact hi.parent_lt
          parent_none := by rw [hpar, hsize]; exact hi.parent_none
          mem_children := by rw [hch, hsize, hpar]; exact hi.mem_children
          children_sorted := by rw [hch]; exact hi.children_sorted
          open_chain := by rw [hstack]; exact hi.open_chain.congr fun s _ => by rw [hpar]
          open_lt := by rw [hstack, hsize]; exact hi.open_lt
          open_last := by rw [hstack, hpar, hch]; exact hi.open_last
          lt_reach := by rw [hreach, hsize]; exact hi.lt_reach
          tiles := by rw [hreach, hsize, hch]; exact hi.tiles
          span_le := by rw [hsp, hsize, hsource]; exact hi.span_le
          child_span := by rw [hch, hsp]; exact hi.child_span
          frontier_le := by
            rw [hstack, hsize, hsp, frontier_congr hch hsp]
            exact hi.frontier_le
          byte_order := by
            intro a c hac hc
            rw [hsp]
            rw [hsize] at hc
            rcases hi.byte_order a c hac hc with hd | hle
            · exact .inl (hd.of_parentOf_eq hpar)
            · exact .inr hle }

/-- **One step, failed or not, keeps the invariant.** -/
theorem Inv.step {b : Builder} (hi : b.Inv) (s : Step) : (b.step s).1.Inv := by
  cases s with
  | openNode spec =>
      show (b.openNode spec).1.Inv
      cases h : b.openProblem spec with
      | none => exact hi.openNode h
      | some e =>
          rw [openNode_of_problem h]
          exact hi
  | leaf spec =>
      show (b.leaf spec).1.Inv
      cases h : b.openProblem spec with
      | none =>
          rw [leaf_of_ok h]
          exact (hi.openNode h).close (openNode_stack h)
      | some e =>
          rw [leaf_of_problem h]
          exact hi
  | markMissing => exact hi.markMissing
  | close =>
      show (b.close).1.Inv
      cases hs : b.stack with
      | nil =>
          rw [close_of_stack_nil hs]
          exact hi
      | cons p rest => exact hi.close hs

/-- A whole run of steps keeps the invariant. -/
theorem Inv.stepsFrom {b : Builder} (hi : b.Inv) (done : Array (Except TreeError (Option Nat)))
    (ss : List Step) : (b.stepsFrom done ss).1.Inv := by
  induction ss generalizing b done with
  | nil => exact hi
  | cons s rest ih => exact ih (hi.step s) _

theorem new_getD (language : String) (source : ByteArray) (n : Nat) :
    (Builder.new language source).nodes.getD n default = default := by
  simp [Builder.new]

/-- The empty builder satisfies the invariant: it has no node and nothing open. -/
theorem Inv.new (language : String) (source : ByteArray) : (Builder.new language source).Inv := by
  have hpar : ∀ n, (Builder.new language source).tree.parentOf n = none := fun n => by
    simp only [SyntaxTree.parentOf, SyntaxTree.nodeAt, tree, new_getD]
    rfl
  have hch : ∀ n, (Builder.new language source).tree.children n = [] := fun n => by
    simp only [SyntaxTree.children, SyntaxTree.nodeAt, tree, new_getD]
    rfl
  have hsize : (Builder.new language source).nodes.size = 0 := rfl
  have hstack : (Builder.new language source).stack = [] := rfl
  refine
    { parent_lt := by simp [hpar]
      parent_none := by simp [hsize]
      mem_children := by simp [hch, hsize]
      children_sorted := by simp [hch]
      open_chain := by rw [hstack]; trivial
      open_lt := by simp [hstack]
      open_last := by simp [hstack]
      lt_reach := by simp [hsize]
      tiles := by simp [hsize]
      span_le := by simp [hsize]
      child_span := by simp [hch]
      frontier_le := by simp [hstack]
      byte_order := by simp [hsize] }

/-- With nothing left open, a nonempty builder holds a `Tiled` tree. -/
theorem Inv.tiled {b : Builder} (hi : b.Inv) (hs : b.stack = []) (hpos : 0 < b.nodes.size) :
    b.tree.Tiled := by
  have hreach : b.reach = b.tree.subtreeEnd := funext fun n => reach_of_closed (by simp [hs])
  exact
    { nonempty := hpos
      parent_none := hi.parent_none
      parent_lt := hi.parent_lt
      mem_children := hi.mem_children
      children_sorted := hi.children_sorted
      lt_subtreeEnd := by rw [← hreach]; exact hi.lt_reach
      tiles := by rw [← hreach]; exact hi.tiles
      span_le := hi.span_le
      child_span := hi.child_span
      byte_order := hi.byte_order }

end Builder

namespace SyntaxTree

/-- Every tree that building finishes, whatever the steps, has the local facts of `Tiled`. -/
theorem tiled_of_build {language : String} {source : ByteArray} {steps : List Builder.Step}
    {t : SyntaxTree} (h : (build language source steps).2 = .ok t) : t.Tiled := by
  have hfin : ((Builder.new language source).stepsFrom #[] steps).1.finish = .ok t := h
  obtain ⟨rfl, hs, hpos⟩ := Builder.finish_eq_ok hfin
  exact ((Builder.Inv.new language source).stepsFrom #[] steps).tiled hs hpos

/-- **Built trees are shaped.**  Whatever building steps are taken, with any kinds, flags,
fields and spans and with failed steps among them, a tree that building finishes has the
parent, range and span structure of `Shaped`. -/
theorem build_shaped {language : String} {source : ByteArray} {steps : List Builder.Step}
    {t : SyntaxTree} (h : (build language source steps).2 = .ok t) : t.Shaped :=
  (tiled_of_build h).shaped

/-- The tree of `let x = f;`, built with one rejected step (a leaf that overlaps its previous
sibling), is shaped. -/
theorem build_shaped_letDeclaration :
    ∃ t, (build "toy" "let x = f;".toUTF8
        [.openNode ⟨"program", true, none, Span.onFirstLine 0 10⟩,
         .openNode ⟨"let_declaration", true, none, Span.onFirstLine 0 10⟩,
         .leaf ⟨"let", false, none, Span.onFirstLine 0 3⟩,
         .leaf ⟨"identifier", true, some "name", Span.onFirstLine 2 5⟩,
         .leaf ⟨"identifier", true, some "name", Span.onFirstLine 4 5⟩,
         .leaf ⟨"=", false, none, Span.onFirstLine 6 7⟩,
         .leaf ⟨"identifier", true, some "value", Span.onFirstLine 8 9⟩,
         .leaf ⟨";", false, none, Span.onFirstLine 9 10⟩,
         .close, .close]).2 = .ok t ∧ t.Shaped := by
  refine ⟨?tree, ?built, build_shaped ?built⟩
  case built => rfl

end SyntaxTree

end ShapeSearch
