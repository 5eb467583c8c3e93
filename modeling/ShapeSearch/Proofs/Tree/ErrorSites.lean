import ShapeSearch.Proofs.Tree.Invariant

/-!
# Error sites of a built tree

Two readings of a tree's errors are kept by different code.  `hasError` reads the
nodes: an `ERROR` node, named or not, or a missing node in the subtree.  The error
sites are recorded by the builder as it goes: one when a named `ERROR` node is
opened, and one each time a node is marked missing, in the order of the steps.

Over every run of building steps (`Builder.SiteInv`), and so in every finished tree
(`SyntaxTree.Sited`):

* the error sites name the named `ERROR` nodes, once each and in id order, and the
  missing sites name exactly the missing nodes, each site with its node's span;
* the sites are in id order, except that a missing site comes after the sites of its
  node's own subtree when the node is marked after they were recorded;
* a node has an error below it exactly when a site names one of its descendants or an
  anonymous `ERROR` node is among them.

So the sites are not always in document order, a node marked missing twice has two
sites, and an anonymous `ERROR` node counts for `hasError` with no site.
`errorSites_documentOrder_iff` says exactly when a tree's sites are as documented.
-/

namespace ShapeSearch

namespace Node

/-- A named `ERROR` node: opening one records an error site. -/
def isNamedError (n : Node) : Bool :=
  n.named && n.isError

end Node

namespace SyntaxTree

/-- The nodes that the error sites of one kind name, in the order they were recorded. -/
def siteNodes (t : SyntaxTree) (k : SiteKind) : List Nat :=
  (t.errors.toList.filter fun s => s.kind == k).map (·.node)

theorem mem_descendants {t : SyntaxTree} {n m : Nat} :
    m ∈ t.descendants n ↔ n ≤ m ∧ m < t.subtreeEnd n := by
  simp only [descendants, List.mem_range'_1]
  omega

/-- What the error sites of every finished tree say of its nodes. -/
structure Sited (t : SyntaxTree) : Prop where
  /-- Each site names a node, with that node's span. -/
  node_lt : ∀ s ∈ t.errors.toList, s.node < t.size
  span_eq : ∀ s ∈ t.errors.toList, s.span = t.spanOf s.node
  /-- The error sites are the named `ERROR` nodes, once each, in id order. -/
  error_nodes : t.siteNodes .error = (List.range t.size).filter fun n => (t.nodeAt n).isNamedError
  /-- The missing sites name exactly the missing nodes. -/
  missing_nodes : ∀ n, n ∈ t.siteNodes .missing ↔ n < t.size ∧ (t.nodeAt n).missing = true
  /-- A site names a later node than every site before it, unless it is a missing site
  and the earlier one lies in its node's subtree. -/
  ordered : t.errors.toList.Pairwise fun s s' =>
    s.node < s'.node ∨ (s'.kind = .missing ∧ s.node ∈ t.descendants s'.node)

end SyntaxTree

namespace Builder

@[simp] theorem tree_errors (b : Builder) : b.tree.errors = b.errors := rfl

/-- What the sites recorded so far say of the nodes built so far.  While a node is open
its range reaches the current size, so a missing site recorded now follows only sites of
earlier nodes or of the node's subtree. -/
structure SiteInv (b : Builder) : Prop where
  node_lt : ∀ s ∈ b.errors.toList, s.node < b.nodes.size
  span_eq : ∀ s ∈ b.errors.toList, s.span = b.tree.spanOf s.node
  error_nodes : b.tree.siteNodes .error =
    (List.range b.nodes.size).filter fun n => (b.tree.nodeAt n).isNamedError
  missing_nodes : ∀ n, n ∈ b.tree.siteNodes .missing ↔
    n < b.nodes.size ∧ (b.tree.nodeAt n).missing = true
  ordered : b.errors.toList.Pairwise fun s s' =>
    s.node < s'.node ∨ (s'.kind = .missing ∧ s'.node ≤ s.node ∧ s.node < b.reach s'.node)

section Open

variable {b : Builder} {spec : NodeSpec} (h : b.openProblem spec = none)
include h

/-- Opening a named `ERROR` node records its site; opening any other node records none. -/
theorem openNode_errors :
    (b.openNode spec).1.errors =
      if spec.named && spec.kind == "ERROR" then b.errors.push ⟨.error, b.nodes.size, spec.span⟩
      else b.errors := by
  simp [openNode, h]

theorem openNode_isNamedError (n : Nat) :
    ((b.openNode spec).1.tree.nodeAt n).isNamedError =
      if n = b.nodes.size then spec.named && spec.kind == "ERROR"
      else (b.tree.nodeAt n).isNamedError := by
  simp only [SyntaxTree.nodeAt, tree, openNode_getD h]
  split_ifs <;> rfl

theorem openNode_missing (n : Nat) :
    ((b.openNode spec).1.tree.nodeAt n).missing =
      if n = b.nodes.size then false else (b.tree.nodeAt n).missing := by
  simp only [SyntaxTree.nodeAt, tree, openNode_getD h]
  split_ifs <;> rfl

/-- Opening shrinks the range of no old node. -/
theorem reach_le_openNode {n : Nat} (hn : n < b.nodes.size) :
    b.reach n ≤ (b.openNode spec).1.reach n := by
  rw [openNode_reach h]
  split_ifs with hc
  · rcases hc with rfl | hs
    · omega
    · rw [reach_of_open hs]
      omega
  · exact Nat.le_refl _

end Open

section Close

variable {b : Builder} {p : Nat} {rest : List Nat} (hs : b.stack = p :: rest)
include hs

theorem close_errors : (b.close).1.errors = b.errors := by
  simp [close, hs]

theorem close_isNamedError (n : Nat) :
    ((b.close).1.tree.nodeAt n).isNamedError = (b.tree.nodeAt n).isNamedError := by
  simp only [SyntaxTree.nodeAt, tree, close_getD hs]
  split_ifs <;> rfl

theorem close_missing (n : Nat) :
    ((b.close).1.tree.nodeAt n).missing = (b.tree.nodeAt n).missing := by
  simp only [SyntaxTree.nodeAt, tree, close_getD hs]
  split_ifs <;> rfl

end Close

section Missing

variable {b : Builder} {p : Nat} {rest : List Nat} (hs : b.stack = p :: rest)
include hs

/-- Marking a node missing records a site for it, every time. -/
theorem markMissing_errors :
    (b.markMissing).1.errors = b.errors.push ⟨.missing, p, b.tree.spanOf p⟩ := by
  simp [markMissing, hs, SyntaxTree.spanOf, SyntaxTree.nodeAt, tree]

theorem markMissing_isNamedError (n : Nat) :
    ((b.markMissing).1.tree.nodeAt n).isNamedError = (b.tree.nodeAt n).isNamedError := by
  simp only [SyntaxTree.nodeAt, tree, markMissing_getD hs]
  split_ifs <;> rfl

theorem markMissing_missing (n : Nat) :
    ((b.markMissing).1.tree.nodeAt n).missing =
      if p = n ∧ n < b.nodes.size then true else (b.tree.nodeAt n).missing := by
  simp only [SyntaxTree.nodeAt, tree, markMissing_getD hs]
  split_ifs <;> rfl

theorem markMissing_reach : (b.markMissing).1.reach = b.reach := by
  obtain ⟨-, -, -, hend, hstack, hsize, -⟩ := markMissing_frame hs
  funext n
  simp only [reach, hstack, hsize]
  rw [hend]

end Missing

namespace SiteInv

variable {b : Builder}

/-- **Opening keeps the site invariant**: a named `ERROR` node gets its site, and the
site is the last one and names the largest node. -/
theorem openNode {spec : NodeSpec} (hs : b.SiteInv) (h : b.openProblem spec = none) :
    (b.openNode spec).1.SiteInv := by
  have hsize := openNode_size h
  have herr : (b.openNode spec).1.errors.toList = b.errors.toList ++
      if spec.named && spec.kind == "ERROR" then [⟨.error, b.nodes.size, spec.span⟩] else [] := by
    rw [openNode_errors h]
    split <;> simp
  have hadded : ∀ s ∈ (if spec.named && spec.kind == "ERROR" then
      [(⟨.error, b.nodes.size, spec.span⟩ : ErrorSite)] else []),
      s = ⟨.error, b.nodes.size, spec.span⟩ := by
    split <;> simp
  refine
    { node_lt := ?node_lt, span_eq := ?span_eq, error_nodes := ?error_nodes,
        missing_nodes := ?missing_nodes, ordered := ?ordered }
  case node_lt =>
    intro s hm
    rw [herr, List.mem_append] at hm
    rw [hsize]
    rcases hm with hm | hm
    · exact Nat.lt_succ_of_lt (hs.node_lt s hm)
    · rw [hadded s hm]
      exact Nat.lt_succ_self _
  case span_eq =>
    intro s hm
    rw [herr, List.mem_append] at hm
    rcases hm with hm | hm
    · rw [hs.span_eq s hm, openNode_spanOf h, if_neg (Nat.ne_of_lt (hs.node_lt s hm))]
    · rw [hadded s hm, openNode_spanOf h, if_pos rfl]
  case error_nodes =>
    have hold := hs.error_nodes
    have hkeep : (List.range b.nodes.size).filter
        (fun n => ((b.openNode spec).1.tree.nodeAt n).isNamedError) =
        (List.range b.nodes.size).filter fun n => (b.tree.nodeAt n).isNamedError :=
      List.filter_congr fun n hn => by
        rw [openNode_isNamedError h, if_neg (Nat.ne_of_lt (List.mem_range.mp hn))]
    simp only [SyntaxTree.siteNodes, tree_errors] at hold ⊢
    rw [herr, hsize, List.range_succ, List.filter_append, List.filter_append, List.map_append,
      hkeep, ← hold]
    cases hc : (spec.named && spec.kind == "ERROR") <;>
      simp [openNode_isNamedError h, hc]
  case missing_nodes =>
    intro n
    have hsame : (b.openNode spec).1.tree.siteNodes .missing = b.tree.siteNodes .missing := by
      simp only [SyntaxTree.siteNodes, tree_errors, herr]
      split <;> simp
    rw [hsame, hs.missing_nodes, hsize, openNode_missing h]
    by_cases hn : n = b.nodes.size
    · simp [hn]
    · simp only [hn, if_false]
      constructor <;> rintro ⟨hlt, hmis⟩ <;> exact ⟨by omega, hmis⟩
  case ordered =>
    rw [herr, List.pairwise_append]
    refine ⟨hs.ordered.imp_of_mem fun _ hs' hss' => ?_, by split <;> simp, ?_⟩
    · rcases hss' with hlt | ⟨hk, hle, hr⟩
      · exact .inl hlt
      · exact .inr ⟨hk, hle, Nat.lt_of_lt_of_le hr (reach_le_openNode h (hs.node_lt _ hs'))⟩
    · intro s hm s' hm'
      rw [hadded s' hm']
      exact .inl (hs.node_lt s hm)

/-- **Closing keeps the site invariant**: it records nothing and fixes a range where
`reach` already had it. -/
theorem close (hs : b.SiteInv) (hi : b.Inv) : (b.close).1.SiteInv := by
  cases hst : b.stack with
  | nil =>
      rw [close_of_stack_nil hst]
      exact hs
  | cons p rest =>
      obtain ⟨-, -, hsize, -⟩ := close_eq hst
      have herr := close_errors hst
      have hsites : ∀ k, (b.close).1.tree.siteNodes k = b.tree.siteNodes k := fun k => by
        simp only [SyntaxTree.siteNodes, tree_errors, herr]
      exact
        { node_lt := by rw [herr, hsize]; exact hs.node_lt
          span_eq := by rw [herr, close_spanOf hst]; exact hs.span_eq
          error_nodes := by
            simp only [hsites, hsize, close_isNamedError hst]
            exact hs.error_nodes
          missing_nodes := by
            simp only [hsites, hsize, close_missing hst]
            exact hs.missing_nodes
          ordered := by rw [herr, close_reach hi hst]; exact hs.ordered }

/-- **Marking a node missing keeps the site invariant**: the node is open, so every
earlier site names an earlier node or one inside its range. -/
theorem markMissing (hs : b.SiteInv) (hi : b.Inv) : (b.markMissing).1.SiteInv := by
  cases hst : b.stack with
  | nil =>
      rw [markMissing_of_stack_nil hst]
      exact hs
  | cons p rest =>
      obtain ⟨-, -, hsp, -, -, hsize, -⟩ := markMissing_frame hst
      have hp : p < b.nodes.size := hi.open_lt p (by simp [hst])
      have herr : (b.markMissing).1.errors.toList =
          b.errors.toList ++ [⟨.missing, p, b.tree.spanOf p⟩] := by
        rw [markMissing_errors hst, Array.toList_push]
      refine
        { node_lt := ?node_lt, span_eq := ?span_eq, error_nodes := ?error_nodes,
          missing_nodes := ?missing_nodes, ordered := ?ordered }
      case node_lt =>
        intro s hm
        rw [herr, List.mem_append, List.mem_singleton] at hm
        rw [hsize]
        rcases hm with hm | rfl
        · exact hs.node_lt s hm
        · exact hp
      case span_eq =>
        intro s hm
        rw [herr, List.mem_append, List.mem_singleton] at hm
        rw [hsp]
        rcases hm with hm | rfl
        · exact hs.span_eq s hm
        · rfl
      case error_nodes =>
        have hsites : (b.markMissing).1.tree.siteNodes .error = b.tree.siteNodes .error := by
          simp [SyntaxTree.siteNodes, herr]
        simp only [hsites, hsize, markMissing_isNamedError hst]
        exact hs.error_nodes
      case missing_nodes =>
        intro n
        have hsites : (b.markMissing).1.tree.siteNodes .missing =
            b.tree.siteNodes .missing ++ [p] := by
          simp [SyntaxTree.siteNodes, herr]
        rw [hsites, List.mem_append, hs.missing_nodes, hsize, markMissing_missing hst,
          List.mem_singleton]
        by_cases hn : n = p
        · subst hn
          simp [hp]
        · simp [hn, Ne.symm hn]
      case ordered =>
        rw [herr, List.pairwise_append, markMissing_reach hst]
        refine ⟨hs.ordered, List.pairwise_singleton _ _, ?_⟩
        intro s hm s' hm'
        rw [List.mem_singleton] at hm'
        subst hm'
        have hsn := hs.node_lt s hm
        rw [reach_of_open (by simp [hst] : p ∈ b.stack)]
        show s.node < p ∨ (SiteKind.missing = .missing ∧ p ≤ s.node ∧ s.node < b.nodes.size)
        by_cases hlt : s.node < p
        · exact .inl hlt
        · exact .inr ⟨rfl, by omega, hsn⟩

/-- **One step, failed or not, keeps the site invariant.** -/
theorem step (hs : b.SiteInv) (hi : b.Inv) (s : Step) : (b.step s).1.SiteInv := by
  cases s with
  | openNode spec =>
      show (b.openNode spec).1.SiteInv
      cases h : b.openProblem spec with
      | none => exact hs.openNode h
      | some e =>
          rw [openNode_of_problem h]
          exact hs
  | leaf spec =>
      show (b.leaf spec).1.SiteInv
      cases h : b.openProblem spec with
      | none =>
          rw [leaf_of_ok h]
          exact (hs.openNode h).close (hi.openNode h)
      | some e =>
          rw [leaf_of_problem h]
          exact hs
  | markMissing => exact hs.markMissing hi
  | close => exact hs.close hi

/-- A whole run of steps keeps the site invariant. -/
theorem stepsFrom (hs : b.SiteInv) (hi : b.Inv) (done : Array (Except TreeError (Option Nat)))
    (ss : List Step) : (b.stepsFrom done ss).1.SiteInv := by
  induction ss generalizing b done with
  | nil => exact hs
  | cons s rest ih => exact ih (hs.step hi s) (hi.step s) _

/-- The empty builder has recorded no site. -/
theorem new (language : String) (source : ByteArray) : (Builder.new language source).SiteInv where
  node_lt := by simp [Builder.new]
  span_eq := by simp [Builder.new]
  error_nodes := by simp [SyntaxTree.siteNodes, Builder.new]
  missing_nodes := by simp [SyntaxTree.siteNodes, Builder.new]
  ordered := by simp [Builder.new]

/-- With nothing left open, every range is a subtree's, and the sites are those of a
`Sited` tree. -/
theorem sited (hs : b.SiteInv) (hst : b.stack = []) : b.tree.Sited where
  node_lt := hs.node_lt
  span_eq := hs.span_eq
  error_nodes := hs.error_nodes
  missing_nodes := hs.missing_nodes
  ordered := by
    have hreach : ∀ n, b.reach n = b.tree.subtreeEnd n := fun n =>
      reach_of_closed (by simp [hst])
    refine hs.ordered.imp fun hss' => ?_
    simpa only [SyntaxTree.mem_descendants, hreach] using hss'

end SiteInv

end Builder

namespace SyntaxTree

/-- Every tree that building finishes has the error sites of `Sited`. -/
theorem sited_of_build {language : String} {source : ByteArray} {steps : List Builder.Step}
    {t : SyntaxTree} (h : (build language source steps).2 = .ok t) : t.Sited := by
  have hfin : ((Builder.new language source).stepsFrom #[] steps).1.finish = .ok t := h
  obtain ⟨rfl, hs, -⟩ := Builder.finish_eq_ok hfin
  exact ((Builder.SiteInv.new language source).stepsFrom
    (Builder.Inv.new language source) #[] steps).sited hs

namespace Tiled

variable {t : SyntaxTree} (ht : t.Tiled)
include ht

/-- Every node lies below the root: parent links lead down to node 0. -/
theorem descends_root {m : Nat} (hm : m < t.size) : t.Descends 0 m := by
  induction m using Nat.strongRecOn with
  | _ m ih =>
    cases hp : t.parentOf m with
    | none =>
        rw [(ht.parent_none m hm).mp hp]
        exact .self
    | some p =>
        have hpm := ht.parent_lt m p hp
        exact .parent hp (ih p hpm (by omega))

theorem subtreeEnd_root : t.subtreeEnd 0 = t.size := by
  have hlast : t.size - 1 < t.subtreeEnd 0 :=
    ((ht.descends_iff ht.nonempty).mp (ht.descends_root (by have := ht.nonempty; omega))).2
  have := ht.shaped.subtreeEnd_le_size ht.nonempty
  omega

theorem lt_size_of_mem_descendants {n m : Nat} (hm : m ∈ t.descendants n) : m < t.size := by
  rw [mem_descendants] at hm
  by_cases hn : n < t.size
  · have := ht.shaped.subtreeEnd_le_size hn
    omega
  · have hdef : t.nodeAt n = default := by
      simp [nodeAt, Array.getElem?_eq_none (Nat.le_of_not_lt hn)]
    have : t.subtreeEnd n = 0 := by
      simp only [subtreeEnd, hdef]
      rfl
    omega

end Tiled

namespace Sited

variable {t : SyntaxTree} (hs : t.Sited)
include hs

/-- A site names a named `ERROR` node if it is an error site and a missing node if it is
a missing site. -/
theorem flag_of_site {s : ErrorSite} (hm : s ∈ t.errors.toList) :
    (s.kind = .error ∧ (t.nodeAt s.node).isNamedError = true) ∨
      (s.kind = .missing ∧ (t.nodeAt s.node).missing = true) := by
  cases hk : s.kind with
  | error =>
      have hsite : s.node ∈ t.siteNodes .error :=
        List.mem_map_of_mem (List.mem_filter.mpr ⟨hm, by simp [hk]⟩)
      rw [hs.error_nodes, List.mem_filter] at hsite
      exact .inl ⟨rfl, hsite.2⟩
  | missing =>
      have hsite : s.node ∈ t.siteNodes .missing :=
        List.mem_map_of_mem (List.mem_filter.mpr ⟨hm, by simp [hk]⟩)
      exact .inr ⟨rfl, ((hs.missing_nodes _).mp hsite).2⟩

/-- Every named `ERROR` node and every missing node is named by a site. -/
theorem listed {n : Nat} (hn : n < t.size)
    (hf : (t.nodeAt n).isNamedError = true ∨ (t.nodeAt n).missing = true) :
    ∃ s ∈ t.errors.toList, s.node = n := by
  have hsite : n ∈ t.siteNodes .error ∨ n ∈ t.siteNodes .missing := by
    rcases hf with he | hmis
    · left
      rw [hs.error_nodes, List.mem_filter]
      exact ⟨List.mem_range.mpr hn, he⟩
    · exact .inr ((hs.missing_nodes n).mpr ⟨hn, hmis⟩)
  rcases hsite with hsite | hsite <;>
  · obtain ⟨s, hm, rfl⟩ := List.mem_map.mp hsite
    exact ⟨s, (List.mem_filter.mp hm).1, rfl⟩

/-- **What `hasError` reads**: a site among the descendants, or an `ERROR` node there
that is anonymous and so has no site of its own. -/
theorem hasError_iff (ht : t.Tiled) (n : Nat) :
    t.hasError n = true ↔
      (∃ s ∈ t.errors.toList, s.node ∈ t.descendants n) ∨
        ∃ d ∈ t.descendants n, (t.nodeAt d).isError = true ∧ (t.nodeAt d).named = false := by
  simp only [hasError, List.any_eq_true, Bool.or_eq_true]
  constructor
  · rintro ⟨d, hd, hf⟩
    cases hnamed : (t.nodeAt d).named
    · rcases hf with herr | hmis
      · exact .inr ⟨d, hd, herr, hnamed⟩
      · obtain ⟨s, hm, rfl⟩ := hs.listed (ht.lt_size_of_mem_descendants hd) (.inr hmis)
        exact .inl ⟨s, hm, hd⟩
    · have hf' : (t.nodeAt d).isNamedError = true ∨ (t.nodeAt d).missing = true := by
        simpa [Node.isNamedError, hnamed] using hf
      obtain ⟨s, hm, rfl⟩ := hs.listed (ht.lt_size_of_mem_descendants hd) hf'
      exact .inl ⟨s, hm, hd⟩
  · rintro (⟨s, hm, hd⟩ | ⟨d, hd, herr, -⟩)
    · refine ⟨s.node, hd, ?_⟩
      rcases hs.flag_of_site hm with ⟨-, he⟩ | ⟨-, hmis⟩
      · simp only [Node.isNamedError, Bool.and_eq_true] at he
        exact .inl he.2
      · exact .inr hmis
    · exact ⟨d, hd, .inl herr⟩

/-- The root's subtree is the whole tree, so a site lies below the root exactly when
there is one. -/
theorem exists_site_root (ht : t.Tiled) :
    (∃ s ∈ t.errors.toList, s.node ∈ t.descendants 0) ↔ t.hasErrors = true := by
  have hroot : ∀ s ∈ t.errors.toList, s.node ∈ t.descendants 0 := fun s hm => by
    rw [mem_descendants, ht.subtreeEnd_root]
    exact ⟨Nat.zero_le _, hs.node_lt s hm⟩
  simp only [hasErrors, Bool.not_eq_true', Array.isEmpty_eq_false_iff]
  constructor
  · rintro ⟨s, hm, -⟩ hnil
    simp [hnil] at hm
  · intro hne
    obtain ⟨s, hm⟩ := List.exists_mem_of_ne_nil _ fun hnil => hne (Array.toList_eq_nil_iff.mp hnil)
    exact ⟨s, hm, hroot s hm⟩

end Sited

/-- What the documentation says of a tree's error sites: a node has an error below it
exactly when a site names one of its descendants, so the root has one exactly when there
is a site; every error node and every missing node is named by a site; and the sites are
listed in document order, each node once per kind with its error site first. -/
structure ErrorsAsDocumented (t : SyntaxTree) : Prop where
  hasError_iff : ∀ n, t.hasError n = true ↔ ∃ s ∈ t.errors.toList, s.node ∈ t.descendants n
  root : t.hasError 0 = t.hasErrors
  listed : ∀ n < t.size, ((t.nodeAt n).isError || (t.nodeAt n).missing) = true →
    ∃ s ∈ t.errors.toList, s.node = n
  ordered : t.errors.toList.Pairwise fun s s' =>
    s.node < s'.node ∨ (s.node = s'.node ∧ s.kind = .error ∧ s'.kind = .missing)

/-- **When a built tree's error sites are as documented.**  Error sites are always in
document order and name every named `ERROR` node; what can go wrong is an anonymous
`ERROR` node, which `hasError` counts but no site names, and a missing site recorded
after a site of its own subtree or after an earlier missing site of its node.  The sites
are as documented exactly when neither happens: every `ERROR` node is named or missing,
and before each missing site only sites of earlier nodes or its node's error site stand. -/
theorem errorSites_documentOrder_iff {language : String} {source : ByteArray}
    {steps : List Builder.Step} {t : SyntaxTree} (h : (build language source steps).2 = .ok t) :
    t.ErrorsAsDocumented ↔
      (∀ n < t.size, (t.nodeAt n).isError = true →
          (t.nodeAt n).named = true ∨ (t.nodeAt n).missing = true) ∧
        t.errors.toList.Pairwise fun s s' =>
          s'.kind = .missing → s.node < s'.node ∨ (s.node = s'.node ∧ s.kind = .error) := by
  have hs := sited_of_build h
  have ht := tiled_of_build h
  constructor
  · rintro ⟨-, -, hlisted, horder⟩
    refine ⟨fun n hn herr => ?_, horder.imp fun hss' _ => ?_⟩
    · obtain ⟨s, hm, rfl⟩ := hlisted n hn (by simp [herr])
      rcases hs.flag_of_site hm with ⟨-, he⟩ | ⟨-, hmis⟩
      · simp only [Node.isNamedError, Bool.and_eq_true] at he
        exact .inl he.1
      · exact .inr hmis
    · rcases hss' with hlt | ⟨heq, hk, -⟩
      · exact .inl hlt
      · exact .inr ⟨heq, hk⟩
  · rintro ⟨hanon, horder⟩
    have hiff : ∀ n, t.hasError n = true ↔ ∃ s ∈ t.errors.toList, s.node ∈ t.descendants n := by
      intro n
      rw [hs.hasError_iff ht n]
      constructor
      · rintro (hsite | ⟨d, hd, herr, hnamed⟩)
        · exact hsite
        · have hmis := (hanon d (ht.lt_size_of_mem_descendants hd) herr).resolve_left
            (by simp [hnamed])
          obtain ⟨s, hm, rfl⟩ := hs.listed (ht.lt_size_of_mem_descendants hd) (.inr hmis)
          exact ⟨s, hm, hd⟩
      · exact .inl
    refine ⟨hiff, ?_, ?_, ?_⟩
    · rw [Bool.eq_iff_iff, hiff 0, hs.exists_site_root ht]
    · intro n hn hf
      simp only [Bool.or_eq_true] at hf
      rcases hf with herr | hmis
      · rcases hanon n hn herr with hnamed | hmis
        · exact hs.listed hn (.inl (by simp [Node.isNamedError, hnamed, herr]))
        · exact hs.listed hn (.inr hmis)
      · exact hs.listed hn (.inr hmis)
    · refine (hs.ordered.and horder).imp fun ⟨hss', hcond⟩ => ?_
      rcases hss' with hlt | ⟨hk, -⟩
      · exact .inl hlt
      · rcases hcond hk with hlt | ⟨heq, hk'⟩
        · exact .inl hlt
        · exact .inr ⟨heq, hk', hk⟩

/-- Marking the root missing before its `ERROR` child is opened keeps the sites as
documented. -/
theorem errorSites_documentOrder_markedFirst :
    ∃ t, (build "toy" "ab".toUTF8
        [.openNode ⟨"root", true, none, Span.onFirstLine 0 2⟩, .markMissing,
         .leaf ⟨"ERROR", true, none, Span.onFirstLine 0 1⟩, .close]).2 = .ok t ∧
      t.ErrorsAsDocumented := by
  refine ⟨?tree, ?built, (errorSites_documentOrder_iff ?built).mpr ⟨?named, ?order⟩⟩
  case built => rfl
  case named => decide
  case order => decide

/-- Marking the root missing after its `ERROR` child was opened puts the root's site after
the child's, out of document order. -/
theorem errorSites_missing_after_child :
    ∃ t, (build "toy" "ab".toUTF8
        [.openNode ⟨"root", true, none, Span.onFirstLine 0 2⟩,
         .leaf ⟨"ERROR", true, none, Span.onFirstLine 0 1⟩,
         .markMissing, .close]).2 = .ok t ∧
      t.errors.toList.map (·.node) = [1, 0] ∧ ¬ t.ErrorsAsDocumented := by
  refine ⟨?tree, ?built, ?nodes, fun hd => absurd hd.ordered ?unordered⟩
  case built => rfl
  case nodes => rfl
  case unordered => decide

end SyntaxTree

end ShapeSearch
