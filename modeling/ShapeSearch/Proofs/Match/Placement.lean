import ShapeSearch.Match.Engine
import ShapeSearch.Proofs.Pattern.Grammar
import Mathlib.Data.List.Nodup

/-!
# What a clause match is

A clause matches a node when its sub-clauses can be put on nodes of the tree, the clause
itself on that node, so that:

* every node passes the test of its clause (`NodeTest.Admits`);
* a node has no child in any absent field of its clause;
* a field constraint's clause sits on a child in that field;
* the positional constraints' clauses sit on children at strictly increasing positions, in
  written order (field constraints may reuse any child);
* every predicate of every sub-clause holds when each label is read as the text of the node
  it is bound to (`Predicate.Holds`).

`Placed` says the first four as a relation, with the captures of the placement in binding
order, and `Satisfies` adds the predicates.  The matcher searches for a placement by
backtracking in continuation-passing style; `placed_of_matchClause` (every answer comes from
a placement) and `matchClause_isSome_of_placed` (no placement is missed, whatever the rest
of the search asks of it) carry the continuation through the induction.  The main statement
`matchTop_iff_satisfies` says that, for a clause whose labels are distinct and whose
predicates name only its own labels, a top-level match returns the captures of a satisfying
placement, and returns one whenever a satisfying placement exists.
-/

namespace ShapeSearch

namespace Pattern

/-- What a node test asks of a node. -/
def NodeTest.Admits : NodeTest → Node → Prop
  | .named kind, n => n.named = true ∧ n.kind = kind
  | .anonymous literal, n => n.named = false ∧ n.kind = literal
  | .anyNamed, n => n.named = true
  | .any, _ => True

/-- What a predicate says when each label is read as a text. -/
def Predicate.Holds (text : String → String) : Predicate → Prop
  | .eq capture (.text s) negate => if negate then text capture ≠ s else text capture = s
  | .eq capture (.capture other) negate =>
    if negate then text capture ≠ text other else text capture = text other
  | .regex capture re negate => re.isMatch (text capture) = !negate

namespace Clause

mutual

/-- The predicates of a clause and of its sub-clauses, in pre-order. -/
def allPredicates : Clause → List Predicate
  | mk _ children predicates _ => predicates ++ constraintPredicates children

/-- The predicates of the clauses under a list of constraints. -/
def constraintPredicates : List Constraint → List Predicate
  | [] => []
  | .field _ c :: rest => allPredicates c ++ constraintPredicates rest
  | .positional c :: rest => allPredicates c ++ constraintPredicates rest
  | .absent _ :: rest => constraintPredicates rest

end

mutual

/-- The captures the predicates name are those of the predicates of every sub-clause. -/
theorem predicateCaptures_eq_flatMap :
    ∀ c : Clause, c.predicateCaptures = c.allPredicates.flatMap Predicate.captures
  | mk _ cs ps _ => by
    simp [predicateCaptures, allPredicates, constraintPredicateCaptures_eq_flatMap cs]

theorem constraintPredicateCaptures_eq_flatMap :
    ∀ cs : List Constraint,
      constraintPredicateCaptures cs = (constraintPredicates cs).flatMap Predicate.captures
  | [] => rfl
  | .field _ c :: rest => by
    simp [constraintPredicateCaptures, constraintPredicates, predicateCaptures_eq_flatMap c,
      constraintPredicateCaptures_eq_flatMap rest]
  | .positional c :: rest => by
    simp [constraintPredicateCaptures, constraintPredicates, predicateCaptures_eq_flatMap c,
      constraintPredicateCaptures_eq_flatMap rest]
  | .absent _ :: rest => by
    simp [constraintPredicateCaptures, constraintPredicates,
      constraintPredicateCaptures_eq_flatMap rest]

end

end Clause

end Pattern

namespace SyntaxTree

variable {t : SyntaxTree}

theorem mem_childrenByField {n m : Nat} {name : String} :
    m ∈ t.childrenByField n name ↔ m ∈ t.children n ∧ (t.nodeAt m).field = some name := by
  simp [childrenByField]

theorem child?_eq_getElem? (n i : Nat) : t.child? n i = (t.children n)[i]? := by
  simp [child?, children]

theorem childCount_eq_length (n : Nat) : t.childCount n = (t.children n).length := by
  simp [childCount, children]

end SyntaxTree

namespace Match

open Pattern

mutual

/-- `Placed t c n caps`: the clause `c` and its sub-clauses can be put on nodes of `t`, `c`
itself on `n`, meeting every test and child constraint; `caps` are the captures of that
placement, the clause's own first and then those under its constraints in written order. -/
inductive Placed (t : SyntaxTree) : Clause → Nat → List Capture → Prop
  | mk {test : NodeTest} {cs : List Constraint} {ps : List Predicate} {label : Option String}
      {n : Nat} {caps : List Capture}
      (htest : test.Admits (t.nodeAt n))
      (habsent : ∀ f, .absent f ∈ cs → ∀ m ∈ t.children n, (t.nodeAt m).field ≠ some f)
      (hchildren : PlacedChildren t cs n 0 caps) :
      Placed t (.mk test cs ps label) n ((label.map fun l => ⟨l, n⟩).toList ++ caps)

/-- `PlacedChildren t cs n lo caps`: the constraints `cs` are met by children of `n`, the
positional ones at increasing positions from `lo` on; `caps` are their captures. -/
inductive PlacedChildren (t : SyntaxTree) : List Constraint → Nat → Nat → List Capture → Prop
  | nil {n lo : Nat} : PlacedChildren t [] n lo []
  | field {name : String} {c : Clause} {rest : List Constraint} {n lo m : Nat}
      {caps more : List Capture}
      (hchild : m ∈ t.children n) (hfield : (t.nodeAt m).field = some name)
      (hc : Placed t c m caps) (hrest : PlacedChildren t rest n lo more) :
      PlacedChildren t (.field name c :: rest) n lo (caps ++ more)
  | positional {c : Clause} {rest : List Constraint} {n lo i m : Nat} {caps more : List Capture}
      (hlo : lo ≤ i) (hchild : (t.children n)[i]? = some m)
      (hc : Placed t c m caps) (hrest : PlacedChildren t rest n (i + 1) more) :
      PlacedChildren t (.positional c :: rest) n lo (caps ++ more)
  | absent {name : String} {rest : List Constraint} {n lo : Nat} {more : List Capture}
      (hrest : PlacedChildren t rest n lo more) :
      PlacedChildren t (.absent name :: rest) n lo more

end

/-- A placement of `c` at `n` with captures `caps` under which every predicate holds, each
label read as the text of the node it is bound to. -/
def Satisfies (t : SyntaxTree) (c : Clause) (n : Nat) (caps : List Capture) : Prop :=
  Placed t c n caps ∧
    ∀ σ : String → Nat, (∀ x ∈ caps, σ x.label = x.node) →
      ∀ p ∈ c.allPredicates, p.Holds fun l => t.text (σ l)

variable {t : SyntaxTree}

/-! ### The tests at one node -/

theorem nodeSatisfies_iff {test : NodeTest} {n : Nat} :
    nodeSatisfies t test n = true ↔ test.Admits (t.nodeAt n) := by
  cases test <;> simp [nodeSatisfies, NodeTest.Admits]

theorem forbidden_eq_false_iff {n : Nat} {cs : List Constraint} :
    forbidden t n cs = false ↔
      ∀ f, .absent f ∈ cs → ∀ m ∈ t.children n, (t.nodeAt m).field ≠ some f := by
  simp only [forbidden, List.any_eq_false]
  constructor
  · intro h f hf m hm hfield
    have hnone := h _ hf
    simp only [SyntaxTree.childByField, Option.isSome_iff_ne_none, ne_eq, List.find?_eq_none,
      beq_iff_eq, not_forall, not_not] at hnone
    exact hnone ⟨m, hm, hfield⟩
  · intro h x hx
    cases x with
    | absent f =>
      simp only [SyntaxTree.childByField, Option.isSome_iff_ne_none, ne_eq, List.find?_eq_none,
        beq_iff_eq, not_not]
      exact h f hx
    | field _ _ => simp
    | positional _ => simp

/-! ### Every answer comes from a placement -/

mutual

/-- Whatever a clause match returns, the continuation returned it after the captures of
some placement. -/
theorem placed_of_matchClause :
    ∀ (c : Clause) (n : Nat) (pre : List Capture) (k : List Capture → Option (List Capture))
      {r : List Capture}, matchClause t c n pre k = some r →
        ∃ caps, Placed t c n caps ∧ k (pre ++ caps) = some r
  | .mk test cs ps label, n, pre, k, r, h => by
    simp only [matchClause] at h
    cases htest : nodeSatisfies t test n <;> cases habsent : forbidden t n cs <;>
      simp only [htest, habsent, Bool.not_true, Bool.not_false, Bool.or_true, Bool.or_false,
        Bool.false_eq_true, if_true, if_false, reduceCtorEq] at h
    obtain ⟨caps, hcaps, hk⟩ := placedChildren_of_matchChildren cs 0 n _ k h
    refine ⟨_, .mk (nodeSatisfies_iff.mp htest) (forbidden_eq_false_iff.mp habsent) hcaps, ?_⟩
    simpa using hk

/-- Whatever a children match returns, the continuation returned it after the captures of
some placement of the constraints. -/
theorem placedChildren_of_matchChildren :
    ∀ (cs : List Constraint) (lo n : Nat) (pre : List Capture)
      (k : List Capture → Option (List Capture)) {r : List Capture},
        matchChildren t cs lo n pre k = some r →
          ∃ caps, PlacedChildren t cs n lo caps ∧ k (pre ++ caps) = some r
  | [], lo, n, pre, k, r, h => ⟨[], .nil, by simpa [matchChildren] using h⟩
  | .field name c :: rest, lo, n, pre, k, r, h => by
    simp only [matchChildren] at h
    obtain ⟨m, hm, hinner⟩ := List.exists_of_findSome?_eq_some h
    obtain ⟨hchild, hfield⟩ := SyntaxTree.mem_childrenByField.mp hm
    obtain ⟨caps, hc, hrest⟩ := placed_of_matchClause c m pre _ hinner
    obtain ⟨more, hmore, hk⟩ := placedChildren_of_matchChildren rest lo n _ k hrest
    exact ⟨caps ++ more, .field hchild hfield hc hmore, by simpa using hk⟩
  | .positional c :: rest, lo, n, pre, k, r, h => by
    simp only [matchChildren] at h
    obtain ⟨i, hi, hinner⟩ := List.exists_of_findSome?_eq_some h
    have hlo : lo ≤ i := (List.mem_range'_1.mp hi).1
    cases hm : t.child? n i with
    | none => simp [hm] at hinner
    | some m =>
      simp only [hm] at hinner
      obtain ⟨caps, hc, hrest⟩ := placed_of_matchClause c m pre _ hinner
      obtain ⟨more, hmore, hk⟩ := placedChildren_of_matchChildren rest (i + 1) n _ k hrest
      exact ⟨caps ++ more, .positional hlo ((SyntaxTree.child?_eq_getElem? n i).symm.trans hm) hc hmore,
        by simpa using hk⟩
  | .absent name :: rest, lo, n, pre, k, r, h => by
    simp only [matchChildren] at h
    obtain ⟨more, hmore, hk⟩ := placedChildren_of_matchChildren rest lo n pre k h
    exact ⟨more, .absent hmore, hk⟩

end

/-! ### No placement is missed -/

mutual

/-- A clause match finds an answer whenever some placement's captures let the continuation
succeed: the backtracking tries every choice before giving up. -/
theorem matchClause_isSome_of_placed {c : Clause} {n : Nat} {caps : List Capture} :
    Placed t c n caps → ∀ (pre : List Capture) (k : List Capture → Option (List Capture)),
      (k (pre ++ caps)).isSome → (matchClause t c n pre k).isSome
  | @Placed.mk _ test cs ps label _ ccaps htest habsent hchildren, pre, k, hk => by
    have hsat : nodeSatisfies t test n = true := nodeSatisfies_iff.mpr htest
    have hfree : forbidden t n cs = false := forbidden_eq_false_iff.mpr habsent
    simp only [matchClause, hsat, hfree, Bool.not_true, Bool.or_false, Bool.false_eq_true,
      if_false]
    exact matchChildren_isSome_of_placed hchildren _ k (by simpa using hk)

theorem matchChildren_isSome_of_placed {cs : List Constraint} {n lo : Nat}
    {caps : List Capture} :
    PlacedChildren t cs n lo caps → ∀ (pre : List Capture)
      (k : List Capture → Option (List Capture)),
      (k (pre ++ caps)).isSome → (matchChildren t cs lo n pre k).isSome
  | .nil, pre, k, hk => by simpa [matchChildren] using hk
  | @PlacedChildren.field _ name c rest _ _ m ccaps more hchild hfield hc hrest, pre, k, hk => by
    simp only [matchChildren]
    refine List.findSome?_isSome_iff.mpr ⟨m, SyntaxTree.mem_childrenByField.mpr ⟨hchild, hfield⟩, ?_⟩
    refine matchClause_isSome_of_placed hc pre _ ?_
    exact matchChildren_isSome_of_placed hrest _ k (by simpa using hk)
  | @PlacedChildren.positional _ c rest _ _ i m ccaps more hlo hchild hc hrest, pre, k, hk => by
    simp only [matchChildren]
    have hlt : i < t.childCount n := by
      rw [SyntaxTree.childCount_eq_length]
      exact (List.getElem?_eq_some_iff.mp hchild).1
    have hi : i ∈ List.range' lo (t.childCount n - lo) := List.mem_range'_1.mpr ⟨hlo, by omega⟩
    refine List.findSome?_isSome_iff.mpr ⟨i, hi, ?_⟩
    rw [SyntaxTree.child?_eq_getElem?, hchild]
    refine matchClause_isSome_of_placed hc pre _ ?_
    exact matchChildren_isSome_of_placed hrest _ k (by simpa using hk)
  | .absent hrest, pre, k, hk => by
    simp only [matchChildren]
    exact matchChildren_isSome_of_placed hrest pre k hk

end

/-! ### The captures of a placement -/

mutual

/-- A placement binds the labels of the clause, in pre-order. -/
theorem Placed.labels {c : Clause} {n : Nat} {caps : List Capture} :
    Placed t c n caps → caps.map Capture.label = c.labels
  | @Placed.mk _ _ cs _ label _ _ _ _ hchildren => by
    cases label <;> simp [Clause.labels, hchildren.labels]

theorem PlacedChildren.labels {cs : List Constraint} {n lo : Nat} {caps : List Capture} :
    PlacedChildren t cs n lo caps → caps.map Capture.label = Clause.constraintLabels cs
  | .nil => rfl
  | .field _ _ hc hrest => by simp [Clause.constraintLabels, hc.labels, hrest.labels]
  | .positional _ _ hc hrest => by simp [Clause.constraintLabels, hc.labels, hrest.labels]
  | .absent hrest => by simp [Clause.constraintLabels, hrest.labels]

end

/-! ### Predicates -/

mutual

theorem predicatesHold_iff (caps : List Capture) :
    ∀ c : Clause, predicatesHold t caps c = true ↔
      ∀ p ∈ c.allPredicates, predicateHolds t caps p = true
  | .mk _ cs ps _ => by
    simp [predicatesHold, Clause.allPredicates, constraintPredicatesHold_iff caps cs, or_imp,
      forall_and]

theorem constraintPredicatesHold_iff (caps : List Capture) :
    ∀ cs : List Constraint, constraintPredicatesHold t caps cs = true ↔
      ∀ p ∈ Clause.constraintPredicates cs, predicateHolds t caps p = true
  | [] => by simp [constraintPredicatesHold, Clause.constraintPredicates]
  | .field _ c :: rest => by
    simp [constraintPredicatesHold, Clause.constraintPredicates, predicatesHold_iff caps c,
      constraintPredicatesHold_iff caps rest, or_imp, forall_and]
  | .positional c :: rest => by
    simp [constraintPredicatesHold, Clause.constraintPredicates, predicatesHold_iff caps c,
      constraintPredicatesHold_iff caps rest, or_imp, forall_and]
  | .absent _ :: rest => by
    simp [constraintPredicatesHold, Clause.constraintPredicates,
      constraintPredicatesHold_iff caps rest]

end

/-- A bound label's text is the text of the node any reading that agrees with the
captures gives it. -/
theorem capturedText_of_agrees {caps : List Capture} {σ : String → Nat}
    (hσ : ∀ x ∈ caps, σ x.label = x.node) {l : String} (hl : l ∈ caps.map Capture.label) :
    capturedText t caps l = some (t.text (σ l)) := by
  obtain ⟨y, hy, rfl⟩ := List.mem_map.mp hl
  have hsome : (caps.find? (·.label == y.label)).isSome :=
    List.find?_isSome.mpr ⟨y, hy, by simp⟩
  obtain ⟨x, hx⟩ := Option.isSome_iff_exists.mp hsome
  have hlabel : x.label = y.label := by simpa using List.find?_some hx
  simp only [capturedText, hx, Option.map_some]
  rw [← hlabel, hσ x (List.mem_of_find?_eq_some hx)]

/-- On bound labels, the matcher's test of a predicate is what the predicate says. -/
theorem predicateHolds_iff_holds {caps : List Capture} {σ : String → Nat}
    (hσ : ∀ x ∈ caps, σ x.label = x.node) {p : Predicate}
    (hp : ∀ l ∈ p.captures, l ∈ caps.map Capture.label) :
    predicateHolds t caps p = true ↔ p.Holds fun l => t.text (σ l) := by
  cases p with
  | eq capture operand negate =>
    have hleft := capturedText_of_agrees (t := t) hσ
      (hp capture (by cases operand <;> simp [Predicate.captures]))
    cases operand with
    | text s => cases negate <;> simp [predicateHolds, Predicate.Holds, hleft]
    | capture other =>
      have hright := capturedText_of_agrees (t := t) hσ (hp other (by simp [Predicate.captures]))
      cases negate <;> simp [predicateHolds, Predicate.Holds, hleft, hright]
  | regex capture re negate =>
    have hleft := capturedText_of_agrees (t := t) hσ (hp capture (by simp [Predicate.captures]))
    cases negate <;> simp [predicateHolds, Predicate.Holds, hleft]

/-- Captures with distinct labels are read by looking each label up. -/
theorem exists_agrees {caps : List Capture} (hd : (caps.map Capture.label).Nodup) :
    ∃ σ : String → Nat, ∀ x ∈ caps, σ x.label = x.node := by
  refine ⟨fun l => ((caps.find? (·.label == l)).map Capture.node).getD 0, fun x hx => ?_⟩
  have hsome : (caps.find? (·.label == x.label)).isSome :=
    List.find?_isSome.mpr ⟨x, hx, by simp⟩
  obtain ⟨y, hy⟩ := Option.isSome_iff_exists.mp hsome
  have hlabel : y.label = x.label := by simpa using List.find?_some hy
  have hyx : y = x := List.inj_on_of_nodup_map hd (List.mem_of_find?_eq_some hy) hx hlabel
  simp [hy, hyx]

/-- **Matching a clause.**  For a clause whose labels are distinct and whose predicates name
only its own labels, whatever a top-level match returns are the captures of a placement under
which every predicate holds, and a match succeeds exactly when such a placement exists.  Every
label a predicate names is bound by any placement, and the labels being distinct, reading each
one as the node it is bound to gives every predicate the same nodes. -/
theorem matchTop_iff_satisfies {c : Clause} {n : Nat} (hdistinct : c.labels.Nodup)
    (hbound : ∀ l ∈ c.predicateCaptures, l ∈ c.labels) :
    (∀ caps, matchTop t c n = some caps → Satisfies t c n caps) ∧
      ((∃ caps, matchTop t c n = some caps) ↔ ∃ caps, Satisfies t c n caps) := by
  have hnamed : ∀ {caps : List Capture}, Placed t c n caps → ∀ p ∈ c.allPredicates,
      ∀ l ∈ p.captures, l ∈ caps.map Capture.label := by
    intro caps hplaced p hp l hl
    rw [hplaced.labels]
    exact hbound l (by
      rw [Clause.predicateCaptures_eq_flatMap]
      exact List.mem_flatMap.mpr ⟨p, hp, hl⟩)
  have hsound : ∀ caps, matchTop t c n = some caps → Satisfies t c n caps := by
    intro caps h
    obtain ⟨caps', hplaced, hk⟩ := placed_of_matchClause c n [] _ h
    simp only [List.nil_append] at hk
    by_cases hpreds : predicatesHold t caps' c = true
    · simp only [hpreds, if_true, Option.some.injEq] at hk
      subst hk
      refine ⟨hplaced, fun σ hσ p hp => ?_⟩
      exact (predicateHolds_iff_holds hσ (hnamed hplaced p hp)).mp
        ((predicatesHold_iff caps' c).mp hpreds p hp)
    · simp [hpreds] at hk
  refine ⟨hsound, ⟨fun ⟨caps, h⟩ => ⟨caps, hsound caps h⟩, ?_⟩⟩
  rintro ⟨caps, hplaced, hholds⟩
  have hd : (caps.map Capture.label).Nodup := hplaced.labels ▸ hdistinct
  obtain ⟨σ, hσ⟩ := exists_agrees hd
  have hpreds : predicatesHold t caps c = true := by
    refine (predicatesHold_iff caps c).mpr fun p hp => ?_
    exact (predicateHolds_iff_holds hσ (hnamed hplaced p hp)).mpr (hholds _ hσ p hp)
  have hsome : (matchTop t c n).isSome :=
    matchClause_isSome_of_placed hplaced [] (fun caps => if predicatesHold t caps c then some caps
      else none) (by simp [hpreds])
  exact Option.isSome_iff_exists.mp hsome

/-- An identifier bound to `name` and compared with `"x"` meets both hypotheses. -/
theorem matchTop_iff_satisfies_identifier :
    (Clause.mk (.named "identifier") [] [.eq "name" (.text "x") false] (some "name")).labels.Nodup ∧
      (∀ l ∈ (Clause.mk (.named "identifier") [] [.eq "name" (.text "x") false]
          (some "name")).predicateCaptures,
        l ∈ (Clause.mk (.named "identifier") [] [.eq "name" (.text "x") false]
          (some "name")).labels) ∧
      (∀ caps, matchTop default
          (.mk (.named "identifier") [] [.eq "name" (.text "x") false] (some "name")) 0 =
            some caps →
          Satisfies default
            (.mk (.named "identifier") [] [.eq "name" (.text "x") false] (some "name")) 0 caps) ∧
      ((∃ caps, matchTop default
          (.mk (.named "identifier") [] [.eq "name" (.text "x") false] (some "name")) 0 =
            some caps) ↔
        ∃ caps, Satisfies default
          (.mk (.named "identifier") [] [.eq "name" (.text "x") false] (some "name")) 0 caps) :=
  have hdistinct : (Clause.mk (.named "identifier") [] [.eq "name" (.text "x") false]
      (some "name")).labels.Nodup := by simp [Clause.labels, Clause.constraintLabels]
  have hbound : ∀ l ∈ (Clause.mk (.named "identifier") [] [.eq "name" (.text "x") false]
      (some "name")).predicateCaptures, l ∈ (Clause.mk (.named "identifier") []
        [.eq "name" (.text "x") false] (some "name")).labels := by
    simp [Clause.predicateCaptures, Clause.constraintPredicateCaptures, Predicate.captures,
      Clause.labels, Clause.constraintLabels]
  ⟨hdistinct, hbound, matchTop_iff_satisfies hdistinct hbound⟩

end Match

end ShapeSearch
