import ShapeSearch.Match.Backtrack
import ShapeSearch.Proofs.Match.Placement
import ShapeSearch.Proofs.Tree.Invariant

/-!
# The engine's search: termination, restored captures and the matcher it computes

`Match.searchClause` and its two companions run the search as the engine does: one capture
list changed in place, a frame for the remaining constraints of every node entered
(`Pending`), and a continuation at the end of the chain.  They recurse on what is left to
meet along the whole chain (`Clause.weight`, `pendingWeight`) and, within one constraint, on
the candidate children left to try.  Each result below is one use of the induction this
recursion gives (`searchClause.mutual_induct`), with a case for each branch of the
searches.

* `search_isSome`: with a continuation that always returns, every search returns.
* `search_restores`: with a continuation that gives the capture list back whenever it
  answers `false`, so does every search.
* `search_congr`: a search consults its continuation only on its entry list followed by the
  captures of a placement of the clause and of the pending frames (`Placed`,
  `PlacedPending`), so two continuations that agree there give the same search.
* `search_eq_match`: with a continuation that returns and restores, the search computes
  `Match.matchClause`; in particular `searchTop_eq_matchTop`.

On a built tree every visit of a walk over a subtree moves its cursor forward
(`subtreeEnd n > n`), and the pulls hand out `Match.matchesFrom`'s matches in order
(`Matches.pull_spec`).
-/

namespace ShapeSearch

namespace Match

open Pattern

/-! ### One step of each search -/

section Steps

variable {t : SyntaxTree} {k : Continue}

/-- A clause search's answer from its children's: success as it is, failure with the list
cut back to its first `n` entries. -/
def settle (n : Nat) (r : Bool × List Capture) : Bool × List Capture :=
  if r.1 then (true, r.2) else (false, r.2.take n)

theorem searchClause_mk (node : NodeTest) (children : List Constraint)
    (predicates : List Predicate) (capture : Option String) (id : Nat) (pending : List Pending)
    (caps : List Capture) :
    searchClause t k (.mk node children predicates capture) id pending caps =
      if (!nodeSatisfies t node id || forbidden t id children) = true then some (false, caps)
      else (searchChildren t k (children.filter Constraint.onChild) 0 id pending
        (caps ++ (capture.map fun l => ⟨l, id⟩).toList)).map (settle caps.length) := by
  rw [searchClause]
  split
  · rfl
  · cases searchChildren t k (children.filter Constraint.onChild) 0 id pending
        (caps ++ (capture.map fun l => ⟨l, id⟩).toList) with
    | none => rfl
    | some r =>
      obtain ⟨found, caps'⟩ := r
      cases found <;> rfl

theorem tryChildren_cons (c : Clause) (child next : Nat) (more : List (Nat × Nat))
    (rest : List Constraint) (id : Nat) (pending : List Pending) (caps : List Capture) :
    tryChildren t k c ((child, next) :: more) rest id pending caps =
      (searchClause t k c child (⟨rest, next, id⟩ :: pending) caps).bind fun r =>
        if r.1 then some (true, r.2) else tryChildren t k c more rest id pending r.2 := by
  rw [tryChildren]
  cases searchClause t k c child (⟨rest, next, id⟩ :: pending) caps with
  | none => rfl
  | some r =>
    obtain ⟨found, caps'⟩ := r
    cases found <;> rfl

/-- A clause that passes the tests at a node. -/
theorem passes_of_not_rejected {node : NodeTest} {children : List Constraint} {id : Nat}
    (h : ¬(!nodeSatisfies t node id || forbidden t id children) = true) :
    nodeSatisfies t node id = true ∧ forbidden t id children = false := by
  simpa using h

/-- A positional candidate is the child at some position of the list, with the position
after it. -/
theorem mem_positions {id child next : Nat} :
    ∀ {is : List Nat}, (child, next) ∈ positions t id is →
      ∃ i ∈ is, t.child? id i = some child ∧ next = i + 1
  | [], h => by simp [positions] at h
  | i :: is, h => by
    rw [positions] at h
    split at h
    · rename_i c hc
      rcases List.mem_cons.mp h with h | h
      · obtain ⟨rfl, rfl⟩ := Prod.mk.injEq _ _ _ _ ▸ h
        exact ⟨i, List.mem_cons_self, hc, rfl⟩
      · obtain ⟨j, hj, hcj, rfl⟩ := mem_positions h
        exact ⟨j, List.mem_cons_of_mem _ hj, hcj, rfl⟩
    · simp at h

/-- Over positions that all hold children, trying the candidates in turn is trying the
positions in turn. -/
theorem findSome?_positions {α : Type} (id : Nat) (f : Nat × Nat → Option α) :
    ∀ {is : List Nat}, (∀ i ∈ is, (t.child? id i).isSome) →
      (positions t id is).findSome? f =
        is.findSome? fun i =>
          match t.child? id i with
          | some child => f (child, i + 1)
          | none => none
  | [], _ => rfl
  | i :: is, h => by
    obtain ⟨child, hchild⟩ := Option.isSome_iff_exists.mp (h i List.mem_cons_self)
    have ih := findSome?_positions id f fun j hj => h j (List.mem_cons_of_mem _ hj)
    rw [positions, hchild, List.findSome?_cons, List.findSome?_cons, hchild, ih]

/-- Every position from the cursor to the child count holds a child. -/
theorem child?_isSome_of_mem_range' {id cursor i : Nat}
    (hi : i ∈ List.range' cursor (t.childCount id - cursor)) : (t.child? id i).isSome := by
  have hlt : i < (t.children id).length := by
    rw [← SyntaxTree.childCount_eq_length]
    obtain ⟨hlo, hhi⟩ := List.mem_range'_1.mp hi
    omega
  rw [SyntaxTree.child?_eq_getElem?, List.getElem?_eq_getElem hlt]
  rfl

end Steps

/-- A continuation that always returns. -/
def Returns (k : Continue) : Prop :=
  ∀ caps, (k caps).isSome

/-- A continuation that gives the capture list back whenever it answers `false`. -/
def Restores (k : Continue) : Prop :=
  ∀ caps r, k caps = some (false, r) → r = caps

/-- `PlacedPending t pending caps`: the constraints of every pending frame are met by
children of its node from its cursor on; `caps` are their captures, innermost frame first. -/
inductive PlacedPending (t : SyntaxTree) : List Pending → List Capture → Prop
  | nil : PlacedPending t [] []
  | cons {p : Pending} {ps : List Pending} {caps more : List Capture}
      (hp : PlacedChildren t p.constraints p.node p.cursor caps)
      (hps : PlacedPending t ps more) :
      PlacedPending t (p :: ps) (caps ++ more)

/-- The pending frames as a continuation of `Match.matchChildren`: meet the constraints of
each frame in turn, innermost first, then take what `k` accepts. -/
def resume (t : SyntaxTree) (k : Continue) : List Pending → List Capture → Option (List Capture)
  | [] => fun caps => (k caps).bind fun r => if r.1 then some r.2 else none
  | p :: ps => fun caps => matchChildren t p.constraints p.cursor p.node caps (resume t k ps)

/-- A search's answer from the matcher's: success with its captures, or failure with the
list the search was given. -/
def outcome (caps : List Capture) : Option (List Capture) → Bool × List Capture
  | some r => (true, r)
  | none => (false, caps)

section Searches

variable {t : SyntaxTree} {k : Continue}

/-! ### Every search returns -/

/-- With a continuation that always returns, every search returns: the calls it makes
leave fewer constraints to meet, or fewer candidates to try. -/
theorem search_isSome (hk : Returns k) :
    (∀ c id pending caps, (searchClause t k c id pending caps).isSome) ∧
    (∀ cs cursor id pending caps, (searchChildren t k cs cursor id pending caps).isSome) ∧
    (∀ c cands rest id pending caps, (tryChildren t k c cands rest id pending caps).isSome) := by
  refine searchClause.mutual_induct t
    (fun c id pending caps => (searchClause t k c id pending caps).isSome)
    (fun cs cursor id pending caps => (searchChildren t k cs cursor id pending caps).isSome)
    (fun c cands rest id pending caps => (tryChildren t k c cands rest id pending caps).isSome)
    ?rejected ?accepted ?done ?resume ?field ?positional ?absent ?exhausted ?attempt
  case rejected =>
    intro id pending caps node cs predicates capture hrej
    rw [searchClause_mk, if_pos hrej]
    rfl
  case accepted =>
    intro id pending caps node cs predicates capture hpass ih
    rw [searchClause_mk, if_neg hpass]
    simpa using ih
  case done =>
    intro cursor id caps
    rw [searchChildren]
    exact hk caps
  case resume =>
    intro cursor id caps p ps ih
    rwa [searchChildren]
  case field =>
    intro cursor id pending caps name c rest ih
    rwa [searchChildren]
  case positional =>
    intro cursor id pending caps c rest ih
    rwa [searchChildren]
  case absent =>
    intro cursor id pending caps name rest ih
    rwa [searchChildren]
  case exhausted =>
    intro c rest id pending caps
    rw [tryChildren]
    rfl
  case attempt =>
    intro c rest id pending caps child next more ihc ihm
    obtain ⟨⟨found, caps'⟩, h⟩ := Option.isSome_iff_exists.mp ihc
    rw [tryChildren_cons, h, Option.bind_some]
    cases found
    · exact ihm caps'
    · rfl

/-! ### Failed searches give the capture list back -/

/-- With a continuation that gives the capture list back when it answers `false`, so does
every search: a clause cuts the list back to its length on entry, and a loop over
candidates starts each attempt from the list the failed one gave back. -/
theorem search_restores (hk : Restores k) :
    (∀ c id pending caps r, searchClause t k c id pending caps = some (false, r) → r = caps) ∧
    (∀ cs cursor id pending caps r,
      searchChildren t k cs cursor id pending caps = some (false, r) → r = caps) ∧
    (∀ c cands rest id pending caps r,
      tryChildren t k c cands rest id pending caps = some (false, r) → r = caps) := by
  refine searchClause.mutual_induct t
    (fun c id pending caps => ∀ r, searchClause t k c id pending caps = some (false, r) → r = caps)
    (fun cs cursor id pending caps => ∀ r,
      searchChildren t k cs cursor id pending caps = some (false, r) → r = caps)
    (fun c cands rest id pending caps => ∀ r,
      tryChildren t k c cands rest id pending caps = some (false, r) → r = caps)
    ?rejected ?accepted ?done ?resume ?field ?positional ?absent ?exhausted ?attempt
  case rejected =>
    intro id pending caps node cs predicates capture hrej r h
    rw [searchClause_mk, if_pos hrej, Option.some.injEq, Prod.mk.injEq] at h
    exact h.2.symm
  case accepted =>
    intro id pending caps node cs predicates capture hpass ih r h
    rw [searchClause_mk, if_neg hpass] at h
    obtain ⟨⟨found, l⟩, hl, hsettle⟩ := Option.map_eq_some_iff.mp h
    cases found
    · simp only [settle, Bool.false_eq_true, if_false, Prod.mk.injEq, true_and] at hsettle
      rw [← hsettle, ih l hl, List.take_left]
    · simp [settle] at hsettle
  case done =>
    intro cursor id caps r h
    rw [searchChildren] at h
    exact hk caps r h
  case resume =>
    intro cursor id caps p ps ih r h
    rw [searchChildren] at h
    exact ih r h
  case field =>
    intro cursor id pending caps name c rest ih r h
    rw [searchChildren] at h
    exact ih r h
  case positional =>
    intro cursor id pending caps c rest ih r h
    rw [searchChildren] at h
    exact ih r h
  case absent =>
    intro cursor id pending caps name rest ih r h
    rw [searchChildren] at h
    exact ih r h
  case exhausted =>
    intro c rest id pending caps r h
    rw [tryChildren, Option.some.injEq, Prod.mk.injEq] at h
    exact h.2.symm
  case attempt =>
    intro c rest id pending caps child next more ihc ihm r h
    rw [tryChildren_cons] at h
    obtain ⟨⟨found, l⟩, hl, hmore⟩ := Option.bind_eq_some_iff.mp h
    cases found
    · rw [← ihc l hl]
      exact ihm l r hmore
    · simp at hmore

/-! ### A search consults its continuation only after a placement -/

/-- Absent fields ask nothing of a placement of the children. -/
theorem placedChildren_of_filter {n : Nat} :
    ∀ {cs : List Constraint} {lo : Nat} {caps : List Capture},
      PlacedChildren t (cs.filter Constraint.onChild) n lo caps → PlacedChildren t cs n lo caps
  | [], _, _, h => by simpa using h
  | .field name c :: rest, lo, caps, h => by
    simp only [List.filter, Constraint.onChild] at h
    cases h with
    | field hchild hfield hc hrest => exact .field hchild hfield hc (placedChildren_of_filter hrest)
  | .positional c :: rest, lo, caps, h => by
    simp only [List.filter, Constraint.onChild] at h
    cases h with
    | positional hlo hchild hc hrest =>
      exact .positional hlo hchild hc (placedChildren_of_filter hrest)
  | .absent name :: rest, lo, caps, h => by
    simp only [List.filter, Constraint.onChild] at h
    exact .absent (placedChildren_of_filter h)

/-- A search consults its continuation only on its entry list followed by the captures of a
placement of what is left to meet: the clause (the constraints from the cursor on, the
clause on one of the candidates and the constraints after it) and then the pending frames.
So two continuations that agree on those lists give the same search, provided one of them
gives the list back when it answers `false`: then every failed attempt leaves the list as it
found it, and the next one is consulted on a list of the same form. -/
theorem search_congr (hk : Restores k) :
    (∀ c id pending caps (k' : Continue),
      (∀ l m, Placed t c id l → PlacedPending t pending m →
        k' (caps ++ l ++ m) = k (caps ++ l ++ m)) →
      searchClause t k' c id pending caps = searchClause t k c id pending caps) ∧
    (∀ cs cursor id pending caps (k' : Continue),
      (∀ l m, PlacedChildren t cs id cursor l → PlacedPending t pending m →
        k' (caps ++ l ++ m) = k (caps ++ l ++ m)) →
      searchChildren t k' cs cursor id pending caps = searchChildren t k cs cursor id pending caps) ∧
    (∀ c cands rest id pending caps (k' : Continue),
      (∀ q ∈ cands, ∀ l l' m, Placed t c q.1 l → PlacedChildren t rest id q.2 l' →
        PlacedPending t pending m → k' (caps ++ l ++ l' ++ m) = k (caps ++ l ++ l' ++ m)) →
      tryChildren t k' c cands rest id pending caps = tryChildren t k c cands rest id pending caps) := by
  refine searchClause.mutual_induct t
    (fun c id pending caps => ∀ k' : Continue,
      (∀ l m, Placed t c id l → PlacedPending t pending m →
        k' (caps ++ l ++ m) = k (caps ++ l ++ m)) →
      searchClause t k' c id pending caps = searchClause t k c id pending caps)
    (fun cs cursor id pending caps => ∀ k' : Continue,
      (∀ l m, PlacedChildren t cs id cursor l → PlacedPending t pending m →
        k' (caps ++ l ++ m) = k (caps ++ l ++ m)) →
      searchChildren t k' cs cursor id pending caps = searchChildren t k cs cursor id pending caps)
    (fun c cands rest id pending caps => ∀ k' : Continue,
      (∀ q ∈ cands, ∀ l l' m, Placed t c q.1 l → PlacedChildren t rest id q.2 l' →
        PlacedPending t pending m → k' (caps ++ l ++ l' ++ m) = k (caps ++ l ++ l' ++ m)) →
      tryChildren t k' c cands rest id pending caps = tryChildren t k c cands rest id pending caps)
    ?rejected ?accepted ?done ?resume ?field ?positional ?absent ?exhausted ?attempt
  case rejected =>
    intro id pending caps node cs predicates capture hrej k' _
    rw [searchClause_mk, searchClause_mk, if_pos hrej, if_pos hrej]
  case accepted =>
    intro id pending caps node cs predicates capture hpass ih k' hagree
    rw [searchClause_mk, searchClause_mk, if_neg hpass, if_neg hpass]
    obtain ⟨hnode, hfree⟩ := passes_of_not_rejected hpass
    refine congrArg (Option.map _) (ih k' fun l m hl hm => ?_)
    have hplaced : Placed t (.mk node cs predicates capture) id
        ((capture.map fun l => ⟨l, id⟩).toList ++ l) :=
      .mk (nodeSatisfies_iff.mp hnode) (forbidden_eq_false_iff.mp hfree)
        (placedChildren_of_filter hl)
    simpa using hagree _ m hplaced hm
  case done =>
    intro cursor id caps k' hagree
    rw [searchChildren, searchChildren]
    simpa using hagree [] [] .nil .nil
  case resume =>
    intro cursor id caps p ps ih k' hagree
    rw [searchChildren, searchChildren]
    exact ih k' fun l m hl hm => by simpa using hagree [] (l ++ m) .nil (.cons hl hm)
  case field =>
    intro cursor id pending caps name c rest ih k' hagree
    rw [searchChildren, searchChildren]
    refine ih k' fun q hq l l' m hl hl' hm => ?_
    obtain ⟨child, hchild, rfl⟩ := List.mem_map.mp hq
    obtain ⟨hmem, hfield⟩ := SyntaxTree.mem_childrenByField.mp hchild
    simpa using hagree (l ++ l') m (.field hmem hfield hl hl') hm
  case positional =>
    intro cursor id pending caps c rest ih k' hagree
    rw [searchChildren, searchChildren]
    refine ih k' fun q hq l l' m hl hl' hm => ?_
    obtain ⟨child, next⟩ := q
    obtain ⟨i, hi, hchild, rfl⟩ := mem_positions hq
    have hlo : cursor ≤ i := (List.mem_range'_1.mp hi).1
    have hat : (t.children id)[i]? = some child := (SyntaxTree.child?_eq_getElem? id i).symm.trans hchild
    simpa using hagree (l ++ l') m (.positional hlo hat hl hl') hm
  case absent =>
    intro cursor id pending caps name rest ih k' hagree
    rw [searchChildren, searchChildren]
    exact ih k' fun l m hl hm => hagree l m (.absent hl) hm
  case exhausted =>
    intro c rest id pending caps k' _
    rw [tryChildren, tryChildren]
  case attempt =>
    intro c rest id pending caps child next more ihc ihm k' hagree
    have hhead : searchClause t k' c child (⟨rest, next, id⟩ :: pending) caps =
        searchClause t k c child (⟨rest, next, id⟩ :: pending) caps := by
      refine ihc k' fun l m hl hm => ?_
      cases hm with
      | cons hp hps => simpa using hagree (child, next) List.mem_cons_self l _ _ hl hp hps
    rw [tryChildren_cons, tryChildren_cons, hhead]
    cases h : searchClause t k c child (⟨rest, next, id⟩ :: pending) caps with
    | none => rfl
    | some r =>
      obtain ⟨found, l⟩ := r
      cases found
      · simp only [Option.bind_some, Bool.false_eq_true, if_false]
        rw [(search_restores hk).1 _ _ _ _ _ h]
        exact ihm caps k' fun q hq => hagree q (List.mem_cons_of_mem _ hq)
      · rfl

/-! ### The search computes the matcher -/

/-- `Match.matchChildren` skips absent fields, so it can be handed the constraints without
them. -/
theorem matchChildren_filter_onChild (k : List Capture → Option (List Capture)) :
    ∀ (cs : List Constraint) (cursor id : Nat) (caps : List Capture),
      matchChildren t (cs.filter Constraint.onChild) cursor id caps k =
        matchChildren t cs cursor id caps k
  | [], _, _, _ => rfl
  | .field name c :: rest, cursor, id, caps => by
    simp only [List.filter, Constraint.onChild, matchChildren, matchChildren_filter_onChild k rest]
  | .positional c :: rest, cursor, id, caps => by
    simp only [List.filter, Constraint.onChild, matchChildren, matchChildren_filter_onChild k rest]
  | .absent name :: rest, cursor, id, caps => by
    simp only [List.filter, Constraint.onChild, matchChildren, matchChildren_filter_onChild k rest]

/-- With a continuation that always returns and gives the list back when it answers
`false`, every search returns what `Match.matchClause` finds with the pending frames and the
continuation's acceptances as its continuation: success with the matcher's captures, or
failure with the entry list.  A refusal of the continuation gives the list back, which the
matcher reads as no match. -/
theorem search_eq_match (hk : Returns k) (hr : Restores k) :
    (∀ c id pending caps, searchClause t k c id pending caps =
      some (outcome caps (matchClause t c id caps (resume t k pending)))) ∧
    (∀ cs cursor id pending caps, searchChildren t k cs cursor id pending caps =
      some (outcome caps (matchChildren t cs cursor id caps (resume t k pending)))) ∧
    (∀ c cands rest id pending caps, tryChildren t k c cands rest id pending caps =
      some (outcome caps (cands.findSome? fun q =>
        matchClause t c q.1 caps fun l => matchChildren t rest q.2 id l (resume t k pending)))) := by
  refine searchClause.mutual_induct t
    (fun c id pending caps => searchClause t k c id pending caps =
      some (outcome caps (matchClause t c id caps (resume t k pending))))
    (fun cs cursor id pending caps => searchChildren t k cs cursor id pending caps =
      some (outcome caps (matchChildren t cs cursor id caps (resume t k pending))))
    (fun c cands rest id pending caps => tryChildren t k c cands rest id pending caps =
      some (outcome caps (cands.findSome? fun q =>
        matchClause t c q.1 caps fun l => matchChildren t rest q.2 id l (resume t k pending))))
    ?rejected ?accepted ?done ?resume ?field ?positional ?absent ?exhausted ?attempt
  case rejected =>
    intro id pending caps node cs predicates capture hrej
    rw [searchClause_mk, matchClause, if_pos hrej, if_pos hrej]
    rfl
  case accepted =>
    intro id pending caps node cs predicates capture hpass ih
    rw [searchClause_mk, matchClause, if_neg hpass, if_neg hpass, ih, Option.map_some,
      matchChildren_filter_onChild]
    cases matchChildren t cs 0 id (caps ++ (capture.map fun l => ⟨l, id⟩).toList)
        (resume t k pending) with
    | none => simp [settle, outcome]
    | some r => simp [settle, outcome]
  case done =>
    intro cursor id caps
    obtain ⟨⟨found, r⟩, h⟩ := Option.isSome_iff_exists.mp (hk caps)
    rw [searchChildren, h, matchChildren]
    cases found
    · rw [hr caps r h]
      simp [resume, h, outcome]
    · simp [resume, h, outcome]
  case resume =>
    intro cursor id caps p ps ih
    rw [searchChildren, ih, matchChildren]
    rfl
  case field =>
    intro cursor id pending caps name c rest ih
    rw [searchChildren, ih, matchChildren, List.findSome?_map]
    rfl
  case positional =>
    intro cursor id pending caps c rest ih
    rw [searchChildren, ih, matchChildren]
    exact congrArg (some ∘ outcome caps)
      (findSome?_positions id _ fun i hi => child?_isSome_of_mem_range' hi)
  case absent =>
    intro cursor id pending caps name rest ih
    rw [searchChildren, ih, matchChildren]
  case exhausted =>
    intro c rest id pending caps
    rw [tryChildren, List.findSome?_nil, outcome]
  case attempt =>
    intro c rest id pending caps child next more ihc ihm
    rw [tryChildren_cons, ihc, List.findSome?_cons]
    dsimp only [resume]
    cases matchClause t c child caps (fun l => matchChildren t rest next id l (resume t k pending)) with
    | none =>
      simp only [outcome, Option.bind_some, Bool.false_eq_true, if_false]
      exact ihm caps
    | some r => rfl

/-- A top-level match as the engine runs it returns, and finds what `Match.matchTop` finds. -/
theorem searchTop_eq_matchTop (t : SyntaxTree) (c : Clause) (id : Nat) :
    searchTop t c id = some (matchTop t c id) := by
  have hk : Returns fun caps => some (predicatesHold t caps c, caps) := fun _ => rfl
  have hr : Restores fun caps => some (predicatesHold t caps c, caps) := by
    intro caps r h
    simp only [Option.some.injEq, Prod.mk.injEq] at h
    exact h.2.symm
  have haccept : resume t (fun caps => some (predicatesHold t caps c, caps)) [] =
      fun caps => if predicatesHold t caps c then some caps else none := by
    funext caps
    simp [resume]
  rw [searchTop, (search_eq_match hk hr).1, haccept, Option.map_some, matchTop]
  cases matchClause t c id [] fun caps => if predicatesHold t caps c then some caps else none with
  | none => rfl
  | some r => rfl

end Searches

/-! ### The walk over a subtree -/

namespace Matches

variable {t : SyntaxTree} {p : Compiled}

/-- On a built tree a visit moves the walk to where `Match.matchesFrom` goes after the
node. -/
theorem visit_next (ht : t.Tiled) {m : Matches} (h : m.next < t.size) :
    (m.visit t p).next = nextAfter t p m.next (matchesAt t p m.next) := by
  have hend := ht.lt_subtreeEnd m.next h
  simp only [visit, nextAfter]
  split <;> omega

/-- A visit within a built tree moves the cursor strictly forward: a jump goes to the end of
the node's subtree, which lies past the node. -/
theorem lt_visit_next (ht : t.Tiled) {m : Matches} (h : m.next < t.size) :
    m.next < (m.visit t p).next := by
  rw [visit_next ht h]
  exact lt_nextAfter t p m.next _

/-- A pull is the engine's loop: hand out a queued match, else stop at the walk's end, else
visit a node and pull again. -/
theorem pull_eq_loop (m : Matches) :
    m.pull t p =
      match m.pending with
      | f :: rest => (some f, { m with pending := rest })
      | [] => if m.stop ≤ m.next then (none, m) else (m.visit t p).pull t p := by
  rw [pull]
  cases m.pending with
  | cons f rest => rfl
  | nil =>
    by_cases hstop : m.stop ≤ m.next
    · simp only [hstop, if_true]
    · simp only [hstop, if_false]
      split
      · rename_i f rest hv
        rw [pull, hv]
      · rfl

/-- A pull keeps the walk's stop. -/
theorem pull_stop (m : Matches) : (m.pull t p).2.stop = m.stop := by
  fun_induction pull t p m with
  | case1 => rfl
  | case2 => rfl
  | case3 => rfl
  | case4 m _ _ _ ih => exact ih

/-- **What a pull hands out.**  On a built tree, for a walk that stops within the tree, what
a pull hands out, followed by what the walk it leaves queues and has still to visit, is what
the walk queued and had still to visit: so pulls hand out `Match.matchesFrom`'s matches in
order.  A visit that queued matches hands out the first and keeps the rest queued; one that
queued nothing moves the walk on by one node. -/
theorem pull_spec (ht : t.Tiled) (m : Matches) (hm : m.stop ≤ t.size) :
    m.pending ++ matchesFrom t p m.next m.stop =
      ((m.pull t p).1.map fun f =>
        f :: ((m.pull t p).2.pending ++ matchesFrom t p (m.pull t p).2.next (m.pull t p).2.stop)).getD
        [] := by
  fun_induction pull t p m with
  | case1 m f rest hq => simp [hq]
  | case2 m hq hstop =>
    rw [hq, matchesFrom, dif_neg (by omega)]
    rfl
  | case3 m hq hstop f rest hv =>
    have hfound : matchesAt t p m.next = f :: rest := hv
    have hnext := visit_next (p := p) ht (m := m) (by omega)
    have hkeep : (visit t p m).stop = m.stop := rfl
    rw [hq, List.nil_append, matchesFrom, dif_pos (by omega)]
    simp only [Option.map_some, Option.getD_some, hnext, hkeep, hfound, List.cons_append]
  | case4 m hq hstop hv ih =>
    have hfound : matchesAt t p m.next = [] := hv
    have hnext := visit_next (p := p) ht (m := m) (by omega)
    have hkeep : (visit t p m).stop = m.stop := rfl
    have hrest := ih hm
    rw [hq, List.nil_append, matchesFrom, dif_pos (by omega)]
    simp only [hnext, hkeep, hv, hfound, List.nil_append] at hrest ⊢
    exact hrest

end Matches

/-! ### Main results -/

section Main

variable {t : SyntaxTree} {k : Continue}

/-- **A failed search leaves the capture list as it was.**  For a continuation that gives
the list back whenever it answers `false`, a clause search or a search of constraints from a
cursor that fails returns the list it was given; and it consults the continuation only on
that list followed by the captures of a placement of the clause (of the constraints from the
cursor on), its own capture first and then those under its constraints in written order: two
continuations that agree on those lists give the same search. -/
theorem failed_search_restores_captures (hk : Restores k) :
    (∀ c id caps r, searchClause t k c id [] caps = some (false, r) → r = caps) ∧
    (∀ cs cursor id caps r, searchChildren t k cs cursor id [] caps = some (false, r) → r = caps) ∧
    (∀ c id caps (k' : Continue), (∀ l, Placed t c id l → k' (caps ++ l) = k (caps ++ l)) →
      searchClause t k' c id [] caps = searchClause t k c id [] caps) ∧
    (∀ cs cursor id caps (k' : Continue),
      (∀ l, PlacedChildren t cs id cursor l → k' (caps ++ l) = k (caps ++ l)) →
      searchChildren t k' cs cursor id [] caps = searchChildren t k cs cursor id [] caps) := by
  refine ⟨fun c id caps r => (search_restores hk).1 c id [] caps r,
    fun cs cursor id caps r => (search_restores hk).2.1 cs cursor id [] caps r,
    fun c id caps k' hagree => (search_congr hk).1 c id [] caps k' fun l m hl hm => ?_,
    fun cs cursor id caps k' hagree => (search_congr hk).2.1 cs cursor id [] caps k' fun l m hl hm => ?_⟩
  · cases hm
    simpa using hagree l hl
  · cases hm
    simpa using hagree l hl

theorem failed_search_restores_captures_refusing :
    Restores (fun caps => some (false, caps)) ∧
      (∀ c id caps r, searchClause default (fun caps => some (false, caps)) c id [] caps =
        some (false, r) → r = caps) ∧
      (∀ cs cursor id caps r, searchChildren default (fun caps => some (false, caps)) cs cursor id
        [] caps = some (false, r) → r = caps) ∧
      (∀ c id caps (k' : Continue),
        (∀ l, Placed default c id l → k' (caps ++ l) = some (false, caps ++ l)) →
        searchClause default k' c id [] caps =
          searchClause default (fun caps => some (false, caps)) c id [] caps) ∧
      (∀ cs cursor id caps (k' : Continue),
        (∀ l, PlacedChildren default cs id cursor l → k' (caps ++ l) = some (false, caps ++ l)) →
        searchChildren default k' cs cursor id [] caps =
          searchChildren default (fun caps => some (false, caps)) cs cursor id [] caps) :=
  have hk : Restores (fun caps => some (false, caps)) := by
    intro caps r h
    simp only [Option.some.injEq, Prod.mk.injEq, true_and] at h
    exact h.symm
  ⟨hk, failed_search_restores_captures hk⟩

/-- **The search and the walk stop.**  On a tree the builder finished: with a continuation
that always returns, every clause search and every search of constraints returns, whatever
pending frames it carries; a visit moves the walk's cursor strictly forward and keeps its
stop; every walk `Matches.start` makes at a node stops within the tree; and a pull from a
walk that stops within the tree keeps its stop and hands out the next match of the walk in
document order, or nothing once the walk is done. -/
theorem search_and_walk_terminate {language : String} {source : ByteArray}
    {steps : List Builder.Step} (hbuild : (SyntaxTree.build language source steps).2 = .ok t)
    (p : Compiled) :
    (∀ k : Continue, (∀ caps, (k caps).isSome) →
      (∀ c id pending caps, (searchClause t k c id pending caps).isSome) ∧
      (∀ cs cursor id pending caps, (searchChildren t k cs cursor id pending caps).isSome)) ∧
    (∀ m : Matches, m.next < m.stop → m.stop ≤ t.size →
      m.next < (m.visit t p).next ∧ (m.visit t p).stop = m.stop) ∧
    (∀ root, root < t.size → (Matches.start t root).stop ≤ t.size) ∧
    (∀ m : Matches, m.stop ≤ t.size → (m.pull t p).2.stop = m.stop ∧
      m.pending ++ matchesFrom t p m.next m.stop =
        ((m.pull t p).1.map fun f =>
          f :: ((m.pull t p).2.pending ++ matchesFrom t p (m.pull t p).2.next m.stop)).getD []) := by
  have ht : t.Tiled := SyntaxTree.tiled_of_build hbuild
  refine ⟨fun k hk => ⟨(search_isSome hk).1, (search_isSome hk).2.1⟩,
    fun m hlt hstop => ⟨Matches.lt_visit_next ht (by omega), rfl⟩,
    fun root hroot => ht.shaped.subtreeEnd_le_size hroot,
    fun m hstop => ⟨Matches.pull_stop m, ?_⟩⟩
  have hspec := Matches.pull_spec (p := p) ht m hstop
  rwa [Matches.pull_stop m] at hspec

theorem search_and_walk_terminate_identifier :
    ∃ t, (SyntaxTree.build "toy" "x".toUTF8
        [.openNode ⟨"program", true, none, Span.onFirstLine 0 1⟩,
         .leaf ⟨"identifier", true, none, Span.onFirstLine 0 1⟩, .close]).2 = .ok t ∧
      (∀ k : Continue, (∀ caps, (k caps).isSome) →
        (∀ c id pending caps, (searchClause t k c id pending caps).isSome) ∧
        (∀ cs cursor id pending caps, (searchChildren t k cs cursor id pending caps).isSome)) ∧
      (∀ m : Matches, m.next < m.stop → m.stop ≤ t.size →
        m.next < (m.visit t ⟨"toy", [.mk .anyNamed [] [] none], [], .nonOverlapping⟩).next ∧
          (m.visit t ⟨"toy", [.mk .anyNamed [] [] none], [], .nonOverlapping⟩).stop = m.stop) ∧
      (∀ root, root < t.size → (Matches.start t root).stop ≤ t.size) ∧
      (∀ m : Matches, m.stop ≤ t.size →
        (m.pull t ⟨"toy", [.mk .anyNamed [] [] none], [], .nonOverlapping⟩).2.stop = m.stop ∧
        m.pending ++ matchesFrom t ⟨"toy", [.mk .anyNamed [] [] none], [], .nonOverlapping⟩
            m.next m.stop =
          ((m.pull t ⟨"toy", [.mk .anyNamed [] [] none], [], .nonOverlapping⟩).1.map fun f =>
            f :: ((m.pull t ⟨"toy", [.mk .anyNamed [] [] none], [], .nonOverlapping⟩).2.pending ++
              matchesFrom t ⟨"toy", [.mk .anyNamed [] [] none], [], .nonOverlapping⟩
                (m.pull t ⟨"toy", [.mk .anyNamed [] [] none], [], .nonOverlapping⟩).2.next
                m.stop)).getD []) := by
  refine ⟨?tree, ?built, search_and_walk_terminate ?built _⟩
  case built => rfl

end Main

end Match
end ShapeSearch
