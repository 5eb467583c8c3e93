import ShapeSearch.Proofs.Tree.Invariant
import ShapeSearch.Search.Outcome

/-!
# The order of matches

`Match.evaluateIn` walks the ids of a subtree one after another and, in
non-overlapping mode, jumps to the `subtreeEnd` of every node where some clause
matched.  On a tree that building finishes, the walk reports exactly

* every match in the subtree, node by node in ascending id order and, at each
  node, clause by clause in index order (`subtreeMatches`);
* in non-overlapping mode, those of them whose anchor has no proper ancestor
  inside the subtree at which some clause matches (`outermostMatches`).

The specifications name nodes by descent along parent links (`Descends`), not
by id ranges.  The arena's shape (`SyntaxTree.Shaped`) is what makes the walk
right: the ids from a node to its `subtreeEnd` are its descendants, so a jump
skips exactly the nodes below a match.  A file's outcome counts the matches of
the whole tree and lists their records in the same order.
-/

namespace ShapeSearch

namespace Match

open Pattern

/-- The matches at one node: for the clause indices in increasing order, the match of the
clause with that index, when it matches there. -/
def clauseMatches (t : SyntaxTree) (p : Compiled) (n : Nat) : List Found :=
  (List.range p.clauses.length).filterMap fun i =>
    p.clauses[i]?.bind fun c => (matchTop t c n).map fun caps => ⟨i, n, caps⟩

open Classical in
/-- The nodes of the subtree of `r`, in ascending id order. -/
noncomputable def subtreeNodes (t : SyntaxTree) (r : Nat) : List Nat :=
  (List.range t.size).filter fun n => t.Descends r n

/-- Every match in the subtree of `r`: node by node, and at each node clause by clause. -/
noncomputable def subtreeMatches (t : SyntaxTree) (p : Compiled) (r : Nat) : List Found :=
  (subtreeNodes t r).flatMap (clauseMatches t p)

/-- A node lies strictly below a node of `r`'s subtree at which some clause matches. -/
def Covered (t : SyntaxTree) (p : Compiled) (r n : Nat) : Prop :=
  ∃ a, a ≠ n ∧ t.Descends r a ∧ t.Descends a n ∧ clauseMatches t p a ≠ []

open Classical in
/-- The matches in the subtree of `r` whose anchor is not covered by a match above it. -/
noncomputable def outermostMatches (t : SyntaxTree) (p : Compiled) (r : Nat) : List Found :=
  (subtreeMatches t p r).filter fun m => ¬Covered t p r m.anchor

/-- The matches a pattern's mode asks for in the subtree of `r`. -/
noncomputable def expectedMatches (t : SyntaxTree) (p : Compiled) (r : Nat) : List Found :=
  match p.mode with
  | .all => subtreeMatches t p r
  | .nonOverlapping => outermostMatches t p r

/-! ### One node -/

theorem filterMap_zipIdx (t : SyntaxTree) (n : Nat) :
    ∀ (cs : List Clause) (k : Nat),
      (cs.zipIdx k).filterMap (fun (c, i) => (matchTop t c n).map fun caps => (⟨i, n, caps⟩ : Found)) =
        (List.range' k cs.length).filterMap fun i =>
          cs[i - k]?.bind fun c => (matchTop t c n).map fun caps => ⟨i, n, caps⟩
  | [], _ => rfl
  | c :: cs, k => by
      rw [List.zipIdx_cons, List.length_cons, List.range'_succ, List.filterMap_cons,
        List.filterMap_cons, filterMap_zipIdx t n cs (k + 1), Nat.sub_self]
      have hrest : ∀ i ∈ List.range' (k + 1) cs.length,
          (c :: cs)[i - k]?.bind (fun c => (matchTop t c n).map fun caps => (⟨i, n, caps⟩ : Found)) =
            cs[i - (k + 1)]?.bind fun c => (matchTop t c n).map fun caps => ⟨i, n, caps⟩ := by
        intro i hi
        have hk : k + 1 ≤ i := (List.mem_range'_1.mp hi).1
        rw [show i - k = (i - (k + 1)) + 1 by omega, List.getElem?_cons_succ]
      rw [List.filterMap_congr hrest]
      simp

/-- The per-node list the walk uses is the clause-by-clause one. -/
theorem matchesAt_eq_clauseMatches (t : SyntaxTree) (p : Compiled) (n : Nat) :
    matchesAt t p n = clauseMatches t p n := by
  rw [matchesAt, clauseMatches, List.range_eq_range', filterMap_zipIdx t n p.clauses 0]
  simp only [Nat.sub_zero]

theorem anchor_of_mem_matchesAt {t : SyntaxTree} {p : Compiled} {n : Nat} {m : Found}
    (hm : m ∈ matchesAt t p n) : m.anchor = n := by
  obtain ⟨⟨c, i⟩, -, hci⟩ := List.mem_filterMap.mp hm
  obtain ⟨caps, -, rfl⟩ := Option.map_eq_some_iff.mp hci
  rfl

/-- Filtering matches by their anchor is filtering the nodes they come from. -/
theorem filter_flatMap_matchesAt (t : SyntaxTree) (p : Compiled) (P : Nat → Bool) :
    ∀ ns : List Nat,
      (ns.flatMap (matchesAt t p)).filter (fun m => P m.anchor) =
        (ns.filter P).flatMap (matchesAt t p)
  | [] => rfl
  | n :: ns => by
      rw [List.flatMap_cons, List.filter_append, filter_flatMap_matchesAt t p P ns,
        List.filter_cons]
      have hanchor : ∀ m ∈ matchesAt t p n, P m.anchor = P n := fun m hm => by
        rw [anchor_of_mem_matchesAt hm]
      by_cases hn : P n = true
      · rw [List.filter_eq_self.mpr fun m hm => (hanchor m hm).trans hn, if_pos hn,
          List.flatMap_cons]
      · rw [List.filter_eq_nil_iff.mpr fun m hm => by rw [hanchor m hm]; exact hn,
          if_neg hn, List.nil_append]

/-! ### The walk -/

theorem matchesFrom_eq (t : SyntaxTree) (p : Compiled) (next stop : Nat) :
    matchesFrom t p next stop =
      if next < stop then
        matchesAt t p next ++ matchesFrom t p (nextAfter t p next (matchesAt t p next)) stop
      else [] := by
  rw [matchesFrom]
  by_cases h : next < stop <;> simp [h]

/-- In `all` mode the walk visits every id from `next` up to `stop`. -/
theorem matchesFrom_all {t : SyntaxTree} {p : Compiled} (hmode : p.mode = .all) (next stop : Nat) :
    matchesFrom t p next stop = (List.range' next (stop - next)).flatMap (matchesAt t p) := by
  induction hk : stop - next using Nat.strongRecOn generalizing next with
  | _ k ih =>
      rw [matchesFrom_eq]
      by_cases hlt : next < stop
      · have hstep : nextAfter t p next (matchesAt t p next) = next + 1 := by
          simp [nextAfter, hmode]
        rw [if_pos hlt, hstep, ih (stop - (next + 1)) (by omega) (next + 1) rfl,
          show k = (stop - (next + 1)) + 1 by omega, List.range'_succ, List.flatMap_cons]
      · rw [if_neg hlt, show k = 0 by omega]
        rfl

theorem range'_append_range' {a b c : Nat} (hab : a ≤ b) (hbc : b ≤ c) :
    List.range' a (b - a) ++ List.range' b (c - b) = List.range' a (c - a) := by
  have h : List.range' a (b - a) ++ List.range' (a + (b - a)) (c - b) =
      List.range' a (b - a + (c - b)) := List.range'_append_1
  rwa [Nat.add_sub_cancel' hab, show b - a + (c - b) = c - a by omega] at h

/-! ### The subtree of a node -/

section Subtree

variable {t : SyntaxTree} {p : Compiled} {r : Nat}

/-- The nodes of a subtree are the ids of its range. -/
theorem subtreeNodes_eq (hs : t.Shaped) (hr : r < t.size) :
    subtreeNodes t r = List.range' r (t.subtreeEnd r - r) := by
  have hlt := hs.lt_subtreeEnd hr
  have hend := hs.subtreeEnd_le_size hr
  have hsplit : List.range t.size = List.range' 0 (r - 0) ++
      (List.range' r (t.subtreeEnd r - r) ++
        List.range' (t.subtreeEnd r) (t.size - t.subtreeEnd r)) := by
    rw [range'_append_range' (Nat.le_of_lt hlt) hend,
      range'_append_range' (Nat.zero_le r) (Nat.le_of_lt hr), List.range_eq_range', Nat.sub_zero]
  unfold subtreeNodes
  rw [hsplit, List.filter_append, List.filter_append, List.filter_eq_nil_iff.mpr ?before,
    List.filter_eq_self.mpr ?inside, List.filter_eq_nil_iff.mpr ?after, List.nil_append,
    List.append_nil]
  case before =>
    intro n hn
    rw [List.mem_range'_1] at hn
    simp only [decide_eq_true_eq, hs.descends_iff r n hr]
    omega
  case inside =>
    intro n hn
    rw [List.mem_range'_1] at hn
    simp only [decide_eq_true_eq, hs.descends_iff r n hr]
    omega
  case after =>
    intro n hn
    rw [List.mem_range'_1] at hn
    simp only [decide_eq_true_eq, hs.descends_iff r n hr]
    omega

/-- Inside the subtree, a node is covered when the range of a node at which some clause
matches strictly contains it. -/
theorem covered_iff (hs : t.Shaped) (hr : r < t.size) {n : Nat} (hn : n < t.subtreeEnd r) :
    Covered t p r n ↔ ∃ a, r ≤ a ∧ a < n ∧ n < t.subtreeEnd a ∧ matchesAt t p a ≠ [] := by
  have hend := hs.subtreeEnd_le_size hr
  constructor
  · rintro ⟨a, hne, hra, han, hm⟩
    obtain ⟨hra1, hra2⟩ := (hs.descends_iff r a hr).mp hra
    obtain ⟨han1, han2⟩ := (hs.descends_iff a n (by omega)).mp han
    exact ⟨a, hra1, by omega, han2, by rwa [matchesAt_eq_clauseMatches]⟩
  · rintro ⟨a, hra, han, hna, hm⟩
    refine ⟨a, by omega, (hs.descends_iff r a hr).mpr ⟨hra, by omega⟩,
      (hs.descends_iff a n (by omega)).mpr ⟨by omega, hna⟩, ?_⟩
    rwa [← matchesAt_eq_clauseMatches]

/-- Where the non-overlapping walk may stand: every node of the subtree before `i` at which
some clause matched has its whole range before `i`. -/
def Passed (t : SyntaxTree) (p : Compiled) (r i : Nat) : Prop :=
  ∀ a, r ≤ a → a < i → matchesAt t p a ≠ [] → t.subtreeEnd a ≤ i

theorem passed_start (t : SyntaxTree) (p : Compiled) (r : Nat) : Passed t p r r :=
  fun _ hra har _ => absurd har (Nat.not_lt.mpr hra)

namespace Passed

variable {i : Nat}

/-- The walk never stands on a covered node. -/
theorem not_covered (hP : Passed t p r i) (hs : t.Shaped) (hr : r < t.size)
    (hi : i < t.subtreeEnd r) : ¬Covered t p r i := by
  rw [covered_iff hs hr hi]
  rintro ⟨a, hra, hai, hia, hm⟩
  have := hP a hra hai hm
  omega

/-- Past a node without matches the walk steps to the next id. -/
theorem next_unmatched (hP : Passed t p r i) (hm : matchesAt t p i = []) :
    Passed t p r (i + 1) := by
  intro a hra hai ha
  rcases Nat.lt_succ_iff_lt_or_eq.mp hai with hlt | rfl
  · have := hP a hra hlt ha
    omega
  · exact absurd hm ha

/-- Past a node with matches the walk jumps to the end of its range: a matching node inside
that range has its range nested in it. -/
theorem next_matched (hP : Passed t p r i) (hs : t.Shaped) (hi : i < t.size) :
    Passed t p r (t.subtreeEnd i) := by
  intro a hra hai ha
  have hlti := hs.lt_subtreeEnd hi
  by_cases hlt : a < i
  · have := hP a hra hlt ha
    omega
  · have hend := hs.subtreeEnd_le_size hi
    rcases hs.nested_or_disjoint i a hi (by omega) (by omega) with h | h
    · omega
    · exact h

end Passed

open Classical in
/-- From a passed position, the non-overlapping walk reports the matches of the uncovered
nodes up to the subtree end.  The induction is on the distance to the subtree end: `Passed`
carries the walk from one stop to the next, and a jump skips the rest of a matched node's
range, all of it covered. -/
theorem matchesFrom_nonOverlapping (hs : t.Shaped) (hr : r < t.size)
    (hmode : p.mode = .nonOverlapping) (i : Nat) (hri : r ≤ i) (hP : Passed t p r i) :
    matchesFrom t p i (t.subtreeEnd r) =
      ((List.range' i (t.subtreeEnd r - i)).filter fun n => ¬Covered t p r n).flatMap
        (matchesAt t p) := by
  induction hk : t.subtreeEnd r - i using Nat.strongRecOn generalizing i with
  | _ k ih =>
    rw [matchesFrom_eq]
    by_cases hlt : i < t.subtreeEnd r
    · have hi : i < t.size := Nat.lt_of_lt_of_le hlt (hs.subtreeEnd_le_size hr)
      rw [if_pos hlt, show k = (t.subtreeEnd r - (i + 1)) + 1 by omega, List.range'_succ,
        List.filter_cons_of_pos (by simpa using hP.not_covered hs hr hlt), List.flatMap_cons]
      by_cases hm : matchesAt t p i = []
      · have hnext : nextAfter t p i (matchesAt t p i) = i + 1 := by
          simp [nextAfter, hm]
        rw [hnext, ih _ (by omega) (i + 1) (by omega) (hP.next_unmatched hm) rfl]
      · have hlti := hs.lt_subtreeEnd hi
        have hle : t.subtreeEnd i ≤ t.subtreeEnd r := by
          rcases hs.nested_or_disjoint r i hr hi hri with h | h
          · omega
          · exact h
        have hnext : nextAfter t p i (matchesAt t p i) = t.subtreeEnd i := by
          simp only [nextAfter, hmode, beq_self_eq_true, List.isEmpty_eq_false_iff.mpr hm,
            Bool.not_false, Bool.and_self, if_true]
          omega
        have hcovered : (List.range' (i + 1) (t.subtreeEnd i - (i + 1))).filter
            (fun n => ¬Covered t p r n) = [] := by
          refine List.filter_eq_nil_iff.mpr fun n hn => ?_
          rw [List.mem_range'_1] at hn
          simp only [decide_eq_true_eq, not_not]
          exact (covered_iff hs hr (by omega)).mpr ⟨i, hri, by omega, by omega, hm⟩
        rw [hnext, ih _ (by omega) (t.subtreeEnd i) (by omega) (hP.next_matched hs hi) rfl,
          ← range'_append_range' (by omega : i + 1 ≤ t.subtreeEnd i) hle, List.filter_append,
          hcovered, List.nil_append]
    · rw [if_neg hlt, show k = 0 by omega]
      rfl

open Classical in
/-- **The walk reports the expected matches** on every shaped tree and from every node. -/
theorem evaluateIn_eq_expectedMatches (hs : t.Shaped) (hr : r < t.size) :
    evaluateIn t p r = expectedMatches t p r := by
  have hclause : clauseMatches t p = matchesAt t p :=
    funext fun n => (matchesAt_eq_clauseMatches t p n).symm
  unfold evaluateIn expectedMatches
  cases hmode : p.mode with
  | all =>
      rw [matchesFrom_all hmode, subtreeMatches, subtreeNodes_eq hs hr, hclause]
  | nonOverlapping =>
      rw [matchesFrom_nonOverlapping hs hr hmode r (Nat.le_refl r) (passed_start t p r),
        outermostMatches, subtreeMatches, subtreeNodes_eq hs hr, hclause,
        filter_flatMap_matchesAt t p fun n => decide ¬Covered t p r n]

end Subtree

/-- **Searching a built tree.**  On a tree that building finishes, evaluation from any node
reports the expected matches of its subtree, and a file's outcome counts the matches of the
whole tree and lists their records in the same order. -/
theorem expectedMatches_of_build {language : String} {source : ByteArray}
    {steps : List Builder.Step} {t : SyntaxTree}
    (h : (SyntaxTree.build language source steps).2 = .ok t) (p : Compiled) {r : Nat}
    (hr : r < t.size) (path : String) :
    evaluateIn t p r = expectedMatches t p r ∧
      (Search.FileOutcome.matched path p t).matchCount = (expectedMatches t p 0).length ∧
      (Search.FileOutcome.matched path p t).records =
        (expectedMatches t p 0).flatMap (Record.ofMatch t path) := by
  have hs : t.Shaped := (SyntaxTree.tiled_of_build h).shaped
  have hwhole : evaluate t p = expectedMatches t p 0 :=
    evaluateIn_eq_expectedMatches hs hs.nonempty
  refine ⟨evaluateIn_eq_expectedMatches hs hr, ?count, ?records⟩
  case count => simp only [Search.FileOutcome.matched, hwhole]
  case records => simp only [Search.FileOutcome.matched, hwhole]

theorem expectedMatches_of_build_identifier :
    ∃ t, (SyntaxTree.build "toy" "x".toUTF8
        [.openNode ⟨"program", true, none, Span.onFirstLine 0 1⟩,
         .leaf ⟨"identifier", true, none, Span.onFirstLine 0 1⟩, .close]).2 = .ok t ∧
      1 < t.size ∧
      (evaluateIn t ⟨"toy", [.mk .anyNamed [] [] none], [], .nonOverlapping⟩ 1 =
          expectedMatches t ⟨"toy", [.mk .anyNamed [] [] none], [], .nonOverlapping⟩ 1 ∧
        (Search.FileOutcome.matched "x.toy"
            ⟨"toy", [.mk .anyNamed [] [] none], [], .nonOverlapping⟩ t).matchCount =
          (expectedMatches t ⟨"toy", [.mk .anyNamed [] [] none], [], .nonOverlapping⟩ 0).length ∧
        (Search.FileOutcome.matched "x.toy"
            ⟨"toy", [.mk .anyNamed [] [] none], [], .nonOverlapping⟩ t).records =
          (expectedMatches t ⟨"toy", [.mk .anyNamed [] [] none], [], .nonOverlapping⟩ 0).flatMap
            (Record.ofMatch t "x.toy")) := by
  refine ⟨?tree, ?built, ?size, expectedMatches_of_build ?built _ ?size "x.toy"⟩
  case built => rfl
  case size => decide

end Match

end ShapeSearch
