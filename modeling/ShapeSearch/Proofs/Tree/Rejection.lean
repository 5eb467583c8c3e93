import ShapeSearch.Proofs.Tree.Building

/-!
# Rejected building steps

A building step either does what it says or is rejected, and a rejected step changes
nothing at all: every check comes before the first change.  Which steps are rejected is
said here without the builder's code (`Builder.Rejects`):

* opening a node, or adding a leaf, when the span is reversed, ends past the source, is
  not inside the span of the innermost open node, starts before the end of that node's
  last child, or would be a second root (`Builder.OpenRefused`);
* marking a node missing, or closing one, when no node is open.

Since a rejected step changes nothing, a run of steps leaves the builder where the run of
its successful steps alone leaves it, and those all succeed again (`steps_keptSteps`).
-/

namespace ShapeSearch

namespace Builder

/-- Why a node with span `s` may not be opened now. -/
def OpenRefused (b : Builder) (s : Span) : Prop :=
  s.endByte < s.startByte ∨ b.source.size < s.endByte ∨
    (∃ p rest, b.stack = p :: rest ∧
      (¬ ((b.tree.spanOf p).startByte ≤ s.startByte ∧ s.endByte ≤ (b.tree.spanOf p).endByte) ∨
        ∃ l, (b.tree.children p).getLast? = some l ∧ s.startByte < (b.tree.spanOf l).endByte)) ∨
    (b.stack = [] ∧ 0 < b.nodes.size)

/-- Which steps the builder rejects in its present state. -/
def Rejects (b : Builder) : Step → Prop
  | .openNode spec | .leaf spec => b.OpenRefused spec.span
  | .markMissing | .close => b.stack = []

/-- The steps of a run whose outcome was a success, in order. -/
def keptSteps (ops : List Step) (outcomes : List (Except TreeError (Option Nat))) : List Step :=
  (ops.zip outcomes).filterMap fun
    | (s, .ok _) => some s
    | (_, .error _) => none

variable {b : Builder} {spec : NodeSpec}

theorem getLast?_children (b : Builder) (p : Nat) :
    (b.tree.children p).getLast? = (b.nodes.getD p default).children.back? := by
  simp [SyntaxTree.children, SyntaxTree.nodeAt, tree, Array.back?_eq_getElem?,
    List.getLast?_eq_getElem?]

/-- Opening passes its checks exactly when nothing refuses the span: the stack decides which
checks run, and under a parent so does its last child. -/
theorem openProblem_eq_none_iff_accepted :
    b.openProblem spec = none ↔ ¬ b.OpenRefused spec.span := by
  unfold openProblem OpenRefused
  simp only [getLast?_children]
  simp only [SyntaxTree.spanOf, SyntaxTree.nodeAt, tree]
  cases hs : b.stack with
  | nil =>
    simp only [Bool.or_eq_true, decide_eq_true_eq, reduceCtorEq, false_and, exists_false,
      true_and, Array.isEmpty_iff_size_eq_zero]
    split_ifs <;> simp_all
    omega
  | cons p rest =>
    cases hback : (b.nodes.getD p default).children.back? with
    | none =>
      simp only [Span.contains, Bool.or_eq_true, decide_eq_true_eq, reduceCtorEq, false_and,
        or_false, List.cons.injEq, exists_and_right]
      split_ifs <;> simp_all <;> omega
    | some l =>
      simp only [Span.contains, Bool.or_eq_true, decide_eq_true_eq, reduceCtorEq, false_and,
        or_false, List.cons.injEq, exists_and_right]
      split_ifs <;> simp_all <;> omega

theorem openProblem_isSome_iff :
    (b.openProblem spec).isSome ↔ b.OpenRefused spec.span := by
  by_cases hr : b.OpenRefused spec.span
  · have hsome : b.openProblem spec ≠ none := fun h => openProblem_eq_none_iff_accepted.mp h hr
    simp [Option.isSome_iff_ne_none, hsome, hr]
  · simp [hr, openProblem_eq_none_iff_accepted.mpr hr]

/-! ### Each kind of step -/

theorem openNode_error_iff :
    (∃ e, (b.openNode spec).2 = .error e) ↔ b.OpenRefused spec.span := by
  rw [← openProblem_isSome_iff]
  cases h : b.openProblem spec with
  | none => simp [openNode_result h]
  | some e => simp [openNode_of_problem h]

theorem openNode_of_error {e : TreeError} (h : (b.openNode spec).2 = .error e) :
    (b.openNode spec).1 = b := by
  cases hp : b.openProblem spec with
  | none => simp [openNode_result hp] at h
  | some e' => rw [openNode_of_problem hp]

/-- A leaf is rejected exactly when opening it is. -/
theorem leaf_error_iff :
    (∃ e, (b.leaf spec).2 = .error e) ↔ ∃ e, (b.openNode spec).2 = .error e := by
  rcases hopen : b.openNode spec with ⟨b', _ | _⟩ <;> simp [leaf, hopen]

theorem leaf_of_error {e : TreeError} (h : (b.leaf spec).2 = .error e) : (b.leaf spec).1 = b := by
  have hrefused := openNode_error_iff.mp (leaf_error_iff.mp ⟨e, h⟩)
  obtain ⟨e', hp⟩ := Option.isSome_iff_exists.mp (openProblem_isSome_iff.mpr hrefused)
  exact leaf_of_problem hp

theorem close_error_iff : (∃ e, (b.close).2 = .error e) ↔ b.stack = [] := by
  unfold close
  cases b.stack <;> simp

theorem markMissing_error_iff : (∃ e, (b.markMissing).2 = .error e) ↔ b.stack = [] := by
  unfold markMissing
  cases b.stack <;> simp

/-! ### Any step -/

theorem exists_map_eq_error {ε α β : Type} {f : α → β} {x : Except ε α} :
    (∃ e, x.map f = .error e) ↔ ∃ e, x = .error e := by
  cases x <;> simp [Except.map]

/-- A step is rejected exactly when `Rejects` says so. -/
theorem step_error_iff (s : Step) : (∃ e, (b.step s).2 = .error e) ↔ b.Rejects s := by
  cases s with
  | openNode spec =>
    have hstep : (b.step (.openNode spec)).2 = (b.openNode spec).2.map some := rfl
    rw [hstep, exists_map_eq_error]
    exact openNode_error_iff
  | leaf spec =>
    have hstep : (b.step (.leaf spec)).2 = (b.leaf spec).2.map some := rfl
    rw [hstep, exists_map_eq_error, leaf_error_iff]
    exact openNode_error_iff
  | markMissing =>
    have hstep : (b.step .markMissing).2 = (b.markMissing).2.map fun _ => none := rfl
    rw [hstep, exists_map_eq_error]
    exact markMissing_error_iff
  | close =>
    have hstep : (b.step .close).2 = (b.close).2.map fun _ => none := rfl
    rw [hstep, exists_map_eq_error]
    exact close_error_iff

/-- A rejected step leaves the builder as it was. -/
theorem step_of_error {s : Step} {e : TreeError} (h : (b.step s).2 = .error e) :
    (b.step s).1 = b := by
  have hrej : b.Rejects s := step_error_iff s |>.mp ⟨e, h⟩
  cases s with
  | openNode spec =>
    obtain ⟨e', hp⟩ := Option.isSome_iff_exists.mp (openProblem_isSome_iff.mpr hrej)
    simp [step, openNode_of_problem hp]
  | leaf spec =>
    obtain ⟨e', hp⟩ := Option.isSome_iff_exists.mp (openProblem_isSome_iff.mpr hrej)
    simp [step, leaf_of_problem hp]
  | markMissing => simp [step, markMissing_of_stack_nil hrej]
  | close => simp [step, close_of_stack_nil hrej]

/-! ### Runs of steps -/

/-- The outcomes gathered so far only come before those of the steps taken now. -/
theorem stepsFrom_eq (b : Builder) (done : Array (Except TreeError (Option Nat))) (ss : List Step) :
    b.stepsFrom done ss = ((b.steps ss).1, done ++ (b.steps ss).2.toArray) := by
  induction ss generalizing b done with
  | nil => simp [steps, stepsFrom]
  | cons s rest ih =>
    simp only [steps, stepsFrom]
    rw [ih, ih _ (#[].push _)]
    simp

theorem steps_cons (b : Builder) (s : Step) (rest : List Step) :
    b.steps (s :: rest) =
      (((b.step s).1.steps rest).1, (b.step s).2 :: ((b.step s).1.steps rest).2) := by
  rcases hs : b.step s with ⟨b', r⟩
  simp only [steps, stepsFrom, hs]
  rw [stepsFrom_eq]
  simp [steps]

/-- Dropping the rejected steps of a run changes nothing: the builder ends where it ended,
and the steps kept succeed with the outcomes they had. -/
theorem steps_keptSteps (b : Builder) (ops : List Step) :
    b.steps (keptSteps ops (b.steps ops).2) = ((b.steps ops).1, (b.steps ops).2.filter Except.isOk) := by
  induction ops generalizing b with
  | nil => simp [keptSteps, steps, stepsFrom]
  | cons s rest ih =>
    rw [steps_cons]
    cases hr : (b.step s).2 with
    | ok v =>
      have hkeep : keptSteps (s :: rest) ((b.step s).2 :: ((b.step s).1.steps rest).2) =
          s :: keptSteps rest ((b.step s).1.steps rest).2 := by
        simp [keptSteps, hr]
      rw [hr] at hkeep
      rw [hkeep, steps_cons, hr, ih]
      simp [Except.toBool]
    | error e =>
      have hsame := step_of_error hr
      have hdrop : keptSteps (s :: rest) (.error e :: ((b.step s).1.steps rest).2) =
          keptSteps rest ((b.step s).1.steps rest).2 := by
        simp [keptSteps]
      rw [hdrop, hsame, ih]
      simp [Except.toBool]

end Builder

/-- **Rejected steps change nothing.**  A building step is rejected exactly when
`Builder.Rejects` says so, a rejected step leaves the builder as it was, and so building
from the successful steps of a run alone gives the same outcome (and the same tree) as the
whole run, every kept step succeeding as it did. -/
theorem SyntaxTree.build_keptSteps :
    (∀ (b : Builder) (s : Builder.Step),
      ((∃ e, (b.step s).2 = .error e) ↔ b.Rejects s) ∧
        ∀ e, (b.step s).2 = .error e → (b.step s).1 = b) ∧
    ∀ (language : String) (source : ByteArray) (ops : List Builder.Step),
      SyntaxTree.build language source
          (Builder.keptSteps ops (SyntaxTree.build language source ops).1) =
        ((SyntaxTree.build language source ops).1.filter Except.isOk,
          (SyntaxTree.build language source ops).2) := by
  refine ⟨fun b s => ⟨Builder.step_error_iff s, fun e h => Builder.step_of_error h⟩, ?_⟩
  intro language source ops
  have h := Builder.steps_keptSteps (Builder.new language source) ops
  simp only [SyntaxTree.build, h]

/-- Closing with nothing open is rejected, and leaves an empty builder empty. -/
theorem SyntaxTree.build_keptSteps_closeEmpty :
    ((Builder.new "toy" ByteArray.empty).Rejects .close ∧
      ∃ e, ((Builder.new "toy" ByteArray.empty).step .close).2 = .error e) ∧
      ((Builder.new "toy" ByteArray.empty).step .close).1 = Builder.new "toy" ByteArray.empty := by
  have h := SyntaxTree.build_keptSteps.1 (Builder.new "toy" ByteArray.empty) .close
  have hrej : (Builder.new "toy" ByteArray.empty).Rejects .close := rfl
  obtain ⟨e, he⟩ := h.1.mpr hrej
  exact ⟨⟨hrej, e, he⟩, h.2 e he⟩

end ShapeSearch
