import ShapeSearch.Proofs.Search.Languages
import ShapeSearch.Proofs.Search.Progress
import ShapeSearch.Proofs.Pattern.Parser

/-!
# Runs after a failed run

A searcher keeps one cancel token for all of its runs.  A run fails in one of two ways: before
it delivers anything, when its walk cannot be made, or when its sink fails on an outcome.  Only
the second sets the token, and nothing clears it, so a failure leaks into later runs exactly when
it was the sink's.

* `walk_fails_or_made`: a walk that cannot be made fails every run alike, never with an output
  error.
* `run_after_failed_run`: after a run that failed before its walk, a later run is the run of a
  fresh searcher; after a sink failure, every later run delivers nothing and reports itself
  canceled.
-/

namespace ShapeSearch

/-- A fold in `Except` whose steps fail only with errors of one kind fails only with one of
them. -/
theorem Except.foldlM_eq_error {α β ε : Type} (P : ε → Prop) {f : β → α → Except ε β}
    (hf : ∀ b a e, f b a = .error e → P e) :
    ∀ {l : List α} {init : β} {e : ε}, l.foldlM f init = .error e → P e
  | [], _, _, h => by cases h
  | a :: l, init, e, h => by
    rw [List.foldlM_cons] at h
    cases hb : f init a with
    | error e' =>
      simp only [hb, bind, Except.bind, Except.error.injEq] at h
      exact h ▸ hf init a e' hb
    | ok b =>
      simp only [hb, bind, Except.bind] at h
      exact Except.foldlM_eq_error P hf h

/-- Loading the ignore rules of a root fails only on a bad extra exclude, with a configuration
error. -/
theorem IgnoreRules.load_eq_error {d : Disk} {root : String} {extra : List String} {e : Error}
    (h : IgnoreRules.load d root extra = .error e) : ∃ m, e = .config m := by
  unfold IgnoreRules.load at h
  refine Except.foldlM_eq_error (fun e => ∃ m, e = .config m) (fun r line e' he' => ?_) h
  cases hl : IgnoreRule.ofLine line with
  | ok rule => cases rule <;> simp [hl, pure, Except.pure] at he'
  | error op =>
    simp only [hl, throw, throwThe, MonadExceptOf.throw] at he'
    cases he'
    exact ⟨_, rfl⟩

/-- A walk that cannot be made fails on its root, with the root's input/output error, or on a
bad exclude, with a configuration error. -/
theorem Walker.new_eq_error {d : Disk} {cwd root : String} {o : WalkOptions} {e : Error}
    (h : Walker.new d cwd root o = .error e) :
    (∃ cause, e = Error.ofIo root cause) ∨ ∃ m, e = .config m := by
  unfold Walker.new at h
  cases hk : d.kindOf (Path.join cwd root) with
  | error cause =>
    simp only [hk, bind, Except.bind, throw, throwThe, MonadExceptOf.throw] at h
    cases h
    exact .inl ⟨cause, rfl⟩
  | ok kind =>
    cases hl : IgnoreRules.load d (Path.absolute cwd root) o.excludes with
    | error e' =>
      simp only [hk, hl, bind, Except.bind] at h
      cases h
      exact .inr (IgnoreRules.load_eq_error hl)
    | ok rules => simp [hk, hl, bind, Except.bind, pure, Except.pure] at h

/-- A walk without extra excludes whose root exists is made, from the absolute root: without
extra excludes, loading the ignore rules cannot fail. -/
theorem Walker.new_of_kindOf {d : Disk} {cwd root : String} {o : WalkOptions} {k : EntryKind}
    (hk : d.kindOf (Path.join cwd root) = .ok k) (hx : o.excludes = []) :
    ∃ rules, Walker.new d cwd root o = .ok ⟨d, Path.absolute cwd root, o, rules⟩ := by
  simp only [Walker.new, hk, hx, bind, Except.bind]
  exact ⟨_, rfl⟩

namespace Search
namespace Searcher

open Registry

variable {s : Searcher} {d : Disk} {cwd root : String} {sink : FileOutcome → Option String}

/-! ### What a run fails with -/

/-- Delivery fails only when the sink fails on one of the outcomes, with the sink's failure. -/
theorem deliver_eq_error {σ : Type} {push : σ → FileOutcome → Except String σ} :
    ∀ {os : List FileOutcome} {st : σ} {e : Error}, deliver push st os = .error e →
      ∃ o ∈ os, ∃ st' m, push st' o = .error m ∧ e = .output m
  | [], _, _, h => by cases h
  | o :: os, st, e, h => by
    unfold deliver at h
    cases ho : push st o with
    | error m =>
      rw [ho] at h
      cases h
      exact ⟨o, List.mem_cons_self, st, m, ho, rfl⟩
    | ok st' =>
      rw [ho] at h
      obtain ⟨o', hmem, rest⟩ := deliver_eq_error h
      exact ⟨o', List.mem_cons_of_mem _ hmem, rest⟩

/-- A sink that keeps no state fails exactly where it gives a failure. -/
theorem stateless_eq_error {o : FileOutcome} {m : String} :
    stateless sink () o = .error m ↔ sink o = some m := by
  unfold stateless
  cases sink o <;> simp

/-- The walk settings of a run fail only for an override the registry does not know. -/
theorem walkOptions_eq_error {e : Error} (h : s.walkOptions = .error e) :
    ∃ tag, e = .unsupportedLanguage tag := by
  unfold walkOptions at h
  cases hext : s.options.walk.extensions.isEmpty
  · simp [hext, pure, Except.pure] at h
  · cases hlang : s.options.language with
    | none => simp [hext, hlang, pure, Except.pure] at h
    | some tag =>
      cases hg : s.registry.get tag with
      | ok g => simp [hext, hlang, hg, bind, Except.bind, pure, Except.pure] at h
      | error e' =>
        simp only [hext, hlang, hg, bind, Except.bind] at h
        cases h
        exact ⟨tag, ((Registry.get_eq_error_iff _ _ _).mp hg).2⟩

/-- Either the walk of a run cannot be made, and then every run fails with the same error, never
an output error, or it is made. -/
theorem walk_fails_or_made (s : Searcher) (d : Disk) (cwd root : String) :
    (∃ e, (∀ c sink, s.run d cwd root c sink = .error e) ∧ ∀ m, e ≠ .output m) ∨
      ∃ walk w, s.walkOptions = .ok walk ∧ Walker.new d cwd root walk = .ok w := by
  cases hw : s.walkOptions with
  | error e =>
    obtain ⟨tag, rfl⟩ := walkOptions_eq_error hw
    exact .inl ⟨.unsupportedLanguage tag,
      fun c sink => by simp [run, runWith, hw, bind, Except.bind, Except.map],
      fun m => by simp⟩
  | ok walk =>
    cases hn : Walker.new d cwd root walk with
    | error e =>
      refine .inl ⟨e, fun c sink => by simp [run, runWith, hw, hn, bind, Except.bind, Except.map],
        fun m he => ?_⟩
      rcases Walker.new_eq_error hn with ⟨cause, rfl⟩ | ⟨m', rfl⟩
      · cases cause <;> simp [Error.ofIo] at he
      · cases he
    | ok w => exact .inr ⟨walk, w, rfl, hn⟩

section Made

variable {walk : WalkOptions} {w : Walker}
  (hw : s.walkOptions = .ok walk) (hn : Walker.new d cwd root walk = .ok w)
include hw hn

/-- Once its walk is made, a run delivers the walk's outcomes, or nothing when its token is
set, and reports them with the sink's last state unless the sink fails. -/
theorem runWith_of_walk {σ : Type} (c : Bool) (push : σ → FileOutcome → Except String σ)
    (start : σ) :
    s.runWith d cwd root c push start =
      let outcomes := if c then [] else w.entries.map (s.outcomeOf d w.root)
      (deliver push start outcomes).map fun st =>
        (outcomes, { Summary.ofOutcomes outcomes with canceled := c }, st) := by
  simp only [runWith, hw, hn, bind, Except.bind]
  cases deliver push start (if c then [] else w.entries.map (s.outcomeOf d w.root)) <;> rfl

/-- The same for a sink that keeps no state. -/
theorem run_of_walk (c : Bool) (sink : FileOutcome → Option String) :
    s.run d cwd root c sink =
      let outcomes := if c then [] else w.entries.map (s.outcomeOf d w.root)
      (deliver (stateless sink) () outcomes).map fun _ =>
        (outcomes, { Summary.ofOutcomes outcomes with canceled := c }) := by
  rw [run, runWith_of_walk hw hn]
  dsimp only
  cases deliver (stateless sink) () (if c then [] else w.entries.map (s.outcomeOf d w.root)) <;>
    rfl

/-- A run whose token is set before it starts delivers nothing and says it was canceled. -/
theorem run_canceled (sink : FileOutcome → Option String) :
    s.run d cwd root true sink = .ok ([], { Summary.empty with canceled := true }) := by
  rw [run_of_walk hw hn]
  rfl

/-- With a clear token, a run fails only when its sink fails on one of the walk's outcomes. -/
theorem run_eq_error_of_walk {e : Error} (h : s.run d cwd root false sink = .error e) :
    ∃ o ∈ w.entries.map (s.outcomeOf d w.root), ∃ m, sink o = some m ∧ e = .output m := by
  rw [run_of_walk hw hn] at h
  cases hd : deliver (stateless sink) () (w.entries.map (s.outcomeOf d w.root)) with
  | error e' =>
    simp only [hd, Bool.false_eq_true, ↓reduceIte, Except.map] at h
    cases h
    obtain ⟨o, ho, _, m, hm, rfl⟩ := deliver_eq_error hd
    exact ⟨o, ho, m, stateless_eq_error.mp hm, rfl⟩
  | ok u => simp [hd, Except.map] at h

/-- With a clear token, a run that succeeds does not report itself canceled. -/
theorem run_clear_not_canceled {r : List FileOutcome × Summary}
    (h : s.run d cwd root false sink = .ok r) : r.2.canceled = false := by
  rw [run_of_walk hw hn] at h
  cases hd : deliver (stateless sink) () (w.entries.map (s.outcomeOf d w.root)) with
  | error e' => simp [hd, Except.map] at h
  | ok u =>
    simp only [hd, Bool.false_eq_true, ↓reduceIte, Except.map, Except.ok.injEq] at h
    rw [← h]

end Made

/-! ### The token a run leaves -/

/-- A sink failure sets the token. -/
theorem tokenAfter_of_output {c : Bool} {m : String}
    (h : s.run d cwd root c sink = .error (.output m)) :
    s.tokenAfter d cwd root c sink = true := by
  simp [tokenAfter, h]

/-- A run that ends otherwise than by a sink failure leaves the token as it was. -/
theorem tokenAfter_of_not_output {c : Bool}
    (h : ∀ m, s.run d cwd root c sink ≠ .error (.output m)) :
    s.tokenAfter d cwd root c sink = c := by
  unfold tokenAfter
  cases hr : s.run d cwd root c sink with
  | ok r => rfl
  | error e =>
    cases e with
    | output m => exact absurd hr (h m)
    | _ => rfl

/-- Nothing clears the token: a run that starts canceled leaves it set. -/
@[simp] theorem tokenAfter_true : s.tokenAfter d cwd root true sink = true := by
  unfold tokenAfter
  split <;> rfl

/-! ### Runs after a failure -/

/-- A failed run leaks into the next one exactly when its sink failed.  Starting with a clear
token, a run whose walk cannot be made leaves the token clear, so a later run, with any sink, is
the run of a fresh searcher; a run whose sink fails sets the token, so a later run delivers
nothing and says it was canceled, which a fresh searcher's run never says. -/
theorem run_after_failed_run (s : Searcher) (d : Disk) (cwd root : String)
    (sink sink' : FileOutcome → Option String) (e : Error)
    (hfail : s.run d cwd root false sink = .error e) :
    (s.run d cwd root (s.tokenAfter d cwd root false sink) sink' =
        s.run d cwd root false sink' ↔ ∀ m, e ≠ .output m) ∧
      ∀ m, e = .output m →
        s.run d cwd root (s.tokenAfter d cwd root false sink) sink' =
          .ok ([], { Summary.empty with canceled := true }) := by
  rcases walk_fails_or_made s d cwd root with ⟨e', hall, hne⟩ | ⟨walk, w, hw, hn⟩
  · have he : e = e' := by
      rw [hall] at hfail
      exact (Except.error.inj hfail).symm
    subst he
    have htok : s.tokenAfter d cwd root false sink = false :=
      tokenAfter_of_not_output fun m h => hne m (by rw [hall] at h; exact Except.error.inj h)
    rw [htok]
    exact ⟨iff_of_true rfl hne, fun m hm => absurd hm (hne m)⟩
  · obtain ⟨-, -, m, -, rfl⟩ := run_eq_error_of_walk hw hn hfail
    rw [tokenAfter_of_output hfail, run_canceled hw hn]
    refine ⟨iff_of_false (fun h => ?_) (fun h => h m rfl), fun _ _ => rfl⟩
    have := run_clear_not_canceled hw hn h.symm
    simp at this

/-! ### A run whose sink is closed -/

/-- The wildcard pattern `_` fits every grammar. -/
theorem compileFor_wildcard (mode : Pattern.MatchMode) (g : Grammar) :
    ∃ p, compileFor "_" mode g = .ok p := by
  have htok : Pattern.tokenize "_" = .ok #[⟨.wildcard, 0⟩] := by
    simp [Pattern.tokenize, Pattern.lexFrom, Pattern.isBlank, Pattern.isNameChar, Pattern.wordToken]
  have hvalid : ∀ c ∈ [Pattern.Clause.ofNode .any], c.ValidIn g.vocabulary := by
    intro c hc
    rw [List.mem_singleton.mp hc]
    exact ⟨⟨trivial, trivial⟩, List.nodup_nil, fun _ h => absurd h List.not_mem_nil⟩
  have hp : Pattern.compile "_" g.name g.vocabulary = _ :=
    Pattern.compile_eq_ok_of_pattern htok (.last (.plain (.any []))) hvalid
  rw [compileFor, hp]
  exact ⟨_, rfl⟩

/-- Without an override, a registry with a grammar builds a searcher for the wildcard
pattern. -/
theorem new_wildcard {r : Registry} {o : Options} (hr : r.grammarList ≠ [])
    (hlang : o.language = none) :
    ∃ s, Searcher.new r "_" o = .ok s ∧ s.registry = r ∧ s.options = o := by
  have hc : candidates r o = .ok r.grammarList := by simp [candidates, hlang]
  obtain ⟨g, gs, hgs⟩ := List.exists_cons_of_ne_nil hr
  obtain ⟨p, hp⟩ := compileFor_wildcard o.mode g
  refine ⟨_, (new_eq_ok_iff hc _).mpr ⟨?_, rfl⟩, rfl, rfl⟩
  rw [hgs]
  simp [compileAll, hp]

/-- A disk holding one empty file, `/a.txt`. -/
def oneFileDisk : Disk :=
  { entries := [(["a.txt"], .file ByteArray.empty)] }

/-- A walk from `/a.txt` over `oneFileDisk` without extra excludes is made and lists that
file. -/
theorem walk_oneFileDisk (walk : WalkOptions) (hx : walk.excludes = []) :
    ∃ w, Walker.new oneFileDisk "/" "/a.txt" walk = .ok w ∧ w.entries = [.ok "/a.txt"] := by
  have hsplit : "/a.txt".splitOn "/" = ["", "a.txt"] := by
    simp +decide [String.splitOn, String.splitOnAux]
  have hjoin : Path.join "/" "/a.txt" = "/a.txt" := by decide +kernel
  have habs : Path.absolute "/" "/a.txt" = "/a.txt" := by
    simp only [Path.absolute, hsplit]
    decide +kernel
  have hkind : oneFileDisk.kindOf "/a.txt" = .ok .file := by
    simp only [Disk.kindOf, Disk.resolve, hsplit]
    decide +kernel
  obtain ⟨rules, hn⟩ := @Walker.new_of_kindOf oneFileDisk "/" "/a.txt" walk _ (hjoin ▸ hkind) hx
  refine ⟨_, hn, ?_⟩
  simp [Walker.entries, habs, hkind]

/-- Without an override or extensions and excludes of its own, a searcher whose sink fails
fails its run over `oneFileDisk` from `/a.txt` with the sink's failure. -/
theorem run_oneFileDisk_closedSink (hlang : s.options.language = none)
    (hext : s.options.walk.extensions = []) (hx : s.options.walk.excludes = []) (m : String) :
    s.run oneFileDisk "/" "/a.txt" false (fun _ => some m) = .error (.output m) := by
  obtain ⟨w, hn, hentries⟩ :=
    walk_oneFileDisk { s.options.walk with extensions := s.registry.claims.map (·.1) } hx
  rw [run_of_walk (walkOptions_of_registry s hlang hext) hn, hentries]
  rfl

/-- The searcher for `_` over Python sources fails its run over `/a.txt` with a closed sink,
and its next run delivers nothing. -/
theorem run_after_failed_run_closedSink :
    ∃ s, Searcher.new (ofGrammars [Grammar.ofLanguage .python default]) "_" Options.default = .ok s ∧
      s.run oneFileDisk "/" "/a.txt" false (fun _ => some "closed") = .error (.output "closed") ∧
      s.run oneFileDisk "/" "/a.txt"
          (s.tokenAfter oneFileDisk "/" "/a.txt" false fun _ => some "closed") (fun _ => none) =
        .ok ([], { Summary.empty with canceled := true }) := by
  obtain ⟨s, hs, -, hopt⟩ :=
    @new_wildcard (ofGrammars [Grammar.ofLanguage .python default]) Options.default (by decide +kernel) rfl
  have hfail := run_oneFileDisk_closedSink (s := s) (by rw [hopt]; rfl) (by rw [hopt]; rfl)
    (by rw [hopt]; rfl) "closed"
  exact ⟨s, hs, hfail, (run_after_failed_run s _ _ _ _ (fun _ => none) _ hfail).2 _ rfl⟩

/-- A failed run does not leave its searcher as a fresh one: after the closed sink fails the run
over `/a.txt`, the next run of the searcher for `_` differs from a fresh searcher's run. -/
theorem failed_run_leaks_into_next :
    ¬ ∀ (r : Registry) (text : String) (o : Options) (s : Searcher),
      Searcher.new r text o = .ok s →
      ∀ d cwd root sink e, s.run d cwd root false sink = .error e →
        ∀ s', Searcher.new r text o = .ok s' →
          s.run d cwd root (s.tokenAfter d cwd root false sink) (fun _ => none) =
            s'.run d cwd root false (fun _ => none) := by
  intro h
  obtain ⟨s, hs, -, hopt⟩ :=
    @new_wildcard (ofGrammars [Grammar.ofLanguage .python default]) Options.default (by decide +kernel) rfl
  have hlang : s.options.language = none := by rw [hopt]; rfl
  have hext : s.options.walk.extensions = [] := by rw [hopt]; rfl
  have hx : s.options.walk.excludes = [] := by rw [hopt]; rfl
  have hw := walkOptions_of_registry s hlang hext
  obtain ⟨w, hn, -⟩ :=
    walk_oneFileDisk { s.options.walk with extensions := s.registry.claims.map (·.1) } hx
  have hfail := run_oneFileDisk_closedSink hlang hext hx "closed"
  have hlater := h _ _ _ s hs oneFileDisk "/" "/a.txt" _ _ hfail s hs
  rw [tokenAfter_of_output hfail, run_canceled hw hn] at hlater
  have hfresh := run_clear_not_canceled hw hn hlater.symm
  simp at hfresh

end Searcher
end Search
end ShapeSearch
