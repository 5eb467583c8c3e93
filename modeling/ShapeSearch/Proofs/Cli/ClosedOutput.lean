import ShapeSearch.Proofs.Search.CancelToken
import ShapeSearch.Cli.Session

/-!
# Runs whose standard output is closed

A search writes its records on standard output through a buffered writer.  Over a closed stream
the writer holds back what fits its buffer and fails on the first write that reaches the stream,
so the broken pipe surfaces where the buffer is written out: a text report flushes after every
file and meets it at its first record, inside the search, where the run stops quietly; a JSON
report meets it inside the search only when its lines overflow the buffer, and otherwise at its
closing summary and flush, after the search, where it ends the run with exit code 2.

* `Output.Writer.writeAllOf_closed`: over a closed stream a run of writes succeeds exactly when it
  fits the buffer, and is then held back.
* `deliver_text_closed`, `deliver_json_closed`: what the search's sink does with the files.
* `search_closed_eq_error_iff`: with standard output closed, a search fails exactly when it
  reports in JSON lines that fit the buffer, and then with the broken pipe.
* `closed_stdout_exit_code`: where the broken pipe surfaces, and the exit code it leads to.
-/

namespace ShapeSearch

namespace Output

/-- A stream whose reader is gone refuses every write. -/
theorem Stream.write_closed {s : Stream} (hc : s.closed = true) (bytes : String) :
    s.write bytes = .error brokenPipe := by
  simp [Stream.write, hc]

namespace Writer

variable {w : Writer}

/-- Over a closed stream the buffer is written out only when there is nothing in it. -/
theorem flushBuffer_closed (hc : w.stream.closed = true) :
    w.flushBuffer = if w.buffer = "" then .ok w else .error brokenPipe := by
  unfold flushBuffer
  by_cases hb : w.buffer = ""
  · simp [hb]
  · simp [hb, String.isEmpty_iff, Stream.write_closed hc, Except.map]

/-- Over a closed stream a write succeeds exactly when it fits the room left in the buffer and
is smaller than the buffer, and then it is held back. -/
theorem writeAll_closed (hc : w.stream.closed = true) (hb : w.buffer.utf8ByteSize ≤ w.capacity)
    (text : String) :
    w.writeAll text =
      if w.buffer.utf8ByteSize + text.utf8ByteSize ≤ w.capacity ∧ text.utf8ByteSize < w.capacity
      then .ok { w with buffer := w.buffer ++ text } else .error brokenPipe := by
  unfold writeAll spare
  by_cases hfit : text.utf8ByteSize < w.capacity - w.buffer.utf8ByteSize
  · rw [if_pos hfit, if_pos (by omega)]
  · rw [if_neg hfit]
    by_cases hover : w.capacity - w.buffer.utf8ByteSize < text.utf8ByteSize
    · have hno : ¬(w.buffer.utf8ByteSize + text.utf8ByteSize ≤ w.capacity ∧
          text.utf8ByteSize < w.capacity) := by omega
      rw [if_pos hover, if_neg hno, flushBuffer_closed hc]
      by_cases he : w.buffer = ""
      · have hlarge : w.capacity ≤ text.utf8ByteSize := by
          rw [he, String.utf8ByteSize_empty] at hover
          omega
        simp [he, hlarge, Stream.write_closed hc, bind, Except.bind, Except.map]
      · simp [he, bind, Except.bind]
    · rw [if_neg hover]
      by_cases hlarge : w.capacity ≤ text.utf8ByteSize
      · have hno : ¬(w.buffer.utf8ByteSize + text.utf8ByteSize ≤ w.capacity ∧
            text.utf8ByteSize < w.capacity) := by omega
        simp [hlarge, hno, Stream.write_closed hc, pure, bind, Except.bind, Except.pure, Except.map]
      · have hyes : w.buffer.utf8ByteSize + text.utf8ByteSize ≤ w.capacity ∧
            text.utf8ByteSize < w.capacity := by omega
        simp [hlarge, hyes, pure, bind, Except.bind, Except.pure]

/-- Over a closed stream a run of writes succeeds exactly when all of them fit the room left in
the buffer and each is smaller than the buffer, and then they are all held back. -/
theorem writeAllOf_closed (hc : w.stream.closed = true) (hb : w.buffer.utf8ByteSize ≤ w.capacity)
    (texts : List String) :
    w.writeAllOf texts =
      if w.buffer.utf8ByteSize + (String.join texts).utf8ByteSize ≤ w.capacity ∧
          ∀ t ∈ texts, t.utf8ByteSize < w.capacity
      then .ok { w with buffer := w.buffer ++ String.join texts } else .error brokenPipe := by
  induction texts generalizing w with
  | nil => simp [writeAllOf, hb, pure, Except.pure]
  | cons t rest ih =>
    rw [writeAllOf, List.foldlM_cons, writeAll_closed hc hb]
    by_cases hstep : w.buffer.utf8ByteSize + t.utf8ByteSize ≤ w.capacity ∧
        t.utf8ByteSize < w.capacity
    · have hb' : (w.buffer ++ t).utf8ByteSize ≤ w.capacity := by
        rw [String.utf8ByteSize_append]
        exact hstep.1
      have hiff : ((w.buffer ++ t).utf8ByteSize + (String.join rest).utf8ByteSize ≤ w.capacity ∧
            ∀ t' ∈ rest, t'.utf8ByteSize < w.capacity) ↔
          (w.buffer.utf8ByteSize + (String.join (t :: rest)).utf8ByteSize ≤ w.capacity ∧
            ∀ t' ∈ t :: rest, t'.utf8ByteSize < w.capacity) := by
        simp only [String.join_cons, String.utf8ByteSize_append, List.mem_cons, forall_eq_or_imp]
        exact ⟨fun h => ⟨by omega, hstep.2, h.2⟩, fun h => ⟨by omega, h.2.2⟩⟩
      rw [if_pos hstep]
      show rest.foldlM writeAll { w with buffer := w.buffer ++ t } = _
      rw [← writeAllOf, ih (w := { w with buffer := w.buffer ++ t }) hc hb']
      simp only [hiff, String.join_cons, String.append_assoc]
    · rw [if_neg hstep]
      have hno : ¬(w.buffer.utf8ByteSize + (String.join (t :: rest)).utf8ByteSize ≤ w.capacity ∧
          ∀ t' ∈ t :: rest, t'.utf8ByteSize < w.capacity) := by
        rw [String.join_cons, String.utf8ByteSize_append]
        intro h
        exact hstep ⟨by omega, h.2 t List.mem_cons_self⟩
      rw [if_neg hno]
      rfl

/-- A flush with nothing held back succeeds and changes nothing. -/
theorem flush_of_empty (hb : w.buffer = "") : w.flush = .ok w := by
  simp [flush, flushBuffer, hb]

/-- Over a closed stream, writes followed by a flush fail once anything is to be written out. -/
theorem writeAllOf_flush_closed (hc : w.stream.closed = true)
    (hb : w.buffer.utf8ByteSize ≤ w.capacity) (texts : List String)
    (hne : w.buffer ++ String.join texts ≠ "") :
    (w.writeAllOf texts).bind flush = .error brokenPipe := by
  rw [writeAllOf_closed hc hb]
  split
  · exact (flushBuffer_closed (w := { w with buffer := w.buffer ++ String.join texts }) hc).trans
      (if_neg hne)
  · rfl

end Writer

end Output

namespace Cli

open Search

/-- A step that ends no run: from every trail it gives a value. -/
def Step.Total {α : Type} (x : Step α) : Prop :=
  ∀ t, ∃ v t', x.run.run t = (.ok v, t')

namespace Step

variable {α β : Type}

/-- Running a bind runs the first step, then the second from the trail the first left, unless
the first ended the run. -/
theorem run_bind (x : Step α) (f : α → Step β) (t : Trail) :
    (x >>= f).run.run t = match x.run.run t with
      | (.ok v, t') => (f v).run.run t'
      | (.error e, t') => (.error e, t') := by
  simp only [ExceptT.run_bind, StateT.run_bind]
  rcases x.run.run t with ⟨_ | v, t'⟩ <;> rfl

theorem run_bind_of_ok {x : Step α} {f : α → Step β} {t t' : Trail} {v : α}
    (h : x.run.run t = (.ok v, t')) : (x >>= f).run.run t = (f v).run.run t' := by
  rw [run_bind, h]

namespace Total

theorem pure (v : α) : (Pure.pure v : Step α).Total :=
  fun t => ⟨v, t, rfl⟩

theorem bind {x : Step α} {f : α → Step β} (hx : x.Total) (hf : ∀ v, (f v).Total) :
    (x >>= f).Total := by
  intro t
  obtain ⟨v, t', h⟩ := hx t
  rw [run_bind_of_ok h]
  exact hf v t'

/-- What every run of `f` has, a run of `x >>= f` has when `x` ends no run. -/
theorem bind_run {P : Except String β × Trail → Prop} {x : Step α} {f : α → Step β}
    (hx : x.Total) (hf : ∀ v t, P ((f v).run.run t)) (t : Trail) : P ((x >>= f).run.run t) := by
  obtain ⟨v, t', h⟩ := hx t
  rw [run_bind_of_ok h]
  exact hf v t'

/-- A loop whose every pass ends no run ends no run. -/
theorem forIn {l : List α} {init : β} {f : α → β → Step (ForInStep β)}
    (hf : ∀ a b, (f a b).Total) : (ForIn.forIn l init f).Total := by
  induction l generalizing init with
  | nil => exact Total.pure init
  | cons a l ih =>
    rw [List.forIn_cons]
    refine bind (hf a init) fun r => ?_
    cases r with
    | done b => exact Total.pure b
    | yield b => exact ih

theorem ne_error {x : Step α} (hx : x.Total) (t : Trail) (m : String) :
    (x.run.run t).1 ≠ .error m := by
  obtain ⟨v, t', h⟩ := hx t
  rw [h]
  simp

end Total

end Step

theorem emit_total (level : Log.Level) (target message : String) :
    (emit level target message).Total :=
  fun _ => ⟨(), _, rfl⟩

theorem write_total (text : String) : (write text).Total :=
  fun _ => ⟨(), _, rfl⟩

/-- Logging what happened to a file ends no run. -/
theorem fileEvents_total (s : Searcher) (path : String) (o : FileOutcome) :
    (fileEvents s path o).Total := by
  unfold fileEvents
  split
  · exact emit_total _ _ _
  · split
    · exact emit_total _ _ _
    · split
      · exact Step.Total.bind (emit_total _ _ _) fun _ => emit_total _ _ _
      · exact emit_total _ _ _

/-! ### The sinks of a search over a closed stream -/

section Sinks

open Output Output.Writer

variable {w : Writer} {theme : Theme} {cwd : String}

@[simp] theorem utf8ByteSize_newline : "\n".utf8ByteSize = 1 := rfl

/-- The bytes a JSON report writes on standard output for some files: each of their lines and
its newline. -/
def jsonBytes (outcomes : List FileOutcome) : Nat :=
  (String.join (outcomes.flatMap fun o => (Report.outcomeLines o).map (· ++ "\n"))).utf8ByteSize

theorem join_lines_newline (lines : List String) :
    String.join (lines.flatMap fun line => [line, "\n"]) =
      String.join (lines.map (· ++ "\n")) := by
  induction lines with
  | nil => rfl
  | cons line lines ih =>
    simp only [List.flatMap_cons, List.map_cons, List.cons_append, List.nil_append,
      String.join_cons, ih, String.append_assoc]

theorem lt_join_lines {line : String} :
    ∀ {lines : List String}, line ∈ lines →
      line.utf8ByteSize < (String.join (lines.map (· ++ "\n"))).utf8ByteSize
  | l :: ls, h => by
    simp only [List.map_cons, String.join_cons, String.utf8ByteSize_append, utf8ByteSize_newline]
    rcases List.mem_cons.mp h with rfl | h
    · omega
    · have := lt_join_lines h
      omega

theorem join_filePieces_json (o : FileOutcome) :
    String.join (filePieces .json theme cwd o) =
      String.join ((Report.outcomeLines o).map (· ++ "\n")) :=
  join_lines_newline _

@[simp] theorem jsonBytes_nil : jsonBytes [] = 0 := rfl

theorem jsonBytes_cons (theme : Theme) (cwd : String) (o : FileOutcome) (os : List FileOutcome) :
    jsonBytes (o :: os) =
      (String.join (filePieces .json theme cwd o)).utf8ByteSize + jsonBytes os := by
  rw [jsonBytes, jsonBytes, List.flatMap_cons, String.join_append, String.utf8ByteSize_append,
    join_filePieces_json]

/-- The bytes of a JSON report are those of its writes. -/
theorem jsonBytes_eq : ∀ os : List FileOutcome,
    jsonBytes os = (String.join (os.flatMap (filePieces .json theme cwd))).utf8ByteSize
  | [] => rfl
  | o :: os => by
    rw [jsonBytes_cons theme cwd, jsonBytes_eq os, List.flatMap_cons,
      String.join_append, String.utf8ByteSize_append]

/-- A JSON report's writes for a file that fit a buffer of at least two bytes are each smaller
than the buffer: a line is smaller than itself with its newline. -/
theorem filePieces_json_lt (theme : Theme) (cwd : String) (o : FileOutcome) {n : Nat} (hcap : 2 ≤ n)
    (hfit : (String.join (filePieces .json theme cwd o)).utf8ByteSize ≤ n) :
    ∀ t ∈ filePieces .json theme cwd o, t.utf8ByteSize < n := by
  intro t ht
  simp only [filePieces, List.mem_flatMap, List.mem_cons, List.not_mem_nil, or_false] at ht
  obtain ⟨line, hline, rfl | rfl⟩ := ht
  · rw [join_filePieces_json] at hfit
    have := lt_join_lines hline
    omega
  · rw [utf8ByteSize_newline]
    omega

/-- Over a closed stream with nothing held back, the text report's sink fails on a file exactly
when the file has a record, and otherwise leaves the writer as it was. -/
theorem deliverTo_text_closed (hc : w.stream.closed = true) (hb : w.buffer = "")
    (o : FileOutcome) :
    deliverTo .text theme cwd w o = if o.records = [] then .ok w else .error brokenPipe := by
  by_cases hr : o.records = []
  · simp [deliverTo, filePieces, Report.recordLines, hr, writeAllOf, flush, flushBuffer, hb, pure,
      Except.pure, Except.bind]
  · rw [if_neg hr, deliverTo, writeAllOf_flush_closed hc (by simp [hb]) _]
    obtain ⟨r, rs, hrs⟩ := List.exists_cons_of_ne_nil hr
    simp only [hb, filePieces, Report.recordLines, hrs, List.map_cons, String.join_cons, ne_eq]
    intro h
    have := congrArg String.utf8ByteSize h
    simp only [String.utf8ByteSize_append, String.utf8ByteSize_empty, utf8ByteSize_newline] at this
    omega

/-- Over a closed stream with nothing held back, the text report's sink takes every file until
one with a record, where it fails with the broken pipe. -/
theorem deliver_text_closed (hc : w.stream.closed = true) (hb : w.buffer = "") :
    ∀ os : List FileOutcome, Searcher.deliver (deliverTo .text theme cwd) w os =
      if ∀ o ∈ os, o.records = [] then .ok w else .error (.output brokenPipe)
  | [] => by simp [Searcher.deliver]
  | o :: os => by
    rw [Searcher.deliver, deliverTo_text_closed hc hb]
    by_cases hr : o.records = []
    · simp only [hr, if_true, deliver_text_closed hc hb os, List.mem_cons, forall_eq_or_imp,
        true_and]
    · simp [hr]

/-- Over a closed stream, the JSON report's sink holds back the lines of the files while they
fit the buffer, and fails with the broken pipe on the first file whose lines overflow it. -/
theorem deliver_json_closed {w : Writer} (hc : w.stream.closed = true) (hcap : 2 ≤ w.capacity)
    (os : List FileOutcome) (hb : w.buffer.utf8ByteSize ≤ w.capacity) :
    Searcher.deliver (deliverTo .json theme cwd) w os =
      if w.buffer.utf8ByteSize + jsonBytes os ≤ w.capacity
      then .ok { w with buffer := w.buffer ++ String.join (os.flatMap (filePieces .json theme cwd)) }
      else .error (.output brokenPipe) := by
  induction os generalizing w with
  | nil => simp [Searcher.deliver, hb]
  | cons o os ih =>
    rw [Searcher.deliver, deliverTo, writeAllOf_closed hc hb, jsonBytes_cons theme cwd]
    by_cases hfit : w.buffer.utf8ByteSize +
        (String.join (filePieces .json theme cwd o)).utf8ByteSize ≤ w.capacity
    · have hsmall := filePieces_json_lt theme cwd o hcap
        (by omega : (String.join (filePieces .json theme cwd o)).utf8ByteSize ≤ w.capacity)
      have hb' : (w.buffer ++ String.join (filePieces .json theme cwd o)).utf8ByteSize ≤
          w.capacity := by
        rwa [String.utf8ByteSize_append]
      rw [if_pos ⟨hfit, hsmall⟩]
      dsimp only
      rw [ih (w := { w with buffer := w.buffer ++ String.join (filePieces .json theme cwd o) })
        hc hcap hb']
      simp only [String.utf8ByteSize_append, List.flatMap_cons, String.join_append,
        String.append_assoc, Nat.add_assoc]
    · rw [if_neg (fun h => hfit h.1), if_neg (by omega)]

end Sinks

/-! ### The search over a closed stream -/

section Search

open Output Output.Writer

variable {c : Surroundings} {s : Searcher} {root : String} {walk : WalkOptions} {w : Walker}

/-- Logging what a run does ends no run. -/
theorem logRun_total (c : Surroundings) (s : Searcher) (root : String) : (logRun c s root).Total := by
  unfold logRun
  split
  · exact Step.Total.pure _
  · refine Step.Total.bind (Step.Total.forIn fun _ _ =>
      Step.Total.bind (emit_total _ _ _) fun _ => Step.Total.pure _) fun _ => ?_
    refine Step.Total.bind (emit_total _ _ _) fun _ => Step.Total.bind (emit_total _ _ _) fun _ => ?_
    refine Step.Total.bind (Step.Total.forIn fun entry _ => ?_) fun _ =>
      Step.Total.bind (Step.Total.forIn fun x _ => ?_) fun _ => Step.Total.pure _
    · cases entry with
      | error e => exact Step.Total.bind (emit_total _ _ _) fun _ => Step.Total.pure _
      | ok _ => exact Step.Total.pure _
    · rcases x with ⟨entry, o⟩
      cases entry with
      | ok path => exact Step.Total.bind (fileEvents_total _ _ _) fun _ => Step.Total.pure _
      | error _ => exact Step.Total.pure _

variable (hw : s.walkOptions = .ok walk) (hn : Walker.new c.disk c.cwd root walk = .ok w)
include hw hn

/-- With standard output closed, the run of a text search fails with the broken pipe at the
first file with a record, and otherwise delivers every file with nothing held back. -/
theorem run_text_closed (theme : Theme) :
    s.runWith c.disk c.cwd root false (deliverTo .text theme c.cwd) (Writer.new ⟨true, ""⟩) =
      if ∀ o ∈ w.entries.map (s.outcomeOf c.disk w.root), o.records = []
      then .ok (w.entries.map (s.outcomeOf c.disk w.root),
        { Summary.ofOutcomes (w.entries.map (s.outcomeOf c.disk w.root)) with canceled := false },
        Writer.new ⟨true, ""⟩)
      else .error (.output brokenPipe) := by
  rw [Searcher.runWith_of_walk hw hn]
  dsimp only
  rw [if_neg Bool.false_ne_true, deliver_text_closed rfl rfl]
  split <;> rfl

/-- With standard output closed, the run of a JSON search holds back its lines when they fit the
buffer, and otherwise fails with the broken pipe. -/
theorem run_json_closed (theme : Theme) :
    s.runWith c.disk c.cwd root false (deliverTo .json theme c.cwd) (Writer.new ⟨true, ""⟩) =
      if jsonBytes (w.entries.map (s.outcomeOf c.disk w.root)) ≤ defaultCapacity
      then .ok (w.entries.map (s.outcomeOf c.disk w.root),
        { Summary.ofOutcomes (w.entries.map (s.outcomeOf c.disk w.root)) with canceled := false },
        { Writer.new ⟨true, ""⟩ with
          buffer := String.join ((w.entries.map (s.outcomeOf c.disk w.root)).flatMap
            (filePieces .json theme c.cwd)) })
      else .error (.output brokenPipe) := by
  rw [Searcher.runWith_of_walk hw hn]
  dsimp only
  rw [if_neg Bool.false_ne_true, deliver_json_closed rfl (by decide) _ (by decide)]
  simp only [Writer.new, String.utf8ByteSize_empty, Nat.zero_add, String.empty_append]
  split <;> rfl

/-- With standard output closed, the run of a search fails with the broken pipe exactly when a
text report meets a record or a JSON report's lines overflow the buffer. -/
theorem run_closed_eq_brokenPipe_iff (format : OutputFormat) (theme : Theme) :
    s.runWith c.disk c.cwd root false (deliverTo format theme c.cwd) (Writer.new ⟨true, ""⟩) =
        .error (.output brokenPipe) ↔
      (format = .text ∧ ∃ o ∈ w.entries.map (s.outcomeOf c.disk w.root), o.records ≠ []) ∨
        (format = .json ∧ defaultCapacity < jsonBytes (w.entries.map (s.outcomeOf c.disk w.root))) := by
  cases format with
  | text =>
    rw [run_text_closed hw hn]
    by_cases hnone : ∀ o ∈ w.entries.map (s.outcomeOf c.disk w.root), o.records = []
    · rw [if_pos hnone]
      simp only [reduceCtorEq, false_iff]
      rintro (⟨-, o, ho, hr⟩ | ⟨h, -⟩)
      · exact hr (hnone o ho)
      · cases h
    · rw [if_neg hnone]
      exact iff_of_true rfl (.inl ⟨rfl, by simpa using hnone⟩)
  | json =>
    rw [run_json_closed hw hn]
    by_cases hfit : jsonBytes (w.entries.map (s.outcomeOf c.disk w.root)) ≤ defaultCapacity
    · rw [if_pos hfit]
      simp only [reduceCtorEq, false_iff]
      rintro (⟨h, -⟩ | ⟨-, hover⟩)
      · cases h
      · omega
    · rw [if_neg hfit]
      exact iff_of_true rfl (.inr ⟨rfl, by omega⟩)

/-- With standard output closed, a text search never fails: the broken pipe at its first record
stops it quietly, and without records its summary goes to standard error. -/
theorem search_text_closed (hc : c.stdoutClosed = true) (theme : Theme) :
    (search c s root .text theme).Total := by
  unfold search
  refine Step.Total.bind (logRun_total c s root) fun _ => ?_
  dsimp only
  rw [hc, run_text_closed hw hn]
  by_cases hnone : ∀ o ∈ w.entries.map (s.outcomeOf c.disk w.root), o.records = []
  · rw [if_pos hnone]
    dsimp only
    refine Step.Total.bind (emit_total _ _ _) fun _ => ?_
    rw [flush_of_empty rfl]
    refine Step.Total.bind (Step.Total.pure _) fun _ => Step.Total.bind (write_total _) fun _ => ?_
    split <;> exact Step.Total.pure _
  · rw [if_neg hnone]
    dsimp only
    rw [if_pos rfl]
    exact Step.Total.pure _

/-- With standard output closed, a JSON search whose lines overflow the buffer stops quietly
at the broken pipe inside the search, and one whose lines fit the buffer fails with the broken
pipe on its closing summary and flush. -/
theorem search_json_closed (hc : c.stdoutClosed = true) (theme : Theme) (t : Trail) :
    ((search c s root .json theme).run.run t).1 =
      if jsonBytes (w.entries.map (s.outcomeOf c.disk w.root)) ≤ defaultCapacity
      then .error brokenPipe else .ok "" := by
  unfold search
  refine Step.Total.bind_run (P := fun r => r.1 = _) (logRun_total c s root) (fun _ t => ?_) t
  dsimp only
  rw [hc, run_json_closed hw hn]
  by_cases hfit : jsonBytes (w.entries.map (s.outcomeOf c.disk w.root)) ≤ defaultCapacity
  · rw [if_pos hfit, if_pos hfit]
    dsimp only
    have hbuffer : (String.join ((w.entries.map (s.outcomeOf c.disk w.root)).flatMap
        (filePieces .json theme c.cwd))).utf8ByteSize ≤ defaultCapacity := by
      rwa [← jsonBytes_eq]
    have hfail := writeAllOf_flush_closed (w := { Writer.new ⟨true, ""⟩ with
      buffer := String.join ((w.entries.map (s.outcomeOf c.disk w.root)).flatMap
        (filePieces .json theme c.cwd)) }) rfl hbuffer [Report.summaryLine
          { Summary.ofOutcomes (w.entries.map (s.outcomeOf c.disk w.root)) with canceled := false } 0,
          "\n"] ?_
    · refine Step.Total.bind_run (P := fun r => r.1 = _) (emit_total _ _ _) (fun _ t => ?_) t
      rw [Step.run_bind, hfail]
      rfl
    · intro h
      have := congrArg String.utf8ByteSize h
      simp only [String.utf8ByteSize_append, String.join_cons, String.join_nil,
        String.utf8ByteSize_empty, utf8ByteSize_newline] at this
      omega
  · rw [if_neg hfit, if_neg hfit]
    dsimp only
    rw [if_pos rfl]
    rfl

/-- With standard output closed, a search fails exactly when it reports in JSON lines that fit
the buffer, and then with the broken pipe. -/
theorem search_closed_eq_error_iff (hc : c.stdoutClosed = true) (format : OutputFormat)
    (theme : Theme) (t : Trail) (m : String) :
    ((search c s root format theme).run.run t).1 = .error m ↔
      format = .json ∧ jsonBytes (w.entries.map (s.outcomeOf c.disk w.root)) ≤ defaultCapacity ∧
        m = brokenPipe := by
  cases format with
  | text => exact iff_of_false ((search_text_closed hw hn hc theme).ne_error t m) (by simp)
  | json =>
    rw [search_json_closed hw hn hc theme t]
    split
    · rename_i hfit
      simp [hfit, eq_comm]
    · rename_i hover
      simp [hover]

end Search

/-- Loading a configuration that is there, or absent and not asked for, gives its settings, or
none. -/
theorem loadConfig_run {c : Surroundings} {a : Args} {loaded : Option Config}
    (h : Config.load c.disk c.cwd a.config = .ok loaded) (t : Trail) :
    ∃ t', (loadConfig c a).run.run t = (.ok (loaded.getD Config.empty), t') := by
  unfold loadConfig
  rw [h]
  cases loaded with
  | none => exact ⟨t, rfl⟩
  | some cfg => exact ⟨_, rfl⟩

/-- Building a searcher that `Searcher.new` makes only logs around it: first why the pattern
does not apply to some candidates, then the languages it skips and applies to. -/
theorem buildSearcher_run {r : Registry} {text : String} {o : Search.Options} {s : Searcher}
    (h : Searcher.new r text o = .ok s) (t : Trail) :
    ∃ t', (buildSearcher r text o).run.run t = (.ok s, t') := by
  unfold buildSearcher
  dsimp only
  split
  on_goal 1 =>
    refine Step.Total.bind_run (P := fun r => ∃ t', r = (.ok s, t'))
      (Step.Total.forIn fun x _ => ?_) (fun _ t => ?_) t
    rcases x with ⟨name, e⟩
    exact Step.Total.bind (emit_total _ _ _) fun _ => Step.Total.pure _
  all_goals
    simp only [lift, h, pure_bind]
    refine Step.Total.bind_run (P := fun r => ∃ t', r = (.ok s, t'))
      (Step.Total.forIn fun x _ => ?_) (fun _ t => ?_) t
    · rcases x with ⟨name, e⟩
      exact Step.Total.bind (emit_total _ _ _) fun _ => Step.Total.pure _
    obtain ⟨_, t', he⟩ := emit_total .info "shapegrep"
      ("Pattern applies to: " ++ ", ".intercalate s.languages) t
    exact ⟨t', by rw [Step.run_bind_of_ok he]; rfl⟩

/-- A session that loads its configuration, reads its pattern and builds its searcher, and is
asked for neither the languages nor a tree, is the search of its root: what every run of the
search has, every run of the session has. -/
theorem session_run {P : Except String String × Trail → Prop} {c : Surroundings} {a : Args}
    {theme : Theme} {loaded : Option Config} {text : String} {s : Searcher}
    (hlist : a.listLanguages = false) (hdump : a.dumpTree = none)
    (hcfg : Config.load c.disk c.cwd a.config = .ok loaded)
    (htext : ∀ t, (patternText c a (loaded.getD Config.empty)).run.run t = (.ok text, t))
    (hs : Searcher.new (Registry.standard c.parseClock) text (a.searchOptions (loaded.getD Config.empty)) = .ok s)
    (hP : ∀ t, P ((search c s (a.root.getD ".")
      ((a.format <|> (loaded.getD Config.empty).format).getD .text) theme).run.run t))
    (t : Trail) : P ((session c a theme).run.run t) := by
  unfold session
  obtain ⟨t₁, h₁⟩ := loadConfig_run hcfg t
  rw [Step.run_bind_of_ok h₁]
  simp only [hlist, hdump, Bool.false_eq_true, if_false]
  rw [Step.run_bind_of_ok (htext t₁)]
  obtain ⟨t₂, h₂⟩ := buildSearcher_run hs t₁
  rw [Step.run_bind_of_ok h₂]
  exact hP t₂

/-- A run exits with 0 when its session succeeds. -/
theorem runArgs_code_of_ok {c : Surroundings} {a : Args} {tail : String}
    (h : ((session c a (themeOf c)).run.run ⟨[], ""⟩).1 = .ok tail) :
    (runArgs c a).code = 0 := by
  obtain ⟨trail, hr⟩ :
      ∃ trail, (session c a (themeOf c)).run.run ⟨[], ""⟩ = (.ok tail, trail) :=
    ⟨_, Prod.ext h rfl⟩
  dsimp only [runArgs]
  rw [hr]

/-- A run whose session fails exits with 2, and its standard error ends with the failure after
the log. -/
theorem runArgs_of_error {c : Surroundings} {a : Args} {m : String}
    (h : ((session c a (themeOf c)).run.run ⟨[], ""⟩).1 = .error m) :
    (runArgs c a).code = 2 ∧ ∃ log, (runArgs c a).stderr =
      log ++ Icons.cross ++ " " ++ (themeOf c).error.apply m ++ "\n" := by
  obtain ⟨trail, hr⟩ :
      ∃ trail, (session c a (themeOf c)).run.run ⟨[], ""⟩ = (.error m, trail) :=
    ⟨_, Prod.ext h rfl⟩
  dsimp only [runArgs]
  rw [hr]
  exact ⟨rfl, _, rfl⟩

/-! ### The exit code -/

/-- **Where a closed standard output is met, and the exit code.**  With standard output closed
and every stage before the search succeeding, the broken pipe surfaces inside the search, as the
sink's output error, exactly when a text report meets a record or a JSON report's lines overflow
the buffer, and there the run stops quietly.  A JSON report whose lines fit the buffer meets it
only at its closing summary and flush: the run then exits with 2 and the broken pipe on standard
error, and every other run exits with 0. -/
theorem closed_stdout_exit_code (c : Surroundings) (a : Args) (loaded : Option Config)
    (text : String) (s : Searcher) (walk : WalkOptions) (w : Walker)
    (hclosed : c.stdoutClosed = true) (hlist : a.listLanguages = false)
    (hdump : a.dumpTree = none) (hcfg : Config.load c.disk c.cwd a.config = .ok loaded)
    (htext : ∀ t, (patternText c a (loaded.getD Config.empty)).run.run t = (.ok text, t))
    (hs : Searcher.new (Registry.standard c.parseClock) text (a.searchOptions (loaded.getD Config.empty)) = .ok s)
    (hw : s.walkOptions = .ok walk) (hn : Walker.new c.disk c.cwd (a.root.getD ".") walk = .ok w) :
    let format := (a.format <|> (loaded.getD Config.empty).format).getD .text
    let outcomes := w.entries.map (s.outcomeOf c.disk w.root)
    (s.runWith c.disk c.cwd (a.root.getD ".") false (deliverTo format (themeOf c) c.cwd)
          (Output.Writer.new ⟨true, ""⟩) = .error (.output Output.brokenPipe) ↔
        (format = .text ∧ ∃ o ∈ outcomes, o.records ≠ []) ∨
          (format = .json ∧ Output.Writer.defaultCapacity < jsonBytes outcomes)) ∧
      ((runArgs c a).code = 0 ↔
        ¬ (format = .json ∧ jsonBytes outcomes ≤ Output.Writer.defaultCapacity)) ∧
      (format = .json → jsonBytes outcomes ≤ Output.Writer.defaultCapacity →
        (runArgs c a).code = 2 ∧ ∃ log, (runArgs c a).stderr = log ++ Icons.cross ++ " " ++
          (themeOf c).error.apply Output.brokenPipe ++ "\n") := by
  intro format outcomes
  have hsession : ∀ m, ((session c a (themeOf c)).run.run ⟨[], ""⟩).1 = .error m ↔
      (format = .json ∧ jsonBytes outcomes ≤ Output.Writer.defaultCapacity) ∧
        m = Output.brokenPipe := by
    intro m
    refine session_run (P := fun r => r.1 = .error m ↔ _) hlist hdump hcfg htext hs
      (fun t => ?_) _
    rw [search_closed_eq_error_iff hw hn hclosed]
    simp [format, outcomes, and_assoc]
  refine ⟨run_closed_eq_brokenPipe_iff hw hn format (themeOf c), ?_⟩
  by_cases hfits : format = .json ∧ jsonBytes outcomes ≤ Output.Writer.defaultCapacity
  · have herr := runArgs_of_error ((hsession _).mpr ⟨hfits, rfl⟩)
    exact ⟨iff_of_false (by rw [herr.1]; decide) (not_not.mpr hfits), fun _ _ => herr⟩
  · obtain ⟨tail, htail⟩ :
        ∃ tail, ((session c a (themeOf c)).run.run ⟨[], ""⟩).1 = .ok tail := by
      cases hr : ((session c a (themeOf c)).run.run ⟨[], ""⟩).1 with
      | ok tail => exact ⟨tail, rfl⟩
      | error m => exact absurd ((hsession m).mp hr).1 hfits
    exact ⟨iff_of_true (runArgs_code_of_ok htail) hfits,
      fun hj hle => absurd ⟨hj, hle⟩ hfits⟩

/-! ### A JSON search of an empty directory -/

/-- A run in the root directory of an empty disk, with standard output closed. -/
def closedEmpty : Surroundings :=
  { disk := Disk.empty, cwd := "/", env := [], stdoutClosed := true, clock := "",
    parallelism := 1, parseClock := default }

/-- A search for `_` from `/`, reported in JSON lines. -/
def jsonWildcard : Args :=
  { Args.empty with pattern := some "_", root := some "/", format := some .json }

/-- The empty disk holds no configuration file at `/`. -/
theorem config_emptyDisk : Config.load Disk.empty "/" none = .ok none := by
  have hsplit : "/shapegrep.toml".splitOn "/" = ["", "shapegrep.toml"] := by
    simp +decide [String.splitOn, String.splitOnAux]
  have hjoin : Path.join "/" "shapegrep.toml" = "/shapegrep.toml" := by decide +kernel
  have hnone : Disk.empty.kindOf "/shapegrep.toml" = .error .notFound := by
    simp only [Disk.kindOf, Disk.resolve, hsplit]
    decide +kernel
  simp only [Config.load, Option.getD, Config.defaultPath, hjoin, hnone]
  rfl

/-- A walk from `/` over the empty disk without extra excludes is made and lists nothing: the
root is an empty directory, so one step below it reads no names. -/
theorem walk_emptyDisk (walk : WalkOptions) (hx : walk.excludes = []) :
    ∃ w, Walker.new Disk.empty "/" "/" walk = .ok w ∧ w.entries = [] := by
  have hsplit : "/".splitOn "/" = ["", ""] := by
    simp +decide [String.splitOn, String.splitOnAux]
  have hjoin : Path.join "/" "/" = "/" := by decide +kernel
  have habs : Path.absolute "/" "/" = "/" := by
    simp only [Path.absolute, hsplit]
    decide +kernel
  have hdir : Disk.empty.kindOf "/" = .ok .directory := by
    simp only [Disk.kindOf, Disk.resolve, hsplit]
    decide +kernel
  have hread : Disk.empty.readDir "/" = .ok [] := by
    simp only [Disk.readDir, Disk.resolve, hsplit]
    decide +kernel
  obtain ⟨rules, hn⟩ := @Walker.new_of_kindOf Disk.empty "/" "/" walk _ (hjoin ▸ hdir) hx
  refine ⟨_, hn, ?_⟩
  simp [Walker.entries, habs, hdir, Walker.below, hread, Walker.entriesOf]

/-- Every stage of the JSON search for `_` in `closedEmpty` before its report succeeds: there is
no configuration file, the searcher is built, and the walk is made and lists nothing. -/
theorem closedEmpty_stages :
    Config.load closedEmpty.disk closedEmpty.cwd jsonWildcard.config = .ok none ∧
      ∃ s walk w,
        Searcher.new (Registry.standard closedEmpty.parseClock) "_"
          (jsonWildcard.searchOptions Config.empty) = .ok s ∧
          s.walkOptions = .ok walk ∧ Walker.new Disk.empty "/" "/" walk = .ok w ∧
            w.entries = [] := by
  obtain ⟨s, hs, -, hopt⟩ := @Searcher.new_wildcard (Registry.standard closedEmpty.parseClock)
    (jsonWildcard.searchOptions Config.empty) (by decide +kernel) rfl
  have hw := Searcher.walkOptions_of_registry s (by rw [hopt]; rfl) (by rw [hopt]; rfl)
  obtain ⟨w, hn, hentries⟩ :=
    walk_emptyDisk { s.options.walk with extensions := s.registry.claims.map (·.1) }
      (by rw [hopt]; rfl)
  exact ⟨config_emptyDisk, s, _, w, hs, hw, hn, hentries⟩

/-- A JSON search of an empty directory with standard output closed exits with 2. -/
theorem closed_stdout_exit_code_emptyJson : (runArgs closedEmpty jsonWildcard).code = 2 := by
  obtain ⟨hcfg, s, walk, w, hs, hw, hn, hentries⟩ := closedEmpty_stages
  have hfits :
      jsonBytes (w.entries.map (s.outcomeOf closedEmpty.disk w.root)) ≤
        Output.Writer.defaultCapacity := by
    rw [hentries, List.map_nil]
    decide
  exact ((closed_stdout_exit_code closedEmpty jsonWildcard none "_" s walk w rfl rfl rfl hcfg
    (fun _ => rfl) hs hw hn).2.2 rfl hfits).1

/-- With standard output closed, a run whose every stage before its search succeeds does not
always exit with 0: the JSON search of an empty directory exits with 2. -/
theorem closed_stdout_not_always_success :
    ¬ ∀ (c : Surroundings) (a : Args) (loaded : Option Config) (text : String) (s : Searcher)
        (walk : WalkOptions) (w : Walker),
      c.stdoutClosed = true → a.listLanguages = false → a.dumpTree = none →
      Config.load c.disk c.cwd a.config = .ok loaded →
      (∀ t, (patternText c a (loaded.getD Config.empty)).run.run t = (.ok text, t)) →
      Searcher.new (Registry.standard c.parseClock) text (a.searchOptions (loaded.getD Config.empty)) = .ok s →
      s.walkOptions = .ok walk → Walker.new c.disk c.cwd (a.root.getD ".") walk = .ok w →
      (runArgs c a).code = 0 := by
  intro h
  obtain ⟨hcfg, s, walk, w, hs, hw, hn, hentries⟩ := closedEmpty_stages
  have hcode :=
    h closedEmpty jsonWildcard none "_" s walk w rfl rfl rfl hcfg (fun _ => rfl) hs hw hn
  have hfail : ((session closedEmpty jsonWildcard (themeOf closedEmpty)).run.run ⟨[], ""⟩).1 =
      .error Output.brokenPipe :=
    session_run (P := fun r => r.1 = _) rfl rfl hcfg (fun _ => rfl) hs
      (fun t => (search_closed_eq_error_iff hw hn rfl .json _ t _).mpr
        ⟨rfl, by rw [hentries, List.map_nil]; decide, rfl⟩) _
  rw [(runArgs_of_error hfail).1] at hcode
  exact absurd hcode (by decide)

end Cli
end ShapeSearch
