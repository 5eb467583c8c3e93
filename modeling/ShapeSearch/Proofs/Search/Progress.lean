import Mathlib
import ShapeSearch.Proofs.Search.Invariant

/-!
# Every run ends, and hands out its outcomes in walk order

A run's threads interleave in any order, and the cancel token may be set at any time.
This module shows that no such interleaving goes on forever and that none gets stuck
before the run is over, so every interleaving ends with the collector out of its loop;
the invariant then says what the sink was given.

* `Step.potential_lt`: every step of a thread lowers the work the run has left to do,
  counted per entry by how far it still has to go, so `Move.wellFounded` holds.
* `Inv.progress`: in a reachable state, as long as the collector has not finished, some
  thread can step.  The one subtle case is a producer waiting for a permit: every permit
  it lacks stands for an entry in flight, and the oldest of those is in the work queue,
  where an idle worker can take it.
* `run_delivers_in_walk_order`: at the end of every interleaving nothing is pending, the
  sink has had the walk's outcomes in walk order, all of them when the token was never
  set and none when it was set before the run.
* `Searcher.run_eq_pipeline`: the outcomes and the summary a searcher's run reports are
  those of the threads' setup, so the threads deliver what the run reports.
-/

namespace ShapeSearch
namespace Search
namespace Pipeline

variable {cfg : Setup} {c₀ : Bool} {σ τ : State}

/-! ## Termination -/

/-- What the producer has left to do in a walk of `m` entries: ten for each entry it has
not taken, less as it takes, checks and sends the current one. -/
def Producer.weight (m : Nat) : Producer → Nat
  | walking seq => 10 * (m - seq) + 1
  | permitted seq => 10 * (m - seq - 1) + 10
  | sending seq => 10 * (m - seq - 1) + 9
  | stopped _ => 0

/-- What a worker has left to do with the entry it holds. -/
def Worker.weight : Worker → Nat
  | idle => 1
  | taken .. => 7
  | reporting .. => 6
  | exited => 0

/-- What the collector has left to do in its current round. -/
def Collector.weight : Collector → Nat
  | receiving => 2
  | releasing => 3
  | returning => 4
  | finished => 0

/-- What a run has left to do: the threads' own work, and for every entry in a channel or
pending what its remaining moves cost. -/
def State.potential (cfg : Setup) (σ : State) : Nat :=
  σ.producer.weight cfg.entries.length + (σ.workers.map Worker.weight).sum +
    7 * σ.queue.length + 4 * σ.done.length + 2 * σ.pending.keys.length +
    σ.collector.weight + (if σ.canceled then 0 else 1)

/-- Every step of a thread lowers what the run has left to do. -/
theorem Step.potential_lt (h : Step cfg σ τ) : τ.potential cfg < σ.potential cfg := by
  cases h
  case take seq e walking entry permit =>
    have := (List.getElem?_eq_some_iff.mp entry).1
    simp [State.potential, walking, Producer.weight]
    omega
  case walkEnd seq walking ended => simp [State.potential, walking, Producer.weight]
  case stop seq permitted set => simp [State.potential, permitted, Producer.weight]
  case proceed seq permitted clear =>
    simp [State.potential, permitted, Producer.weight]
  case sendFile seq path sending file room =>
    simp [State.potential, sending, Producer.weight]
    omega
  case sendError seq err sending failed =>
    simp [State.potential, sending, Producer.weight]
    omega
  case receive pre post seq path rest idle front =>
    simp [State.potential, idle, front, Worker.weight]
    omega
  case exit pre post count idle empty gone =>
    simp [State.potential, idle, Worker.weight]
  case search pre post seq path taken clear =>
    simp [State.potential, taken, Worker.weight]
  case skip pre post seq path taken set =>
    simp [State.potential, taken, Worker.weight]
  case report pre post seq o reporting =>
    simp [State.potential, reporting, Worker.weight]
    omega
  case collect seq o rest receiving front =>
    have := List.length_erase_le (l := σ.pending.keys) (a := seq)
    simp [State.potential, receiving, front, AList.keys_insert, Collector.weight]
    omega
  case release o releasing found =>
    have hk : σ.next ∈ σ.pending.keys :=
      AList.mem_keys.mp (AList.lookup_isSome.mp (by simp [found]))
    have := List.length_erase_of_mem hk
    have := List.length_pos_of_mem hk
    simp [State.potential, releasing, AList.keys_erase, Collector.weight]
    omega
  case wait releasing absent => simp [State.potential, releasing, Collector.weight]
  case returnPermit returning alive room => simp [State.potential, returning, Collector.weight]
  case dropPermit count returning gone => simp [State.potential, returning, Collector.weight]
  case finish count receiving empty gone exited =>
    simp [State.potential, receiving, AList.keys_empty, Collector.weight]
    omega

/-- Every move, setting the token included, lowers what the run has left to do. -/
theorem Move.potential_lt (h : Move cfg σ τ) : τ.potential cfg < σ.potential cfg := by
  cases h with
  | step h => exact h.potential_lt
  | cancel hc => simp [State.potential, hc]

/-- **Every run ends**: no sequence of moves goes on forever, whatever the order of the
threads' steps and whenever the token is set. -/
theorem Move.wellFounded (cfg : Setup) : WellFounded fun τ σ => Move cfg σ τ :=
  Subrelation.wf (fun h => Move.potential_lt h) (InvImage.wf (State.potential cfg) Nat.lt_wfRel.wf)

/-! ## No run gets stuck -/

theorem Producer.stopped_of_running_eq_false {p : Producer} (h : p.running = false) :
    ∃ n, p = .stopped n := by
  cases p with
  | stopped n => exact ⟨n, rfl⟩
  | _ => simp [Producer.running] at h

/-- A worker that holds an entry can step: it reads the token, or sends its report. -/
theorem exists_step_of_held {w : Worker} (hw : w ∈ σ.workers) (hb : w.held ≠ []) :
    ∃ τ, Step cfg σ τ := by
  obtain ⟨pre, post, hws⟩ := List.append_of_mem hw
  cases w with
  | idle => simp [Worker.held] at hb
  | exited => simp [Worker.held] at hb
  | taken seq path =>
    cases hc : σ.canceled
    · exact ⟨_, .search hws hc⟩
    · exact ⟨_, .skip hws hc⟩
  | reporting seq o => exact ⟨_, .report hws⟩

/-- An idle worker can step when the work queue holds a file or the producer is gone. -/
theorem exists_step_of_idle (hw : Worker.idle ∈ σ.workers)
    (hq : σ.queue ≠ [] ∨ σ.producer.running = false) : ∃ τ, Step cfg σ τ := by
  obtain ⟨pre, post, hws⟩ := List.append_of_mem hw
  cases hqueue : σ.queue with
  | cons x rest => exact ⟨_, .receive hws hqueue⟩
  | nil =>
    have hr : σ.producer.running = false := hq.resolve_left (by simp [hqueue])
    obtain ⟨n, hn⟩ := Producer.stopped_of_running_eq_false hr
    exact ⟨_, .exit hws hqueue hn⟩

namespace Inv

variable (inv : Inv cfg c₀ σ)
include inv

/-- While the producer runs and no worker holds an entry, some worker is idle: none has
left yet. -/
theorem idle_mem (hrun : σ.producer.running = true) (hheld : ∀ w ∈ σ.workers, w.held = []) :
    Worker.idle ∈ σ.workers := by
  obtain ⟨w, hw⟩ := List.exists_mem_of_ne_nil _ inv.workers_ne_nil
  cases w with
  | idle => exact hw
  | exited =>
    have := (inv.exited hw).1
    simp [hrun] at this
  | taken seq path => simpa [Worker.held] using hheld _ hw
  | reporting seq o => simpa [Worker.held] using hheld _ hw

/-- A running producer without a permit, while the collector waits on an empty done channel
and no worker holds an entry, has left a file in the work queue: each permit it lacks
stands for an entry in flight, and the next one to release is neither held, reported nor
pending. -/
theorem queue_ne_nil_of_no_permit (hrun : σ.producer.running = true) (hperm : σ.permits = 0)
    (hhold : σ.producer.holding = 0) (hrecv : σ.collector = .receiving) (hd : σ.done = [])
    (hheld : ∀ w ∈ σ.workers, w.held = []) : σ.queue ≠ [] := by
  have heq := inv.permits_eq hrun
  have hslots : 0 < cfg.slots := Nat.add_pos_left cfg.capacity_pos _
  simp [hperm, hhold, hrecv, Collector.owed] at heq
  have hnext : σ.next ∈ σ.inFlight := inv.mem_inFlight.mpr ⟨le_refl _, by omega⟩
  have hnk : σ.next ∉ σ.pending.keys := by
    have := inv.waiting hrecv
    rwa [AList.lookup_eq_none, AList.mem_keys] at this
  intro hq
  simp [State.inFlight, hq, hd, List.flatMap_eq_nil_iff.mpr hheld] at hnext
  exact hnk hnext

/-- **No run gets stuck**: in a reachable state some thread can step until the collector
has finished.  The collector moves on unless it waits on an empty done channel; then a worker
holding an entry moves on, or else the producer or an idle worker does. -/
theorem progress (hf : σ.collector ≠ .finished) : ∃ τ, Step cfg σ τ := by
  cases hc : σ.collector with
  | finished => exact absurd hc hf
  | releasing =>
    cases hl : σ.pending.lookup σ.next with
    | none => exact ⟨_, .wait hc hl⟩
    | some o => exact ⟨_, .release hc hl⟩
  | returning =>
    cases hrun : σ.producer.running
    · obtain ⟨n, hn⟩ := Producer.stopped_of_running_eq_false hrun
      exact ⟨_, .dropPermit hc hn⟩
    · have := inv.permits_eq hrun
      simp [hc, Collector.owed] at this
      exact ⟨_, .returnPermit hc hrun (by omega)⟩
  | receiving =>
    cases hd : σ.done with
    | cons x rest => exact ⟨_, .collect hc hd⟩
    | nil =>
    by_cases hbusy : ∃ w ∈ σ.workers, w.held ≠ []
    · obtain ⟨w, hw, hb⟩ := hbusy
      exact exists_step_of_held hw hb
    have hheld : ∀ w ∈ σ.workers, w.held = [] := by simpa using hbusy
    cases hp : σ.producer with
    | permitted seq =>
      cases hcan : σ.canceled
      · exact ⟨_, .proceed hp hcan⟩
      · exact ⟨_, .stop hp hcan⟩
    | stopped n =>
      by_cases hidle : Worker.idle ∈ σ.workers
      · exact exists_step_of_idle hidle (.inr (by simp [hp, Producer.running]))
      · have hex : ∀ w ∈ σ.workers, w = .exited := fun w hw => by
          cases w with
          | idle => exact absurd hw hidle
          | exited => rfl
          | taken seq path => simpa [Worker.held] using hheld _ hw
          | reporting seq o => simpa [Worker.held] using hheld _ hw
        exact ⟨_, .finish hc hd hp hex⟩
    | walking seq =>
      cases he : cfg.entries[seq]? with
      | none => exact ⟨_, .walkEnd hp he⟩
      | some e =>
        by_cases hperm : 0 < σ.permits
        · exact ⟨_, .take hp he hperm⟩
        · have hrun : σ.producer.running = true := by simp [hp, Producer.running]
          have hq := inv.queue_ne_nil_of_no_permit hrun (by omega)
            (by simp [hp, Producer.holding]) hc hd hheld
          exact exists_step_of_idle (inv.idle_mem hrun hheld) (.inl hq)
    | sending seq =>
      cases he : cfg.entries[seq]? with
      | none =>
        have h1 := inv.sent_le
        have h2 := List.getElem?_eq_none_iff.mp he
        simp [hp, Producer.sent, Producer.holding] at h1
        omega
      | some e =>
        cases e with
        | error err => exact ⟨_, .sendError hp he⟩
        | ok path =>
          by_cases hroom : σ.queue.length < cfg.capacity
          · exact ⟨_, .sendFile hp he hroom⟩
          · have hrun : σ.producer.running = true := by simp [hp, Producer.running]
            have hq : σ.queue ≠ [] := fun hq => by
              have := cfg.capacity_pos
              simp [hq] at hroom
              omega
            exact exists_step_of_idle (inv.idle_mem hrun hheld) (.inl hq)

/-- A reachable state in which no thread can step is the end of the run. -/
theorem finished_of_terminal (ht : Terminal cfg σ) : σ.collector = .finished := by
  by_contra hf
  obtain ⟨τ, h⟩ := inv.progress hf
  exact ht τ h

end Inv

/-! ## What the sink is given -/

/-- **A run hands the sink its outcomes in walk order.**  No interleaving of the threads'
steps and the cancel token goes on forever, and one ends only when the run is over: a
reachable state where no thread can step has the collector out of its loop.  There nothing
is pending, and the sink has had a subsequence of the walk's outcomes, in walk order and
each at most once: all of them, with the summary counting them, when the token was never
set, and none when it was set before the run started. -/
theorem run_delivers_in_walk_order (cfg : Setup) (c₀ : Bool) :
    WellFounded (fun τ σ => Move cfg σ τ) ∧
    ∀ σ, Reachable cfg c₀ σ → Terminal cfg σ →
      σ.collector = .finished ∧ σ.pending.keys = [] ∧ σ.delivered.Sublist cfg.outcomes ∧
      (σ.canceled = false →
        σ.delivered = cfg.outcomes ∧ σ.summary = Summary.ofOutcomes cfg.outcomes) ∧
      (c₀ = true → σ.delivered = []) := by
  refine ⟨Move.wellFounded cfg, fun σ hr ht => ?_⟩
  have inv := hr.inv
  have hfin := inv.finished_of_terminal ht
  obtain ⟨hrun, hq, hd, hkeys, hw⟩ := inv.finished hfin
  obtain ⟨n, hn⟩ := Producer.stopped_of_running_eq_false hrun
  have hnext : σ.next = n := by
    have hlen := inv.length_inFlight
    have hle := inv.next_le
    have hheld : ∀ w ∈ σ.workers, w.held = [] := fun w hm => by simp [hw w hm, Worker.held]
    simp [State.inFlight, hq, hd, hkeys, List.flatMap_eq_nil_iff.mpr hheld, hn,
      Producer.sent] at hlen hle
    omega
  refine ⟨hfin, hkeys, inv.delivered.trans (List.take_sublist _ _), fun hc => ?_, fun h0 => ?_⟩
  · have hend : n = cfg.entries.length := (inv.stopped n hn).resolve_right (by simp [hc])
    have hall : cfg.outcomes.take σ.next = cfg.outcomes := by
      rw [hnext, hend]
      exact List.take_of_length_le (by simp [Setup.outcomes])
    have hdel := (inv.delivered_eq hc).trans hall
    exact ⟨hdel, by rw [inv.summary, hdel]⟩
  · have hsent := (inv.started h0).2.1
    rw [hn, Producer.sent] at hsent
    have := inv.delivered
    rw [hnext, hsent, List.take_zero] at this
    exact List.eq_nil_of_sublist_nil this

/-- A run over `oneFile` in which the producer sends the file, the worker searches it, the
collector releases it, and every thread leaves: it ends having delivered the file's outcome. -/
theorem run_delivers_in_walk_order_oneFile :
    ∃ σ, Reachable oneFile false σ ∧ Terminal oneFile σ ∧ σ.collector = .finished ∧
      σ.delivered = oneFile.outcomes := by
  have hr : Reachable oneFile false _ :=
    (((((((((((((Relation.ReflTransGen.refl.tail
      (.step (.take rfl rfl (by decide)))).tail
      (.step (.proceed rfl rfl))).tail
      (.step (.sendFile rfl rfl (by decide)))).tail
      (.step (@Step.receive _ _ [] [] _ _ _ rfl rfl))).tail
      (.step (@Step.search _ _ [] [] _ _ rfl rfl))).tail
      (.step (@Step.report _ _ [] [] _ _ rfl))).tail
      (.step (.collect rfl rfl))).tail
      (.step (.release rfl rfl))).tail
      (.step (.returnPermit rfl rfl (by decide)))).tail
      (.step (.wait rfl rfl))).tail
      (.step (.walkEnd rfl rfl))).tail
      (.step (@Step.exit _ _ [] [] _ rfl rfl rfl))).tail
      (.step (.finish rfl rfl rfl (by simp))))
  obtain ⟨σ, hr, ht, hc⟩ : ∃ σ, Reachable oneFile false σ ∧ Terminal oneFile σ ∧
      σ.canceled = false :=
    ⟨_, hr, fun τ h => by clear hr; cases h <;> simp_all [List.cons_eq_append_iff], rfl⟩
  have hend := (run_delivers_in_walk_order oneFile false).2 σ hr ht
  exact ⟨σ, hr, ht, hend.1, (hend.2.2.2.1 hc).1⟩

end Pipeline

namespace Searcher

/-- A sink that never fails takes every outcome. -/
theorem deliver_of_never_fails (os : List FileOutcome) :
    deliver (stateless fun _ => none) () os = .ok () := by
  induction os with
  | nil => rfl
  | cons o os ih => simpa [deliver, stateless] using ih

/-- **A run reports what its threads deliver.**  Run with a sink that never fails and no
cancelation, a searcher reports the outcomes of the threads' setup for the same root, in
walk order, and their summary; it fails exactly when the setup cannot be made. -/
theorem run_eq_pipeline (s : Searcher) (d : Disk) (cwd root : String) (available : Nat) :
    s.run d cwd root false (fun _ => none) =
      (s.pipeline d cwd root available).map fun cfg =>
        (cfg.outcomes, { Summary.ofOutcomes cfg.outcomes with canceled := false }) := by
  cases hw : s.walkOptions with
  | error e => simp [run, runWith, pipeline, hw, bind, Except.bind, Except.map]
  | ok walk =>
    cases hn : Walker.new d cwd root walk with
    | error e => simp [run, runWith, pipeline, hw, hn, bind, Except.bind, Except.map]
    | ok w =>
      simp [run, runWith, pipeline, hw, hn, bind, Except.bind, Except.map, pure, Except.pure,
        deliver_of_never_fails, Pipeline.Setup.outcomes]

end Searcher

end Search
end ShapeSearch
