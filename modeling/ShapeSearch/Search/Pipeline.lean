import ShapeSearch.Search.Run
import Mathlib.Data.List.AList
import Mathlib.Logic.Relation

/-!
# The threads of a run

A run is carried out by threads that pass the walk's entries along channels.

* The **producer** walks the root and numbers the entries `0, 1, …` in walk order.  For
  each entry it first takes a *permit* from the permit channel, then reads the cancel
  token and leaves its loop if the token is set (the permit is spent), and otherwise
  sends the entry on: a file to the bounded work queue, an error of the walk itself as
  its skipped outcome straight to the done channel.
* Each **worker** takes files from the work queue.  It reads the cancel token and sends
  the file's outcome under the file's number to the done channel, or no outcome at all
  when the token is set.  It stops once the queue is empty and the producer is gone.
* The **collector** receives numbered reports from the done channel and keeps them as
  pending until every smaller number has arrived.  Releasing a number hands its outcome,
  if it has one, to the sink and counts it in the summary, and returns a permit.  When
  every sender is gone and the done channel is empty it hands out what is still pending,
  in number order, and the run ends.

The permit channel starts with `queue capacity + workers` permits, so at most that many
entries are between the walk and the sink at any time.

The model is a transition system: a `Step` is one atomic action of one thread, and the
cancel token may be set between any two steps (`Move`).  Work a thread does alone
(reading the walk's next entry, searching a file, calling the sink) belongs to the step
that follows it, since no other thread can see it.  Sends to the work queue and to the
done channel never fail, since their receivers live until every sender is gone; the
permit channel is closed once the producer is gone, and a permit returned after that is
dropped.  The sink never fails.

The walk is a fixed list of entries and each entry has a fixed outcome, whichever worker
searches it.
-/

namespace ShapeSearch
namespace Search
namespace Pipeline

/-- What the threads of a run are given. -/
structure Setup where
  /-- The walk's entries, in walk order. -/
  entries : List WalkEntry
  /-- The outcome of an entry. -/
  outcome : WalkEntry → FileOutcome
  /-- How many files the work queue holds. -/
  capacity : Nat
  /-- How many workers search files. -/
  workers : Nat
  capacity_pos : 0 < capacity
  workers_pos : 0 < workers

namespace Setup

/-- The outcomes of the walk's entries, in walk order. -/
def outcomes (cfg : Setup) : List FileOutcome :=
  cfg.entries.map cfg.outcome

/-- The permits of a run: one per entry between the walk and the sink. -/
def slots (cfg : Setup) : Nat :=
  cfg.capacity + cfg.workers

end Setup

/-- Where the producer is in its loop over the walk. -/
inductive Producer where
  /-- At the head of the loop; the walk's next entry has number `seq`. -/
  | walking (seq : Nat)
  /-- Holds entry `seq` and a permit, and is about to read the cancel token. -/
  | permitted (seq : Nat)
  /-- Found the token clear and sends entry `seq` on. -/
  | sending (seq : Nat)
  /-- Left its loop after sending the first `count` entries on. -/
  | stopped (count : Nat)
  deriving DecidableEq, Repr

namespace Producer

/-- How many entries the producer has sent on. -/
def sent : Producer → Nat
  | walking n | permitted n | sending n | stopped n => n

/-- The permit the producer holds and has not spent on an entry yet. -/
def holding : Producer → Nat
  | permitted _ | sending _ => 1
  | walking _ | stopped _ => 0

/-- Whether the producer is still in its loop. -/
def running : Producer → Bool
  | stopped _ => false
  | _ => true

end Producer

/-- Where a worker is in its loop over the work queue. -/
inductive Worker where
  /-- Waiting for a file. -/
  | idle
  /-- Took file `path`, number `seq`, and is about to read the cancel token. -/
  | taken (seq : Nat) (path : String)
  /-- Is sending its report on entry `seq` to the done channel. -/
  | reporting (seq : Nat) (outcome : Option FileOutcome)
  /-- Left its loop. -/
  | exited
  deriving Repr

/-- The entry a worker holds, if it holds one. -/
def Worker.held : Worker → List Nat
  | taken seq _ | reporting seq _ => [seq]
  | idle | exited => []

/-- Where the collector is in its loop over the done channel. -/
inductive Collector where
  /-- Waiting for a report. -/
  | receiving
  /-- Looking for the next number among the pending reports. -/
  | releasing
  /-- Released a number and is returning its permit. -/
  | returning
  /-- Out of its loop: the run is over. -/
  | finished
  deriving DecidableEq, Repr

/-- Reports received and not yet released, by entry number. -/
abbrev Pending := AList fun _ : Nat => Option FileOutcome

/-- The outcomes of pending reports in number order, leaving out the empty reports. -/
def Pending.outcomes (p : Pending) : List FileOutcome :=
  (p.entries.mergeSort fun a b => decide (a.1 ≤ b.1)).filterMap (·.2)

/-- A state of a run. -/
structure State where
  producer : Producer
  /-- The permits in the permit channel. -/
  permits : Nat
  /-- The work queue, front first. -/
  queue : List (Nat × String)
  workers : List Worker
  /-- The done channel, front first. -/
  done : List (Nat × Option FileOutcome)
  pending : Pending
  /-- The number the collector releases next. -/
  next : Nat
  collector : Collector
  /-- What the sink was given, in order. -/
  delivered : List FileOutcome
  summary : Summary
  canceled : Bool

/-- Hand outcomes to the sink and count them in the summary. -/
@[simp] def State.deliver (σ : State) (os : List FileOutcome) : State :=
  { σ with delivered := σ.delivered ++ os, summary := os.foldl Summary.record σ.summary }

/-- The state of a run before any thread moves, with the cancel token as given: every
permit in the permit channel, every worker idle, nothing sent. -/
def init (cfg : Setup) (canceled : Bool) : State :=
  { producer := .walking 0, permits := cfg.slots, queue := [],
    workers := List.replicate cfg.workers .idle, done := [], pending := ∅, next := 0,
    collector := .receiving, delivered := [], summary := Summary.empty, canceled }

/-- One atomic action of one thread. -/
inductive Step (cfg : Setup) : State → State → Prop
  /-- The producer reads the walk's next entry and takes a permit for it. -/
  | take {σ : State} {seq : Nat} {e : WalkEntry}
      (walking : σ.producer = .walking seq) (entry : cfg.entries[seq]? = some e)
      (permit : 0 < σ.permits) :
      Step cfg σ { σ with producer := .permitted seq, permits := σ.permits - 1 }
  /-- The walk is over and the producer leaves its loop. -/
  | walkEnd {σ : State} {seq : Nat}
      (walking : σ.producer = .walking seq) (ended : cfg.entries[seq]? = none) :
      Step cfg σ { σ with producer := .stopped seq }
  /-- The producer finds the token set and leaves its loop. -/
  | stop {σ : State} {seq : Nat}
      (permitted : σ.producer = .permitted seq) (set : σ.canceled = true) :
      Step cfg σ { σ with producer := .stopped seq }
  /-- The producer finds the token clear. -/
  | proceed {σ : State} {seq : Nat}
      (permitted : σ.producer = .permitted seq) (clear : σ.canceled = false) :
      Step cfg σ { σ with producer := .sending seq }
  /-- The producer sends a file to the work queue, once the queue has room. -/
  | sendFile {σ : State} {seq : Nat} {path : String}
      (sending : σ.producer = .sending seq) (file : cfg.entries[seq]? = some (.ok path))
      (room : σ.queue.length < cfg.capacity) :
      Step cfg σ { σ with producer := .walking (seq + 1), queue := σ.queue ++ [(seq, path)] }
  /-- The producer sends the skipped outcome of an error of the walk to the done channel. -/
  | sendError {σ : State} {seq : Nat} {err : Error}
      (sending : σ.producer = .sending seq) (failed : cfg.entries[seq]? = some (.error err)) :
      Step cfg σ { σ with producer := .walking (seq + 1),
                          done := σ.done ++ [(seq, some (cfg.outcome (.error err)))] }
  /-- An idle worker takes the file at the front of the work queue. -/
  | receive {σ : State} {pre post : List Worker} {seq : Nat} {path : String}
      {rest : List (Nat × String)}
      (idle : σ.workers = pre ++ .idle :: post) (front : σ.queue = (seq, path) :: rest) :
      Step cfg σ { σ with workers := pre ++ .taken seq path :: post, queue := rest }
  /-- An idle worker finds the work queue empty and the producer gone, and leaves. -/
  | exit {σ : State} {pre post : List Worker} {count : Nat}
      (idle : σ.workers = pre ++ .idle :: post) (empty : σ.queue = [])
      (gone : σ.producer = .stopped count) :
      Step cfg σ { σ with workers := pre ++ .exited :: post }
  /-- A worker finds the token clear and searches its file. -/
  | search {σ : State} {pre post : List Worker} {seq : Nat} {path : String}
      (taken : σ.workers = pre ++ .taken seq path :: post) (clear : σ.canceled = false) :
      Step cfg σ
        { σ with workers := pre ++ .reporting seq (some (cfg.outcome (.ok path))) :: post }
  /-- A worker finds the token set and reports no outcome for its file. -/
  | skip {σ : State} {pre post : List Worker} {seq : Nat} {path : String}
      (taken : σ.workers = pre ++ .taken seq path :: post) (set : σ.canceled = true) :
      Step cfg σ { σ with workers := pre ++ .reporting seq none :: post }
  /-- A worker sends its report to the done channel. -/
  | report {σ : State} {pre post : List Worker} {seq : Nat} {o : Option FileOutcome}
      (reporting : σ.workers = pre ++ .reporting seq o :: post) :
      Step cfg σ { σ with workers := pre ++ .idle :: post, done := σ.done ++ [(seq, o)] }
  /-- The collector receives the report at the front of the done channel. -/
  | collect {σ : State} {seq : Nat} {o : Option FileOutcome}
      {rest : List (Nat × Option FileOutcome)}
      (receiving : σ.collector = .receiving) (front : σ.done = (seq, o) :: rest) :
      Step cfg σ { σ with done := rest, pending := σ.pending.insert seq o,
                          collector := .releasing }
  /-- The next number is pending: the collector releases it. -/
  | release {σ : State} {o : Option FileOutcome}
      (releasing : σ.collector = .releasing) (found : σ.pending.lookup σ.next = some o) :
      Step cfg σ { σ.deliver o.toList with pending := σ.pending.erase σ.next,
                                            next := σ.next + 1, collector := .returning }
  /-- The next number has not arrived: the collector waits for more reports. -/
  | wait {σ : State}
      (releasing : σ.collector = .releasing) (absent : σ.pending.lookup σ.next = none) :
      Step cfg σ { σ with collector := .receiving }
  /-- The collector returns a permit to the producer, once the permit channel has room. -/
  | returnPermit {σ : State}
      (returning : σ.collector = .returning) (alive : σ.producer.running = true)
      (room : σ.permits < cfg.slots) :
      Step cfg σ { σ with permits := σ.permits + 1, collector := .releasing }
  /-- The producer is gone and the permit channel with it: the permit is dropped. -/
  | dropPermit {σ : State} {count : Nat}
      (returning : σ.collector = .returning) (gone : σ.producer = .stopped count) :
      Step cfg σ { σ with collector := .releasing }
  /-- Every sender is gone and the done channel is empty: the collector hands out what is
  still pending, in number order, and the run ends. -/
  | finish {σ : State} {count : Nat}
      (receiving : σ.collector = .receiving) (empty : σ.done = [])
      (gone : σ.producer = .stopped count) (exited : ∀ w ∈ σ.workers, w = .exited) :
      Step cfg σ { σ.deliver σ.pending.outcomes with pending := ∅, collector := .finished }

/-- A step of a thread, or the cancel token being set. -/
inductive Move (cfg : Setup) : State → State → Prop
  | step {σ τ : State} : Step cfg σ τ → Move cfg σ τ
  | cancel {σ : State} : σ.canceled = false → Move cfg σ { σ with canceled := true }

/-- The states a run reaches from its start, the cancel token being set or not before it. -/
def Reachable (cfg : Setup) (canceled : Bool) : State → Prop :=
  Relation.ReflTransGen (Move cfg) (init cfg canceled)

/-- No thread can take a step. -/
def Terminal (cfg : Setup) (σ : State) : Prop :=
  ∀ τ, ¬ Step cfg σ τ

end Pipeline

namespace Searcher

/-- The number of workers: the searcher's thread count, or the machine's available
parallelism, and at least one. -/
def threadCount (s : Searcher) (available : Nat) : Nat :=
  max (s.options.threads.getD available) 1

/-- The threads' setup for a run of a searcher over a root: the walk of the root, the
searcher's outcome of each entry, at least one queued file and the thread count. -/
def pipeline (s : Searcher) (d : Disk) (cwd root : String) (available : Nat) :
    Except Error Pipeline.Setup := do
  let walk ← s.walkOptions
  let w ← Walker.new d cwd root walk
  pure { entries := w.entries, outcome := s.outcomeOf d w.root,
         capacity := max s.options.queueCapacity 1, workers := s.threadCount available,
         capacity_pos := Nat.lt_of_lt_of_le Nat.one_pos (Nat.le_max_right _ _),
         workers_pos := Nat.lt_of_lt_of_le Nat.one_pos (Nat.le_max_right _ _) }

end Searcher

end Search
end ShapeSearch
