import ShapeSearch.Search.Pipeline

/-!
# What every state of a run keeps

`Inv` collects what holds in every state the threads of a run reach, whatever the
order of their steps and whenever the cancel token is set.  Its fields, in the order
their proofs use them:

* **flight**: the numbers the collector released, `0, …, next - 1`, and the numbers
  between the walk and the sink (in the work queue, held by a worker, in the done channel
  or pending) are together exactly the numbers the producer sent on, each once;
* **contents**: a queued or taken file is the walk's entry under its number, and every
  report holds its entry's outcome, or nothing once the run is canceled;
* **delivery**: the sink has had the outcomes of the released numbers, in order, less the
  empty reports, and all of them when the run is not canceled; the summary counts them;
* **permits**: while the producer runs, the permits in the channel, the one the producer
  holds, the entries in flight and the one the collector owes add up to the permits the
  run started with;
* **phases**: a waiting collector has no report for its next number; the producer stops
  at the end of the walk or on cancelation; workers leave only after the producer; a
  finished run has nothing left anywhere; a run canceled before it starts sends nothing.

`Inv.initial` and `Inv.move` give `Reachable.inv`.  The bound on the entries in flight,
`inFlight_bounded`, follows from the permits and the flight.
-/

namespace ShapeSearch
namespace Search
namespace Pipeline

/-- The numbers of the entries between the walk and the sink: in the work queue, held by a
worker, in the done channel, or pending. -/
def State.inFlight (σ : State) : List Nat :=
  σ.queue.map (·.1) ++ σ.workers.flatMap Worker.held ++ σ.done.map (·.1) ++ σ.pending.keys

/-- The permit the collector owes the producer, from releasing a number until it is
returned. -/
def Collector.owed : Collector → Nat
  | returning => 1
  | receiving | releasing | finished => 0

/-- A report on entry `seq` is right: it holds the entry's outcome, or nothing on a
canceled run. -/
def Fits (cfg : Setup) (canceled : Bool) (seq : Nat) (o : Option FileOutcome) : Prop :=
  o = cfg.outcomes[seq]? ∨ (o = none ∧ canceled = true)

theorem Fits.cancel {cfg : Setup} {canceled : Bool} {seq : Nat} {o : Option FileOutcome}
    (h : Fits cfg canceled seq o) : Fits cfg true seq o := by
  rcases h with h | ⟨h, -⟩
  · exact .inl h
  · exact .inr ⟨h, rfl⟩

/-- The outcome of a file entry fits it. -/
theorem fits_file {cfg : Setup} {canceled : Bool} {seq : Nat} {path : String}
    (h : cfg.entries[seq]? = some (.ok path)) :
    Fits cfg canceled seq (some (cfg.outcome (.ok path))) :=
  .inl (by simp [Setup.outcomes, List.getElem?_map, h])

/-- What a worker holds is right: a taken file is the walk's entry under its number, and a
report fits its entry. -/
def Worker.Fits (cfg : Setup) (canceled : Bool) : Worker → Prop
  | taken seq path => cfg.entries[seq]? = some (.ok path)
  | reporting seq o => Pipeline.Fits cfg canceled seq o
  | idle | exited => True

theorem Worker.Fits.cancel {cfg : Setup} {canceled : Bool} :
    ∀ {w : Worker}, w.Fits cfg canceled → w.Fits cfg true
  | taken _ _, h => h
  | reporting _ _, h => Pipeline.Fits.cancel h
  | idle, _ | exited, _ => trivial

/-- What every reachable state keeps. -/
structure Inv (cfg : Setup) (c₀ : Bool) (σ : State) : Prop where
  workers_length : σ.workers.length = cfg.workers
  sent_le : σ.producer.sent + σ.producer.holding ≤ cfg.entries.length
  flight : (List.range σ.next ++ σ.inFlight).Perm (List.range σ.producer.sent)
  queued : ∀ x ∈ σ.queue, cfg.entries[x.1]? = some (.ok x.2)
  working : ∀ w ∈ σ.workers, w.Fits cfg σ.canceled
  reported : ∀ x ∈ σ.done, Fits cfg σ.canceled x.1 x.2
  pending : ∀ seq o, σ.pending.lookup seq = some o → Fits cfg σ.canceled seq o
  delivered : σ.delivered.Sublist (cfg.outcomes.take σ.next)
  delivered_eq : σ.canceled = false → σ.delivered = cfg.outcomes.take σ.next
  summary : σ.summary = Summary.ofOutcomes σ.delivered
  permits_eq : σ.producer.running = true →
    σ.permits + σ.producer.holding + (σ.producer.sent - σ.next) + σ.collector.owed = cfg.slots
  permits_le : σ.producer.sent - σ.next + σ.collector.owed ≤ cfg.slots
  waiting : σ.collector = .receiving → σ.pending.lookup σ.next = none
  stopped : ∀ n, σ.producer = .stopped n → n = cfg.entries.length ∨ σ.canceled = true
  exited : Worker.exited ∈ σ.workers → σ.producer.running = false ∧ σ.queue = []
  finished : σ.collector = .finished → σ.producer.running = false ∧ σ.queue = [] ∧
    σ.done = [] ∧ σ.pending.keys = [] ∧ ∀ w ∈ σ.workers, w = .exited
  started : c₀ = true →
    σ.canceled = true ∧ σ.producer.sent = 0 ∧ ∀ seq, σ.producer ≠ .sending seq

variable {cfg : Setup} {c₀ : Bool} {σ τ : State}

/-! ## The flight of entries -/

namespace Inv

variable (inv : Inv cfg c₀ σ)
include inv

/-- The released numbers and the numbers in flight together are as many as were sent. -/
theorem next_add_length : σ.next + σ.inFlight.length = σ.producer.sent := by
  simpa using inv.flight.length_eq

theorem next_le : σ.next ≤ σ.producer.sent := by
  have := inv.next_add_length
  omega

theorem length_inFlight : σ.inFlight.length = σ.producer.sent - σ.next := by
  have := inv.next_add_length
  omega

/-- No number is twice in flight, nor released and in flight. -/
theorem nodup : (List.range σ.next ++ σ.inFlight).Nodup :=
  inv.flight.nodup_iff.mpr List.nodup_range

/-- The numbers in flight are those from the next one up to the last one sent. -/
theorem mem_inFlight {k : Nat} : k ∈ σ.inFlight ↔ σ.next ≤ k ∧ k < σ.producer.sent := by
  have hmem : k ∈ List.range σ.next ++ σ.inFlight ↔ k < σ.producer.sent := by
    rw [inv.flight.mem_iff, List.mem_range]
  constructor
  · intro hk
    have hnot : k ∉ List.range σ.next := fun hr =>
      List.disjoint_of_nodup_append inv.nodup hr hk
    rw [List.mem_range] at hnot
    exact ⟨by omega, hmem.mp (List.mem_append_right _ hk)⟩
  · rintro ⟨h1, h2⟩
    rcases List.mem_append.mp (hmem.mpr h2) with hr | hk
    · rw [List.mem_range] at hr
      omega
    · exact hk

/-- A number is in at most one place in flight. -/
theorem count_le_one (k : Nat) : σ.inFlight.count k ≤ 1 :=
  List.nodup_iff_count_le_one.mp inv.nodup.of_append_right k

/-- A pending number is in flight. -/
theorem lt_sent_of_lookup {k : Nat} {o : Option FileOutcome} (h : σ.pending.lookup k = some o) :
    σ.next ≤ k ∧ k < σ.producer.sent := by
  have hk : k ∈ σ.pending.keys := AList.mem_keys.mp (AList.lookup_isSome.mp (by simp [h]))
  exact inv.mem_inFlight.mp (by simp [State.inFlight, hk])

/-- With the work queue, the workers and the done channel empty, a waiting collector has
released every number sent, and nothing is pending. -/
theorem settled (hrecv : σ.collector = .receiving) (hq : σ.queue = [])
    (hw : ∀ w ∈ σ.workers, w.held = []) (hd : σ.done = []) :
    σ.pending.keys = [] ∧ σ.next = σ.producer.sent := by
  have hflight : σ.inFlight = σ.pending.keys := by
    simp [State.inFlight, hq, hd, List.flatMap_eq_nil_iff.mpr hw]
  have hkeys : σ.pending.keys = [] := by
    apply List.eq_nil_iff_forall_not_mem.mpr
    intro k hk
    obtain ⟨h1, h2⟩ := inv.mem_inFlight.mp (hflight ▸ hk)
    have hnext : σ.next ∈ σ.pending.keys := hflight ▸ inv.mem_inFlight.mpr ⟨le_refl _, by omega⟩
    have := inv.waiting hrecv
    rw [AList.lookup_eq_none, AList.mem_keys] at this
    exact this hnext
  have hlen := inv.length_inFlight
  have hle := inv.next_le
  rw [hflight, hkeys, List.length_nil] at hlen
  exact ⟨hkeys, by omega⟩

end Inv

/-- Nothing pending, nothing to hand out. -/
theorem Pending.outcomes_eq_nil {p : Pending} (h : p.keys = []) : p.outcomes = [] := by
  have : p.entries = [] := by simpa [AList.keys, List.keys] using h
  simp [Pending.outcomes, this]

/-- A worker of the list after one worker changed is the changed worker or was there before. -/
theorem mem_of_mem_replace {pre post : List Worker} {w w' x : Worker}
    (h : x ∈ pre ++ w' :: post) : x = w' ∨ x ∈ pre ++ w :: post := by
  simp only [List.mem_append, List.mem_cons] at h ⊢
  tauto

namespace Inv

variable (inv : Inv cfg c₀ σ)
include inv

/-- A run has at least one worker. -/
theorem workers_ne_nil : σ.workers ≠ [] := by
  intro hnil
  have := inv.workers_length
  rw [hnil] at this
  exact absurd this.symm (Nat.pos_iff_ne_zero.mp cfg.workers_pos)

/-- Once every worker has left, the work queue is empty: a worker leaves only with the queue
empty and the producer gone. -/
theorem queue_eq_nil (hw : ∀ w ∈ σ.workers, w = .exited) : σ.queue = [] := by
  obtain ⟨w, hmem⟩ := List.exists_mem_of_ne_nil _ inv.workers_ne_nil
  exact (inv.exited (hw w hmem ▸ hmem)).2

/-- When every worker has left and the done channel is empty, a waiting collector has
released every number sent and nothing is pending. -/
theorem settled_of_exited (hrecv : σ.collector = .receiving) (hd : σ.done = [])
    (hw : ∀ w ∈ σ.workers, w = .exited) : σ.pending.keys = [] ∧ σ.next = σ.producer.sent :=
  inv.settled hrecv (inv.queue_eq_nil hw) (fun w hm => by simp [hw w hm, Worker.held]) hd

/-- The flight after a step that only moves entries from one place to another. -/
theorem flight_of_move (hp : τ.inFlight.Perm σ.inFlight) (hn : τ.next = σ.next)
    (hs : τ.producer.sent = σ.producer.sent) :
    (List.range τ.next ++ τ.inFlight).Perm (List.range τ.producer.sent) := by
  rw [hn, hs]
  exact (hp.append_left _).trans inv.flight

/-- The flight after the producer sends its next entry on. -/
theorem flight_of_send (hp : τ.inFlight.Perm (σ.inFlight ++ [σ.producer.sent]))
    (hn : τ.next = σ.next) (hs : τ.producer.sent = σ.producer.sent + 1) :
    (List.range τ.next ++ τ.inFlight).Perm (List.range τ.producer.sent) := by
  rw [hn, hs, List.range_succ]
  refine (hp.append_left _).trans ?_
  rw [← List.append_assoc]
  exact inv.flight.append_right _

/-- The flight after the collector releases its next number. -/
theorem flight_of_release (hp : (σ.next :: τ.inFlight).Perm σ.inFlight)
    (hn : τ.next = σ.next + 1) (hs : τ.producer.sent = σ.producer.sent) :
    (List.range τ.next ++ τ.inFlight).Perm (List.range τ.producer.sent) := by
  rw [hn, hs, List.range_succ, List.append_assoc]
  exact (hp.append_left _).trans inv.flight

/-! ## One step keeps each field -/

variable (h : Step cfg σ τ)
include h

theorem step_workers_length : τ.workers.length = cfg.workers := by
  have hw := inv.workers_length
  cases h <;> simp_all

theorem step_sent_le : τ.producer.sent + τ.producer.holding ≤ cfg.entries.length := by
  have hs := inv.sent_le
  cases h
  case take seq e walking entry permit =>
    have := (List.getElem?_eq_some_iff.mp entry).1
    simp [Producer.sent, Producer.holding]
    omega
  all_goals simp_all [Producer.sent, Producer.holding] <;> omega

theorem step_flight : (List.range τ.next ++ τ.inFlight).Perm (List.range τ.producer.sent) := by
  cases h
  case take seq e walking entry permit =>
    exact inv.flight_of_move (.refl _) rfl (by simp [walking, Producer.sent])
  case walkEnd seq walking ended =>
    exact inv.flight_of_move (.refl _) rfl (by simp [walking, Producer.sent])
  case stop seq permitted set =>
    exact inv.flight_of_move (.refl _) rfl (by simp [permitted, Producer.sent])
  case proceed seq permitted clear =>
    exact inv.flight_of_move (.refl _) rfl (by simp [permitted, Producer.sent])
  case sendFile seq path sending file room =>
    refine inv.flight_of_send ?_ rfl (by simp [sending, Producer.sent])
    rw [List.perm_iff_count]
    intro a
    simp [State.inFlight, sending, Producer.sent, List.count_append, List.count_cons]
    omega
  case sendError seq err sending failed =>
    refine inv.flight_of_send ?_ rfl (by simp [sending, Producer.sent])
    rw [List.perm_iff_count]
    intro a
    simp [State.inFlight, sending, Producer.sent, List.count_append, List.count_cons]
  case receive pre post seq path rest idle front =>
    refine inv.flight_of_move ?_ rfl rfl
    rw [List.perm_iff_count]
    intro a
    simp [State.inFlight, idle, front, Worker.held, List.count_append, List.count_cons]
    omega
  case exit pre post count idle empty gone =>
    exact inv.flight_of_move (by simp [State.inFlight, idle, Worker.held]) rfl rfl
  case search pre post seq path taken clear =>
    exact inv.flight_of_move (by simp [State.inFlight, taken, Worker.held]) rfl rfl
  case skip pre post seq path taken set =>
    exact inv.flight_of_move (by simp [State.inFlight, taken, Worker.held]) rfl rfl
  case report pre post seq o reporting =>
    refine inv.flight_of_move ?_ rfl rfl
    rw [List.perm_iff_count]
    intro a
    simp [State.inFlight, reporting, Worker.held, List.count_append, List.count_cons]
    omega
  case collect seq o rest receiving front =>
    have hnew : seq ∉ σ.pending.keys := by
      intro hk
      have h1 := inv.count_le_one seq
      have h2 := List.count_pos_iff.mpr hk
      simp [State.inFlight, front, List.count_append] at h1
      omega
    refine inv.flight_of_move ?_ rfl rfl
    rw [List.perm_iff_count]
    intro a
    simp [State.inFlight, front, AList.keys_insert, List.erase_of_not_mem hnew,
      List.count_append, List.count_cons]
    omega
  case release o releasing found =>
    have hk : σ.next ∈ σ.pending.keys :=
      AList.mem_keys.mp (AList.lookup_isSome.mp (by simp [found]))
    refine inv.flight_of_release ?_ rfl rfl
    simp only [State.deliver, State.inFlight, AList.keys_erase]
    exact List.perm_middle.symm.trans ((List.perm_cons_erase hk).symm.append_left _)
  case wait releasing absent => exact inv.flight_of_move (.refl _) rfl rfl
  case returnPermit returning alive room => exact inv.flight_of_move (.refl _) rfl rfl
  case dropPermit count returning gone => exact inv.flight_of_move (.refl _) rfl rfl
  case finish count receiving empty gone exited =>
    obtain ⟨hkeys, -⟩ := inv.settled_of_exited receiving empty exited
    exact inv.flight_of_move (by simp [State.inFlight, hkeys, AList.keys_empty]) rfl rfl

theorem step_queued : ∀ x ∈ τ.queue, cfg.entries[x.1]? = some (.ok x.2) := by
  have hq := inv.queued
  cases h
  case sendFile seq path sending file room =>
    intro x hx
    rcases List.mem_append.mp hx with hx | hx
    · exact hq x hx
    · rw [List.mem_singleton.mp hx]
      exact file
  case receive pre post seq path rest idle front =>
    exact fun x hx => hq x (by simp [front, hx])
  all_goals exact hq

theorem step_working : ∀ w ∈ τ.workers, w.Fits cfg τ.canceled := by
  have hw := inv.working
  cases h
  case receive pre post seq path rest idle front =>
    intro w hm
    rcases mem_of_mem_replace (w := .idle) hm with rfl | hm
    · exact inv.queued (seq, path) (by simp [front])
    · exact hw w (idle ▸ hm)
  case exit pre post count idle empty gone =>
    intro w hm
    rcases mem_of_mem_replace (w := .idle) hm with rfl | hm
    · trivial
    · exact hw w (idle ▸ hm)
  case search pre post seq path taken clear =>
    intro w hm
    rcases mem_of_mem_replace (w := .taken seq path) hm with rfl | hm
    · exact fits_file (hw (.taken seq path) (by simp [taken]))
    · exact hw w (taken ▸ hm)
  case skip pre post seq path taken set =>
    intro w hm
    rcases mem_of_mem_replace (w := .taken seq path) hm with rfl | hm
    · exact .inr ⟨rfl, set⟩
    · exact hw w (taken ▸ hm)
  case report pre post seq o reporting =>
    intro w hm
    rcases mem_of_mem_replace (w := .reporting seq o) hm with rfl | hm
    · trivial
    · exact hw w (reporting ▸ hm)
  all_goals exact hw

theorem step_reported : ∀ x ∈ τ.done, Fits cfg τ.canceled x.1 x.2 := by
  have hd := inv.reported
  cases h
  case sendError seq err sending failed =>
    intro x hx
    rcases List.mem_append.mp hx with hx | hx
    · exact hd x hx
    · rw [List.mem_singleton.mp hx]
      exact .inl (by simp [Setup.outcomes, List.getElem?_map, failed])
  case report pre post seq o reporting =>
    intro x hx
    rcases List.mem_append.mp hx with hx | hx
    · exact hd x hx
    · rw [List.mem_singleton.mp hx]
      exact inv.working (.reporting seq o) (by simp [reporting])
  case collect seq o rest receiving front =>
    exact fun x hx => hd x (by simp [front, hx])
  all_goals exact hd

theorem step_pending : ∀ seq o, τ.pending.lookup seq = some o → Fits cfg τ.canceled seq o := by
  have hp := inv.pending
  cases h
  case collect seq o rest receiving front =>
    intro k v hk
    by_cases hks : k = seq
    · subst hks
      rw [AList.lookup_insert] at hk
      cases hk
      exact inv.reported (k, o) (by simp [front])
    · rw [AList.lookup_insert_ne hks] at hk
      exact hp k v hk
  case release o releasing found =>
    intro k v hk
    by_cases hks : k = σ.next
    · subst hks
      simp [AList.lookup_erase] at hk
    · rw [State.deliver, AList.lookup_erase_ne hks] at hk
      exact hp k v hk
  case finish count receiving empty gone exited =>
    intro k v hk
    simp [AList.lookup_empty] at hk
  all_goals exact hp

theorem step_delivered : τ.delivered.Sublist (cfg.outcomes.take τ.next) := by
  have hd := inv.delivered
  cases h
  case release o releasing found =>
    simp only [State.deliver, List.take_add_one]
    rcases inv.pending σ.next o found with rfl | ⟨rfl, -⟩
    · exact hd.append (.refl _)
    · simpa using hd.trans (List.sublist_append_left _ _)
  case finish count receiving empty gone exited =>
    have hnil := Pending.outcomes_eq_nil (inv.settled_of_exited receiving empty exited).1
    simpa [hnil] using hd
  all_goals exact hd

theorem step_delivered_eq : τ.canceled = false → τ.delivered = cfg.outcomes.take τ.next := by
  have hd := inv.delivered_eq
  cases h
  case release o releasing found =>
    intro hc
    simp only [State.deliver] at hc
    rcases inv.pending σ.next o found with rfl | ⟨-, hc'⟩
    · simp [List.take_add_one, hd hc]
    · simp [hc] at hc'
  case finish count receiving empty gone exited =>
    intro hc
    have hnil := Pending.outcomes_eq_nil (inv.settled_of_exited receiving empty exited).1
    simpa [hnil] using hd hc
  all_goals exact hd

theorem step_summary : τ.summary = Summary.ofOutcomes τ.delivered := by
  have hs := inv.summary
  cases h
  case release o releasing found => simp [Summary.ofOutcomes, List.foldl_append, hs]
  case finish count receiving empty gone exited =>
    simp [Summary.ofOutcomes, List.foldl_append, hs]
  all_goals exact hs

theorem step_permits_eq : τ.producer.running = true →
    τ.permits + τ.producer.holding + (τ.producer.sent - τ.next) + τ.collector.owed =
      cfg.slots := by
  have hp := inv.permits_eq
  have hle := inv.next_le
  cases h
  case take seq e walking entry permit =>
    intro _
    have := hp (by simp [walking, Producer.running])
    simp [walking, Producer.holding, Producer.sent] at this hle ⊢
    omega
  case walkEnd seq walking ended => intro hr; simp [Producer.running] at hr
  case stop seq permitted set => intro hr; simp [Producer.running] at hr
  case proceed seq permitted clear =>
    intro _
    have := hp (by simp [permitted, Producer.running])
    simpa [permitted, Producer.holding, Producer.sent] using this
  case sendFile seq path sending file room =>
    intro _
    have := hp (by simp [sending, Producer.running])
    simp [sending, Producer.holding, Producer.sent] at this hle ⊢
    omega
  case sendError seq err sending failed =>
    intro _
    have := hp (by simp [sending, Producer.running])
    simp [sending, Producer.holding, Producer.sent] at this hle ⊢
    omega
  case release o releasing found =>
    intro hr
    have := hp hr
    have hlt := (inv.lt_sent_of_lookup found).2
    simp [releasing, Collector.owed] at this ⊢
    omega
  case returnPermit returning alive room =>
    intro _
    have := hp alive
    simp [returning, Collector.owed] at this ⊢
    omega
  case dropPermit count returning gone => intro hr; simp [gone, Producer.running] at hr
  case collect seq o rest receiving front =>
    intro hr
    simpa [receiving, Collector.owed] using hp hr
  case wait releasing absent =>
    intro hr
    simpa [releasing, Collector.owed] using hp hr
  case finish count receiving empty gone exited => intro hr; simp [gone, Producer.running] at hr
  all_goals exact hp

theorem step_permits_le : τ.producer.sent - τ.next + τ.collector.owed ≤ cfg.slots := by
  have hl := inv.permits_le
  have hle := inv.next_le
  cases h
  case take seq e walking entry permit => simpa [walking, Producer.sent] using hl
  case walkEnd seq walking ended => simpa [walking, Producer.sent] using hl
  case stop seq permitted set => simpa [permitted, Producer.sent] using hl
  case proceed seq permitted clear => simpa [permitted, Producer.sent] using hl
  case sendFile seq path sending file room =>
    have := inv.permits_eq (by simp [sending, Producer.running])
    simp [sending, Producer.holding, Producer.sent] at this hle ⊢
    omega
  case sendError seq err sending failed =>
    have := inv.permits_eq (by simp [sending, Producer.running])
    simp [sending, Producer.holding, Producer.sent] at this hle ⊢
    omega
  case release o releasing found =>
    have hlt := (inv.lt_sent_of_lookup found).2
    simp [releasing, Collector.owed] at hl ⊢
    omega
  case returnPermit returning alive room =>
    simp [returning, Collector.owed] at hl ⊢
    omega
  case dropPermit count returning gone =>
    simp [returning, Collector.owed] at hl ⊢
    omega
  case collect seq o rest receiving front => simpa [receiving, Collector.owed] using hl
  case wait releasing absent => simpa [releasing, Collector.owed] using hl
  case finish count receiving empty gone exited => simpa [receiving, Collector.owed] using hl
  all_goals exact hl

theorem step_waiting : τ.collector = .receiving → τ.pending.lookup τ.next = none := by
  have hw := inv.waiting
  cases h
  case wait releasing absent => exact fun _ => absent
  case collect seq o rest receiving front => intro hc; simp at hc
  case release o releasing found => intro hc; simp at hc
  case returnPermit returning alive room => intro hc; simp at hc
  case dropPermit count returning gone => intro hc; simp at hc
  case finish count receiving empty gone exited => intro hc; simp at hc
  all_goals exact hw

theorem step_stopped : ∀ n, τ.producer = .stopped n → n = cfg.entries.length ∨ τ.canceled = true := by
  have hs := inv.stopped
  cases h
  case walkEnd seq walking ended =>
    intro n hn
    cases hn
    have h1 := List.getElem?_eq_none_iff.mp ended
    have h2 := inv.sent_le
    simp [walking, Producer.sent, Producer.holding] at h2
    exact .inl (by omega)
  case stop seq permitted set => exact fun _ _ => .inr set
  case take seq e walking entry permit => intro n hn; cases hn
  case proceed seq permitted clear => intro n hn; cases hn
  case sendFile seq path sending file room => intro n hn; cases hn
  case sendError seq err sending failed => intro n hn; cases hn
  all_goals exact hs

theorem step_exited : Worker.exited ∈ τ.workers → τ.producer.running = false ∧ τ.queue = [] := by
  have he := inv.exited
  have running {p : Producer} (hp : σ.producer = p) (hr : p.running = true) :
      Worker.exited ∉ σ.workers := fun hm => by
    have := (he hm).1
    rw [hp] at this
    simp [hr] at this
  cases h
  case take seq e walking entry permit => exact fun hm => absurd hm (running walking rfl)
  case walkEnd seq walking ended => exact fun hm => absurd hm (running walking rfl)
  case stop seq permitted set => exact fun hm => absurd hm (running permitted rfl)
  case proceed seq permitted clear => exact fun hm => absurd hm (running permitted rfl)
  case sendFile seq path sending file room => exact fun hm => absurd hm (running sending rfl)
  case sendError seq err sending failed => exact fun hm => absurd hm (running sending rfl)
  case receive pre post seq path rest idle front =>
    intro hm
    rcases mem_of_mem_replace (w := .idle) hm with he' | hm
    · cases he'
    · have := (he (idle ▸ hm)).2
      simp [front] at this
  case exit pre post count idle empty gone =>
    exact fun _ => ⟨by simp [gone, Producer.running], empty⟩
  case search pre post seq path taken clear =>
    intro hm
    rcases mem_of_mem_replace (w := .taken seq path) hm with he' | hm
    · cases he'
    · exact he (taken ▸ hm)
  case skip pre post seq path taken set =>
    intro hm
    rcases mem_of_mem_replace (w := .taken seq path) hm with he' | hm
    · cases he'
    · exact he (taken ▸ hm)
  case report pre post seq o reporting =>
    intro hm
    rcases mem_of_mem_replace (w := .reporting seq o) hm with he' | hm
    · cases he'
    · exact he (reporting ▸ hm)
  all_goals exact he

/-- A finished run takes no step: the producer is gone, every worker has left, and the
collector is out of its loop. -/
theorem not_step_of_finished (hf : σ.collector = .finished) : False := by
  obtain ⟨hr, -, -, -, hw⟩ := inv.finished hf
  have hidle {pre post : List Worker} {w : Worker} (hws : σ.workers = pre ++ w :: post) :
      w = .exited := hw w (by simp [hws])
  cases h
  case take seq e walking entry permit => simp [walking, Producer.running] at hr
  case walkEnd seq walking ended => simp [walking, Producer.running] at hr
  case stop seq permitted set => simp [permitted, Producer.running] at hr
  case proceed seq permitted clear => simp [permitted, Producer.running] at hr
  case sendFile seq path sending file room => simp [sending, Producer.running] at hr
  case sendError seq err sending failed => simp [sending, Producer.running] at hr
  case receive pre post seq path rest idle front => cases hidle idle
  case exit pre post count idle empty gone => cases hidle idle
  case search pre post seq path taken clear => cases hidle taken
  case skip pre post seq path taken set => cases hidle taken
  case report pre post seq o reporting => cases hidle reporting
  all_goals simp_all

theorem step_finished : τ.collector = .finished → τ.producer.running = false ∧ τ.queue = [] ∧
    τ.done = [] ∧ τ.pending.keys = [] ∧ ∀ w ∈ τ.workers, w = .exited := by
  by_cases hf : σ.collector = .finished
  · exact (inv.not_step_of_finished h hf).elim
  cases h
  case finish count receiving empty gone exited =>
    exact fun _ => ⟨by simp [gone, Producer.running], inv.queue_eq_nil exited, empty,
      AList.keys_empty, exited⟩
  case collect seq o rest receiving front => intro hc; simp at hc
  case release o releasing found => intro hc; simp at hc
  case wait releasing absent => intro hc; simp at hc
  case returnPermit returning alive room => intro hc; simp at hc
  case dropPermit count returning gone => intro hc; simp at hc
  all_goals exact fun hc => absurd hc hf

theorem step_started : c₀ = true →
    τ.canceled = true ∧ τ.producer.sent = 0 ∧ ∀ seq, τ.producer ≠ .sending seq := by
  have hs := inv.started
  cases h
  case take seq e walking entry permit =>
    intro hc
    obtain ⟨h1, h2, -⟩ := hs hc
    simp [walking, Producer.sent] at h2
    exact ⟨h1, by simp [Producer.sent, h2], by simp⟩
  case walkEnd seq walking ended =>
    intro hc
    obtain ⟨h1, h2, -⟩ := hs hc
    simp [walking, Producer.sent] at h2
    exact ⟨h1, by simp [Producer.sent, h2], by simp⟩
  case stop seq permitted set =>
    intro hc
    obtain ⟨h1, h2, -⟩ := hs hc
    simp [permitted, Producer.sent] at h2
    exact ⟨h1, by simp [Producer.sent, h2], by simp⟩
  case proceed seq permitted clear =>
    intro hc
    have := (hs hc).1
    simp [clear] at this
  case sendFile seq path sending file room => exact fun hc => absurd sending ((hs hc).2.2 seq)
  case sendError seq err sending failed => exact fun hc => absurd sending ((hs hc).2.2 seq)
  all_goals exact hs

/-- **One step of a thread keeps the invariant.** -/
theorem step : Inv cfg c₀ τ where
  workers_length := inv.step_workers_length h
  sent_le := inv.step_sent_le h
  flight := inv.step_flight h
  queued := inv.step_queued h
  working := inv.step_working h
  reported := inv.step_reported h
  pending := inv.step_pending h
  delivered := inv.step_delivered h
  delivered_eq := inv.step_delivered_eq h
  summary := inv.step_summary h
  permits_eq := inv.step_permits_eq h
  permits_le := inv.step_permits_le h
  waiting := inv.step_waiting h
  stopped := inv.step_stopped h
  exited := inv.step_exited h
  finished := inv.step_finished h
  started := inv.step_started h

omit h

/-- Setting the cancel token keeps the invariant: a report may now be empty, and nothing
else reads the token. -/
theorem cancel : Inv cfg c₀ { σ with canceled := true } where
  workers_length := inv.workers_length
  sent_le := inv.sent_le
  flight := inv.flight
  queued := inv.queued
  working := fun w hw => (inv.working w hw).cancel
  reported := fun x hx => (inv.reported x hx).cancel
  pending := fun k o hk => (inv.pending k o hk).cancel
  delivered := inv.delivered
  delivered_eq := fun hc => by simp at hc
  summary := inv.summary
  permits_eq := inv.permits_eq
  permits_le := inv.permits_le
  waiting := inv.waiting
  stopped := fun _ _ => .inr rfl
  exited := inv.exited
  finished := inv.finished
  started := fun hc => ⟨rfl, (inv.started hc).2⟩

theorem move (h : Move cfg σ τ) : Inv cfg c₀ τ := by
  cases h with
  | step h => exact inv.step h
  | cancel _ => exact inv.cancel

end Inv

/-- The start of a run keeps the invariant: every permit in the channel, nothing sent. -/
theorem Inv.initial (cfg : Setup) (c₀ : Bool) : Inv cfg c₀ (init cfg c₀) where
  workers_length := by simp [init]
  sent_le := by simp [init, Producer.sent, Producer.holding]
  flight := by
    simp [init, State.inFlight, AList.keys_empty, Producer.sent, List.flatMap_eq_nil_iff,
      List.mem_replicate, Worker.held]
  queued := by simp [init]
  working := by
    intro w hw
    simp only [init, List.mem_replicate] at hw
    rw [hw.2]
    trivial
  reported := by simp [init]
  pending := by simp [init, AList.lookup_empty]
  delivered := by simp [init]
  delivered_eq := by simp [init]
  summary := rfl
  permits_eq := by simp [init, Producer.sent, Producer.holding, Collector.owed]
  permits_le := by simp [init, Producer.sent, Collector.owed, Setup.slots]
  waiting := by simp [init, AList.lookup_empty]
  stopped := by simp [init]
  exited := by simp [init]
  finished := by simp [init]
  started := by
    intro hc
    simp [init, hc, Producer.sent]

/-- **Every reachable state keeps the invariant.** -/
theorem Reachable.inv {c₀ : Bool} (h : Reachable cfg c₀ σ) : Inv cfg c₀ σ := by
  induction h with
  | refl => exact Inv.initial cfg c₀
  | tail _ hm ih => exact ih.move hm

/-! ## The bound on the entries in flight -/

/-- **At most `queue capacity + workers` entries are between the walk and the sink.**  In
every reachable state the entries in flight are those sent on and not yet released, at
most as many as the run has permits; so no more reports are pending, and before the
collector releases number 0 the producer has sent at most that many entries on, which
bounds the files any worker has begun to search.  A permit the collector returns to a
running producer always finds room in the permit channel. -/
theorem inFlight_bounded {cfg : Setup} {c₀ : Bool} {σ : State} (h : Reachable cfg c₀ σ) :
    σ.inFlight.length = σ.producer.sent - σ.next ∧
    σ.producer.sent - σ.next ≤ cfg.slots ∧
    σ.pending.keys.length ≤ cfg.slots ∧
    (σ.next = 0 → σ.producer.sent ≤ cfg.slots) ∧
    (σ.collector = .returning → σ.producer.running = true → σ.permits < cfg.slots) := by
  have inv := h.inv
  have hlen := inv.length_inFlight
  have hle := inv.permits_le
  have hkeys : σ.pending.keys.length ≤ σ.inFlight.length := by
    simp [State.inFlight]
    omega
  refine ⟨hlen, by omega, by omega, fun _ => by omega, fun hret hrun => ?_⟩
  have := inv.permits_eq hrun
  simp [hret, Collector.owed] at this
  omega

/-- A run over one file, with one worker and room for one queued file. -/
def oneFile : Setup :=
  { entries := [.ok "a.js"], outcome := fun _ => default, capacity := 1, workers := 1,
    capacity_pos := Nat.one_pos, workers_pos := Nat.one_pos }

theorem inFlight_bounded_start :
    Reachable oneFile false (init oneFile false) ∧
    ((init oneFile false).inFlight.length =
        (init oneFile false).producer.sent - (init oneFile false).next ∧
      (init oneFile false).producer.sent - (init oneFile false).next ≤ oneFile.slots ∧
      (init oneFile false).pending.keys.length ≤ oneFile.slots ∧
      ((init oneFile false).next = 0 → (init oneFile false).producer.sent ≤ oneFile.slots) ∧
      ((init oneFile false).collector = .returning →
        (init oneFile false).producer.running = true →
          (init oneFile false).permits < oneFile.slots)) :=
  ⟨.refl, inFlight_bounded .refl⟩

end Pipeline
end Search
end ShapeSearch
