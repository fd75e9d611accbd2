import ClusterSim.Proofs.TimeSource

/-!
# The delivery of instants

A producer hands instants over through the slot, a loop takes them from there and executes ticks,
and a stop can be requested by anyone. They act at the same time: `Delivery.Step` is what each of
them can do next, and any order of such steps is possible. In particular a stop can be requested
while a value lies in the slot, while the producer waits for the slot, and between a look at the
stop request and what is done because of it.

Whatever the order, the loop takes the instants that are due, one after the other
(`instants_delivered_in_order`). Between two steps the history, the slot and the producer fit
together (`TimeSource.InOrder`).
-/

namespace ClusterSim

/-- Where the loop stands that executes the ticks. -/
inductive TickLoop where
  /-- It is about to look whether a stop has been requested. -/
  | looking
  /-- It has seen no request and is about to look into the slot. -/
  | receiving
  /-- It executes a tick. -/
  | ticking
  /-- It has been left. -/
  | left
deriving DecidableEq

/-- A time source, the loop it serves, and the stop request that both look at. -/
structure Delivery where
  source : TimeSource
  /-- What the producer has seen of the stop request, if it has not acted on that yet. -/
  seen : Option StopRequest
  stop : StopRequest
  loop : TickLoop
deriving DecidableEq

namespace Delivery

/-- Before the first step. -/
def start (first : Instant) (step : Delta) : Delivery :=
  { source := .start first step, seen := none, stop := .none, loop := .looking }

/-! ### Steps -/

/-- What happens in a step. -/
inductive Occurrence where
  /-- Someone requests a stop. -/
  | requested (reason : String)
  /-- The producer puts a value into the slot. -/
  | sent (clock : Instant)
  /-- The loop takes a value from the slot. -/
  | received (clock : Instant)
  /-- The loop sees that a stop has been requested. -/
  | observed (reason : String)
  /-- None of these. -/
  | silent
deriving DecidableEq

/-- One step of one of those who take part. -/
inductive Step : Delivery → Occurrence → Delivery → Prop
  -- anyone
  | request (d : Delivery) (reason : String) :
      Step d (.requested reason) { d with stop := d.stop.request reason }
  -- the producer, which looks at the stop request before every attempt to send
  | look {d : Delivery} {clock : Instant} (hsending : d.source.producer = .sending clock) :
      Step d .silent { d with seen := some d.stop }
  | send {d : Delivery} {seen : StopRequest} {source : TimeSource} {clock : Instant}
      (hseen : d.seen = some seen) (hnext : d.source.produce? seen = some source)
      (hsent : source.producer = .advancing clock) :
      Step d (.sent clock) { d with source, seen := none }
  | finish {d : Delivery} {seen : StopRequest} {source : TimeSource} {outcome : ProducerEnd}
      (hseen : d.seen = some seen) (hnext : d.source.produce? seen = some source)
      (hended : source.producer = .ended outcome) :
      Step d .silent { d with source, seen := none }
  | wait {d : Delivery} {seen : StopRequest} (hseen : d.seen = some seen)
      (hnext : d.source.produce? seen = none) :
      Step d .silent { d with seen := none }
  | advance {d : Delivery} {source : TimeSource} {clock : Instant}
      (hadvancing : d.source.producer = .advancing clock)
      (hnext : d.source.produce? d.stop = some source) :
      Step d .silent { d with source }
  -- the loop, which looks at the stop request before every attempt to receive
  | observe {d : Delivery} {reason : String} (hloop : d.loop = .looking)
      (hstop : d.stop.reason = some reason) :
      Step d (.observed reason) { d with loop := .left }
  | await {d : Delivery} (hloop : d.loop = .looking) (hstop : d.stop.reason = none) :
      Step d .silent { d with loop := .receiving }
  | receive {d : Delivery} {source : TimeSource} {clock : Instant} (hloop : d.loop = .receiving)
      (htake : d.source.take = (some clock, source)) :
      Step d (.received clock) { d with source, loop := .ticking }
  | lookAgain {d : Delivery} (hloop : d.loop = .receiving) (hslot : d.source.slot = none) :
      Step d .silent { d with loop := .looking }
  | exhaust {d : Delivery} {outcome : ProducerEnd} (hloop : d.loop = .receiving)
      (hslot : d.source.slot = none) (hended : d.source.producer = .ended outcome) :
      Step d .silent { d with loop := .left }
  | endTick {d : Delivery} (hloop : d.loop = .ticking) :
      Step d .silent { d with loop := .looking }
  -- a tick that fails, or the last one
  | leave {d : Delivery} (hloop : d.loop = .ticking) :
      Step d .silent { d with loop := .left }
  | close {d : Delivery} (hloop : d.loop = .left) :
      Step d .silent { d with source := { d.source with slot := none, isOpen := false } }

/-- Any number of steps, and what happens in them. -/
inductive Steps : Delivery → List Occurrence → Delivery → Prop
  | refl (d : Delivery) : Steps d [] d
  | step {d middle after : Delivery} {trace : List Occurrence} {occurrence : Occurrence}
      (past : Steps d trace middle) (hstep : Step middle occurrence after) :
      Steps d (trace ++ [occurrence]) after

theorem Step.steps {d after : Delivery} {occurrence : Occurrence} (h : Step d occurrence after) :
    Steps d [occurrence] after :=
  .step (.refl d) h

theorem Steps.trans {d middle after : Delivery} {trace more : List Occurrence}
    (h : Steps d trace middle) (hmore : Steps middle more after) :
    Steps d (trace ++ more) after := by
  induction hmore with
  | refl => rwa [List.append_nil]
  | step past hstep ih =>
    rw [← List.append_assoc]
    exact .step ih hstep

/-! ### History -/

/-- The values that were put into the slot. -/
def sent (trace : List Occurrence) : List Instant :=
  trace.filterMap fun
    | .sent clock => some clock
    | _ => none

/-- The values that were taken from the slot. -/
def received (trace : List Occurrence) : List Instant :=
  trace.filterMap fun
    | .received clock => some clock
    | _ => none

/-- The reasons given in the stop requests. -/
def requests (trace : List Occurrence) : List String :=
  trace.filterMap fun
    | .requested reason => some reason
    | _ => none

theorem sent_append (trace more : List Occurrence) :
    sent (trace ++ more) = sent trace ++ sent more :=
  List.filterMap_append

theorem received_append (trace more : List Occurrence) :
    received (trace ++ more) = received trace ++ received more :=
  List.filterMap_append

theorem requests_append (trace more : List Occurrence) :
    requests (trace ++ more) = requests trace ++ requests more :=
  List.filterMap_append

end Delivery

/-! ### The values on their way -/

/-- What a producer has handed over in the step that brought it here. -/
def Producer.handedOver : Producer → List Instant
  | .advancing clock => [clock]
  | _ => []

/-- What a producer holds when it has handed over so many values: the next one, or the last of them,
which it has still to advance, or the error in place of the next one. One that ended otherwise held
the next one. -/
def Producer.Holds (first : Instant) (step : Delta) (handed : Nat) : Producer → Prop
  | .sending clock => TimeSource.due first step handed = .ok clock
  | .advancing clock => ∃ k, handed = k + 1 ∧ TimeSource.due first step k = .ok clock
  | .ended (.failed error) => TimeSource.due first step handed = .error error
  | .ended _ => ∃ clock, TimeSource.due first step handed = .ok clock

namespace TimeSource

/-- A producer that holds a value either sends it or ends; only a value that it has sent it can fail
to advance. -/
theorem produce?_sending {source next : TimeSource} {stop : StopRequest} {clock : Instant}
    (hproducer : source.producer = .sending clock) (hnext : source.produce? stop = some next) :
    (source.isOpen ∧ source.slot = none ∧
      next = { source with producer := .advancing clock, slot := some clock }) ∨
    (next = { source with producer := .ended .closed } ∨
      ∃ reason, next = { source with producer := .ended (.stopped reason) }) := by
  simp only [produce?, hproducer] at hnext
  split at hnext
  · exact .inr (.inr ⟨_, (Option.some.inj hnext).symm⟩)
  · split at hnext
    · exact .inr (.inl (Option.some.inj hnext).symm)
    · rename_i hopen
      split at hnext
      · rename_i hslot
        exact .inl ⟨by simpa using hopen, hslot, (Option.some.inj hnext).symm⟩
      · cases hnext

/-- How a time source fits what has been sent and received. Values are sent as they are due, the
producer holds what comes next, and what has been sent has been received, is in the slot, or was
lost with the slot when the receiver was closed. -/
structure InOrder (first : Instant) (step : Delta) (sent received : List Instant)
    (source : TimeSource) : Prop where
  step_eq : source.step = step
  sent_eq : sent.map .ok = (List.range sent.length).map (due first step)
  holds : source.producer.Holds first step sent.length
  onTheWay : ∃ lost : List Instant,
    sent = received ++ (source.slot.toList ++ lost) ∧
    (source.slot.toList ++ lost).length ≤ 1 ∧ (source.isOpen → lost = [])

namespace InOrder

variable {first clock : Instant} {step : Delta} {sent received : List Instant}
  {source next : TimeSource}

theorem start (first : Instant) (step : Delta) : InOrder first step [] [] (.start first step) :=
  ⟨rfl, rfl, rfl, [], rfl, Nat.zero_le 1, fun _ => rfl⟩

theorem due_of_sending (h : InOrder first step sent received source)
    (hproducer : source.producer = .sending clock) : due first step sent.length = .ok clock := by
  have hholds := h.holds
  rwa [hproducer] at hholds

/-- The producer puts the value it holds into the free slot. -/
theorem send (h : InOrder first step sent received source)
    (hproducer : source.producer = .sending clock) (hopen : source.isOpen)
    (hslot : source.slot = none) :
    InOrder first step (sent ++ [clock]) received
      { source with producer := .advancing clock, slot := some clock } := by
  have hdue := h.due_of_sending hproducer
  refine ⟨h.step_eq, ?_, ?_, ?_⟩
  · rw [List.length_append, List.length_singleton, List.range_succ, List.map_append,
      List.map_append, h.sent_eq, List.map_singleton, List.map_singleton, hdue]
  · exact ⟨sent.length, List.length_append, hdue⟩
  · obtain ⟨lost, hsent, -, hlost⟩ := h.onTheWay
    rw [hslot, hlost hopen] at hsent
    refine ⟨[], ?_, Nat.le_refl 1, fun _ => rfl⟩
    rw [hsent, Option.toList_none, List.append_nil, List.append_nil]
    rfl

/-- The producer advances a value that it has handed over. -/
theorem advance (h : InOrder first step sent received source)
    (hproducer : source.producer = .advancing clock) (stop : StopRequest)
    (hnext : source.produce? stop = some next) :
    InOrder first step sent received next ∧ next.producer.handedOver = [] := by
  obtain ⟨k, hlength, hdue⟩ : ∃ k, sent.length = k + 1 ∧ due first step k = .ok clock := by
    have hholds := h.holds
    rwa [hproducer] at hholds
  have hlater : due first step sent.length = clock.advance source.step := by
    rw [hlength, h.step_eq]
    exact due_succ_of_ok hdue
  simp only [produce?, hproducer] at hnext
  cases hadvance : clock.advance source.step with
  | ok later =>
    simp only [hadvance, Option.some.injEq] at hnext
    subst hnext
    exact ⟨⟨h.step_eq, h.sent_eq, hlater.trans hadvance, h.onTheWay⟩, rfl⟩
  | error error =>
    simp only [hadvance, Option.some.injEq] at hnext
    subst hnext
    exact ⟨⟨h.step_eq, h.sent_eq, hlater.trans hadvance, h.onTheWay⟩, rfl⟩

/-- Every step of the producer keeps the order, whatever it has seen of the stop request. -/
theorem produce? (h : InOrder first step sent received source) {stop : StopRequest}
    (hnext : source.produce? stop = some next) :
    InOrder first step (sent ++ next.producer.handedOver) received next := by
  cases hproducer : source.producer with
  | sending clock =>
    rcases produce?_sending hproducer hnext with ⟨hopen, hslot, rfl⟩ | ⟨rfl | ⟨reason, rfl⟩⟩
    · exact h.send hproducer hopen hslot
    · show InOrder first step (sent ++ []) received _
      rw [List.append_nil]
      exact ⟨h.step_eq, h.sent_eq, ⟨clock, h.due_of_sending hproducer⟩, h.onTheWay⟩
    · show InOrder first step (sent ++ []) received _
      rw [List.append_nil]
      exact ⟨h.step_eq, h.sent_eq, ⟨clock, h.due_of_sending hproducer⟩, h.onTheWay⟩
  | advancing clock =>
    obtain ⟨hinOrder, hnone⟩ := h.advance hproducer stop hnext
    rwa [hnone, List.append_nil]
  | ended outcome =>
    simp only [TimeSource.produce?, hproducer] at hnext
    cases hnext

/-- What is in the slot is all that has been sent and not received. -/
theorem sent_eq_of_slot (h : InOrder first step sent received source)
    (hslot : source.slot = some clock) : sent = received ++ [clock] := by
  obtain ⟨lost, hsent, hlength, -⟩ := h.onTheWay
  rw [hslot, Option.toList_some] at hsent hlength
  obtain rfl : lost = [] := by
    rw [List.length_append, List.length_singleton] at hlength
    exact List.eq_nil_of_length_eq_zero (by omega)
  exact hsent

/-- The value that is taken is the one sent after those received before. -/
theorem take (h : InOrder first step sent received source)
    (htake : source.take = (some clock, next)) :
    InOrder first step sent (received ++ [clock]) next := by
  obtain ⟨hslot, rfl⟩ : source.slot = some clock ∧ { source with slot := none } = next :=
    Prod.mk.inj htake
  refine ⟨h.step_eq, h.sent_eq, h.holds, [], ?_, Nat.zero_le 1, fun _ => rfl⟩
  rw [h.sent_eq_of_slot hslot, Option.toList_none, List.append_nil, List.append_nil]

/-- What is in the slot when the receiver is closed is lost. -/
theorem close (h : InOrder first step sent received source) :
    InOrder first step sent received { source with slot := none, isOpen := false } := by
  obtain ⟨lost, hsent, hlength, -⟩ := h.onTheWay
  exact ⟨h.step_eq, h.sent_eq, h.holds, source.slot.toList ++ lost, hsent, hlength, nofun⟩

/-- What has been received is what was sent first, and at most one more value has been sent. -/
theorem at_most_one_ahead (h : InOrder first step sent received source) :
    received <+: sent ∧ (sent.length = received.length ∨ sent.length = received.length + 1) := by
  obtain ⟨lost, hsent, hlength, -⟩ := h.onTheWay
  refine ⟨⟨_, hsent.symm⟩, ?_⟩
  have htotal := congrArg List.length hsent
  rw [List.length_append] at htotal
  omega

theorem received_eq (h : InOrder first step sent received source) :
    received.map .ok = (List.range received.length).map (due first step) := by
  obtain ⟨⟨rest, hsent⟩, -⟩ := h.at_most_one_ahead
  have hinitial := congrArg (List.take received.length) h.sent_eq
  rw [← hsent, List.map_append, List.take_left' (List.length_map _), ← List.map_take,
    List.take_range, List.length_append, Nat.min_eq_left (Nat.le_add_right _ _)] at hinitial
  exact hinitial

theorem due_of_getElem? (h : InOrder first step sent received source) {k : Nat}
    (hat : sent[k]? = some clock) : due first step k = .ok clock := by
  have hlt : k < sent.length := (List.getElem?_eq_some_iff.1 hat).1
  have hboth := congrArg (·[k]?) h.sent_eq
  simp only [List.getElem?_map, List.getElem?_range hlt, hat, Option.map_some] at hboth
  exact (Option.some.inj hboth).symm

/-- The value in the slot is due after those that have been received. -/
theorem due_slot (h : InOrder first step sent received source) (hslot : source.slot = some clock) :
    due first step received.length = .ok clock := by
  apply h.due_of_getElem?
  rw [h.sent_eq_of_slot hslot, List.getElem?_concat_length]

/-- A value without a later one is the last that is sent. -/
theorem due_length_of_mem (h : InOrder first step sent received source) (hmem : clock ∈ sent)
    (hnone : clock.advance? step = none) :
    due first step sent.length = .error (.overflow clock step) := by
  obtain ⟨k, hat⟩ := List.mem_iff_getElem?.1 hmem
  have hnext : due first step (k + 1) = .error (.overflow clock step) := by
    rw [due_succ_of_ok (h.due_of_getElem? hat), Instant.advance, hnone]
  have hlast : ¬ k + 1 < sent.length := by
    intro hmore
    have hlater := h.due_of_getElem? (List.getElem?_eq_getElem hmore)
    rw [hnext] at hlater
    cases hlater
  have hlt : k < sent.length := (List.getElem?_eq_some_iff.1 hat).1
  rw [show sent.length = k + 1 by omega, hnext]

/-- Past a value without a later one the producer ends by failing, whatever else happens. -/
theorem failed_of_mem (h : InOrder first step sent received source) (hmem : clock ∈ sent)
    (hnone : clock.advance? step = none) {outcome : ProducerEnd}
    (hended : source.producer = .ended outcome) : outcome = .failed (.overflow clock step) := by
  have hdue := h.due_length_of_mem hmem hnone
  have hholds := h.holds
  rw [hended] at hholds
  cases outcome with
  | failed error =>
    have heq : due first step sent.length = .error error := hholds
    rw [Except.error.inj (heq.symm.trans hdue)]
  | stopped reason | closed =>
    obtain ⟨later, hok⟩ := hholds
    rw [hdue] at hok
    cases hok

end InOrder

end TimeSource

/-! ### What steps keep -/

namespace Delivery

variable {first : Instant} {step : Delta} {d after : Delivery} {trace more : List Occurrence}
  {occurrence : Occurrence}

theorem Step.inOrder (hstep : Step d occurrence after)
    (h : d.source.InOrder first step (sent trace) (received trace)) :
    after.source.InOrder first step (sent (trace ++ [occurrence]))
      (received (trace ++ [occurrence])) := by
  rw [sent_append, received_append]
  cases hstep with
  | send hseen hnext hsent =>
    have hsend := h.produce? hnext
    rw [hsent] at hsend
    rw [show received [.sent _] = [] from rfl, List.append_nil]
    exact hsend
  | finish hseen hnext hended =>
    have hend := h.produce? hnext
    rw [hended] at hend
    rw [show received [.silent] = [] from rfl, List.append_nil]
    exact hend
  | advance hadvancing hnext =>
    rw [show sent [.silent] = [] from rfl, show received [.silent] = [] from rfl, List.append_nil,
      List.append_nil]
    exact (h.advance hadvancing _ hnext).1
  | receive hloop htake =>
    rw [show sent [.received _] = [] from rfl, List.append_nil]
    exact h.take htake
  | close hloop =>
    rw [show sent [.silent] = [] from rfl, show received [.silent] = [] from rfl, List.append_nil,
      List.append_nil]
    exact h.close
  -- the other steps leave the time source as it is
  | _ =>
    rw [← List.append_nil (sent trace), ← List.append_nil (received trace)] at h
    exact h

theorem Steps.inOrder (h : Steps (start first step) trace d) :
    d.source.InOrder first step (sent trace) (received trace) := by
  induction h with
  | refl => exact .start first step
  | step past hstep ih => exact hstep.inOrder ih

/-- The first request sets the reason, and no step changes it afterwards. -/
theorem Step.reason_eq (hstep : Step d occurrence after) :
    after.stop.reason = d.stop.reason.or (requests [occurrence]).head? := by
  cases hstep with
  | request reason => exact d.stop.reason_request reason
  | _ => exact (Option.or_none).symm

theorem Steps.reason_eq (h : Steps d trace after) :
    after.stop.reason = d.stop.reason.or (requests trace).head? := by
  induction h with
  | refl => exact (Option.or_none).symm
  | step past hstep ih =>
    rw [hstep.reason_eq, ih, requests_append, List.head?_append, Option.or_assoc]

/-- A loop that has been left receives nothing. -/
theorem Step.of_left (hstep : Step d occurrence after) (hloop : d.loop = .left) :
    after.loop = .left ∧ received [occurrence] = [] := by
  cases hstep with
  | observe hlooking | await hlooking =>
    rw [hloop] at hlooking
    cases hlooking
  | receive hreceiving | lookAgain hreceiving | exhaust hreceiving =>
    rw [hloop] at hreceiving
    cases hreceiving
  | endTick hticking | leave hticking =>
    rw [hloop] at hticking
    cases hticking
  | _ => exact ⟨hloop, rfl⟩

theorem Steps.of_left (h : Steps d trace after) (hloop : d.loop = .left) :
    after.loop = .left ∧ received trace = [] := by
  induction h with
  | refl => exact ⟨hloop, rfl⟩
  | step past hstep ih =>
    obtain ⟨hleft, hnone⟩ := hstep.of_left ih.1
    refine ⟨hleft, ?_⟩
    rw [received_append, ih.2, hnone]
    rfl

/-- The loop sees the stop request as it is, and is left then. -/
theorem Step.of_observed {reason : String} (hstep : Step d (.observed reason) after) :
    after.loop = .left ∧ after.stop.reason = some reason := by
  cases hstep with
  | observe hloop hstop => exact ⟨rfl, hstop⟩

/-- After the loop has seen a stop request, it stays left, and the reason is the one it has seen. -/
theorem Steps.of_observed {reason : String} (h : Steps d trace after)
    (hmem : .observed reason ∈ trace) : after.loop = .left ∧ after.stop.reason = some reason := by
  induction h with
  | refl => cases hmem
  | @step middle after trace occurrence past hstep ih =>
    rcases List.mem_append.1 hmem with hmem | hmem
    · obtain ⟨hloop, hreason⟩ := ih hmem
      refine ⟨(hstep.of_left hloop).1, ?_⟩
      rw [hstep.reason_eq, hreason]
      rfl
    · obtain rfl := List.mem_singleton.1 hmem
      exact hstep.of_observed

end Delivery

/-- In whatever order the producer, the loop and those who request a stop make their steps: the
values received are the instants due, in their order and from the first one on; those sent are the
same and at most one more, and the value in the slot is the one due after those received. The
reason of the stop is that of the first request, and stays so; once the loop has seen it, it
receives nothing more. -/
theorem instants_delivered_in_order {first : Instant} {step : Delta} {d : Delivery}
    {trace : List Delivery.Occurrence} (h : (Delivery.start first step).Steps trace d) :
    let sent := Delivery.sent trace
    let received := Delivery.received trace
    received.map .ok = (List.range received.length).map (TimeSource.due first step) ∧
    sent.map .ok = (List.range sent.length).map (TimeSource.due first step) ∧
    received <+: sent ∧
    (sent.length = received.length ∨ sent.length = received.length + 1) ∧
    (∀ clock, d.source.slot = some clock →
      TimeSource.due first step received.length = .ok clock ∧ sent = received ++ [clock]) ∧
    d.stop.reason = (Delivery.requests trace).head? ∧
    ∀ (later : Delivery) (more : List Delivery.Occurrence), d.Steps more later →
      (∀ reason, d.stop.reason = some reason → later.stop.reason = some reason) ∧
      ∀ reason, .observed reason ∈ trace →
        d.stop.reason = some reason ∧ Delivery.received more = [] := by
  intro sent received
  have hinOrder := h.inOrder
  obtain ⟨hinitial, hahead⟩ := hinOrder.at_most_one_ahead
  refine ⟨hinOrder.received_eq, hinOrder.sent_eq, hinitial, hahead,
    fun clock hslot => ⟨hinOrder.due_slot hslot, hinOrder.sent_eq_of_slot hslot⟩, h.reason_eq,
    fun later more hmore => ⟨fun reason hreason => ?_, fun reason hmem => ?_⟩⟩
  · rw [hmore.reason_eq, hreason]
    rfl
  · obtain ⟨hloop, hreason⟩ := h.of_observed hmem
    exact ⟨hreason, (hmore.of_left hloop).2⟩

/-- Two stops are requested while the second instant is in the slot and the loop is in its first
tick. The loop then sees the first reason, and leaves the second instant where it is. -/
theorem instants_delivered_in_order_value_left :
    let step : Delta := ⟨10 * nanosPerSecond, by decide, by decide⟩
    let second : Instant := ⟨10, 0, by decide, by decide, by decide, by decide⟩
    let trace : List Delivery.Occurrence :=
      [.silent, .sent .epoch, .silent, .silent, .received .epoch, .silent, .sent second,
        .requested "ctrl-c", .requested "second", .silent, .observed "ctrl-c"]
    ∃ d, (Delivery.start .epoch step).Steps trace d ∧ d.source.slot = some second ∧
      TimeSource.due .epoch step 1 = .ok second ∧ d.stop.reason = some "ctrl-c" ∧
      ∀ later more, d.Steps more later → Delivery.received more = [] := by
  intro step second trace
  have hfirst : (Delivery.start .epoch step).Steps
      [.silent, .sent .epoch, .silent, .silent, .received .epoch] _ :=
    .step (.step (.step (.step (.step (.refl _) (.look rfl)) (.send rfl rfl rfl))
      (.advance rfl rfl)) (.await rfl rfl)) (.receive rfl rfl)
  have hsteps : (Delivery.start .epoch step).Steps trace _ :=
    .step (.step (.step (.step (.step (.step hfirst (.look rfl)) (.send rfl rfl rfl))
      (.request _ "ctrl-c")) (.request _ "second")) (.endTick rfl)) (.observe rfl rfl)
  obtain ⟨-, -, -, -, hslot, hreason, hlater⟩ := instants_delivered_in_order hsteps
  refine ⟨_, hsteps, rfl, (hslot second rfl).1, hreason, fun later more hmore => ?_⟩
  exact ((hlater later more hmore).2 "ctrl-c" (by decide)).2

end ClusterSim
