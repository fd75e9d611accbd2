import ClusterSim.Proofs.Time.Instant
import ClusterSim.Proofs.TimeSource
import Mathlib.Data.List.Basic
import Mathlib.Data.Nat.Find

/-!
# Sessions with a time source

A session is a list of requests, each for the next value or for a stop, and the close of the source
after them. A clock that is advanced again and again by one step has exactly the instants at the
multiples of the step, and they end where the places of the calendar end (`exists_timetable`). A
session gets them in their order until a stop is requested (`play_holding`), and the source fails if
it ran out of them before.
-/

namespace ClusterSim.TimeSource

variable {first t later : Instant} {step : Delta} {j k length : Nat}

/-! ### Places of ticks -/

/-- The place of the tick with the number `k`, counted from zero. -/
def place (first : Instant) (step : Delta) (k : Nat) : Int := first.origin + k * step.nanos

theorem place_zero (first : Instant) (step : Delta) : place first step 0 = first.origin := by
  simp [place]

theorem place_succ (k : Nat) : place first step (k + 1) = place first step k + step.nanos := by
  unfold place
  rw [Int.natCast_succ, Int.add_mul, Int.one_mul, Int.add_assoc]

theorem place_add_le (first : Instant) (hstep : 0 ≤ step.nanos) (h : j < k) :
    place first step j + step.nanos ≤ place first step k := by
  have hmul := Int.mul_le_mul_of_nonneg_right (Int.ofNat_le.2 h) hstep
  rw [← place_succ]
  exact Int.add_le_add_left hmul _

theorem place_le_add (first : Instant) (hstep : step.nanos ≤ 0) (h : j < k) :
    place first step k ≤ place first step j + step.nanos := by
  have hmul := Int.mul_le_mul_of_nonpos_right (Int.ofNat_le.2 h) hstep
  rw [← place_succ]
  exact Int.add_le_add_left hmul _

/-- Ticks before one that has an instant have one too. -/
theorem reached_place_of_lt (h : j < k) (hk : Instant.Reached (place first step k)) :
    Instant.Reached (place first step j) := by
  by_cases hj : j = 0
  · rw [hj, place_zero]
    exact first.reached_origin
  · have hpositive : 0 < j := by omega
    apply first.reached_origin.between hk
    rw [← place_zero first step]
    rcases Int.le_total 0 step.nanos with hstep | hstep
    · have hafter := place_add_le first hstep hpositive
      have hbefore := place_add_le first hstep h
      omega
    · have hafter := place_le_add first hstep hpositive
      have hbefore := place_le_add first hstep h
      omega

/-- A tick is at least as far from the first place as its number says. -/
theorem le_natAbs_place_sub (first : Instant) (hstep : step.nanos ≠ 0) (k : Nat) :
    k ≤ (place first step k - first.origin).natAbs := by
  have hdistance : place first step k - first.origin = k * step.nanos := by
    unfold place
    omega
  rw [hdistance, Int.natAbs_mul, Int.natAbs_natCast]
  exact Nat.le_mul_of_pos_right k (Int.natAbs_pos.2 hstep)

/-- The clock runs out of instants. -/
theorem exists_not_reached (first : Instant) (hstep : step.nanos ≠ 0) :
    ∃ k, ¬ Instant.Reached (place first step k) := by
  refine ⟨(Instant.latest.position - Instant.earliest.position).natAbs + 1, fun hreached => ?_⟩
  have hfirst := first.reached_origin
  have hdistance := le_natAbs_place_sub first hstep
    ((Instant.latest.position - Instant.earliest.position).natAbs + 1)
  unfold Instant.Reached at hreached hfirst
  omega

theorem exists_lt_iff_reached (first : Instant) (hstep : step.nanos ≠ 0) :
    ∃ length, ∀ k, k < length ↔ Instant.Reached (place first step k) := by
  have hexists := exists_not_reached first hstep
  refine ⟨Nat.find hexists, fun k => ⟨fun h => ?_, fun h => ?_⟩⟩
  · exact not_not.1 (Nat.find_min hexists h)
  · by_contra hle
    rcases Nat.lt_or_eq_of_le (Nat.not_lt.1 hle) with hlt | heq
    · exact Nat.find_spec hexists (reached_place_of_lt hlt h)
    · exact Nat.find_spec hexists (heq ▸ h)

/-! ### Timetables -/

/-- The instant of the tick with the number `k`: the first instant, and later on the instant at the
place of the tick. Only a first instant in a leap second is not at the place of its tick. -/
structure IsTick (first : Instant) (step : Delta) (k : Nat) (t : Instant) : Prop where
  eq_first : k = 0 → t = first
  isAt : 0 < k ∨ ¬ first.isLeap → t.IsAt (place first step k)

/-- The instants of all ticks for which there is one. They ascend or descend with the step. -/
structure Timetable (first : Instant) (step : Delta) (values : List Instant) : Prop where
  lt_length_iff : ∀ k, k < values.length ↔ Instant.Reached (place first step k)
  isTick : ∀ k t, values[k]? = some t → IsTick first step k t
  ascending : 0 < step.nanos → values.Pairwise fun a b => compare a b = .lt
  descending : step.nanos < 0 → values.Pairwise fun a b => compare b a = .lt

namespace IsTick

theorem zero (first : Instant) (step : Delta) : IsTick first step 0 first := by
  refine ⟨fun _ => rfl, fun h => ?_⟩
  have hleap := h.resolve_left (Nat.lt_irrefl 0)
  exact ⟨hleap, by rw [place_zero, Instant.origin_of_not_isLeap hleap]⟩

theorem succ (h : t.IsAt (place first step (k + 1))) : IsTick first step (k + 1) t :=
  ⟨nofun, fun _ => h⟩

theorem origin_eq (h : IsTick first step k t) : t.origin = place first step k := by
  by_cases hk : k = 0
  · rw [hk, place_zero, h.eq_first hk]
  · have hat := h.isAt (.inl (Nat.pos_of_ne_zero hk))
    rw [Instant.origin_of_not_isLeap hat.not_isLeap, hat.position_eq]

theorem isLeap_first (h : IsTick first step k t) (hleap : t.isLeap) : first.isLeap := by
  by_cases hk : k = 0
  · rwa [← h.eq_first hk]
  · exact absurd hleap (h.isAt (.inl (Nat.pos_of_ne_zero hk))).not_isLeap

/-- To advance the instant of a tick is to go to the place of the next one. -/
theorem advance?_eq (hleap : first.isLeap → (nanosPerSecond : Int) ≤ step.nanos)
    (h : IsTick first step k t) :
    t.advance? step = Instant.ofPosition? (place first step (k + 1)) := by
  rw [place_succ, ← h.origin_eq]
  exact Instant.advance?_eq fun hisLeap => hleap (h.isLeap_first hisLeap)

theorem compare_of_pos (hstep : 0 < step.nanos)
    (hleap : first.isLeap → (nanosPerSecond : Int) ≤ step.nanos) (h : IsTick first step j t)
    (hlater : IsTick first step k later) (hlt : j < k) : compare t later = .lt := by
  have hat := hlater.isAt (.inl (by omega))
  have hplace := place_add_le first (Int.le_of_lt hstep) hlt
  by_cases hisLeap : first.isLeap
  · apply Instant.compare_of_second_later hat
    have hsecond := hleap hisLeap
    rw [h.origin_eq]
    omega
  · apply Instant.compare_of_isAt (h.isAt (.inr hisLeap)) hat
    omega

theorem compare_of_neg (hstep : step.nanos < 0) (hleap : ¬ first.isLeap)
    (h : IsTick first step j t) (hlater : IsTick first step k later) (hlt : j < k) :
    compare later t = .lt := by
  have hplace := place_le_add first (Int.le_of_lt hstep) hlt
  apply Instant.compare_of_isAt (hlater.isAt (.inr hleap)) (h.isAt (.inr hleap))
  omega

end IsTick

/-- As long as the places of the ticks have instants, these are due. -/
theorem exists_due (hleap : first.isLeap → (nanosPerSecond : Int) ≤ step.nanos)
    (h : Instant.Reached (place first step k)) :
    ∃ t, due first step k = .ok t ∧ IsTick first step k t := by
  induction k with
  | zero => exact ⟨first, rfl, .zero first step⟩
  | succ k ih =>
    obtain ⟨t, hdue, htick⟩ := ih (reached_place_of_lt (Nat.lt_succ_self k) h)
    obtain ⟨later, hlater⟩ := Option.isSome_iff_exists.1 (Instant.isSome_ofPosition?_iff.2 h)
    refine ⟨later, ?_, .succ (Instant.ofPosition?_eq_some_iff.1 hlater)⟩
    rw [due_succ_of_ok hdue, Instant.advance, htick.advance?_eq hleap, hlater]

/-- From the first place without an instant on, the clock that could not be advanced there is
due. -/
theorem due_of_exhausted (hleap : first.isLeap → (nanosPerSecond : Int) ≤ step.nanos)
    (hdue : due first step k = .ok t) (htick : IsTick first step k t)
    (hexhausted : ¬ Instant.Reached (place first step (k + 1))) (hlt : k < j) :
    due first step j = .error (.overflow t step) := by
  induction hlt with
  | refl =>
    rw [← Instant.isSome_ofPosition?_iff, Option.not_isSome_iff_eq_none] at hexhausted
    rw [due_succ_of_ok hdue, Instant.advance, htick.advance?_eq hleap, hexhausted]
  | step hlt ih => rw [due, ih]

/-- The instants of the first ticks; where none is due, the first one stands for it. -/
def firstTicks (first : Instant) (step : Delta) (length : Nat) : List Instant :=
  (List.range length).map fun k => (due first step k).toOption.getD first

@[simp] theorem length_firstTicks : (firstTicks first step length).length = length := by
  simp [firstTicks]

theorem getElem?_firstTicks (hdue : due first step k = .ok t) (hlt : k < length) :
    (firstTicks first step length)[k]? = some t := by
  simp [firstTicks, hlt, hdue, Except.toOption]

theorem timetable_firstTicks (hleap : first.isLeap → (nanosPerSecond : Int) ≤ step.nanos)
    (hlength : ∀ k, k < length ↔ Instant.Reached (place first step k)) :
    Timetable first step (firstTicks first step length) := by
  have htick : ∀ k t, (firstTicks first step length)[k]? = some t → IsTick first step k t := by
    intro k t ht
    have hlt := (List.getElem?_eq_some_iff.1 ht).1
    rw [length_firstTicks] at hlt
    obtain ⟨t', hdue, htick⟩ := exists_due hleap ((hlength k).1 hlt)
    rw [getElem?_firstTicks hdue hlt] at ht
    rwa [← Option.some.inj ht]
  refine ⟨fun k => ?_, htick, fun hstep => ?_, fun hstep => ?_⟩
  · rw [length_firstTicks, hlength]
  · rw [List.pairwise_iff_getElem]
    intro j k hj hk hlt
    exact (htick j _ (List.getElem?_eq_getElem hj)).compare_of_pos hstep hleap
      (htick k _ (List.getElem?_eq_getElem hk)) hlt
  · have hfirst : ¬ first.isLeap := by
      intro hisLeap
      have hsecond := hleap hisLeap
      omega
    rw [List.pairwise_iff_getElem]
    intro j k hj hk hlt
    exact (htick j _ (List.getElem?_eq_getElem hj)).compare_of_neg hstep hfirst
      (htick k _ (List.getElem?_eq_getElem hk)) hlt

/-- The instants that are due are those of a timetable, and after them the error of the last of them
that cannot be advanced. -/
theorem exists_timetable (hstep : step.nanos ≠ 0)
    (hleap : first.isLeap → (nanosPerSecond : Int) ≤ step.nanos) :
    ∃ values last, Timetable first step values ∧ values.getLast? = some last ∧
      ∀ k, due first step k =
        match values[k]? with
        | some t => .ok t
        | none => .error (.overflow last step) := by
  obtain ⟨length, hlength⟩ := exists_lt_iff_reached first hstep
  -- the first instant itself is always reached, so there is a last one
  have hpositive : 0 < length := by
    rw [hlength, place_zero]
    exact first.reached_origin
  obtain ⟨last, hlast, hlastTick⟩ := exists_due hleap ((hlength (length - 1)).1 (by omega))
  refine ⟨firstTicks first step length, last, timetable_firstTicks hleap hlength, ?_, fun k => ?_⟩
  · rw [List.getLast?_eq_getElem?, length_firstTicks]
    exact getElem?_firstTicks hlast (by omega)
  · by_cases hlt : k < length
    · obtain ⟨t, hdue, -⟩ := exists_due hleap ((hlength k).1 hlt)
      rw [getElem?_firstTicks hdue hlt, hdue]
    · have hexhausted : ¬ Instant.Reached (place first step (length - 1 + 1)) := by
        rw [← hlength]
        omega
      rw [List.getElem?_eq_none (by rw [length_firstTicks]; omega)]
      exact due_of_exhausted hleap hlast hlastTick hexhausted (by omega)

/-! ### Sessions -/

/-- What is asked of a time source. -/
inductive Request where
  /-- The next value. -/
  | next
  /-- A stop, for a reason. -/
  | stop (reason : String)
deriving DecidableEq

/-- How many values a session asks for. -/
def valuesAsked (requests : List Request) : Nat := requests.count .next

/-- How many of them it asks for before the first stop. -/
def valuesAskedBeforeStop (requests : List Request) : Nat :=
  (requests.takeWhile (· = .next)).length

section Asked

variable {requests : List Request} {reason : String}

@[simp] theorem valuesAsked_nil : valuesAsked [] = 0 := rfl

@[simp] theorem valuesAsked_next : valuesAsked (.next :: requests) = valuesAsked requests + 1 := by
  simp [valuesAsked]

@[simp] theorem valuesAsked_stop :
    valuesAsked (.stop reason :: requests) = valuesAsked requests := by
  simp [valuesAsked]

@[simp] theorem valuesAskedBeforeStop_nil : valuesAskedBeforeStop [] = 0 := rfl

@[simp] theorem valuesAskedBeforeStop_next :
    valuesAskedBeforeStop (.next :: requests) = valuesAskedBeforeStop requests + 1 := by
  simp [valuesAskedBeforeStop]

@[simp] theorem valuesAskedBeforeStop_stop :
    valuesAskedBeforeStop (.stop reason :: requests) = 0 := by
  simp [valuesAskedBeforeStop]

end Asked

/-- What comes of the requests of a session: the reply to each one for the next value, and the error
that the source has when it is closed in the end. -/
structure Session where
  replies : List (Option Instant)
  failure? : Option ClockError
deriving DecidableEq

/-- The requests one after the other, and the close after them. -/
def play (stop : StopRequest) (source : TimeSource) : List Request → Session
  | [] => { replies := [], failure? := (source.close stop).failure? }
  | .next :: rest =>
    let (reply, after) := source.next stop
    let session := after.play stop rest
    { session with replies := reply :: session.replies }
  | .stop reason :: rest => source.play (stop.request reason) rest

/-- Nothing is on the way between the producer and the receiver. -/
structure Resting (source : TimeSource) : Prop where
  slot_eq : source.slot = none
  not_advancing : ∀ clock, source.producer ≠ .advancing clock

theorem resting_holding (next : Except ClockError Instant) : (holding step next).Resting := by
  refine ⟨rfl, fun clock h => ?_⟩
  cases next with
  | ok later => cases h
  | error error => cases h

/-- A producer that is about to hand over a value sees the stop and ends. -/
theorem turn_of_requested {stop : StopRequest} {source : TimeSource}
    (hstop : stop.reason.isSome) (h : source.Resting) :
    (source.turn stop).Resting ∧ (source.turn stop).failure? = source.failure? := by
  obtain ⟨reason, hreason⟩ := Option.isSome_iff_exists.1 hstop
  obtain ⟨step, producer, slot, isOpen⟩ := source
  cases producer with
  | sending clock =>
    have hproduce : produce? stop { step, producer := .sending clock, slot, isOpen } =
        some { step, producer := .ended (.stopped reason), slot, isOpen } := by
      simp [produce?, hreason]
    have hturn : turn stop { step, producer := .sending clock, slot, isOpen } =
        { step, producer := .ended (.stopped reason), slot, isOpen } := by
      rw [turn, hproduce]
      rfl
    rw [hturn]
    exact ⟨⟨h.slot_eq, fun _ => Producer.noConfusion⟩, rfl⟩
  | advancing clock => exact absurd rfl (h.not_advancing clock)
  | ended outcome => exact ⟨h, rfl⟩

/-- After a stop there is no value any more, and the source fails only if it has failed before. -/
theorem play_of_requested {stop : StopRequest} {source : TimeSource} (hstop : stop.reason.isSome)
    (h : source.Resting) (requests : List Request) :
    source.play stop requests =
      { replies := List.replicate (valuesAsked requests) none, failure? := source.failure? } := by
  induction requests generalizing stop source with
  | nil =>
    have hclosed : { source with slot := none, isOpen := false }.Resting := ⟨rfl, h.not_advancing⟩
    have hfailure := (turn_of_requested hstop hclosed).2
    simp only [play, close, hfailure]
    rfl
  | cons request rest ih =>
    cases request with
    | next =>
      obtain ⟨hresting, hfailure⟩ := turn_of_requested hstop h
      have hnext : source.next stop = (none, source.turn stop) := by
        simp only [next, h.slot_eq, take, hresting.slot_eq]
        rw [← hresting.slot_eq]
      simp only [play, hnext, ih hstop hresting, hfailure]
      rw [valuesAsked_next, List.replicate_succ]
    | stop reason =>
      have hagain : (stop.request reason).reason.isSome := by
        rw [stop.reason_request, Option.isSome_or, hstop, Bool.true_or]
      rw [play, ih hagain h, valuesAsked_stop]

/-- A request to a source between two values gets what is due. -/
theorem next_holding_due (first : Instant) (step : Delta) (k : Nat) :
    (holding step (due first step k)).next .none =
      ((due first step k).toOption, holding step (due first step (k + 1))) := by
  rw [due]
  cases due first step k with
  | ok clock => exact next_holding_ok step clock
  | error error => exact next_holding_error .none step error

/-- From any tick on, the requests before the first stop get the values that are due, and the source
fails with what is due after them. -/
theorem play_holding (first : Instant) (step : Delta) (k : Nat) (requests : List Request) :
    (holding step (due first step k)).play .none requests =
      { replies := (List.range (valuesAsked requests)).map fun i =>
          if i < valuesAskedBeforeStop requests then (due first step (k + i)).toOption else none
        failure? :=
          (holding step (due first step (k + valuesAskedBeforeStop requests))).failure? } := by
  induction requests generalizing k with
  | nil =>
    simp only [play, failure?_close_holding, valuesAskedBeforeStop_nil, Nat.add_zero]
    cases due first step k with
    | ok clock => rfl
    | error error => rfl
  | cons request rest ih =>
    cases request with
    | next =>
      simp [play, next_holding_due, ih (k + 1), List.range_succ_eq_map, Function.comp_def,
        Nat.add_assoc, Nat.add_comm 1]
    | stop reason =>
      rw [play, play_of_requested rfl (resting_holding _)]
      simp [List.map_const']

end TimeSource

/-- The clock is advanced by a step that is not zero, and by at least a second if it starts in a
leap second. Then the source has the instants of a timetable: the first one and those at the
multiples of the step, strictly ascending or descending, and all that the calendar has. A session
gets them one after the other from the first one on; after the last of them, and after a stop, it
gets nothing. The source fails exactly if it had handed over all of them before a stop, and then
because the last one cannot be advanced by the step. -/
theorem time_source_is_exact (first : Instant) (step : Delta) (hstep : step.nanos ≠ 0)
    (hleap : first.isLeap → (nanosPerSecond : Int) ≤ step.nanos) :
    ∃ values, TimeSource.Timetable first step values ∧
      ∀ requests : List TimeSource.Request,
        let taken := TimeSource.valuesAskedBeforeStop requests
        let session := (TimeSource.start first step).play .none requests
        session.replies = (List.range (TimeSource.valuesAsked requests)).map
          (fun k => if k < taken then values[k]? else none) ∧
        session.failure? =
          if values.length ≤ taken then values.getLast?.map (.overflow · step) else none := by
  obtain ⟨values, last, htable, hlast, hdue⟩ := TimeSource.exists_timetable hstep hleap
  refine ⟨values, htable, fun requests => ?_⟩
  intro taken session
  have hsession : session = _ := TimeSource.play_holding first step 0 requests
  rw [hsession]
  constructor
  · apply List.map_congr_left
    intro k _
    rw [Nat.zero_add, hdue]
    cases values[k]? with
    | some t => rfl
    | none => rfl
  · rw [Nat.zero_add, hdue, hlast]
    by_cases hexhausted : values.length ≤ taken
    · rw [if_pos hexhausted, List.getElem?_eq_none hexhausted]
      rfl
    · rw [if_neg hexhausted, List.getElem?_eq_getElem (Nat.not_le.1 hexhausted)]
      rfl

/-- A source that starts in a leap second, a minute before the calendar ends, with 25 seconds from
one value to the next. It has three values, the later ones at the places of the second before the
leap second and a multiple of the step. -/
theorem time_source_is_exact_leap_second :
    let first : Instant :=
      ⟨latestSecond - 60, 1500000000, by decide, by decide, by decide, by decide⟩
    let step : Delta := ⟨25 * nanosPerSecond, by decide, by decide⟩
    let session :=
      (TimeSource.start first step).play .none [.next, .next, .next, .next, .stop "ctrl-c"]
    first.isLeap ∧ ∃ second third : Instant,
      second.IsAt (first.position + 24 * nanosPerSecond) ∧
      third.IsAt (first.position + 49 * nanosPerSecond) ∧
      session.replies = [some first, some second, some third, none] ∧
      session.failure? = some (.overflow third step) := by
  intro first step session
  obtain ⟨values, htable, hsession⟩ :=
    time_source_is_exact first step (by decide) (by decide)
  have hlength : values.length = 3 := by
    have htwo := (htable.lt_length_iff 2).2 (by decide)
    have hthree := (htable.lt_length_iff 3).not.2 (by decide)
    omega
  obtain ⟨a, second, third, rfl⟩ := List.length_eq_three.1 hlength
  obtain rfl : a = first := (htable.isTick 0 a rfl).eq_first rfl
  have hplaces : TimeSource.place first step 1 = first.position + 24 * nanosPerSecond ∧
      TimeSource.place first step 2 = first.position + 49 * nanosPerSecond := by decide
  have hsecond := (htable.isTick 1 second rfl).isAt (.inl Nat.one_pos)
  have hthird := (htable.isTick 2 third rfl).isAt (.inl Nat.two_pos)
  rw [hplaces.1] at hsecond
  rw [hplaces.2] at hthird
  obtain ⟨hreplies, hfailure⟩ := hsession [.next, .next, .next, .next, .stop "ctrl-c"]
  exact ⟨rfl, second, third, hsecond, hthird, hreplies, hfailure⟩

end ClusterSim
