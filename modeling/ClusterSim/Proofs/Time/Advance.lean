import ClusterSim.Proofs.Time.Instant
import ClusterSim.Time.Clock

/-!
# Advancing a clock

An instant is advanced in the direction of the span, whether it starts, stays or ends in a leap
second or not (`Advanced`, `compare_of_advance?`). Outside leap seconds advancing is addition on the
line of nanoseconds, up to both ends of the calendar. Main statement: `advance_is_exact`.
-/

namespace ClusterSim

namespace Instant

variable {t later : Instant} {delta : Delta}

/-! ### What can come of a step -/

/-- The three ways to advance: to stay in the leap second where the step starts, to leave it
forwards, and to go to a place on the line of nanoseconds, which is before the leap second if the
step starts in one. -/
inductive Advanced (t : Instant) (delta : Delta) (later : Instant) : Prop
  | within (isLeap : t.isLeap) (isLeap_later : later.isLeap)
      (seconds_eq : later.seconds = t.seconds) (nanos_eq : later.nanos = t.nanos + delta.nanos)
  | passed (isLeap : t.isLeap) (le : 2 * (nanosPerSecond : Int) ≤ t.nanos + delta.nanos)
      (isAt : later.IsAt (t.position + delta.nanos - nanosPerSecond))
  | moved (lt : t.isLeap → t.nanos + delta.nanos < nanosPerSecond)
      (isAt : later.IsAt (t.position + delta.nanos))

theorem advanced_of_advance? (h : t.advance? delta = some later) : t.Advanced delta later := by
  unfold advance? at h
  simp only at h
  split at h
  · rename_i hleap
    split at h
    · rename_i hpassed
      exact .passed hleap hpassed (ofPosition?_eq_some_iff.1 h)
    · split at h
      · rename_i hstays
        obtain ⟨hseconds, hnanos⟩ := ofParts?_eq_some_iff.1 h
        refine .within hleap (isLeap_iff.2 ?_) hseconds ?_ <;> omega
      · rename_i hbefore
        exact .moved (fun _ => Int.not_le.1 hbefore) (ofPosition?_eq_some_iff.1 h)
  · rename_i hleap
    exact .moved (fun h => absurd h hleap) (ofPosition?_eq_some_iff.1 h)

/-! ### Direction -/

theorem compare_eq_gt_iff : compare later t = .gt ↔
    t.seconds < later.seconds ∨ t.seconds = later.seconds ∧ t.nanos < later.nanos := by
  show (compare later.seconds t.seconds).then (compare later.nanos t.nanos) = .gt ↔ _
  rw [Ordering.then_eq_gt, Int.compare_eq_gt, Int.compare_eq_eq, Nat.compare_eq_gt]
  omega

theorem compare_eq_eq_iff : compare later t = .eq ↔
    later.seconds = t.seconds ∧ later.nanos = t.nanos := by
  show (compare later.seconds t.seconds).then (compare later.nanos t.nanos) = .eq ↔ _
  rw [Ordering.then_eq_eq, Int.compare_eq_eq, Nat.compare_eq_eq]

/-- Seconds and nanoseconds of an instant at a place. -/
theorem IsAt.parts {place : Int} (h : later.IsAt place) :
    later.nanos < nanosPerSecond ∧ later.seconds * nanosPerSecond + later.nanos = place := by
  refine ⟨?_, h.position_eq⟩
  rw [← Nat.not_le, ← isLeap_iff]
  exact h.not_isLeap

/-- How the parts of an instant change with the sign of the span. -/
theorem Advanced.parts (h : t.Advanced delta later) :
    (delta.nanos < 0 → later.seconds < t.seconds ∨
      later.seconds = t.seconds ∧ later.nanos < t.nanos) ∧
    (delta.nanos = 0 → later.seconds = t.seconds ∧ later.nanos = t.nanos) ∧
    (0 < delta.nanos → t.seconds < later.seconds ∨
      t.seconds = later.seconds ∧ t.nanos < later.nanos) := by
  have hlt := t.nanos_lt
  cases h with
  | within _ _ hseconds hnanos => omega
  | passed hleap hpassed hat =>
    obtain ⟨hnanos, hplace⟩ := hat.parts
    unfold position at hplace
    unfold nanosPerSecond at *
    omega
  | moved hbefore hat =>
    obtain ⟨hnanos, hplace⟩ := hat.parts
    rw [isLeap_iff] at hbefore
    unfold position at hplace
    unfold nanosPerSecond at *
    omega

/-- The instant after a step compares to the one before as the span does to zero. -/
theorem compare_of_advance? (h : t.advance? delta = some later) :
    compare later t = compare delta.nanos 0 := by
  obtain ⟨hback, hstay, hforth⟩ := (advanced_of_advance? h).parts
  rcases Int.lt_trichotomy delta.nanos 0 with hneg | hzero | hpos
  · rw [compare_eq_lt_iff.2 (hback hneg), Int.compare_eq_lt.2 hneg]
  · rw [compare_eq_eq_iff.2 (hstay hzero), Int.compare_eq_eq.2 hzero]
  · rw [compare_eq_gt_iff.2 (hforth hpos), Int.compare_eq_gt.2 hpos]

/-! ### Outside leap seconds -/

theorem advance?_of_not_isLeap (h : ¬ t.isLeap) (delta : Delta) :
    t.advance? delta = ofPosition? (t.position + delta.nanos) := by
  rw [advance?_eq fun hleap => absurd hleap h, origin_of_not_isLeap h]

theorem advance_eq_ok_iff : t.advance delta = .ok later ↔ t.advance? delta = some later := by
  unfold advance
  cases t.advance? delta <;> simp

theorem advance_eq_error_iff {fault : ClockError} :
    t.advance delta = .error fault ↔ fault = .overflow t delta ∧ t.advance? delta = none := by
  unfold advance
  cases t.advance? delta <;> simp [eq_comm]

theorem advance?_eq_none_iff (h : ¬ t.isLeap) :
    t.advance? delta = none ↔ ¬ Reached (t.position + delta.nanos) := by
  rw [advance?_of_not_isLeap h, ← isSome_ofPosition?_iff, Option.not_isSome_iff_eq_none]

theorem exists_advance_of_reached (h : ¬ t.isLeap)
    (hreached : Reached (t.position + delta.nanos)) :
    ∃ later, t.advance delta = .ok later ∧ later.IsAt (t.position + delta.nanos) := by
  obtain ⟨later, hlater⟩ := Option.isSome_iff_exists.1 (isSome_ofPosition?_iff.2 hreached)
  refine ⟨later, ?_, ofPosition?_eq_some_iff.1 hlater⟩
  rw [advance_eq_ok_iff, advance?_of_not_isLeap h, hlater]

/-- Two steps are one, as the place between them is outside leap seconds. -/
theorem advance?_advance? {middle : Instant} {a b sum : Delta} (h : ¬ t.isLeap)
    (hmiddle : middle.IsAt (t.position + a.nanos)) (hsum : sum.nanos = a.nanos + b.nanos) :
    middle.advance? b = t.advance? sum := by
  rw [advance?_of_not_isLeap hmiddle.not_isLeap, advance?_of_not_isLeap h, hmiddle.position_eq,
    hsum, Int.add_assoc]

end Instant

theorem Delta.nanos_of_ofNanos? {nanos : Int} {delta : Delta}
    (h : Delta.ofNanos? nanos = some delta) : delta.nanos = nanos := by
  unfold Delta.ofNanos? at h
  split at h
  · cases h
    rfl
  · cases h

/-- An advanced clock compares to the clock as the span to zero, leap seconds included. Outside leap
seconds to advance is to add: it fails exactly if the sum lies outside the calendar, with an error
that names the clock and the span, and else gives the instant at the sum; and to advance by two
spans in turn is to advance by their sum. -/
theorem advance_is_exact (t : Instant) :
    (∀ delta later, t.advance delta = .ok later → compare later t = compare delta.nanos 0) ∧
    (¬ t.isLeap →
      (∀ delta fault, t.advance delta = .error fault ↔
        fault = .overflow t delta ∧ ¬ Instant.Reached (t.position + delta.nanos)) ∧
      (∀ delta, Instant.Reached (t.position + delta.nanos) →
        ∃ later, t.advance delta = .ok later ∧ later.IsAt (t.position + delta.nanos)) ∧
      ∀ a b sum : Delta, Delta.ofNanos? (a.nanos + b.nanos) = some sum →
        Instant.Reached (t.position + a.nanos) →
        ∃ middle, t.advance a = .ok middle ∧
          ∀ later, middle.advance b = .ok later ↔ t.advance sum = .ok later) := by
  refine ⟨fun delta later h => ?_, fun hleap => ⟨fun delta fault => ?_, fun delta => ?_, ?_⟩⟩
  · exact Instant.compare_of_advance? (Instant.advance_eq_ok_iff.1 h)
  · rw [Instant.advance_eq_error_iff, Instant.advance?_eq_none_iff hleap]
  · exact Instant.exists_advance_of_reached hleap
  · intro a b sum hsum hreached
    obtain ⟨middle, hmiddle, hat⟩ := Instant.exists_advance_of_reached hleap hreached
    refine ⟨middle, hmiddle, fun later => ?_⟩
    rw [Instant.advance_eq_ok_iff, Instant.advance_eq_ok_iff,
      Instant.advance?_advance? hleap hat (Delta.nanos_of_ofNanos? hsum)]

/-- A nanosecond back inside a leap second, and two steps to the last instant of the calendar, where
one nanosecond more is too much. -/
theorem advance_is_exact_last_nanosecond :
    let leap : Instant := ⟨1483228799, 1500000000, by decide, by decide, by decide, by decide⟩
    let back : Delta := ⟨-1, by decide, by decide⟩
    let late : Instant := ⟨latestSecond, 999999990, by decide, by decide, by decide, by decide⟩
    let four : Delta := ⟨4, by decide, by decide⟩
    let five : Delta := ⟨5, by decide, by decide⟩
    let six : Delta := ⟨6, by decide, by decide⟩
    leap.isLeap ∧ (∃ later, leap.advance back = .ok later ∧ compare later leap = .lt) ∧
    ¬ late.isLeap ∧ ∃ middle, late.advance four = .ok middle ∧
      middle.advance five = .ok .latest ∧ middle.advance six = .error (.overflow middle six) := by
  intro leap back late four five six
  have hback : leap.advance back =
      .ok ⟨1483228799, 1499999999, by decide, by decide, by decide, by decide⟩ := rfl
  have hlate : ¬ late.isLeap := by decide
  have hreached : Instant.Reached (late.position + four.nanos) := by decide
  have hsum : Delta.ofNanos? (four.nanos + five.nanos) = some ⟨9, by decide, by decide⟩ := rfl
  obtain ⟨-, -, hinTurn⟩ := (advance_is_exact late).2 hlate
  obtain ⟨middle, hmiddle, hboth⟩ := hinTurn four five _ hsum hreached
  have hfour : late.advance four =
      .ok ⟨latestSecond, 999999994, by decide, by decide, by decide, by decide⟩ :=
    Instant.advance_eq_ok_iff.2 (by decide +kernel)
  have hlatest : late.advance ⟨9, by decide, by decide⟩ = .ok .latest :=
    Instant.advance_eq_ok_iff.2 (by decide +kernel)
  obtain rfl := Except.ok.inj (hmiddle.symm.trans hfour)
  refine ⟨rfl, ⟨_, hback, (advance_is_exact leap).1 back _ hback⟩, hlate, _, hmiddle,
    (hboth .latest).2 hlatest, ?_⟩
  exact (((advance_is_exact _).2 (by decide)).1 six _).2 ⟨rfl, by decide⟩

end ClusterSim
