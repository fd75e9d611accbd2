import ClusterSim.Time.Instant

/-!
# Places on the line of nanoseconds

Outside leap seconds an instant is its place on the line of nanoseconds, and the places that have an
instant lie between the first and the last one (`isSome_ofPosition?_iff`). To advance such an
instant is to add to its place. A leap second that is left forwards by a second or more counts as
the second before it (`advance?_eq`).
-/

namespace ClusterSim.Instant

variable {t other : Instant} {place : Int}

/-- An instant outside leap seconds, and its place on the line of nanoseconds. -/
structure IsAt (t : Instant) (place : Int) : Prop where
  not_isLeap : ¬ t.isLeap
  position_eq : t.position = place

/-- Whether a place lies between the first and the last instant. -/
def Reached (place : Int) : Prop := earliest.position ≤ place ∧ place ≤ latest.position

instance : Decidable (Reached place) := inferInstanceAs (Decidable (_ ∧ _))

/-- The place from which a later instant is counted: the place of the instant itself, and in a leap
second that of the second before it with the same fraction. -/
def origin (t : Instant) : Int := t.seconds * nanosPerSecond + (t.nanos % nanosPerSecond : Nat)

theorem isLeap_iff : t.isLeap ↔ nanosPerSecond ≤ t.nanos := by simp [isLeap]

theorem origin_of_not_isLeap (h : ¬ t.isLeap) : t.origin = t.position := by
  rw [isLeap_iff, Nat.not_le] at h
  rw [origin, position, Nat.mod_eq_of_lt h]

theorem origin_of_isLeap (h : t.isLeap) : t.origin = t.position - nanosPerSecond := by
  have hle := isLeap_iff.1 h
  have hlt := t.nanos_lt
  unfold nanosPerSecond at hle hlt
  unfold origin position nanosPerSecond
  omega

/-! ### Instants of places -/

theorem reached_iff : Reached place ↔
    earliestSecond ≤ place / nanosPerSecond ∧ place / nanosPerSecond ≤ latestSecond := by
  have hearliest : earliest.position = earliestSecond * nanosPerSecond := rfl
  have hlatest : latest.position = latestSecond * nanosPerSecond + (nanosPerSecond - 1) := rfl
  unfold Reached
  rw [hearliest, hlatest]
  unfold nanosPerSecond
  omega

theorem reached_origin (t : Instant) : Reached t.origin := by
  have hearliest := t.earliest_le
  have hlatest := t.le_latest
  have hsecond : t.origin / nanosPerSecond = t.seconds := by
    unfold origin nanosPerSecond
    omega
  rw [reached_iff, hsecond]
  exact ⟨hearliest, hlatest⟩

/-- What lies between two places that have an instant has one too. -/
theorem Reached.between {first last : Int} (hfirst : Reached first) (hlast : Reached last)
    (h : first ≤ place ∧ place ≤ last ∨ last ≤ place ∧ place ≤ first) : Reached place := by
  unfold Reached at *
  omega

theorem ofParts?_eq_some_iff {seconds : Int} {nanos : Nat} :
    ofParts? seconds nanos = some t ↔ t.seconds = seconds ∧ t.nanos = nanos := by
  unfold ofParts?
  constructor
  · intro h
    split at h
    · cases h
      exact ⟨rfl, rfl⟩
    · cases h
  · rintro ⟨rfl, rfl⟩
    exact dif_pos ⟨t.earliest_le, t.le_latest, t.nanos_lt, t.leap_last⟩

theorem ofPosition?_eq_some_iff : ofPosition? place = some t ↔ t.IsAt place := by
  rw [ofPosition?, ofParts?_eq_some_iff]
  constructor
  · rintro ⟨hseconds, hnanos⟩
    have hposition : t.position = place := by
      unfold position
      unfold nanosPerSecond at *
      omega
    refine ⟨?_, hposition⟩
    rw [isLeap_iff, hnanos]
    unfold nanosPerSecond
    omega
  · rintro ⟨hleap, rfl⟩
    rw [isLeap_iff] at hleap
    unfold nanosPerSecond at hleap
    unfold position nanosPerSecond
    omega

/-- The places between the first and the last instant are those that have an instant. -/
theorem isSome_ofPosition?_iff : (ofPosition? place).isSome ↔ Reached place := by
  rw [reached_iff, ofPosition?, ofParts?]
  have hnanos : (place % nanosPerSecond).toNat < nanosPerSecond := by
    unfold nanosPerSecond
    omega
  split
  · rename_i hparts
    exact iff_of_true rfl ⟨hparts.1, hparts.2.1⟩
  · rename_i hparts
    refine iff_of_false nofun fun hreached => hparts ⟨hreached.1, hreached.2, ?_, ?_⟩
    · omega
    · omega

/-! ### The order of instants -/

theorem compare_eq_lt_iff : compare t other = .lt ↔
    t.seconds < other.seconds ∨ t.seconds = other.seconds ∧ t.nanos < other.nanos := by
  show (compare t.seconds other.seconds).then (compare t.nanos other.nanos) = .lt ↔ _
  rw [Ordering.then_eq_lt, Int.compare_eq_lt, Int.compare_eq_eq, Nat.compare_eq_lt]

theorem compare_of_isAt {later : Int} (h : t.IsAt place) (hother : other.IsAt later)
    (hlt : place < later) : compare t other = .lt := by
  obtain ⟨hleap, rfl⟩ := h
  obtain ⟨hotherLeap, rfl⟩ := hother
  rw [isLeap_iff] at hleap hotherLeap
  rw [compare_eq_lt_iff]
  unfold position at hlt
  unfold nanosPerSecond at *
  omega

/-- Even a leap second comes before what is at least a second after its origin. -/
theorem compare_of_second_later (hother : other.IsAt place)
    (hle : t.origin + nanosPerSecond ≤ place) : compare t other = .lt := by
  obtain ⟨hotherLeap, rfl⟩ := hother
  rw [isLeap_iff] at hotherLeap
  rw [compare_eq_lt_iff]
  unfold origin position at hle
  unfold nanosPerSecond at *
  omega

/-! ### Advancing -/

/-- Unless a leap second is advanced by less than a second, a step leads to the place that is later
by it than the origin. -/
theorem advance?_eq {delta : Delta} (h : t.isLeap → (nanosPerSecond : Int) ≤ delta.nanos) :
    t.advance? delta = ofPosition? (t.origin + delta.nanos) := by
  unfold advance?
  by_cases hleap : t.isLeap
  · have hnanos := isLeap_iff.1 hleap
    have hdelta := h hleap
    rw [if_pos hleap, if_pos (by omega), origin_of_isLeap hleap]
    congr 1
    omega
  · rw [if_neg hleap, origin_of_not_isLeap hleap]

end ClusterSim.Instant
