import SeriesCell.Proofs.Instants

/- Instants and their milliseconds. An instant becomes the whole milliseconds since 1970 that are not
   after it, whatever clock it was read from, and comes back without the part of a millisecond. Only the
   leap second at the very end has milliseconds that are no instant any more. -/
namespace SeriesCell

namespace Instant

theorem ext_parts (i j : Instant) (secs : i.secs = j.secs) (nanos : i.nanos = j.nanos) : i = j := by
  obtain ⟨iSecs, iNanos, _, _, _⟩ := i
  obtain ⟨jSecs, jNanos, _, _, _⟩ := j
  subst secs
  subst nanos
  rfl

def truncated (i : Instant) : Instant where
  secs := i.secs
  nanos := i.nanos / 1000000 * 1000000
  notBefore := i.notBefore
  notAfter := i.notAfter
  withinSecond := by
    have within := i.withinSecond
    omega

def afterLeap (i : Instant) (leap : 1000000000 ≤ i.nanos) (earlier : i.secs < lastSecond) : Instant where
  secs := i.secs + 1
  nanos := i.nanos - 1000000000
  notBefore := Int.le_add_one i.notBefore
  notAfter := earlier
  withinSecond := by
    have within := i.withinSecond
    omega

def clock (i : Instant) (east : Int) : DateTime :=
  let second := ((i.secs + east) % 86400).toNat
  ⟨Date.ofDayNumber ((i.secs + east) / 86400), second / 3600, second / 60 % 60, second % 60, i.nanos⟩

theorem millis_in_range (i : Instant) :
    -0x8000000000000000 ≤ i.secs * 1000 ∧
    i.secs * 1000 + (i.nanos / 1000000 : Nat) < 0x8000000000000000 := by
  have first := i.notBefore
  have last := i.notAfter
  have within := i.withinSecond
  rw [firstSecond] at first
  rw [lastSecond] at last
  omega

theorem millis_exact (i : Instant) : i.millis.toInt = i.secs * 1000 + (i.nanos / 1000000 : Nat) := by
  obtain ⟨low, high⟩ := i.millis_in_range
  exact Int64.toInt_ofInt_of_le (by omega) (by omega)

theorem clock_millis (i : Instant) (east : Int) :
    (i.clock east).millis = i.millis.toInt + 1000 * east := by
  obtain ⟨_, number⟩ := Date.of_day_number ((i.secs + east) / 86400)
  rw [millis_exact]
  simp only [DateTime.millis, DateTime.secondOfDay, clock, number]
  omega

theorem millis_mono (i j : Instant) (ordinary : i.nanos < 1000000000)
    (order : i.secs < j.secs ∨ i.secs = j.secs ∧ i.nanos ≤ j.nanos) : i.millis ≤ j.millis := by
  rw [Int64.le_iff_toInt_le, millis_exact, millis_exact]
  omega

theorem of_millis_iff (millis : Int64) (i : Instant) :
    ofMillis? millis = some i ↔
      i.secs = millis.toInt / 1000 ∧ i.nanos = (millis.toInt % 1000).toNat * 1000000 :=
  of_unix_iff _ _ i

theorem of_millis_some_iff (millis : Int64) :
    (ofMillis? millis).isSome = true ↔
      firstSecond * 1000 ≤ millis.toInt ∧ millis.toInt ≤ lastSecond * 1000 + 999 := by
  rw [Option.isSome_iff_exists]
  constructor
  · rintro ⟨i, found⟩
    obtain ⟨secs, _⟩ := (of_millis_iff millis i).mp found
    have first := i.notBefore
    have last := i.notAfter
    omega
  · rintro ⟨low, high⟩
    exact of_millis_within millis low high

theorem millis_of_millis (millis : Int64) (i : Instant) (found : ofMillis? millis = some i) :
    i.millis = millis := by
  obtain ⟨secs, nanos⟩ := (of_millis_iff millis i).mp found
  apply Int64.toInt_inj.mp
  rw [millis_exact]
  omega

theorem of_millis_millis (i : Instant) (ordinary : i.nanos < 1000000000) :
    ofMillis? i.millis = some i.truncated := by
  rw [of_millis_iff, millis_exact]
  simp only [truncated]
  omega

theorem millis_after_leap (i : Instant) (leap : 1000000000 ≤ i.nanos) (earlier : i.secs < lastSecond) :
    (i.afterLeap leap earlier).millis = i.millis := by
  apply Int64.toInt_inj.mp
  rw [millis_exact, millis_exact]
  simp only [afterLeap]
  omega

theorem last_leap_beyond (i : Instant) (leap : 1000000000 ≤ i.nanos) (last : i.secs = lastSecond) :
    ofMillis? i.millis = none := by
  rw [← Option.not_isSome_iff_eq_none, of_millis_some_iff, millis_exact]
  omega

end Instant

theorem instants_and_milliseconds :
    (∀ millis : Int64,
      ((Cell.holding (.timestamp millis)).instant?.isSome = true ↔
        -8334601228800000 ≤ millis.toInt ∧ millis.toInt ≤ 8210266876799999) ∧
      ∀ i, (Cell.holding (.timestamp millis)).instant? = some i →
        Cell.ofInstant i = .holding (.timestamp millis)) ∧
    ∀ i : Instant,
      (Cell.ofInstant i).timestamp.toInt = (1000000000 * i.secs + i.nanos) / 1000000 ∧
      (-0x8000000000000000 ≤ i.secs * 1000 ∧
        i.secs * 1000 + (i.nanos / 1000000 : Nat) < 0x8000000000000000) ∧
      (∀ east, (i.clock east).millis = (Cell.ofInstant i).timestamp.toInt + 1000 * east) ∧
      (i.nanos < 1000000000 →
        (Cell.ofInstant i).instant? = some i.truncated ∧
        ∀ j : Instant, j.nanos < 1000000000 → i.secs < j.secs ∨ i.secs = j.secs ∧ i.nanos ≤ j.nanos →
          (Cell.ofInstant i).timestamp ≤ (Cell.ofInstant j).timestamp) ∧
      ∀ leap : 1000000000 ≤ i.nanos,
        i.secs % 60 = 59 ∧
        (i.secs = Instant.lastSecond → (Cell.ofInstant i).instant? = none) ∧
        ∀ earlier : i.secs < Instant.lastSecond,
          Cell.ofInstant i = Cell.ofInstant (i.afterLeap leap earlier) ∧
          (Cell.ofInstant i).instant? = some (i.afterLeap leap earlier).truncated := by
  constructor
  · intro millis
    refine ⟨Instant.of_millis_some_iff millis, ?_⟩
    intro i found
    rw [Cell.ofInstant, Instant.millis_of_millis millis i found]
  · intro i
    have within := i.withinSecond
    refine ⟨?_, i.millis_in_range, i.clock_millis, ?_, ?_⟩
    · have exact : (Cell.ofInstant i).timestamp.toInt = i.secs * 1000 + (i.nanos / 1000000 : Nat) :=
        i.millis_exact
      omega
    · intro ordinary
      exact ⟨i.of_millis_millis ordinary, fun j _ order => i.millis_mono j ordinary order⟩
    · intro leap
      refine ⟨by omega, i.last_leap_beyond leap, ?_⟩
      intro earlier
      have same := i.millis_after_leap leap earlier
      have short : (i.afterLeap leap earlier).nanos < 1000000000 := by
        simp only [Instant.afterLeap]
        omega
      have back := (i.afterLeap leap earlier).of_millis_millis short
      rw [same] at back
      exact ⟨by rw [Cell.ofInstant, Cell.ofInstant, same], back⟩

theorem leap_seconds_read_back :
    (Cell.ofInstant ⟨-1, 1999999999, by decide, by decide, by decide⟩).instant? =
      some ⟨0, 999000000, by decide, by decide, by decide⟩ ∧
    (Cell.ofInstant ⟨8210266876799, 1000000000, by decide, by decide, by decide⟩).instant? = none ∧
    (Cell.ofInstant ⟨-1, 999999999, by decide, by decide, by decide⟩).instant? =
      some ⟨-1, 999000000, by decide, by decide, by decide⟩ ∧
    (Cell.ofInstant ⟨-1, 999999999, by decide, by decide, by decide⟩).timestamp ≤
      (Cell.ofInstant ⟨0, 0, by decide, by decide, by decide⟩).timestamp ∧
    Cell.ofInstant ⟨-1, 999000000, by decide, by decide, by decide⟩ = .holding (.timestamp (-1)) := by
  obtain ⟨read, instants⟩ := instants_and_milliseconds
  obtain ⟨_, _, _, _, early⟩ := instants ⟨-1, 1999999999, by decide, by decide, by decide⟩
  obtain ⟨_, _, _, _, late⟩ := instants ⟨8210266876799, 1000000000, by decide, by decide, by decide⟩
  obtain ⟨_, _, _, ordinary, _⟩ := instants ⟨-1, 999999999, by decide, by decide, by decide⟩
  obtain ⟨_, passed⟩ := (early (by decide)).2.2 (by decide)
  obtain ⟨back, mono⟩ := ordinary (by decide)
  refine ⟨?_, (late (by decide)).2.1 rfl, ?_, ?_, ?_⟩
  · rw [passed]
    exact congrArg some (Instant.ext_parts _ _ (by decide) (by decide))
  · rw [back]
    exact congrArg some (Instant.ext_parts _ _ (by decide) (by decide))
  · exact mono ⟨0, 0, by decide, by decide, by decide⟩ (by decide) (.inl (by decide))
  · have found := (Instant.of_millis_iff (-1) ⟨-1, 999000000, by decide, by decide, by decide⟩).mpr
      ⟨by decide, by decide⟩
    exact (read (-1)).2 _ found

end SeriesCell
