import SeriesCell.Cell
import SeriesCell.Proofs.Calendar

namespace SeriesCell

def DateTime.secondOfDay (d : DateTime) : Nat := d.hour * 3600 + d.minute * 60 + d.second

def DateTime.millis (d : DateTime) : Int :=
  (d.date.dayNumber * 86400 + d.secondOfDay) * 1000 + (d.nanosecond / 1000000 : Nat)

namespace Instant

theorem of_unix_parts (secs : Int) (nanos : Nat) (i : Instant) (found : ofUnix? secs nanos = some i) :
    i.secs = secs ∧ i.nanos = nanos := by
  unfold ofUnix? at found
  split at found
  · split at found
    · split at found
      · cases found
        exact ⟨rfl, rfl⟩
      · cases found
    · cases found
  · cases found

theorem of_unix_iff (secs : Int) (nanos : Nat) (i : Instant) :
    ofUnix? secs nanos = some i ↔ i.secs = secs ∧ i.nanos = nanos := by
  constructor
  · exact of_unix_parts secs nanos i
  · rintro ⟨rfl, rfl⟩
    rw [ofUnix?, dif_pos i.notBefore, dif_pos i.notAfter, dif_pos i.withinSecond]

theorem of_unix_within (secs : Int) (nanos : Nat) (low : firstSecond ≤ secs) (high : secs ≤ lastSecond)
    (within : nanos < 1000000000 ∨ nanos < 2000000000 ∧ secs % 60 = 59) :
    ∃ i, ofUnix? secs nanos = some i ∧ i.secs = secs ∧ i.nanos = nanos :=
  ⟨⟨secs, nanos, low, high, within⟩, (of_unix_iff secs nanos _).mpr ⟨rfl, rfl⟩, rfl, rfl⟩

theorem of_millis_within (millis : Int64) (low : firstSecond * 1000 ≤ millis.toInt)
    (high : millis.toInt ≤ lastSecond * 1000 + 999) : ∃ i, ofMillis? millis = some i := by
  rw [firstSecond] at low
  rw [lastSecond] at high
  obtain ⟨i, found, _⟩ := of_unix_within (millis.toInt / 1000) ((millis.toInt % 1000).toNat * 1000000)
    (by rw [firstSecond]; omega) (by rw [lastSecond]; omega) (by omega)
  exact ⟨i, found⟩

end Instant

end SeriesCell
