import SeriesCell.Time.Calendar

/- Instants as seconds and nanoseconds since the start of 1970, UTC, within the years from -262143
   to 262142. The last second of a minute may be a leap second: its nanoseconds go on up to two
   seconds. -/
namespace SeriesCell

def Instant.firstSecond : Int := -8334601228800

def Instant.lastSecond : Int := 8210266876799

structure Instant where
  secs : Int
  nanos : Nat
  notBefore : Instant.firstSecond ≤ secs
  notAfter : secs ≤ Instant.lastSecond
  withinSecond : nanos < 1000000000 ∨ nanos < 2000000000 ∧ secs % 60 = 59

namespace Instant

def ofUnix? (secs : Int) (nanos : Nat) : Option Instant :=
  if notBefore : firstSecond ≤ secs then
    if notAfter : secs ≤ lastSecond then
      if withinSecond : nanos < 1000000000 ∨ nanos < 2000000000 ∧ secs % 60 = 59 then
        some ⟨secs, nanos, notBefore, notAfter, withinSecond⟩
      else none
    else none
  else none

def millis (i : Instant) : Int64 := Int64.ofInt (i.secs * 1000 + (i.nanos / 1000000 : Nat))

def ofMillis? (millis : Int64) : Option Instant :=
  ofUnix? (millis.toInt / 1000) ((millis.toInt % 1000).toNat * 1000000)

def dateTime (i : Instant) : DateTime :=
  let second := (i.secs % 86400).toNat
  ⟨Date.ofDayNumber (i.secs / 86400), second / 3600, second / 60 % 60, second % 60, i.nanos⟩

end Instant

end SeriesCell
