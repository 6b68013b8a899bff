import SeriesCell.Double.Shortest
import SeriesCell.Text.Numeral

/- Doubles as text. Zero and the magnitudes from `plainFrom` up to `plainBelow` are written in
   positional notation, all others with one digit before the point and an exponent. Either has at
   least one digit on each side of the point. -/
namespace SeriesCell

namespace Decimal

def significant (d : Decimal) : List Char :=
  ((Nat.toDigits 10 d.digits).reverse.dropWhile (· == '0')).reverse

def pointPosition (d : Decimal) : Int := (Nat.toDigits 10 d.digits).length + d.exponent

def orZero (digits : List Char) : List Char := if digits.isEmpty then ['0'] else digits

def positional (d : Decimal) : List Char :=
  let digits := d.significant
  let point := d.pointPosition.toNat
  let whole := digits.take point ++ List.replicate (point - digits.length) '0'
  let fraction := List.replicate (-d.pointPosition).toNat '0' ++ digits.drop point
  orZero whole ++ '.' :: orZero fraction

def scientific (d : Decimal) (mark : Char) : List Char :=
  let digits := d.significant
  digits.take 1 ++ '.' :: orZero (digits.drop 1) ++ mark :: integerChars (d.pointPosition - 1)

end Decimal

structure FloatFormat where
  plainFrom : Nat
  plainBelow : Nat
  exponentMark : Char
  infinity : List Char
  notANumber : List Char

def FloatFormat.isPlain (format : FloatFormat) (magnitude : Nat) : Bool :=
  magnitude == 0 ||
  (decide (format.plainFrom ≤ magnitude) && decide (magnitude < format.plainBelow))

def FloatFormat.unsigned (format : FloatFormat) (magnitude : Nat) : List Char :=
  if magnitude = Double.infinityBits then format.infinity
  else if format.isPlain magnitude then (Double.shortest magnitude).positional
  else (Double.shortest magnitude).scientific format.exponentMark

def FloatFormat.write (format : FloatFormat) (v : Double) : List Char :=
  if v.isNaN then format.notANumber
  else if v.isNegative then '-' :: format.unsigned v.magnitude
  else format.unsigned v.magnitude

end SeriesCell
