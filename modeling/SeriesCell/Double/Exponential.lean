import SeriesCell.Double.Layout

/- Another way to scientific notation: the exponential form, which has no point after a single digit, is
   cut at its mark, and both parts are put together again around the new mark. -/
namespace SeriesCell

def Decimal.exponential (d : Decimal) : List Char :=
  let digits := orZero d.significant
  let fraction := if (digits.drop 1).isEmpty then [] else '.' :: digits.drop 1
  digits.take 1 ++ fraction ++ 'e' :: integerChars (d.pointPosition - 1)

def Double.exponentialChars (v : Double) : List Char :=
  let unsigned := (shortest v.magnitude).exponential
  if v.isNegative then '-' :: unsigned else unsigned

def splitOnce (mark : Char) : List Char → Option (List Char × List Char)
  | [] => none
  | c :: rest =>
    if c = mark then some ([], rest)
    else (splitOnce mark rest).map fun (before, after) => (c :: before, after)

def remark (mark : Char) (text : List Char) : List Char :=
  let (mantissa, exponent) := (splitOnce 'e' text).getD (text, ['0'])
  if mantissa.contains '.' then mantissa ++ mark :: exponent
  else mantissa ++ '.' :: '0' :: mark :: exponent

end SeriesCell
