import SeriesCell.Double.Rounding

/- The decimal that stands for a magnitude: the fewest digits that are read back as it, and of those
   the nearest to it. -/
namespace SeriesCell.Double

def reachesPower (magnitude : Nat) (exponent : Int) : Bool :=
  decide ((Decimal.mk 1 exponent).scaled ≤ units magnitude * (Decimal.mk 1 exponent).denominator)

def leadingExponent (magnitude : Nat) : Int :=
  (boundOf (fun k => reachesPower magnitude (k - 324)) 10 : Nat) - 325

-- The decimals with the last digit at `exponent` that enclose a magnitude: the lower one, which
-- may be exact, and the upper one.
def lowerNeighbour (magnitude : Nat) (exponent : Int) : Decimal :=
  let step : Decimal := ⟨1, exponent⟩
  ⟨units magnitude * step.denominator / step.scaled, exponent⟩

def upperNeighbour (magnitude : Nat) (exponent : Int) : Decimal :=
  ⟨(lowerNeighbour magnitude exponent).digits + 1, exponent⟩

def lowerIsNearer (magnitude : Nat) (exponent : Int) : Bool :=
  let step : Decimal := ⟨1, exponent⟩
  decide (2 * (units magnitude * step.denominator % step.scaled) < step.scaled)

def candidate? (magnitude : Nat) (exponent : Int) : Option Decimal :=
  let lower := lowerNeighbour magnitude exponent
  let upper := upperNeighbour magnitude exponent
  match reads lower magnitude, reads upper magnitude with
  | true, true => some (if lowerIsNearer magnitude exponent then lower else upper)
  | true, false => some lower
  | false, true => some upper
  | false, false => none

def refine (magnitude : Nat) : Nat → Int → Decimal
  | 0, exponent => lowerNeighbour magnitude exponent
  | count + 1, exponent =>
    match candidate? magnitude exponent with
    | some d => d
    | none => refine magnitude count (exponent - 1)

def shortest (magnitude : Nat) : Decimal :=
  if magnitude = 0 then ⟨0, 0⟩ else refine magnitude 17 (leadingExponent magnitude)

end SeriesCell.Double
