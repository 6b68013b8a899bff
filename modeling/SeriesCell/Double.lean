/- Double-precision numbers as their 64 bits: sign, eleven bits of exponent, 52 bits of fraction.
   No arithmetic is done on them, so quiet and signalling NaNs keep their payload. -/
namespace SeriesCell

structure Double where
  bits : UInt64
deriving DecidableEq

namespace Double

def signWeight : Nat := 0x8000000000000000

def infinityBits : Nat := 0x7ff0000000000000

def zero : Double := ⟨0⟩

def notANumber : Double := ⟨0x7ff8000000000000⟩

def isNegative (v : Double) : Bool := decide (signWeight ≤ v.bits.toNat)

def magnitude (v : Double) : Nat := v.bits.toNat % signWeight

def isNaN (v : Double) : Bool := decide (infinityBits < v.magnitude)

def isInfinite (v : Double) : Bool := v.magnitude == infinityBits

def isZero (v : Double) : Bool := v.magnitude == 0

def ofParts (negative : Bool) (magnitude : Nat) : Double :=
  ⟨UInt64.ofNat (if negative then signWeight + magnitude else magnitude)⟩

def foldedBits (v : Double) : UInt64 := if v.isNaN then notANumber.bits else v.bits

def equalAsNumbers (v w : Double) : Bool :=
  !v.isNaN && !w.isNaN && (v.bits == w.bits || (v.isZero && w.isZero))

end Double

end SeriesCell
