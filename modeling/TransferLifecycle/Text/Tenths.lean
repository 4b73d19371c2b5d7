/-! One decimal of a binary floating-point number. The exact value is rounded to the nearest
tenth, a half to the even tenth, and written positionally whatever its size. -/
namespace TransferLifecycle.Text

/-- The quotient rounded to the nearest integer, a half to the even one. -/
def roundHalfEven (numerator denominator : Nat) : Nat :=
  let low := numerator / denominator
  let rest := numerator % denominator
  if 2 * rest < denominator then low
  else if denominator < 2 * rest then low + 1
  else low + low % 2

/-- Sign, exponent field and fraction field of the sixty-four bits. -/
structure Binary64 where
  negative : Bool
  exponent : Nat
  fraction : Nat

def Binary64.ofBits (bits : UInt64) : Binary64 where
  negative := bits.toNat / 0x8000000000000000 = 1
  exponent := bits.toNat / 0x10000000000000 % 2048
  fraction := bits.toNat % 0x10000000000000

def Binary64.isFinite (b : Binary64) : Bool := b.exponent != 2047

def Binary64.magnitude (b : Binary64) : Nat × Nat :=
  let significand := if b.exponent = 0 then b.fraction else b.fraction + 0x10000000000000
  let scale := if b.exponent = 0 then 1 else b.exponent
  if 1075 ≤ scale then (significand <<< (scale - 1075), 1)
  else (significand, 1 <<< (1075 - scale))

def Binary64.tenths (b : Binary64) : String :=
  let sign := if b.negative then "-" else ""
  if b.isFinite then
    let (numerator, denominator) := b.magnitude
    let count := roundHalfEven (10 * numerator) denominator
    sign ++ toString (count / 10) ++ "." ++ toString (count % 10)
  else if b.fraction = 0 then sign ++ "inf" else "NaN"

def tenths (x : Float) : String := (Binary64.ofBits x.toBits).tenths

end TransferLifecycle.Text
