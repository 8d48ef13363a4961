import UsageReports.Text.Numeral

/-!
# Waiting between attempts

The wait before attempt `n` grows by a constant factor and has an upper bound; the first attempt
does not wait. The product is a double, cut to whole milliseconds.
-/

namespace UsageReports

/-- How long to wait between attempts, and how often to try again. Times are in milliseconds. -/
structure Backoff where
  maxRetries : Nat := 3
  base : Nat := 1000
  longest : Nat := 30000
  factor : Float := 2.0

namespace Backoff

/-- Multiply `acc` by the power of `a` with exponent `n`, by squaring; `bits` bounds the binary
digits of `n`. -/
def power (a acc : Float) (n : Nat) : Nat → Float
  | 0 => acc
  | bits + 1 =>
    let acc := if n % 2 = 1 then acc * a else acc
    if n / 2 = 0 then acc else power (a * a) acc (n / 2) bits

/-- The greatest exponent of the factor. -/
def maxExponent : Nat := 31

/-- The wait before an attempt; none before attempt 0. -/
def delay (b : Backoff) (attempt : Nat) : Nat :=
  if attempt = 0 then 0
  else
    let scaled := (UInt64.ofNat b.base).toFloat * power b.factor 1 (min (attempt - 1) maxExponent) 8
    min scaled.toUInt64.toNat b.longest

end Backoff

end UsageReports
