/-!
# Decimal numerals

Reading and writing of whole numbers in decimal. A numeral is one or more ASCII digits, with an
optional sign where the reader says so; a reader with a bound refuses what does not fit.
-/

namespace UsageReports

/-- The value of a list of one or more ASCII digits. -/
def natOfDigits? (cs : List Char) : Option Nat :=
  if cs ≠ [] ∧ cs.all Char.isDigit then some (Nat.ofDigitChars 10 cs 0) else none

/-- An unsigned numeral, with an optional `+` in front. -/
def natOfNumeral? : List Char → Option Nat
  | '+' :: cs => natOfDigits? cs
  | cs => natOfDigits? cs

/-- A signed numeral, with an optional `+` or `-` in front. -/
def intOfNumeral? : List Char → Option Int
  | '-' :: cs => (natOfDigits? cs).map fun n => -(n : Int)
  | cs => (natOfNumeral? cs).map fun n => (n : Int)

/-- An unsigned numeral of at most `bound`. -/
def boundedNat? (bound : Nat) (cs : List Char) : Option Nat :=
  (natOfNumeral? cs).filter (· ≤ bound)

/-- A signed numeral from `low` to `high`. -/
def boundedInt? (low high : Int) (cs : List Char) : Option Int :=
  (intOfNumeral? cs).filter fun n => low ≤ n && n ≤ high

/-- The largest 32-bit unsigned number. -/
def maxUInt32 : Nat := 4294967295

/-- The largest 64-bit unsigned number. -/
def maxUInt64 : Nat := 18446744073709551615

/-- The largest 32-bit signed number. -/
def maxInt32 : Int := 2147483647

/-- The largest 64-bit signed number. -/
def maxInt64 : Int := 9223372036854775807

/-- A numeral that fits 32 unsigned bits. -/
def uint32OfNumeral? (cs : List Char) : Option Nat := boundedNat? maxUInt32 cs

/-- A numeral that fits 64 unsigned bits. -/
def uint64OfNumeral? (cs : List Char) : Option Nat := boundedNat? maxUInt64 cs

/-- A numeral that fits 32 signed bits. -/
def int32OfNumeral? (cs : List Char) : Option Int := boundedInt? (-maxInt32 - 1) maxInt32 cs

/-- The decimal digits of a number, without leading zeros. -/
def digits (n : Nat) : List Char := Nat.toDigits 10 n

/-- Zeros in front, until there are `width` characters. -/
def padded (width : Nat) (cs : List Char) : List Char :=
  List.replicate (width - cs.length) '0' ++ cs

/-- The digits of a number, padded with zeros to `width`. -/
def paddedDigits (width n : Nat) : List Char := padded width (digits n)

/-- A signed number padded with zeros to `width`; a minus sign counts among the `width`. -/
def paddedInt (width : Nat) (n : Int) : List Char :=
  if n < 0 then '-' :: paddedDigits (width - 1) n.natAbs else paddedDigits width n.natAbs

/-- A signed number in decimal. -/
def decimal (n : Int) : List Char := paddedInt 0 n

/-- The value of an ASCII hexadecimal digit. -/
def hexValue? (c : Char) : Option Nat :=
  if c.isDigit then some (c.toNat - 48)
  else if 'a' ≤ c ∧ c ≤ 'f' then some (c.toNat - 87)
  else if 'A' ≤ c ∧ c ≤ 'F' then some (c.toNat - 55)
  else none

/-- The upper-case hexadecimal digit of a number below sixteen. -/
def hexDigit (n : Nat) : Char := if n < 10 then Char.ofNat (48 + n) else Char.ofNat (55 + n)

end UsageReports
