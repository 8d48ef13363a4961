import UsageReports.Data.Shortest
import UsageReports.Data.Tree

/-!
# JSON numbers

A numeral without fraction and exponent that fits 64 bits is a whole number. Any other is a double:
the leading digits that fit 64 bits, as a double, multiplied or divided by a power of ten, each step
rounded. A double is written with the fewest digits that read back.
-/

namespace UsageReports.Json

/-- The parts of a numeral. The exponent has its sign and its digits. -/
structure Numeral where
  negative : Bool
  whole : List Char
  fraction : Option (List Char)
  exponent : Option (Bool × List Char)

/-- Take digits into a significand as long as it fits 64 bits; the digits left over come with it. -/
def absorb (significand : Nat) : List Char → Nat × List Char
  | [] => (significand, [])
  | c :: cs =>
    let next := significand * 10 + (c.toNat - 48)
    if next ≤ maxUInt64 then absorb next cs else (significand, c :: cs)

/-- A power of ten as a double. -/
def tenToThe (n : Nat) : Float := Float.ofScientific 1 false n

/-- `f * 10 ^ exponent`; none where that is too large for a double. Powers beyond the largest double
are divided out in steps, of which `steps` are left. -/
def scaled? (f : Float) (exponent : Int) : Nat → Option Float
  | 0 => some 0
  | steps + 1 =>
    if exponent.natAbs ≤ 308 then
      if 0 ≤ exponent then
        let r := f * tenToThe exponent.natAbs
        if r.isInf then none else some r
      else some (f / tenToThe exponent.natAbs)
    else if f == 0 then some f
    else if 0 ≤ exponent then none
    else scaled? (f / tenToThe 308) (exponent + 308) steps

/-- The double of a significand and a decimal exponent. -/
def doubleOf (negative : Bool) (significand : Nat) (exponent : Int) : Data :=
  match scaled? (UInt64.ofNat significand).toFloat exponent 4 with
  | some f => .double (if negative then -f else f).toBits
  | none => .unusable

/-- The value of an exponent's digits, where it fits 32 bits. -/
def exponentValue? (cs : List Char) : Option Nat := (natOfDigits? cs).filter (· ≤ maxInt32.toNat)

/-- What a numeral stands for. -/
def Numeral.toData (n : Numeral) : Data :=
  let (significand, rest) := absorb 0 n.whole
  match n.fraction, n.exponent with
  | none, none =>
    if rest ≠ [] then doubleOf n.negative significand rest.length
    else if ¬ n.negative then .int significand
    else if 0 < significand ∧ significand ≤ Nat.pow 2 63 then .int (-significand)
    else doubleOf true significand 0
  | fraction, exponent =>
    let after := fraction.getD []
    let (significand, left) := absorb significand after
    let shift : Int := (rest.length : Int) - (after.length - left.length : Nat)
    match exponent with
    | none => doubleOf n.negative significand shift
    | some (down, ds) =>
      match exponentValue? ds with
      | some e => doubleOf n.negative significand (if down then shift - e else shift + e)
      | none =>
        if significand ≠ 0 ∧ ¬ down then .unusable else doubleOf n.negative 0 0

/-- The shortest text of a double: positional from 10 ^ -5 up to below 10 ^ 16 with a point always
written, else with an exponent. -/
def doubleChars (bits : UInt64) : List Char :=
  let sign := if bits.toNat / Nat.pow 2 63 = 1 then ['-'] else []
  let b := Binary.ofBits bits
  if b.m = 0 then sign ++ ['0', '.', '0']
  else
    let d := b.shortest
    let ds := digits d.coefficient
    let place := ds.length + d.exponent
    sign ++
      (if 0 ≤ d.exponent ∧ place ≤ 16 then ds ++ List.replicate d.exponent.toNat '0' ++ ['.', '0']
       else if 0 < place ∧ place ≤ 16 then ds.take place.toNat ++ '.' :: ds.drop place.toNat
       else if -5 < place ∧ place ≤ 0 then '0' :: '.' :: List.replicate (-place).toNat '0' ++ ds
       else
         ds.take 1 ++ (if ds.length = 1 then [] else '.' :: ds.drop 1) ++ 'e' :: decimal (place - 1))

end UsageReports.Json
