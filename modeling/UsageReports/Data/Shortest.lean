import UsageReports.Text.Numeral

/-!
# Shortest decimals of doubles

The fewest decimal digits that read back as a given double. A double is `m * 2 ^ q`; the numbers
that round to it form an interval around it, whose ends belong to it exactly when `m` is even. For
one digit, two digits and so on up to seventeen, the two neighbours of the value on that decimal
grid are tried against the interval; the first grid that has a hit gives the digits, and of two hits
the nearer one is taken.
-/

namespace UsageReports

/-- A positive double as `m * 2 ^ q`; `narrow` tells that the double below is only half as far away
as the one above. -/
structure Binary where
  m : Nat
  q : Int
  narrow : Bool

/-- The absolute value of a finite double, taken apart. -/
def Binary.ofBits (bits : UInt64) : Binary :=
  let exponent : Nat := bits.toNat / Nat.pow 2 52 % Nat.pow 2 11
  let fraction : Nat := bits.toNat % Nat.pow 2 52
  if exponent = 0 then ⟨fraction, -1074, false⟩
  else ⟨fraction + Nat.pow 2 52, (exponent : Int) - 1075, fraction = 0 && 1 < exponent⟩

/-- A decimal `coefficient * 10 ^ exponent`. -/
structure ShortDecimal where
  coefficient : Nat
  exponent : Int
deriving DecidableEq

namespace Shortest

/-- The place `p` with `10 ^ (p - 1) ≤ num / den < 10 ^ p`, for a positive fraction. -/
def place (num den : Nat) : Int :=
  if den ≤ num then ((digits (num / den)).length : Int)
  else 1 - ((digits ((den + num - 1) / num - 1)).length : Int)

/-- The digits of the value on the grid of `n` digits, if one of its two neighbours there lies in
the interval. `low`, `value` and `high` are four times the interval and the value over one power of
two. -/
def onGrid? (low value high : Nat) (q : Int) (closed : Bool) (p : Int) (n : Nat) :
    Option ShortDecimal :=
  let scale := Nat.pow 2 (q - 2).toNat * Nat.pow 10 ((n : Int) - p).toNat
  let den := Nat.pow 2 (2 - q).toNat * Nat.pow 10 (p - n).toNat
  let below := value * scale / den
  let inside (c : Nat) : Bool :=
    if closed then low * scale ≤ c * den && c * den ≤ high * scale
    else low * scale < c * den && c * den < high * scale
  let far := value * scale - below * den
  let near := (below + 1) * den - value * scale
  let up := near < far || near == far && below % 2 == 1
  let exponent := p - n
  if inside below && !(inside (below + 1) && up) then some ⟨below, exponent⟩
  else if inside (below + 1) then some ⟨below + 1, exponent⟩
  else none

/-- The first grid with a hit, from `n` digits on, with `more` grids left. -/
def search (low value high : Nat) (q : Int) (closed : Bool) (p : Int) (n : Nat) :
    Nat → ShortDecimal
  | 0 => ⟨0, 0⟩
  | more + 1 =>
    match onGrid? low value high q closed p n with
    | some d => d
    | none => search low value high q closed p (n + 1) more

/-- Take zeros off the end of the coefficient, at most `places` of them. -/
def withoutZeros (d : ShortDecimal) : Nat → ShortDecimal
  | 0 => d
  | places + 1 =>
    if d.coefficient % 10 = 0 then withoutZeros ⟨d.coefficient / 10, d.exponent + 1⟩ places else d

end Shortest

/-- The shortest decimal of a positive finite double, without zeros at its end. -/
def Binary.shortest (b : Binary) : ShortDecimal :=
  let value := 4 * b.m
  let low := if b.narrow then value - 1 else value - 2
  let num := b.m * Nat.pow 2 b.q.toNat
  let den := Nat.pow 2 (-b.q).toNat
  Shortest.withoutZeros
    (Shortest.search low value (value + 2) b.q (b.m % 2 == 0) (Shortest.place num den) 1 17) 17

end UsageReports
