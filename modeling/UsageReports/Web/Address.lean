import UsageReports.Text.Numeral
import UsageReports.Text.Split

/-!
# Network addresses

The numbers of a host, in four or sixteen bytes. The short form may have fewer than four parts, the
last of them taking all bytes that are left, each in decimal, octal or hexadecimal. The long form
has eight pieces, the last two of which may be given in the short form; one run of zeros may be left
out.
-/

namespace UsageReports

/-! ## Four bytes -/

/-- The value of digits of a base up to sixteen. -/
def digitsOfBase? (base : Nat) (cs : List Char) : Option Nat :=
  cs.foldlM (fun n c => (hexValue? c).bind fun d => if d < base then some (n * base + d) else none) 0

/-- One part of an address: hexadecimal after `0x`, octal after `0`, otherwise decimal. Nothing
after the mark of the base is zero. -/
def addressPart? : List Char → Option Nat
  | [] => none
  | '0' :: x :: cs =>
    if x = 'x' ∨ x = 'X' then digitsOfBase? 16 cs else digitsOfBase? 8 (x :: cs)
  | cs => digitsOfBase? 10 cs

/-- The parts of a host, without an empty one at the end. -/
def addressParts (cs : List Char) : List (List Char) :=
  let parts := splitAtEach '.' cs
  if 1 < parts.length ∧ parts.getLast? = some [] then parts.dropLast else parts

/-- Whether the last part of a host is a number, so that the host is an address or nothing. -/
def endsInNumber (cs : List Char) : Bool :=
  match (addressParts cs).getLast? with
  | none => false
  | some part => (part ≠ [] && part.all Char.isDigit) || (addressPart? part).isSome

/-- The address with these parts: all but the last are bytes, the last fills what is left. -/
def addressOfParts? : List Nat → Nat → Option Nat
  | [], _ => none
  | _ :: _, 0 => none
  | [last], room + 1 => if last < Nat.pow 256 (room + 1) then some last else none
  | part :: rest, room + 1 =>
    if part < 256 then (addressOfParts? rest room).map (part * Nat.pow 256 room + ·) else none

/-- The address that a host is in its short form. -/
def ipv4OfText? (cs : List Char) : Option Nat :=
  ((addressParts cs).mapM addressPart?).bind (addressOfParts? · 4)

/-- The four bytes of an address in decimal. -/
def ipv4Chars (address : Nat) : List Char :=
  digits (address / 16777216 % 256) ++ '.' :: digits (address / 65536 % 256) ++
    '.' :: digits (address / 256 % 256) ++ '.' :: digits (address % 256)

/-! ## Sixteen bytes -/

/-- One byte in decimal, without a zero in front. -/
def byteOfDigits? (cs : List Char) : Option Nat :=
  if cs.head? = some '0' ∧ 1 < cs.length then none
  else (natOfDigits? cs).filter (· < 256)

/-- The two pieces of four bytes in decimal. -/
def dottedPieces? (cs : List Char) : Option (List Nat) := do
  match ← (splitAtEach '.' cs).mapM byteOfDigits? with
  | [a, b, c, d] => pure [a * 256 + b, c * 256 + d]
  | _ => none

/-- One piece: up to four hexadecimal digits. -/
def piece? (cs : List Char) : Option Nat :=
  if 1 ≤ cs.length ∧ cs.length ≤ 4 then digitsOfBase? 16 cs else none

/-- The pieces between colons; `closing` allows the last of them to be four bytes in decimal. -/
def pieces? (closing : Bool) : List (List Char) → Option (List Nat)
  | [] => some []
  | [part] =>
    if closing ∧ part.contains '.' then dottedPieces? part else (piece? part).map ([·])
  | part :: parts => do
    let n ← piece? part
    let ns ← pieces? closing parts
    pure (n :: ns)

/-- The pieces of one side of an omission, which may be empty. -/
def sidePieces? (closing : Bool) (cs : List Char) : Option (List Nat) :=
  if cs = [] then some [] else pieces? closing (splitAtEach ':' cs)

/-- What stands before and after the first double colon. -/
def splitAtOmission : List Char → List Char × Option (List Char)
  | ':' :: ':' :: cs => ([], some cs)
  | c :: cs => (c :: (splitAtOmission cs).1, (splitAtOmission cs).2)
  | [] => ([], none)

/-- The eight pieces of an address in its long form. A double colon stands for at least one zero. -/
def ipv6OfText? (cs : List Char) : Option (List Nat) :=
  match splitAtOmission cs with
  | (whole, none) => (sidePieces? true whole).filter (·.length = 8)
  | (left, some right) => do
    let ls ← sidePieces? false left
    let rs ← sidePieces? true right
    if ls.length + rs.length ≤ 7 then
      pure (ls ++ List.replicate (8 - ls.length - rs.length) 0 ++ rs)
    else none

/-- How many zeros a list begins with. -/
def zerosInFront (ns : List Nat) : Nat := (ns.takeWhile (· = 0)).length

/-- Where the longest run of zeros begins, the first of several, and how long it is. -/
def longestZeros : List Nat → Nat × Nat
  | [] => (0, 0)
  | n :: ns =>
    let (start, length) := longestZeros ns
    let here := zerosInFront (n :: ns)
    if 0 < here ∧ length ≤ here then (0, here) else (start + 1, length)

/-- A number in lower-case hexadecimal. -/
def hexChars (n : Nat) : List Char := Nat.toDigits 16 n

/-- Pieces with colons between them. -/
def pieceChars (ns : List Nat) : List Char := [':'].intercalate (ns.map hexChars)

/-- The eight pieces of an address, the longest run of two or more zeros left out. -/
def ipv6Chars (pieces : List Nat) : List Char :=
  let (start, length) := longestZeros pieces
  if length < 2 then pieceChars pieces
  else pieceChars (pieces.take start) ++ [':', ':'] ++ pieceChars (pieces.drop (start + length))

end UsageReports
