import UsageReports.Calendar.Instant
import UsageReports.Text.Blank

/-!
# Instants as text

Instants are written in the form of RFC 3339, in universal time. `Instant.ofText?` reads that form;
`Instant.ofLooseText?` also admits blanks between the parts, shorter numbers and signed years.
-/

namespace UsageReports.Instant

/-- The text of an instant without its offset. -/
def localChars (t : Instant) : List Char := t.date.chars ++ 'T' :: t.time.chars

/-- The text of an instant with the offset `+00:00`. -/
def text (t : Instant) : String := String.ofList (t.localChars ++ "+00:00".toList)

/-- The text of an instant with the letter `Z` for its offset. -/
def zuluText (t : Instant) : String := String.ofList (t.localChars ++ ['Z'])

/-- The text of an instant for people: date and time with a blank between them, and `UTC`. -/
def plainText (t : Instant) : String :=
  String.ofList (t.date.chars ++ ' ' :: t.time.chars ++ " UTC".toList)

/-- Between `least` and `most` digits, as many as there are, and what follows them. -/
def number? (least most : Nat) (cs : List Char) : Option (Nat × List Char) :=
  let ds := (cs.takeWhile Char.isDigit).take most
  if least ≤ ds.length ∧ ds ≠ [] then some (Nat.ofDigitChars 10 ds 0, cs.drop ds.length) else none

/-- A number in a given range. -/
def numberIn? (least most low high : Nat) (cs : List Char) : Option (Nat × List Char) :=
  (number? least most cs).filter fun (n, _) => low ≤ n && n ≤ high

/-- A given character. -/
def literal? (c : Char) : List Char → Option (List Char)
  | d :: cs => if c = d then some cs else none
  | [] => none

/-- What stands between date and time. -/
def separator? : List Char → Option (List Char)
  | 'T' :: cs | 't' :: cs | ' ' :: cs => some cs
  | _ => none

/-- A fraction of a second in nanoseconds, where there is one; digits after the ninth are
dropped. -/
def fraction? : List Char → Option (Nat × List Char)
  | '.' :: cs => do
    let (n, rest) ← number? 1 9 cs
    let places := cs.length - rest.length
    pure (n * Nat.pow 10 (9 - places), rest.dropWhile Char.isDigit)
  | cs => some (0, cs)

/-- The sign of an offset: true for a minus sign, which may also be the mathematical one. -/
def sign? : List Char → Option (Bool × List Char)
  | '+' :: cs => some (false, cs)
  | '-' :: cs => some (true, cs)
  | '\u2212' :: cs => some (true, cs)
  | _ => none

/-- An offset from universal time in seconds: a `Z`, or hours and minutes with `colon` between
them. -/
def offset? (colon : List Char → Option (List Char)) : List Char → Option (Int × List Char)
  | 'Z' :: cs | 'z' :: cs => some (0, cs)
  | cs => do
    let (negative, cs) ← sign? cs
    let (hours, cs) ← numberIn? 2 2 0 23 cs
    let cs ← colon cs
    let (minutes, cs) ← numberIn? 2 2 0 59 cs
    let seconds : Int := hours * 3600 + minutes * 60
    pure (if negative then -seconds else seconds, cs)

/-- The instant of a date and time at an offset, where there is one in the calendar. A second 60 is
a leap second. -/
def ofParts? (year : Int) (month day hour minute second nanos : Nat) (offset : Int) :
    Option Instant := do
  let m ← (Month.ofNumbers year month).toOption
  let d ← Date.ofMonth? m day
  let clock := hour * 3600 + minute * 60 + min second 59
  let total := nanos + (if second = 60 then nanosPerSecond else 0)
  let seconds := d.dayNumber * secondsPerDay + clock - offset
  if h : total < 2000000000 then
    let t : Instant := ⟨seconds, total, h⟩
    if t.date.InCalendar then some t else none
  else none

/-- Read an instant in the form of RFC 3339. -/
def ofText? (s : String) : Option Instant := do
  let (year, cs) ← number? 4 4 s.toList
  let cs ← literal? '-' cs
  let (month, cs) ← numberIn? 2 2 1 12 cs
  let cs ← literal? '-' cs
  let (day, cs) ← numberIn? 2 2 1 31 cs
  let cs ← separator? cs
  let (hour, cs) ← numberIn? 2 2 0 23 cs
  let cs ← literal? ':' cs
  let (minute, cs) ← numberIn? 2 2 0 59 cs
  let cs ← literal? ':' cs
  let (second, cs) ← numberIn? 2 2 0 60 cs
  let (nanos, cs) ← fraction? cs
  let (offset, cs) ← offset? (literal? ':') cs
  if cs = [] then ofParts? year month day hour minute second nanos offset else none

/-- A year with blanks before it: up to four digits, or any number of them after a sign. -/
def looseYear? (cs : List Char) : Option (Int × List Char) :=
  match trimStart cs with
  | '-' :: cs => (number? 1 cs.length cs).map fun (n, cs) => (-(n : Int), cs)
  | '+' :: cs => (number? 1 cs.length cs).map fun (n, cs) => ((n : Int), cs)
  | cs => (number? 1 4 cs).map fun (n, cs) => ((n : Int), cs)

/-- A number of one or two digits with blanks before it. -/
def looseNumber? (low high : Nat) (cs : List Char) : Option (Nat × List Char) :=
  numberIn? 1 2 low high (trimStart cs)

/-- A given character with blanks before it. -/
def looseLiteral? (c : Char) (cs : List Char) : Option (List Char) := literal? c (trimStart cs)

/-- An offset with blanks before it; the letters `UTC` also stand for none. -/
def looseOffset? (cs : List Char) : Option (Int × List Char) :=
  let cs := trimStart cs
  if (cs.take 3).map Char.toLower = ['u', 't', 'c'] then some (0, cs.drop 3)
  else offset? (fun cs => some (cs.dropWhile fun c => c = ':' || isBlank c)) cs

/-- Read an instant, with more freedom than RFC 3339 gives. -/
def ofLooseText? (s : String) : Option Instant := do
  let (year, cs) ← looseYear? s.toList
  let cs ← looseLiteral? '-' cs
  let (month, cs) ← looseNumber? 1 12 cs
  let cs ← looseLiteral? '-' cs
  let (day, cs) ← looseNumber? 1 31 cs
  let cs ← separator? cs
  let (hour, cs) ← looseNumber? 0 23 cs
  let cs ← looseLiteral? ':' cs
  let (minute, cs) ← looseNumber? 0 59 cs
  let cs ← looseLiteral? ':' cs
  let (second, cs) ← looseNumber? 0 60 cs
  let (nanos, cs) ← fraction? cs
  let (offset, cs) ← looseOffset? cs
  if trimStart cs = [] then ofParts? year month day hour minute second nanos offset else none

end UsageReports.Instant
