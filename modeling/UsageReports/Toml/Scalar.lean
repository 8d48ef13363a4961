import UsageReports.Calendar.Date
import UsageReports.Data.Tree
import UsageReports.Toml.Text

/-!
# Numbers, truth values and dates of TOML

Whole numbers have 64 bits; a number with fraction or exponent that is too large for a double is
refused. A date or time is no text: it is kept as a table of one entry whose key no document can
mean.
-/

namespace UsageReports.Toml

/-- Digits with single underscores between them, and what follows. The first digit has been seen. -/
def digitGroups (isDigit : Char → Bool) : List Char → List Char × List Char
  | '_' :: c :: cs =>
    if isDigit c then
      let (ds, rest) := digitGroups isDigit cs
      (c :: ds, rest)
    else ([], '_' :: c :: cs)
  | c :: cs =>
    if isDigit c then
      let (ds, rest) := digitGroups isDigit cs
      (c :: ds, rest)
    else ([], c :: cs)
  | [] => ([], [])

/-- One or more digits with single underscores between them. -/
def digitRun? (isDigit : Char → Bool) (cs : List Char) : Option (List Char × List Char) :=
  match cs with
  | c :: _ => if isDigit c then some (digitGroups isDigit cs) else none
  | [] => none

/-- A sign, where there is one: true for a minus sign. -/
def skipSign : List Char → Bool × List Char
  | '+' :: cs => (false, cs)
  | '-' :: cs => (true, cs)
  | cs => (false, cs)

/-- The sign and digits of a decimal number without leading zeros. -/
def decimal? (cs : List Char) : Option (Bool × List Char × List Char) :=
  let (negative, cs) := skipSign cs
  match cs with
  | '0' :: rest => some (negative, ['0'], rest)
  | _ => (digitRun? Char.isDigit cs).map fun (ds, rest) => (negative, ds, rest)

/-- A whole number that fits 64 bits. -/
def intData? (n : Int) : Option Data :=
  if -maxInt64 - 1 ≤ n ∧ n ≤ maxInt64 then some (.int n) else none

/-- The value of digits in some base. -/
def valueOf (base : Nat) (ds : List Char) : Nat :=
  ds.foldl (fun n c => n * base + (hexValue? c).getD 0) 0

/-- A whole number in hexadecimal, octal or binary form. -/
def radix? : List Char → Option (Data × List Char)
  | '0' :: 'x' :: cs => read 16 cs
  | '0' :: 'o' :: cs => read 8 cs
  | '0' :: 'b' :: cs => read 2 cs
  | _ => none
where
  read (base : Nat) (cs : List Char) : Option (Data × List Char) := do
    let (ds, rest) ← digitRun? (fun c => (hexValue? c).any (· < base)) cs
    (intData? (valueOf base ds)).map (·, rest)

/-- The double nearest to `mantissa * 10 ^ exponent`. Exponents far outside the doubles are settled
without computing the power. -/
def nearestDouble (mantissa : Nat) (exponent : Int) : Float :=
  let place := (digits mantissa).length + exponent
  if mantissa = 0 ∨ place < -400 then 0
  else if 400 < place then 1 / 0
  else Float.ofScientific mantissa (exponent < 0) exponent.natAbs

/-- A double, unless it is positive and infinite. -/
def floatData? (negative : Bool) (f : Float) : Option Data :=
  if f.isInf ∧ ¬ negative then none else some (.double (if negative then -f else f).toBits)

/-- An exponent with its letter. -/
def exponent? : List Char → Option (Int × List Char)
  | c :: cs =>
    if c = 'e' ∨ c = 'E' then
      let (negative, cs) := skipSign cs
      (digitRun? Char.isDigit cs).map fun (ds, rest) =>
        let n : Int := Nat.ofDigitChars 10 ds 0
        (if negative then -n else n, rest)
    else none
  | [] => none

/-- A number with a fraction or an exponent; none also where it is not of that form. -/
def float? (cs : List Char) : Option (Option Data × List Char) := do
  let (negative, whole, rest) ← decimal? cs
  match rest with
  | '.' :: rest =>
    match digitRun? Char.isDigit rest with
    | none => some (none, rest)
    | some (fraction, rest) =>
      let mantissa := Nat.ofDigitChars 10 (whole ++ fraction) 0
      let places : Int := fraction.length
      match exponent? rest with
      | some (e, rest) => some (floatData? negative (nearestDouble mantissa (e - places)), rest)
      | none => some (floatData? negative (nearestDouble mantissa (-places)), rest)
  | rest => do
    let (e, rest) ← exponent? rest
    some (floatData? negative (nearestDouble (Nat.ofDigitChars 10 whole 0) e), rest)

/-- The numbers that are written as words: `inf` and `nan`. -/
def special? (cs : List Char) : Option (Data × List Char) :=
  let (negative, cs) := skipSign cs
  let signed (f : Float) : Data := .double (if negative then -f else f).toBits
  match cs with
  | 'i' :: 'n' :: 'f' :: rest => some (signed (1 / 0), rest)
  | 'n' :: 'a' :: 'n' :: rest => some (signed (0 / 0), rest)
  | _ => none

/-- A number of any form. -/
def number? (cs : List Char) : Option (Data × List Char) :=
  match special? cs with
  | some r => some r
  | none =>
    match float? cs with
    | some (d, rest) => d.map (·, rest)
    | none =>
      match radix? cs with
      | some r => some r
      | none => do
        let (negative, ds, rest) ← decimal? cs
        let n : Int := Nat.ofDigitChars 10 ds 0
        (intData? (if negative then -n else n)).map (·, rest)

/-- A given number of digits, and their value. -/
def fixedDigits? (count : Nat) (cs : List Char) : Option (Nat × List Char) :=
  if count ≤ cs.length ∧ (cs.take count).all Char.isDigit then
    some (Nat.ofDigitChars 10 (cs.take count) 0, cs.drop count)
  else none

/-- Two digits of a number from `low` to `high`. -/
def twoDigits? (low high : Nat) (cs : List Char) : Option (Nat × List Char) :=
  (fixedDigits? 2 cs).filter fun (n, _) => low ≤ n && n ≤ high

/-- A date, as it is written. -/
def date? (cs : List Char) : Option (List Char × List Char) := do
  let (year, rest) ← fixedDigits? 4 cs
  let '-' :: rest := rest | none
  let (month, rest) ← twoDigits? 1 12 rest
  let '-' :: rest := rest | none
  let (day, rest) ← twoDigits? 1 31 rest
  let m ← (Month.ofNumbers year month).toOption
  if day ≤ m.length then some (cs.take 10, rest) else none

/-- A fraction of a second, without zeros at its end and after the ninth digit. -/
def secondFraction (cs : List Char) : List Char × List Char :=
  match cs with
  | '.' :: rest =>
    let ds := rest.takeWhile Char.isDigit
    let kept := ((ds.take 9).reverse.dropWhile (· = '0')).reverse
    if ds = [] then ([], cs)
    else (if kept = [] then [] else '.' :: kept, rest.dropWhile Char.isDigit)
  | _ => ([], cs)

/-- A time of day, as it is written. -/
def time? (cs : List Char) : Option (List Char × List Char) := do
  let (_, rest) ← twoDigits? 0 23 cs
  let ':' :: rest := rest | none
  let (_, rest) ← twoDigits? 0 59 rest
  let ':' :: rest := rest | none
  let (_, rest) ← twoDigits? 0 60 rest
  let (fraction, rest) := secondFraction rest
  some (cs.take 8 ++ fraction, rest)

/-- An offset from universal time, where there is one. -/
def zone (cs : List Char) : List Char × List Char :=
  let signed (sign : Char) (rest : List Char) : Option (List Char × List Char) := do
    let (hours, rest) ← twoDigits? 0 23 rest
    let ':' :: rest := rest | none
    let (minutes, rest) ← twoDigits? 0 59 rest
    let sign := if hours = 0 ∧ minutes = 0 then '+' else sign
    some (sign :: paddedDigits 2 hours ++ ':' :: paddedDigits 2 minutes, rest)
  match cs with
  | 'Z' :: rest | 'z' :: rest => (['Z'], rest)
  | '+' :: rest => (signed '+' rest).getD ([], cs)
  | '-' :: rest => (signed '-' rest).getD ([], cs)
  | _ => ([], cs)

/-- A date, a time, or both with an offset or without. -/
def moment? (cs : List Char) : Option (List Char × List Char) :=
  match date? cs with
  | none => time? cs
  | some (date, rest) =>
    match rest with
    | c :: after =>
      if c = 'T' ∨ c = 't' ∨ c = ' ' then
        match time? after with
        | some (time, rest) =>
          let (offset, rest) := zone rest
          some (date ++ 'T' :: time ++ offset, rest)
        | none => some (date, rest)
      else some (date, rest)
    | [] => some (date, [])

/-- The key under which a date or time is kept. -/
def momentKey : String := "$__toml_private_datetime"

/-- A date or time as data. -/
def momentData (cs : List Char) : Data := .table [(momentKey, .text (String.ofList cs))]

end UsageReports.Toml
