import UsageReports.Json.Number
import UsageReports.Json.Value

/-!
# Reading JSON

`Json.document?` reads a text that is one JSON document, blanks around it allowed, into a data tree.
Numbers too large for a double and texts with half a surrogate pair are read as unusable, so that
they do no harm in a field that nobody reads. `Json.ofText?` gives the value of a document.
-/

namespace UsageReports.Json

/-- The blanks of JSON. -/
def isSpace (c : Char) : Bool := c = ' ' || c = '\n' || c = '\t' || c = '\r'

/-- A character of a text, or the 16-bit unit that an escape stands for. -/
inductive TextUnit where
  | char (c : Char)
  | code (n : Nat)

/-- What a one-letter escape stands for. -/
def escaped? : Char → Option Char
  | '"' => some '"'
  | '\\' => some '\\'
  | '/' => some '/'
  | 'b' => some '\x08'
  | 'f' => some '\x0c'
  | 'n' => some '\n'
  | 'r' => some '\r'
  | 't' => some '\t'
  | _ => none

/-- The value of four hexadecimal digits. -/
def hex4? (a b c d : Char) : Option Nat := do
  let a ← hexValue? a
  let b ← hexValue? b
  let c ← hexValue? c
  let d ← hexValue? d
  pure (((a * 16 + b) * 16 + c) * 16 + d)

/-- Read up to the closing quote, and give what follows it. -/
def textUnits : List Char → Option (List TextUnit × List Char)
  | [] => none
  | '"' :: rest => some ([], rest)
  | '\\' :: 'u' :: a :: b :: c :: d :: rest => do
    let n ← hex4? a b c d
    let (us, rest) ← textUnits rest
    pure (.code n :: us, rest)
  | '\\' :: c :: rest => do
    let e ← escaped? c
    let (us, rest) ← textUnits rest
    pure (.char e :: us, rest)
  | c :: rest =>
    if c.toNat < 0x20 || c = '\\' then none else do
      let (us, rest) ← textUnits rest
      pure (.char c :: us, rest)

/-- The characters of a text; none where half of a surrogate pair stands alone. -/
def chars? : List TextUnit → Option (List Char)
  | [] => some []
  | .char c :: us => (chars? us).map (c :: ·)
  | .code n :: us =>
    if 0xD800 ≤ n ∧ n ≤ 0xDBFF then
      match us with
      | .code m :: us =>
        if 0xDC00 ≤ m ∧ m ≤ 0xDFFF then
          (chars? us).map (Char.ofNat (0x10000 + (n - 0xD800) * 0x400 + (m - 0xDC00)) :: ·)
        else none
      | _ => none
    else if 0xDC00 ≤ n ∧ n ≤ 0xDFFF then none
    else (chars? us).map (Char.ofNat n :: ·)

/-- Read a numeral without its sign, and give what follows it. -/
def numeral? (negative : Bool) (cs : List Char) : Option (Numeral × List Char) :=
  let whole := cs.takeWhile Char.isDigit
  let rest := cs.dropWhile Char.isDigit
  if whole = [] ∨ (whole.head? = some '0' ∧ 1 < whole.length) then none
  else
    let point : Option (Option (List Char) × List Char) :=
      match rest with
      | '.' :: r =>
        if (r.takeWhile Char.isDigit) = [] then none
        else some (some (r.takeWhile Char.isDigit), r.dropWhile Char.isDigit)
      | r => some (none, r)
    point.bind fun (fraction, rest) =>
      match rest with
      | c :: r =>
        if c = 'e' ∨ c = 'E' then
          let (down, r) := match r with
            | '+' :: r => (false, r)
            | '-' :: r => (true, r)
            | r => (false, r)
          if (r.takeWhile Char.isDigit) = [] then none
          else some (⟨negative, whole, fraction, some (down, r.takeWhile Char.isDigit)⟩,
            r.dropWhile Char.isDigit)
        else some (⟨negative, whole, fraction, none⟩, c :: r)
      | [] => some (⟨negative, whole, fraction, none⟩, [])

/-- The entries of an object, unless one of its keys is no text. -/
def tableOf (entries : List (Option String × Data)) : Data :=
  match entries.mapM (fun (k, d) => k.map (·, d)) with
  | some entries => .table entries
  | none => .unusable

mutual

/-- Read one value, and give what follows it. -/
def value? : Nat → List Char → Option (Data × List Char)
  | 0, _ => none
  | fuel + 1, cs =>
    match cs.dropWhile isSpace with
    | 'n' :: 'u' :: 'l' :: 'l' :: rest => some (.null, rest)
    | 't' :: 'r' :: 'u' :: 'e' :: rest => some (.bool true, rest)
    | 'f' :: 'a' :: 'l' :: 's' :: 'e' :: rest => some (.bool false, rest)
    | '"' :: rest => do
      let (us, rest) ← textUnits rest
      match chars? us with
      | some cs => pure (.text (String.ofList cs), rest)
      | none => pure (.unusable, rest)
    | '[' :: rest =>
      match rest.dropWhile isSpace with
      | ']' :: rest => some (.list [], rest)
      | rest => (items? fuel rest).map fun (items, rest) => (.list items, rest)
    | '{' :: rest =>
      match rest.dropWhile isSpace with
      | '}' :: rest => some (.table [], rest)
      | rest => (entries? fuel rest).map fun (entries, rest) => (tableOf entries, rest)
    | '-' :: rest => (numeral? true rest).map fun (n, rest) => (n.toData, rest)
    | rest => (numeral? false rest).map fun (n, rest) => (n.toData, rest)

/-- Read the items of a list that has at least one, up to its closing bracket. -/
def items? : Nat → List Char → Option (List Data × List Char)
  | 0, _ => none
  | fuel + 1, cs => do
    let (item, rest) ← value? fuel cs
    match rest.dropWhile isSpace with
    | ',' :: rest => do
      let (items, rest) ← items? fuel rest
      pure (item :: items, rest)
    | ']' :: rest => pure ([item], rest)
    | _ => none

/-- Read the entries of an object that has at least one, up to its closing brace. -/
def entries? : Nat → List Char → Option (List (Option String × Data) × List Char)
  | 0, _ => none
  | fuel + 1, cs =>
    match cs.dropWhile isSpace with
    | '"' :: rest => do
      let (us, rest) ← textUnits rest
      let key := (chars? us).map String.ofList
      match rest.dropWhile isSpace with
      | ':' :: rest => do
        let (d, rest) ← value? fuel rest
        match rest.dropWhile isSpace with
        | ',' :: rest => do
          let (entries, rest) ← entries? fuel rest
          pure ((key, d) :: entries, rest)
        | '}' :: rest => pure ([(key, d)], rest)
        | _ => none
      | _ => none
    | _ => none

end

/-- The tree of a text that is one JSON document. -/
def document? (s : String) : Option Data :=
  let cs := s.toList
  match value? (cs.length + 1) cs with
  | some (d, rest) => if rest.all isSpace then some d else none
  | none => none

/-- The value of a text that is one JSON document. -/
def ofText? (s : String) : Option Json := (document? s).bind (ofData? maxDepth)

end UsageReports.Json
