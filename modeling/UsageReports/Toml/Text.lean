import UsageReports.Text.Numeral
import UsageReports.Text.Blank

/-!
# Lines, keys and texts of TOML

The parts of a TOML document that are read character by character: blanks, comments, line ends, keys
and the four kinds of quoted text. Each reader gives what it read and what follows it.
-/

namespace UsageReports.Toml

/-- The blanks inside a line. -/
def isBlankInLine (c : Char) : Bool := c = ' ' || c = '\t'

/-- Drop blanks inside a line. -/
def skipBlanks (cs : List Char) : List Char := cs.dropWhile isBlankInLine

/-- The characters that may stand in a line as they are: a tab and all that are no control
character. -/
def isLineChar (c : Char) : Bool := c = '\t' || (0x20 ≤ c.toNat && c.toNat ≠ 0x7F)

/-- A line break. -/
def newline? : List Char → Option (List Char)
  | '\n' :: cs => some cs
  | '\r' :: '\n' :: cs => some cs
  | _ => none

/-- Drop a comment, up to the end of its line. -/
def skipComment : List Char → List Char
  | '#' :: cs => cs.dropWhile isLineChar
  | cs => cs

/-- The end of a line, with a comment before it or not; also the end of the document. -/
def lineEnd? (cs : List Char) : Option (List Char) :=
  match skipComment (skipBlanks cs) with
  | [] => some []
  | cs => newline? cs

/-- Drop blanks, comments and line breaks; `fuel` bounds the number of lines. -/
def skipLines : Nat → List Char → List Char
  | 0, cs => cs
  | fuel + 1, cs =>
    let rest := skipComment (skipBlanks cs)
    match newline? rest with
    | some rest => skipLines fuel rest
    | none => rest

/-- The character with a number given in hexadecimal digits, where there is one. -/
def scalar? (ds : List Char) : Option Char := do
  let n ← ds.foldlM (fun n c => (hexValue? c).map (n * 16 + ·)) 0
  if n < 0xD800 ∨ (0xDFFF < n ∧ n ≤ 0x10FFFF) then some (Char.ofNat n) else none

/-- What a one-letter escape stands for. -/
def escaped? : Char → Option Char
  | 'b' => some '\x08'
  | 't' => some '\t'
  | 'n' => some '\n'
  | 'f' => some '\x0c'
  | 'r' => some '\r'
  | '"' => some '"'
  | '\\' => some '\\'
  | _ => none

/-- An escape, after its backslash. -/
def escape? : List Char → Option (Char × List Char)
  | 'u' :: cs => if 4 ≤ cs.length then (scalar? (cs.take 4)).map (·, cs.drop 4) else none
  | 'U' :: cs => if 8 ≤ cs.length then (scalar? (cs.take 8)).map (·, cs.drop 8) else none
  | c :: cs => (escaped? c).map (·, cs)
  | [] => none

/-- A text in double quotes, after the opening quote; `fuel` bounds its length. -/
def basic? : Nat → List Char → Option (List Char × List Char)
  | 0, _ => none
  | fuel + 1, cs =>
    match cs with
    | [] => none
    | '"' :: rest => some ([], rest)
    | '\\' :: rest => do
      let (c, rest) ← escape? rest
      let (text, rest) ← basic? fuel rest
      pure (c :: text, rest)
    | c :: rest =>
      if isLineChar c then (basic? fuel rest).map fun (text, rest) => (c :: text, rest) else none

/-- A text in single quotes, after the opening quote. -/
def literal? (cs : List Char) : Option (List Char × List Char) :=
  match cs.dropWhile fun c => isLineChar c && c ≠ '\'' with
  | '\'' :: rest => some (cs.takeWhile fun c => isLineChar c && c ≠ '\'', rest)
  | _ => none

/-- A backslash at the end of a line, after it: blanks to the end of the line, then all blanks and
line breaks that follow. -/
def continuation? (cs : List Char) : Option (List Char) :=
  (newline? (skipBlanks cs)).map fun rest =>
    rest.dropWhile fun c => isBlankInLine c || c = '\n' || c = '\r'

/-- A text over several lines, up to three quotes that end it; up to two more quotes before them
belong to the text. With `escapes` backslashes have their meaning. `fuel` bounds its length. -/
def multiline? (quote : Char) (escapes : Bool) : Nat → List Char → Option (List Char × List Char)
  | 0, _ => none
  | fuel + 1, cs =>
    match newline? cs with
    | some rest =>
      (multiline? quote escapes fuel rest).map fun (text, rest) => ('\n' :: text, rest)
    | none =>
      match cs with
      | [] => none
      | c :: rest =>
        if c = quote then
          let run := (cs.takeWhile (· = quote)).length
          if 3 ≤ run then
            let kept := min (run - 3) 2
            some (List.replicate kept quote, cs.drop (kept + 3))
          else
            (multiline? quote escapes fuel (cs.drop run)).map fun (text, rest) =>
              (List.replicate run quote ++ text, rest)
        else if c = '\\' ∧ escapes then
          match continuation? rest with
          | some rest => multiline? quote escapes fuel rest
          | none => do
            let (e, rest) ← escape? rest
            let (text, rest) ← multiline? quote escapes fuel rest
            pure (e :: text, rest)
        else if isLineChar c then
          (multiline? quote escapes fuel rest).map fun (text, rest) => (c :: text, rest)
        else none

/-- Drop a line break right after the opening quotes. -/
def skipFirstBreak (cs : List Char) : List Char := (newline? cs).getD cs

/-- A quoted text of any kind. -/
def text? (cs : List Char) : Option (List Char × List Char) :=
  let fuel := cs.length + 1
  match cs with
  | '"' :: '"' :: '"' :: rest => multiline? '"' true fuel (skipFirstBreak rest)
  | '\'' :: '\'' :: '\'' :: rest => multiline? '\'' false fuel (skipFirstBreak rest)
  | '"' :: rest => basic? fuel rest
  | '\'' :: rest => literal? rest
  | _ => none

/-- The characters of a key without quotes. -/
def isKeyChar (c : Char) : Bool := c.isAlphanum || c = '_' || c = '-'

/-- One part of a key. -/
def keyPart? (cs : List Char) : Option (String × List Char) :=
  match cs with
  | '"' :: rest => (basic? (cs.length + 1) rest).map fun (k, rest) => (String.ofList k, rest)
  | '\'' :: rest => (literal? rest).map fun (k, rest) => (String.ofList k, rest)
  | _ =>
    if cs.takeWhile isKeyChar = [] then none
    else some (String.ofList (cs.takeWhile isKeyChar), cs.dropWhile isKeyChar)

/-- The parts of a key with points between them, blanks around each part; `fuel` bounds their
number. -/
def keyParts? : Nat → List Char → Option (List String × List Char)
  | 0, _ => none
  | fuel + 1, cs => do
    let (part, rest) ← keyPart? (skipBlanks cs)
    match skipBlanks rest with
    | '.' :: rest => do
      let (parts, rest) ← keyParts? fuel rest
      pure (part :: parts, rest)
    | rest => pure ([part], rest)

/-- How deep keys, lists and tables may be nested in a document. -/
def maxDepth : Nat := 79

/-- A key. -/
def key? (cs : List Char) : Option (List String × List Char) := keyParts? maxDepth cs

end UsageReports.Toml
