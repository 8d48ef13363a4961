import UsageReports.Json.Number
import UsageReports.Json.Value

/-!
# Writing JSON

The text of a value, without blanks. Quotes, backslashes and control characters are escaped, all
else is written as it is.
-/

namespace UsageReports.Json

/-- A character as it is written in a text. -/
def escapeChar (c : Char) : List Char :=
  match c with
  | '"' => ['\\', '"']
  | '\\' => ['\\', '\\']
  | '\x08' => ['\\', 'b']
  | '\x0c' => ['\\', 'f']
  | '\n' => ['\\', 'n']
  | '\r' => ['\\', 'r']
  | '\t' => ['\\', 't']
  | c =>
    if c.toNat < 0x20 then
      ['\\', 'u', '0', '0', Char.ofNat (48 + c.toNat / 16), (hexDigit (c.toNat % 16)).toLower]
    else [c]

/-- A text in quotes. -/
def quoted (s : String) : List Char := '"' :: s.toList.flatMap escapeChar ++ ['"']

mutual

/-- The characters of a value. -/
def chars : Json → List Char
  | .null => ['n', 'u', 'l', 'l']
  | .bool true => ['t', 'r', 'u', 'e']
  | .bool false => ['f', 'a', 'l', 's', 'e']
  | .int n => decimal n
  | .double bits => doubleChars bits
  | .str s => quoted s
  | .arr items => '[' :: itemChars items
  | .obj fields => '{' :: fieldChars fields

/-- The items of a list with commas between them, and the closing bracket. -/
def itemChars : List Json → List Char
  | [] => [']']
  | [item] => chars item ++ [']']
  | item :: items => chars item ++ ',' :: itemChars items

/-- The fields of an object with commas between them, and the closing brace. -/
def fieldChars : List (String × Json) → List Char
  | [] => ['}']
  | [(key, value)] => quoted key ++ ':' :: chars value ++ ['}']
  | (key, value) :: fields => quoted key ++ ':' :: chars value ++ ',' :: fieldChars fields

end

/-- The text of a value. -/
def text (j : Json) : String := String.ofList j.chars

end UsageReports.Json
