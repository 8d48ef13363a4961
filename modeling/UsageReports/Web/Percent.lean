import UsageReports.Text.Numeral

/-!
# Percent-encoding

A character that a part of a URL must not show is written by its UTF-8 bytes, each as `%` and two
hexadecimal digits. Each part has its own set of such characters; all sets hold the control
characters and everything outside of ASCII.
-/

namespace UsageReports

/-- A character of a list, or one that no part of a URL shows. -/
def isHidden (among : List Char) (c : Char) : Bool :=
  c.toNat < 0x20 || 0x7F ≤ c.toNat || among.contains c

/-- The parts of a URL that have a set of their own. -/
inductive UrlPart where
  /-- What follows the scheme where there is no hierarchy, and a host that is no domain. -/
  | plain
  | fragment
  | path
  | credentials
  | query
  /-- The query where the scheme is one of the special ones. -/
  | specialQuery
deriving DecidableEq

namespace UrlPart

/-- The printable ASCII characters that a part does not show. -/
def unshown : UrlPart → List Char
  | plain => []
  | fragment => [' ', '"', '<', '>', '`']
  | path => [' ', '"', '<', '>', '`', '#', '?', '{', '}']
  | credentials =>
    [' ', '"', '<', '>', '`', '#', '?', '{', '}', '/', ':', ';', '=', '@', '[', '\\', ']', '^', '|']
  | query => [' ', '"', '#', '<', '>']
  | specialQuery => [' ', '"', '#', '<', '>', '\'']

end UrlPart

/-- A byte as `%` and two hexadecimal digits. -/
def percentByte (b : UInt8) : List Char := ['%', hexDigit (b.toNat / 16), hexDigit (b.toNat % 16)]

/-- A character by its bytes. -/
def percentChar (c : Char) : List Char := (String.utf8EncodeChar c).flatMap percentByte

/-- A text as a part of a URL shows it. -/
def percentEncode (part : UrlPart) (cs : List Char) : List Char :=
  cs.flatMap fun c => if isHidden part.unshown c then percentChar c else [c]

/-- The bytes of a text in which `%` and two hexadecimal digits stand for a byte. -/
def percentDecode : List Char → List UInt8
  | '%' :: a :: b :: rest =>
    match hexValue? a, hexValue? b with
    | some x, some y => UInt8.ofNat (16 * x + y) :: percentDecode rest
    | _, _ => 37 :: percentDecode (a :: b :: rest)
  | c :: rest => String.utf8EncodeChar c ++ percentDecode rest
  | [] => []

/-- The text of bytes that are UTF-8. -/
def textOfBytes? (bytes : List UInt8) : Option String := String.fromUTF8? ⟨bytes.toArray⟩

/-- Whether a form shows a character as it is. -/
def isFormChar (c : Char) : Bool := c.isAlphanum || ['*', '-', '.', '_'].contains c

/-- A text as a form writes it: a blank is a plus sign. -/
def formEncode (cs : List Char) : List Char :=
  cs.flatMap fun c =>
    if c = ' ' then ['+'] else if isFormChar c then [c] else percentChar c

/-- A field of a form. -/
def formField (name value : String) : List Char :=
  formEncode name.toList ++ '=' :: formEncode value.toList

/-- Texts one after the other are encoded one after the other. -/
theorem percentEncode_append (part : UrlPart) (as bs : List Char) :
    percentEncode part (as ++ bs) = percentEncode part as ++ percentEncode part bs := by
  simp [percentEncode]

end UsageReports
