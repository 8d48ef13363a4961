/-!
# Character sets

Text that was sent as bytes of UTF-8 and is read as if each byte were one character. Servers that
name an old character set are taken at their word.
-/

namespace UsageReports

/-- The characters of the bytes from 0x80 to 0x9F in the western single-byte set. -/
def westernHigh : List Char :=
  ['€', '\u0081', '‚', 'ƒ', '„', '…', '†', '‡', 'ˆ', '‰', 'Š', '‹', 'Œ', '\u008d', 'Ž', '\u008f',
    '\u0090', '‘', '’', '“', '”', '•', '–', '—', '˜', '™', 'š', '›', 'œ', '\u009d', 'ž', 'Ÿ']

/-- The character of a byte in the western single-byte set. -/
def westernChar (b : UInt8) : Char :=
  let n := b.toNat
  if 0x80 ≤ n ∧ n < 0xA0 then westernHigh.getD (n - 0x80) ' ' else Char.ofNat n

/-- The names of the western single-byte set. -/
def westernNames : List String :=
  ["ansi_x3.4-1968", "ascii", "cp1252", "cp819", "csisolatin1", "ibm819", "iso-8859-1", "iso-ir-100",
    "iso8859-1", "iso88591", "iso_8859-1", "iso_8859-1:1987", "l1", "latin1", "us-ascii",
    "windows-1252", "x-cp1252"]

/-- The bytes of a text, each read as one character. -/
def readWestern (s : String) : String := String.ofList (s.toUTF8.toList.map westernChar)

/-- How the bytes of a text are read in the character sets that have a name in lower case. A name
that no set has stands for UTF-8. -/
abbrev Charsets := String → Option (String → String)

/-- The western single-byte set alone. -/
def westernCharsets : Charsets := fun name =>
  if westernNames.contains name then some readWestern else none

end UsageReports
