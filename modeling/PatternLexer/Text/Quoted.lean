import PatternLexer.Text.Property

/-!
# Quoted texts

A quoted text stands between single quotes, or between double quotes when it holds a single quote
and no double one. The quote and the backslash are escaped, tab, line feed and carriage return have
letters, and every other character that is not printable is written as a hexadecimal code. Bytes are
quoted like the characters of ASCII, with a letter in front.
-/

namespace PatternLexer.Text

/-- `code` in lower-case hexadecimal, padded with zeros to `width` digits. -/
def hexadecimal (width code : Nat) : List Char :=
  let digits := Nat.toDigits 16 code
  List.replicate (width - digits.length) '0' ++ digits

/-- One character between quotes of the kind `quote`. -/
def quotedChar (quote c : Char) : List Char :=
  if c == quote || c == '\\' then ['\\', c]
  else if c == '\t' then ['\\', 't']
  else if c == '\n' then ['\\', 'n']
  else if c == '\r' then ['\\', 'r']
  else if isPrintable c.toNat then [c]
  else if c.toNat < 0x100 then '\\' :: 'x' :: hexadecimal 2 c.toNat
  else if c.toNat < 0x10000 then '\\' :: 'u' :: hexadecimal 4 c.toNat
  else '\\' :: 'U' :: hexadecimal 8 c.toNat

/-- The quote that a text is put between. -/
def quoteFor (cs : List Char) : Char :=
  if cs.contains '\'' && !cs.contains '"' then '"' else '\''

/-- The characters of the quoted form of a text. -/
def quotedChars (cs : List Char) : List Char :=
  quoteFor cs :: cs.flatMap (quotedChar (quoteFor cs)) ++ [quoteFor cs]

/-- The quoted form of a text. -/
def quoted (s : String) : String := String.ofList (quotedChars s.toList)

/-- One byte between quotes of the kind `quote`; only those of ASCII are shown as characters. -/
def quotedByte (quote : Char) (b : UInt8) : List Char :=
  if b < 0x80 then quotedChar quote (Char.ofNat b.toNat) else '\\' :: 'x' :: hexadecimal 2 b.toNat

/-- The quoted form of bytes. -/
def quotedBytes (bytes : List UInt8) : String :=
  let quote := quoteFor (bytes.map fun b => Char.ofNat b.toNat)
  String.ofList ('b' :: quote :: bytes.flatMap (quotedByte quote) ++ [quote])

end PatternLexer.Text
