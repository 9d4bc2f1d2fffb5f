import PatternLexer.Text.Property

/-!
# Integer numerals

Reading an integer from text and writing it. A numeral may have surrounding blanks, a sign, digits of
any script, and single underscores between digits. Numerals of more than `maxDigits` digits are
refused in both directions. Numbers that are part of a format, such as the code of a character, are
written in the ASCII digits of some base instead.
-/

namespace PatternLexer.Text

/-- The longest numeral that is read or written. -/
def maxDigits : Nat := 4300

/-- Why a text is not read as an integer. -/
inductive NumeralError where
  /-- The text is not a numeral. -/
  | malformed
  /-- The numeral has this many digits, which are too many. -/
  | tooLong (digits : Nat)
deriving Repr, DecidableEq

/-- One character of a numeral, once digits and blanks of all scripts are recognised. -/
inductive NumeralChar where
  | digit (value : Nat)
  | underscore
  | plus
  | minus
  | blank
  | other
deriving Repr, DecidableEq

/-- Classifies a character. Among ASCII characters only the six usual ones are blank. -/
def NumeralChar.ofChar (c : Char) : NumeralChar :=
  match digitValue? c.toNat with
  | some value => .digit value
  | none =>
    if c == '_' then .underscore
    else if c == '+' then .plus
    else if c == '-' then .minus
    else if c.toNat < 128 then
      if c == ' ' || (9 ≤ c.toNat && c.toNat ≤ 13) then .blank else .other
    else if isBlank c.toNat then .blank else .other

/-- The run of digits at the front: its value, the number of its digits, and the rest. A run with an
underscore at its start, at its end or beside another is malformed. -/
def readDigits (value count : Nat) (afterDigit : Bool) :
    List NumeralChar → Except NumeralError (Nat × Nat × List NumeralChar)
  | .digit d :: rest => readDigits (value * 10 + d) (count + 1) true rest
  | .underscore :: rest => if afterDigit then readDigits value count false rest else .error .malformed
  | rest => if afterDigit then .ok (value, count, rest) else .error .malformed

/-- Whether nothing but blanks is left. -/
def allBlank (cs : List NumeralChar) : Bool := cs.all (· == .blank)

/-- The sign at the front, if any, and the rest. -/
def readSign : List NumeralChar → Bool × List NumeralChar
  | .plus :: rest => (false, rest)
  | .minus :: rest => (true, rest)
  | rest => (false, rest)

/-- Reads an integer. The length of the digit run is judged before what follows it. -/
def readInteger (s : String) : Except NumeralError Int := do
  let cs := (s.toList.map NumeralChar.ofChar).dropWhile (· == .blank)
  let (negative, cs) := readSign cs
  let (value, count, rest) ← readDigits 0 0 false cs
  if maxDigits < count then .error (.tooLong count)
  else if allBlank rest then .ok (if negative then -(value : Int) else (value : Int))
  else .error .malformed

/-- Writes an integer in decimal, unless it has too many digits. -/
def writeInteger? (n : Int) : Option String :=
  let digits := Nat.toDigits 10 n.natAbs
  if maxDigits < digits.length then none
  else some (String.ofList (if n < 0 then '-' :: digits else digits))

/-! ## Digits of a base -/

/-- The number that digits write in a base of at most 16. -/
def digitsValue (base : Nat) (cs : List Char) : Nat :=
  cs.foldl (fun n c =>
    n * base + (if c.toNat ≤ 57 then c.toNat - 48 else (c.toNat ||| 32) - 87)) 0

/-- A hexadecimal digit. -/
def isHexDigit (c : Char) : Bool :=
  c.isDigit || ('a' ≤ c && c ≤ 'f') || ('A' ≤ c && c ≤ 'F')

/-- An octal digit. -/
def isOctDigit (c : Char) : Bool := '0' ≤ c && c ≤ '7'

end PatternLexer.Text
