import PatternLexer.Text.Table

/-!
# Character properties

Membership of a code point in the property tables. Patterns may name code points that are not
characters (surrogates), so the predicates are stated on `Nat`.
-/

namespace PatternLexer.Text

namespace Table

/-- Number of entries of the sorted table `t` at positions `lo … hi - 1`, plus `lo`, that are at most
`code`; each step halves the interval, so `fuel` of its length is enough. -/
def rank (t : Array Nat) (code : Nat) : (fuel lo hi : Nat) → Nat
  | 0, lo, _ => lo
  | fuel + 1, lo, hi =>
    if lo < hi then
      let mid := (lo + hi) / 2
      if t.getD mid 0 ≤ code then rank t code fuel (mid + 1) hi else rank t code fuel lo mid
    else lo

/-- Whether the property that `t` tabulates holds of `code`. -/
def holds (t : Array Nat) (code : Nat) : Bool :=
  rank t code t.size 0 t.size % 2 == 1

end Table

/-- The code point is a letter of some script. -/
def isAlphabetic (code : Nat) : Bool := Table.holds Table.alphabetic code

/-- The code point is a letter or has a numeric value. -/
def isAlphanumeric (code : Nat) : Bool := Table.holds Table.alphanumeric code

/-- The code point is whitespace. -/
def isBlank (code : Nat) : Bool := Table.holds Table.blank code

/-- The code point is shown as it is in a quoted text. -/
def isPrintable (code : Nat) : Bool := Table.holds Table.printable code

/-- The value of a decimal digit of any script. -/
def digitValue? (code : Nat) : Option Nat :=
  if code < 128 then
    if 48 ≤ code && code ≤ 57 then some (code - 48) else none
  else
    (Table.decimalZeros.find? fun z => z ≤ code && code < z + 10).map (code - ·)

/-- The code point is a decimal digit of any script. -/
def isDigit (code : Nat) : Bool := (digitValue? code).isSome

/-- A text that can name a group: a start character, then continuing ones. -/
def isName (s : String) : Bool :=
  match s.toList with
  | [] => false
  | c :: rest => Table.holds Table.nameStart c.toNat && rest.all fun d => Table.holds Table.nameContinue d.toNat

end PatternLexer.Text
