import PatternLexer.Pattern.Reader.Basic
import PatternLexer.Text.CharacterName

/-!
# Escapes and classes

What a backslash with the character after it stands for, outside and inside of bracketed classes, and the
classes themselves.
-/

namespace PatternLexer

open Text

namespace Reader

/-! ## Escapes -/

/-- The largest code point. -/
def maxCode : Nat := 0x10FFFF

/-- An escape with exactly `count` hexadecimal digits. -/
def hexEscape (c : Char) (count : Nat) : Read Nat := do
  let digits ← takeWhile isHexDigit count
  let text := String.ofList ('\\' :: c :: digits)
  if digits.length ≠ count then refuse (.incompleteEscape text) text.length
  else if maxCode < digitsValue 16 digits then refuse (.badEscape text) text.length
  else pure (digitsValue 16 digits)

/-- An escape that names a character between braces. The names that are known are those of `namedCode?`: a name
that is in none of its tables is refused like one that does not exist. -/
def namedEscape : Read Nat := do
  if ← accept '\x7b' then
    let name ← readName '\x7d' "character name"
    match namedCode? name with
    | some code => pure code
    | none => refuse (.undefinedCharacter name) (name.length + 4)
  else refuse (.missing "\x7b") 0

/-- The code point of an octal escape, which fits into nine bits. -/
def octalEscape (digits : List Char) : Read Nat := do
  let text := String.ofList ('\\' :: digits)
  if 0o377 < digitsValue 8 digits then refuse (.octalTooLarge text) text.length
  else pure (digitsValue 8 digits)

/-- The control characters and the backslash, which are escaped by one character. -/
def simpleEscape? : Char → Option Nat
  | 'a' => some 7
  | 'b' => some 8
  | 'f' => some 12
  | 'n' => some 10
  | 'r' => some 13
  | 't' => some 9
  | 'v' => some 11
  | '\\' => some 92
  | _ => none

/-- The classes that are escaped by one letter. -/
def categoryEscape? : Char → Option ClassItem
  | 'd' => some (.category .digit false)
  | 'D' => some (.category .digit true)
  | 's' => some (.category .space false)
  | 'S' => some (.category .space true)
  | 'w' => some (.category .word false)
  | 'W' => some (.category .word true)
  | _ => none

/-- The anchors that are escaped by one letter. -/
def anchorEscape? : Char → Option Anchor
  | 'A' => some .textStart
  | 'b' => some .boundary
  | 'B' => some .notBoundary
  | 'Z' => some .textEnd
  | _ => none

/-- The escapes that mean the same everywhere: by code, by name, or of a character that is no letter. -/
def codeEscape (c : Char) : Read Nat := do
  if c = 'x' then hexEscape c 2
  else if c = 'u' then hexEscape c 4
  else if c = 'U' then hexEscape c 8
  else if c = 'N' then namedEscape
  else if c.isAlpha || c.isDigit then refuse (.badEscape (String.ofList ['\\', c])) 2
  else pure c.toNat

/-- An escape in a bracketed class. -/
def classEscape (c : Char) : Read ClassItem := do
  match simpleEscape? c, categoryEscape? c with
  | some code, _ => pure (.code code)
  | none, some item => pure item
  | none, none =>
    if isOctDigit c then
      let digits ← takeWhile isOctDigit 2
      return .code (← octalEscape (c :: digits))
    else return .code (← codeEscape c)

/-- Inside a lookbehind, a group can be referred to only if it was closed before the lookbehind. -/
def checkLookbehind (g : Nat) : Read Unit := do
  let r ← here
  match r.lookbehind with
  | none => pure ()
  | some first =>
    refuseIf (!r.isClosed g) .openGroup 0
    refuseIf (first ≤ g) .lookbehindGroup 0

/-- Notes that a group is referred to by its number. -/
def noteNumber : Read Unit :=
  .move ({ · with byNumber := true }) fun r =>
    { Before.refl r with byNumber := fun _ => rfl }

/-- A reference to a group by number. -/
def numberedReference (digits : List Char) : Read Tree := do
  let r ← here
  let g := digitsValue 10 digits
  if g < r.nextGroup then
    noteNumber
    refuseIf (!r.isClosed g) .openGroup (digits.length + 1)
    checkLookbehind g
    pure (.backref g)
  else refuse (.noSuchGroup g) digits.length

/-- An escape that begins with a digit other than zero: three octal digits are a code, one or two
digits refer to a group. -/
def digitEscape (c : Char) : Read Tree := do
  match (← takeWhile Char.isDigit 1) with
  | [d] =>
    if isOctDigit c && isOctDigit d then
      match (← takeWhile isOctDigit 1) with
      | [e] => return .single (.code (← octalEscape [c, d, e]))
      | _ => numberedReference [c, d]
    else numberedReference [c, d]
  | _ => numberedReference [c]

/-- An escape outside a class. -/
def treeEscape (c : Char) : Read Tree := do
  match anchorEscape? c, categoryEscape? c, simpleEscape? c with
  | some a, _, _ => pure (.anchor a)
  | none, some item, _ => pure (.single (.oneOf false [item]))
  | none, none, some code => pure (.single (.code code))
  | none, none, none =>
    if c = '0' then
      let digits ← takeWhile isOctDigit 2
      pure (.single (.code (digitsValue 8 (c :: digits))))
    else if c.isDigit then digitEscape c
    else return .single (.code (← codeEscape c))

/-! ## Bracketed classes -/

/-- The item that a piece of a class stands for. -/
def classItem : Piece → Read ClassItem
  | .char c => pure (.code c.toNat)
  | .escape c => classEscape c

/-- The range between two items of a class, which `low` and `high` stand for. -/
def classRange (low high : Piece) : ClassItem → ClassItem → Read ClassItem
  | .code a, .code b =>
    if b < a then badRange else pure (.range a b)
  | _, _ => badRange
where
  badRange : Read ClassItem :=
    refuse (.badRange low.text high.text) (low.text.length + 1 + high.text.length)

/-- The items of a class from here to its closing bracket, which is an item if it comes first;
`start` is the offset of the opening one. -/
def classItems (start : Nat) : (fuel : Nat) → List ClassItem → Read (List ClassItem)
  | 0, _ => refuse .tooDeep 0
  | fuel + 1, found => do
    let p ← nextOr (refuseAt .unterminatedSet start)
    if p = .char ']' ∧ found ≠ [] then return found
    let low ← classItem p
    if ← accept '-' then
      let q ← nextOr (refuseAt .unterminatedSet start)
      if q = .char ']' then return found ++ [low, .code 45]
      let high ← classItem q
      classItems start fuel (found ++ [← classRange p q low high])
    else classItems start fuel (found ++ [low])

/-- The element that a class stands for; a class of one code point is that code point. -/
def ofClass (negated : Bool) (items : List ClassItem) : Single :=
  match items.eraseDups, negated with
  | [.code c], false => .code c
  | [.code c], true => .notCode c
  | distinct, _ => .oneOf negated distinct

/-- A class whose opening bracket, at offset `start`, was just left behind. -/
def readClass (start : Nat) : Read Tree := do
  let negated ← accept '^'
  let items ← classItems start ((← here).rest.length + 1) []
  pure (.single (ofClass negated items))

end Reader

end PatternLexer
