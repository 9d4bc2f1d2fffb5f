import PatternLexer.Pattern.Tree
import PatternLexer.Text.Case

/-!
# Matching one character

Whether an element of one character accepts a given one under given flags. Without regard to case, a
character is compared through its lower case, and lower-case letters that share an upper case are
equal; with the ASCII flag only the letters `a` to `z` have case.
-/

namespace PatternLexer

open Text

/-- The last code point of the basic plane. -/
def lastBasic : Nat := 0xFFFF

/-- Whether the category holds of `code`. -/
def Category.holds (fs : Flags) (code : Nat) : Category → Bool
  | .digit => if fs.unicode then isDigit code else 48 ≤ code && code ≤ 57
  | .space =>
    if fs.unicode then isBlank code else code == 32 || (9 ≤ code && code ≤ 13)
  | .word =>
    code == 95 ||
      if fs.unicode then isAlphanumeric code
      else (48 ≤ code && code ≤ 57) || (65 ≤ code && code ≤ 90) || (97 ≤ code && code ≤ 122)

/-- The form in which characters are compared without regard to case. -/
def folded (fs : Flags) (code : Nat) : Nat :=
  if fs.unicode then lower code else asciiLower code

/-- All code points with the folded form `code`, companions included. -/
def foldedVariants (fs : Flags) (code : Nat) : List Nat :=
  if fs.unicode then caseVariants code
  else if 97 ≤ code && code ≤ 122 then [code, code - 32] else [code]

/-- Equality of a pattern's code point and a character, without regard to case. -/
def equalFolded (fs : Flags) (pattern code : Nat) : Bool :=
  folded fs code == folded fs pattern ||
    (fs.unicode && (companions (folded fs pattern)).contains (folded fs code))

namespace ClassItem

/-- The item holds of a character exactly as it is. -/
def holds (fs : Flags) (code : Nat) : ClassItem → Bool
  | .code c => code == c
  | .range low high => low ≤ code && code ≤ high
  | .category k negated => k.holds fs code != negated

/-- The item holds of a character whose folded form is `code`. A range covers every variant of its
members in the basic plane; beyond that plane it is enough that the lower or the upper case lies in
it, and a single code point stands for itself only. -/
def holdsFolded (fs : Flags) (code : Nat) : ClassItem → Bool
  | .code c => if c ≤ lastBasic then equalFolded fs c code else code == c
  | .range low high =>
    ((foldedVariants fs code).any fun v => low ≤ v && v ≤ high && v ≤ lastBasic) ||
      (lastBasic < high &&
        ((low ≤ code && code ≤ high) || (low ≤ upper code && upper code ≤ high)))
  | .category k negated => k.holds fs code != negated

end ClassItem

/-- Whether the element accepts the character `code`. -/
def Single.accepts (fs : Flags) (code : Nat) : Single → Bool
  | .any => fs.dotAll || code != 10
  | .code c => if fs.ignoreCase then equalFolded fs c code else code == c
  | .notCode c => !(if fs.ignoreCase then equalFolded fs c code else code == c)
  | .oneOf negated items =>
    (if fs.ignoreCase then items.any fun item => item.holdsFolded fs (folded fs code)
      else items.any fun item => item.holds fs code) != negated

end PatternLexer
