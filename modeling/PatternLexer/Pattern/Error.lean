import PatternLexer.Text.Quoted

/-!
# Why a pattern is refused

Each cause with its wording, and the place in the source that it is reported at.
-/

namespace PatternLexer

open Text

/-- What is wrong with the source of a pattern. -/
inductive PatternCause where
  | danglingEscape
  | incompleteEscape (escape : String)
  | badEscape (escape : String)
  | octalTooLarge (escape : String)
  | undefinedCharacter (name : String)
  /-- Something that has to stand here is missing. -/
  | missing (what : String)
  | noSuchGroup (group : Nat)
  | openGroup
  | lookbehindGroup
  | badGroupName (name : String)
  | unknownGroupName (name : String)
  | repeatedGroupName (name : String) (group earlier : Nat)
  | badGroupNumber
  | unterminatedSet
  | badRange (low high : String)
  | repeatBounds
  | nothingToRepeat
  | multipleRepeat
  | unexpectedEnd
  | unknownExtension (text : String)
  | tooManyBranches
  | misplacedFlags
  | localeFlag
  | incompatibleFlags
  | globalFlagOn
  | globalFlagOff
  | classesFlagOff
  | flagOnAndOff
  | unknownFlag
  | unbalancedParenthesis
  | variableLookbehind
  | lookbehindTooLong
  /-- A repetition in a template pattern. -/
  | templateRepeat (operator : String)
  /-- The source is nested more deeply than the reader follows. -/
  | tooDeep
deriving Repr, DecidableEq

/-- The wording of a cause. -/
def PatternCause.message : PatternCause → String
  | danglingEscape => "bad escape (end of pattern)"
  | incompleteEscape e => "incomplete escape " ++ e
  | badEscape e => "bad escape " ++ e
  | octalTooLarge e => "octal escape value " ++ e ++ " outside of range 0-0o377"
  | undefinedCharacter name => "undefined character name " ++ quoted name
  | missing what => "missing " ++ what
  | noSuchGroup g => "invalid group reference " ++ toString g
  | openGroup => "cannot refer to an open group"
  | lookbehindGroup => "cannot refer to group defined in the same lookbehind subpattern"
  | badGroupName name => "bad character in group name " ++ quoted name
  | unknownGroupName name => "unknown group name " ++ quoted name
  | repeatedGroupName name g earlier =>
    "redefinition of group name " ++ quoted name ++ " as group " ++ toString g ++
      "; was group " ++ toString earlier
  | badGroupNumber => "bad group number"
  | unterminatedSet => "unterminated character set"
  | badRange low high => "bad character range " ++ low ++ "-" ++ high
  | repeatBounds => "min repeat greater than max repeat"
  | nothingToRepeat => "nothing to repeat"
  | multipleRepeat => "multiple repeat"
  | unexpectedEnd => "unexpected end of pattern"
  | unknownExtension text => "unknown extension ?" ++ text
  | tooManyBranches => "conditional backref with more than two branches"
  | misplacedFlags => "global flags not at the start of the expression"
  | localeFlag => "bad inline flags: cannot use 'L' flag with a str pattern"
  | incompatibleFlags => "bad inline flags: flags 'a', 'u' and 'L' are incompatible"
  | globalFlagOn => "bad inline flags: cannot turn on global flag"
  | globalFlagOff => "bad inline flags: cannot turn off global flag"
  | classesFlagOff => "bad inline flags: cannot turn off flags 'a', 'u' and 'L'"
  | flagOnAndOff => "bad inline flags: flag turned on and off"
  | unknownFlag => "unknown flag"
  | unbalancedParenthesis => "unbalanced parenthesis"
  | variableLookbehind => "look-behind requires fixed-width pattern"
  | lookbehindTooLong => "looks too much behind"
  | templateRepeat operator => "internal: unsupported template operator " ++ operator
  | tooDeep => "pattern nested too deeply"

/-- A cause with the source and, where it belongs to one, the offset. -/
structure PatternError where
  cause : PatternCause
  source : String
  pos : Option Nat
deriving Repr, DecidableEq

namespace PatternError

/-- The line of an offset, counted from 1. -/
def line (cs : List Char) (pos : Nat) : Nat := (cs.take pos).count '\n' + 1

/-- The column of an offset in its line, counted from 1. -/
def column (cs : List Char) (pos : Nat) : Nat :=
  ((cs.take pos).reverse.takeWhile (· != '\n')).length + 1

/-- The wording, with the offset, and with line and column when the source has several lines. -/
def message (e : PatternError) : String :=
  match e.pos with
  | none => e.cause.message
  | some pos =>
    let cs := e.source.toList
    let placed := e.cause.message ++ " at position " ++ toString pos
    if cs.contains '\n' then
      placed ++ " (line " ++ toString (line cs pos) ++ ", column " ++ toString (column cs pos) ++ ")"
    else placed

end PatternError

/-- Everything that reading a pattern can end with, other than a pattern. -/
inductive PatternFailure where
  | invalid (error : PatternError)
  /-- The ASCII and the Unicode option are both set. -/
  | flagsConflict
  /-- A repetition count of `2^32 - 1` or more. -/
  | repetitionTooLarge
  /-- A repetition count with this many digits, which are too many to be read. -/
  | numeralTooLong (digits : Nat)
deriving Repr, DecidableEq

instance decidableEqOutcome {ε α : Type} [DecidableEq ε] [DecidableEq α] : DecidableEq (Except ε α)
  | .ok a, .ok b => decidable_of_iff (a = b) ⟨congrArg Except.ok, Except.ok.inj⟩
  | .error d, .error e => decidable_of_iff (d = e) ⟨congrArg Except.error, Except.error.inj⟩
  | .ok _, .error _ => isFalse fun h => by cases h
  | .error _, .ok _ => isFalse fun h => by cases h

end PatternLexer
