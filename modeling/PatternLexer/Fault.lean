import PatternLexer.Pattern.Error
import PatternLexer.Rule.Error

/-!
# Faults

Everything that can stop an operation, by cause. Callers hand in values whose type is not known
beforehand, so a value of the wrong type is a fault like any other.
-/

namespace PatternLexer

open Text

/-- Why a pattern cannot be tried on a value. -/
inductive TextMismatch where
  /-- A value of the given type is no text. -/
  | type (typeName : String)
  /-- The value is a text, but the pattern was compiled from bytes. -/
  | bytesPattern
  /-- The value is bytes, but the pattern was compiled from a text. -/
  | bytes
deriving Repr, DecidableEq

/-- Why an operation stopped. -/
inductive Fault where
  | pattern (failure : PatternFailure)
  | rule (error : RuleError)
  /-- A pattern is tried on what is no text of its kind. -/
  | notText (mismatch : TextMismatch)
  | notCallable (typeName : String)
  | notIterable (typeName : String)
  | noAttribute (typeName name : String)
  | noLength (typeName : String)
  | notHashable (typeName : String)
  /-- A value of the given type where an offset is expected. -/
  | notOffset (typeName : String)
  /-- An offset that does not fit into a machine word. -/
  | offsetTooLarge
  /-- The next line of a line that is no number. -/
  | notAdded (typeName : String)
  | notConcatenated (whole part : String)
  /-- A value of the given type where a numeral is read. -/
  | notNumeral (typeName : String)
  /-- A text, here quoted, that is no numeral. -/
  | badNumeral (quotedText : String)
  | numeralTooLong (digits : Nat)
  /-- An integer with too many digits to be written. -/
  | integerTooLong
  | missingKey (key : String)
  | hookFailed (text : String)
  | transformFailed (tokens : Nat)
  | popFromEmpty
  /-- A cursor has no further token. -/
  | exhausted
  /-- A block of steps was left by an exception with this wording. -/
  | raised (wording : String)
  /-- The text is not in the grammar. -/
  | ungrammatical (wording : String)
  /-- No value has been stored under the name. -/
  | unset (name : String)
deriving Repr, DecidableEq

/-- The wording for a numeral that is too long to be read. -/
def numeralTooLongMessage (digits : Nat) : String :=
  "Exceeds the limit (4300 digits) for integer string conversion: value has " ++ toString digits ++
    " digits; use sys.set_int_max_str_digits() to increase the limit"

/-- The wording of what ends the reading of a pattern. -/
def PatternFailure.message : PatternFailure → String
  | invalid e => e.message
  | flagsConflict => "ASCII and UNICODE flags are incompatible"
  | repetitionTooLarge => "the repetition number is too large"
  | numeralTooLong digits => numeralTooLongMessage digits

/-- The wording of a mismatch. -/
def TextMismatch.message : TextMismatch → String
  | type t => "expected string or bytes-like object, got '" ++ t ++ "'"
  | bytesPattern => "cannot use a bytes pattern on a string-like object"
  | bytes => "cannot use a string pattern on a bytes-like object"

/-- The wording of a fault. -/
def Fault.message : Fault → String
  | pattern f => f.message
  | rule e => e.message
  | notText mismatch => mismatch.message
  | notCallable t => "'" ++ t ++ "' object is not callable"
  | notIterable t => "'" ++ t ++ "' object is not iterable"
  | noAttribute t name => "'" ++ t ++ "' object has no attribute '" ++ name ++ "'"
  | noLength t => "object of type '" ++ t ++ "' has no len()"
  | notHashable t => "unhashable type: '" ++ t ++ "'"
  | notOffset t => "'" ++ t ++ "' object cannot be interpreted as an integer"
  | offsetTooLarge => "Python int too large to convert to C ssize_t"
  | notAdded t => "unsupported operand type(s) for +=: '" ++ t ++ "' and 'int'"
  | notConcatenated whole part =>
    "can only concatenate " ++ whole ++ " (not \"" ++ part ++ "\") to " ++ whole
  | notNumeral t =>
    "int() argument must be a string, a bytes-like object or a real number, not '" ++ t ++ "'"
  | badNumeral q => "invalid literal for int() with base 10: " ++ q
  | numeralTooLong digits => numeralTooLongMessage digits
  | integerTooLong =>
    "Exceeds the limit (4300 digits) for integer string conversion; " ++
      "use sys.set_int_max_str_digits() to increase the limit"
  | missingKey key => key
  | hookFailed text => "hook failed: " ++ text
  | transformFailed n => "transform failed: " ++ toString n
  | popFromEmpty => "pop from empty list"
  | exhausted => ""
  | raised wording => wording
  | ungrammatical wording => wording
  | unset name => name

end PatternLexer
