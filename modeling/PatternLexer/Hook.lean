import PatternLexer.Text.Case
import PatternLexer.Token

/-!
# Value hooks

A hook makes the value of a token from the matched text, or fails. The hooks that callers can name are
defined here; a value that is no function still stands for a hook, one that always fails.
-/

namespace PatternLexer

open Text

/-- Makes the value of a token from the matched text. -/
abbrev Hook := String → Except Fault Value

/-- The longest part of a quoted text that a complaint shows. -/
def complaintLimit : Nat := 200

/-- Reads an integer, with the complaint about a text that is none. -/
def parseInteger (s : String) : Except Fault Int :=
  match readInteger s with
  | .ok n => .ok n
  | .error (.tooLong digits) => .error (.numeralTooLong digits)
  | .error .malformed =>
    .error (.badNumeral (String.ofList ((quotedChars s.toList).take complaintLimit)))

/-- Writes an integer, unless it is too long. -/
def printInteger (n : Int) : Except Fault String :=
  match writeInteger? n with
  | some s => .ok s
  | none => .error .integerTooLong

/-- All but the first and the last. -/
def inner {α : Type} (xs : List α) : List α := (xs.drop 1).dropLast

namespace HookName

/-- What the named hook makes of a text. -/
def apply (s : String) : HookName → Except Fault Value
  | upper => .ok (.str (uppercaseAscii s))
  | double => do
    let n ← parseInteger s
    .ok (.str (← printInteger (n * 2)))
  | int => do .ok (.int (← parseInteger s))
  | unquote => .ok (.str (String.ofList (inner s.toList)))
  | length => .ok (.int s.length)
  | reverse => .ok (.str (String.ofList s.toList.reverse))
  | nothing => .ok .null
  | blank => .ok (.str "")
  | twice => .ok (.str (s ++ s))
  | fail => .error (.hookFailed s)

/-- What the named hook makes of a list of tokens, when it is used to change one. -/
def applyToTokens (tokens : List Token) : HookName → Except Fault (List Token)
  | upper => .error (.noAttribute "list" "upper")
  | double | int => .error (.notNumeral "list")
  | unquote => .ok (inner tokens)
  | length => .error (.notIterable "int")
  | reverse => .ok tokens.reverse
  | nothing => .error (.notIterable "NoneType")
  | blank => .ok []
  | twice => .ok (tokens ++ tokens)
  | fail => .error (.notConcatenated "str" "list")

end HookName

/-- The hook that a value stands for; nothing stands for none. -/
def Hook.ofValue : Value → Option Hook
  | .null => none
  | .hook h => some fun s => h.apply s
  | v => some fun _ => .error (.notCallable v.typeName)

end PatternLexer
