import PatternLexer.Value.Basic

/-!
# The text of a value

A value is shown in full, with texts quoted, or as a text that leaves a text as it is. A token is shown
with its type, its value cut to twenty characters, and its place; its value must have a length.
-/

namespace PatternLexer.Value

open Text

/-- The longest value that a token shows whole. -/
def shownLimit : Nat := 20

/-- A text that is cut if it is too long to be shown whole. -/
def clipped (s : String) : String :=
  let cs := s.toList
  if shownLimit < cs.length then String.ofList (cs.take (shownLimit - 3) ++ ['.', '.', '.']) else s

/-- Whether a token can show the value, which has to have a length, and to be a text if it is cut. -/
def checkShownInToken : Value → Except Fault Unit
  | str _ => .ok ()
  | list items =>
    if shownLimit < items.length then .error (.notConcatenated "list" "str") else .ok ()
  | tuple items =>
    if shownLimit < items.length then .error (.notConcatenated "tuple" "str") else .ok ()
  | dict entries => if shownLimit < entries.length then .error (.notHashable "slice") else .ok ()
  | v => .error (.noLength v.typeName)

mutual

/-- The value in full. -/
def shown : Value → Except Fault String
  | null => .ok "None"
  | bool b => .ok (if b then "True" else "False")
  | int n => match writeInteger? n with
    | some s => .ok s
    | none => .error .integerTooLong
  | float x => .ok (floatText x)
  | str s => .ok (quoted s)
  | list items => do
    let parts ← shownItems items
    .ok ("[" ++ String.intercalate ", " parts ++ "]")
  | tuple items => do
    let parts ← shownItems items
    .ok ("(" ++ String.intercalate ", " parts ++ (if parts.length = 1 then ",)" else ")"))
  | dict entries => do
    let parts ← shownEntries entries
    .ok ("\x7b" ++ String.intercalate ", " parts ++ "\x7d")
  | token type value line col _ => do
    checkShownInToken value
    let typeText ← match type with
      | str s => .ok s
      | _ => shown type
    let valueText ← match value with
      | str s => .ok (quoted (clipped s))
      | _ => shown value
    let lineText ← match line with
      | str s => .ok s
      | _ => shown line
    let colText ← match col with
      | str s => .ok s
      | _ => shown col
    .ok ("Token(" ++ typeText ++ ", " ++ valueText ++ ", " ++ lineText ++ ":" ++ colText ++ ")")
  | v => .ok ("<" ++ v.typeName ++ ">")

/-- The items of a list in full. -/
def shownItems : List Value → Except Fault (List String)
  | [] => .ok []
  | v :: rest => do
    let first ← v.shown
    let others ← shownItems rest
    .ok (first :: others)

/-- The entries of a dictionary in full. -/
def shownEntries : List (String × Value) → Except Fault (List String)
  | [] => .ok []
  | (k, v) :: rest => do
    let first ← v.shown
    let others ← shownEntries rest
    .ok ((quoted k ++ ": " ++ first) :: others)

end

/-- The value as a text. -/
def text : Value → Except Fault String
  | str s => .ok s
  | v => v.shown

end PatternLexer.Value
