import PatternLexer.Fault
import PatternLexer.Pattern.Basic
import PatternLexer.Text.Numeral
import PatternLexer.Text.Shortest

/-!
# Values of callers

Rules, options, texts, line numbers and configurations come from callers as values of any type. This
module holds these values and what can be asked of every one of them: its type, its truth, its
attributes, its elements.
-/

namespace PatternLexer

open Text

/-- The hooks that a caller can name; each makes a token's value from the matched text. -/
inductive HookName where
  | upper
  | double
  | int
  | unquote
  | length
  | reverse
  | nothing
  | blank
  | twice
  | fail
deriving Repr, DecidableEq

/-- A value of a caller. -/
inductive Value where
  | null
  | bool (b : Bool)
  | int (n : Int)
  | float (x : Float)
  | str (s : String)
  | list (items : List Value)
  | tuple (items : List Value)
  | dict (entries : List (String × Value))
  | token (type value line col length : Value)
  | pattern (p : Pattern)
  | bytesPattern (p : BytesPattern)
  | rule (name pattern skip hook : Value)
  | hook (h : HookName)
  | transform (name : String) (parameters : List (String × Value))
  | object (attributes : List (String × Value))
  /-- An object of which nothing but its type matters. -/
  | handle (typeName : String)
deriving Inhabited

namespace Value

/-- The name of the type, as complaints call it. -/
def typeName : Value → String
  | null => "NoneType"
  | bool _ => "bool"
  | int _ => "int"
  | float _ => "float"
  | str _ => "str"
  | list _ => "list"
  | tuple _ => "tuple"
  | dict _ => "dict"
  | token .. => "Token"
  | pattern _ => "re.Pattern"
  | bytesPattern _ => "re.Pattern"
  | rule .. => "Rule"
  | hook _ => "function"
  | transform .. => "function"
  | object _ => "types.SimpleNamespace"
  | handle t => t

/-- Whether the value counts as true: all do but nothing, zero, and what is empty. -/
def truthy : Value → Bool
  | null => false
  | bool b => b
  | int n => n != 0
  | float x => !(x == 0)
  | str s => s != ""
  | list items => !items.isEmpty
  | tuple items => !items.isEmpty
  | dict entries => !entries.isEmpty
  | _ => true

/-- The value of an attribute, if there is one. -/
def field? (v : Value) (name : String) : Option Value :=
  match v with
  | token type value line col length =>
    [("type", type), ("value", value), ("line", line), ("col", col), ("length", length)].lookup name
  | rule n p s h => [("name", n), ("pattern", p), ("skip", s), ("value", h)].lookup name
  | pattern p =>
    [("pattern", str p.source), ("groups", int p.groups),
      ("groupindex", dict (p.names.map fun (k, g) => (k, int g)))].lookup name
  | bytesPattern p =>
    [("pattern", handle "bytes"), ("groups", int p.groups),
      ("groupindex", dict (p.names.map fun (k, g) => (k, int g)))].lookup name
  | object attributes => attributes.lookup name
  | _ => none

/-- The value of an attribute that has to be there. -/
def field (v : Value) (name : String) : Except Fault Value :=
  match v.field? name with
  | some w => .ok w
  | none => .error (.noAttribute v.typeName name)

/-- What iteration over the value yields: the items of a list or tuple, the keys of a dictionary, the
characters of a text. -/
def elements : Value → Except Fault (List Value)
  | list items => .ok items
  | tuple items => .ok items
  | dict entries => .ok (entries.map fun e => str e.1)
  | str s => .ok (s.toList.map fun c => str (String.ofList [c]))
  | v => .error (.notIterable v.typeName)

/-- Whether the value can be called. -/
def isCallable : Value → Bool
  | hook _ => true
  | transform .. => true
  | handle t => t == "Lexer"
  | _ => false

/-- One more than a number; the next line of a line number. -/
def increment : Value → Except Fault Value
  | int n => .ok (int (n + 1))
  | bool b => .ok (int (b.toNat + 1))
  | float x => .ok (float (x + 1))
  | str _ => .error (.notConcatenated "str" "int")
  | tuple _ => .error (.notConcatenated "tuple" "int")
  | list _ => .error (.notIterable "int")
  | v => .error (.notAdded v.typeName)

/-- A number without its fraction, in decimal; other values have no such form. -/
def wholeNumber? : Value → Option String
  | int n => writeInteger? n
  | bool b => some (toString b.toNat)
  | float x => writeInteger? (if x < 0 then -((-x).floor.toUInt64.toNat : Int) else x.floor.toUInt64.toNat)
  | _ => none

/-- The complaint about a value that is no text. -/
def mismatch (v : Value) : TextMismatch := if v.typeName = "bytes" then .bytes else .type v.typeName

/-- A value as a text to match, which has to be a text. -/
def subject : Value → Except Fault Subject
  | str s => .ok s.toList.toArray
  | v => .error (.notText v.mismatch)

/-- The least integer that is too large for the machine. -/
def machineLimit : Int := 0x8000000000000000

/-- An offset into a text: an integer of machine size, those below zero counting as zero. -/
def offset : Value → Except Fault Nat
  | int n => if -machineLimit ≤ n ∧ n < machineLimit then .ok n.toNat else .error .offsetTooLarge
  | bool b => .ok b.toNat
  | v => .error (.notOffset v.typeName)

mutual

/-- The type that keeps the value from being looked up in a set, if there is one. -/
def unhashable? : Value → Option String
  | list _ => some "list"
  | dict _ => some "dict"
  | tuple items => unhashableItem? items
  | token a b c d e =>
    ((((a.unhashable?).or b.unhashable?).or c.unhashable?).or d.unhashable?).or e.unhashable?
  | rule a b c d => (((a.unhashable?).or b.unhashable?).or c.unhashable?).or d.unhashable?
  | _ => none

/-- The same for the first of several items that has one. -/
def unhashableItem? : List Value → Option String
  | [] => none
  | v :: rest => (v.unhashable?).or (unhashableItem? rest)

end

mutual

/-- Equality as callers see it: numbers compare by value whatever their type, and a list never equals a
tuple. -/
def same : Value → Value → Bool
  | null, null => true
  | bool a, bool b => a == b
  | bool a, int n => (a.toNat : Int) == n
  | int n, bool a => (a.toNat : Int) == n
  | int m, int n => m == n
  | float x, float y => x == y
  | str s, str t => s == t
  | list xs, list ys => sameItems xs ys
  | tuple xs, tuple ys => sameItems xs ys
  | dict xs, dict ys => xs.length == ys.length && sameEntries xs ys
  | token a b c d e, token a' b' c' d' e' =>
    same a a' && same b b' && same c c' && same d d' && same e e'
  | pattern p, pattern q => p.source == q.source && p.flags == q.flags
  | bytesPattern p, bytesPattern q => p.source == q.source && p.flags == q.flags
  | rule a b c d, rule a' b' c' d' => same a a' && same b b' && same c c' && same d d'
  | hook h, hook k => h == k
  | _, _ => false

/-- Equality item by item. -/
def sameItems : List Value → List Value → Bool
  | [], [] => true
  | x :: xs, y :: ys => same x y && sameItems xs ys
  | _, _ => false

/-- Each entry of the first has an equal one in the second. -/
def sameEntries : List (String × Value) → List (String × Value) → Bool
  | [], _ => true
  | (k, x) :: xs, ys =>
    (match ys.lookup k with
      | some y => same x y
      | none => false) && sameEntries xs ys

end

end Value

end PatternLexer
