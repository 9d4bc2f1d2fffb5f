import PatternLexer.Hook
import PatternLexer.Log

/-!
# Rules

A rule is a pattern with a name, which is the type of its tokens. The text it matches may be skipped, and
its value may be made by a hook. Callers write rules in several forms, the entries of a rule list.
-/

namespace PatternLexer

open Text

/-- A rule of a lexer. -/
structure Rule where
  name : String
  pattern : Pattern
  /-- The matched text makes no token if this value is true. -/
  skip : Value
  hook : Option Hook

namespace Rule

/-- The matched text makes no token. -/
def skips (r : Rule) : Bool := r.skip.truthy

/-- The pattern of the rule of last resort: the rest of a line. -/
def fallbackPattern : Pattern where
  source := "(?P<ERROR>[^\\n\\r\\u2028\\u2029]+)"
  flags := { unicode := true }
  tree := .group 1 (.many .greedy 1 none
    (.oneOf true [.code 0x0A, .code 0x0D, .code 0x2028, .code 0x2029]))
  groups := 1
  names := [(errorName, 1)]
  byNumber := false
  flagGroups := 0
  isRead := ⟨{}, by decide +kernel⟩

/-- The rule of last resort, the last of every lexer. -/
def fallback : Rule := ⟨errorName, fallbackPattern, .bool false, none⟩

end Rule

/-! ## Entries of a rule list -/

/-- What stands where a pattern is expected. -/
inductive PatternInput where
  | source (s : String)
  | compiled (p : Pattern)
  | bytes (p : BytesPattern)
  /-- A value of the given type. Objects that imitate a compiled pattern are not told from others. -/
  | other (typeName : String)

/-- An entry of a rule list. -/
inductive Entry where
  | bare (input : PatternInput)
  | pair (input : PatternInput) (skip : Bool) (hook : Option Hook)
  /-- A tuple that is not a pair of something and a dictionary of options. -/
  | malformedPair
  /-- A rule built by the caller, whose name has not been checked. -/
  | rule (name : Value) (pattern : PatternInput) (skip : Value) (hook : Option Hook)

/-- Compiles a pattern. -/
def compilePattern (source : String) (flags : Flags) : Except Fault Pattern :=
  (Pattern.compile source flags).mapError .pattern

namespace CompiledPattern

/-- What the pattern was compiled from. -/
def source : CompiledPattern → PatternSource
  | text p => .text p.source
  | bytes p => .bytes p.source

/-- The name of the single named group of a pattern. -/
def groupName (p : CompiledPattern) (index : Option Nat) : Except Fault String :=
  match p.names with
  | [(name, _)] => .ok name
  | names => .error (.rule ⟨.nameCount names.length, index, some p.source⟩)

end CompiledPattern

@[inherit_doc CompiledPattern.groupName]
def Pattern.groupName (p : Pattern) (index : Option Nat) : Except Fault String :=
  (CompiledPattern.text p).groupName index

namespace PatternInput

/-- What a value is where a pattern is expected. -/
def ofValue : Value → PatternInput
  | .str s => .source s
  | .pattern p => .compiled p
  | .bytesPattern p => .bytes p
  | v => .other v.typeName

/-- The type of the value. -/
def typeName : PatternInput → String
  | source _ => "str"
  | compiled _ => "re.Pattern"
  | bytes _ => "re.Pattern"
  | other t => t

/-- The compiled pattern that stands here, if there is one. -/
def compiled? : PatternInput → Option CompiledPattern
  | compiled p => some (.text p)
  | bytes p => some (.bytes p)
  | _ => none

/-- The pattern of the entry at `index`: a source is compiled. -/
def toPattern (index : Nat) : PatternInput → Except Fault CompiledPattern
  | source s => (compilePattern s {}).map .text
  | compiled p => .ok (.text p)
  | bytes p => .ok (.bytes p)
  | other t => .error (.rule ⟨.notPattern t, some index, none⟩)

end PatternInput

/-- What an entry asks for. It is a rule if its pattern can be tried on texts. -/
structure Draft where
  name : String
  pattern : CompiledPattern
  skip : Value
  hook : Option Hook

/-- The rule of a draft. The pattern is tried on the empty text, which one that was compiled from bytes refuses. -/
def Draft.toRule (d : Draft) : Except Fault Rule :=
  match d.pattern with
  | .text p => .ok ⟨d.name, p, d.skip, d.hook⟩
  | .bytes _ => .error (.notText .bytesPattern)

namespace Entry

/-- What a value is as an entry of a rule list. -/
def ofValue : Value → Entry
  | .rule name pattern skip hook => .rule name (.ofValue pattern) skip (Hook.ofValue hook)
  | .tuple [first, .dict options] =>
    .pair (.ofValue first) (((options.lookup "skip").map Value.truthy).getD false)
      (((options.lookup "value").map Hook.ofValue).getD none)
  | .tuple _ => .malformedPair
  | v => .bare (.ofValue v)

/-- What the entry at `index` asks for, as far as the entry alone can tell. -/
def draft (index : Nat) : Entry → Except Fault Draft
  | bare input => do
    let p ← input.toPattern index
    .ok ⟨← p.groupName (some index), p, .bool false, none⟩
  | pair input skip hook => do
    let p ← input.toPattern index
    .ok ⟨← p.groupName (some index), p, .bool skip, hook⟩
  | malformedPair => .error (.rule ⟨.malformedPair, some index, none⟩)
  | rule given input skip hook =>
    match input.compiled? with
    | some p => do
      let name ← p.groupName (some index)
      match given with
      | .str s => if s = name then .ok ⟨name, p, skip, hook⟩ else mismatch s name p
      | v => mismatch (← v.text) name p
    | none => .error (.noAttribute input.typeName "groupindex")
where
  mismatch (given name : String) (p : CompiledPattern) : Except Fault Draft :=
    .error (.rule ⟨.nameMismatch given name, some index, some p.source⟩)

/-- The rule that the entry at `index` stands for, whatever the names of other entries are. -/
def toRule (index : Nat) (e : Entry) : Except Fault Rule := do (← e.draft index).toRule

end Entry

/-- A rule entry, as a value, for a pattern given by its source or compiled. -/
def makeRule (pattern skip hook : Value) : Except Fault Value :=
  match pattern with
  | .str s => do
    let p ← compilePattern s {}
    .ok (.rule (.str (← p.groupName none)) (.pattern p) skip hook)
  | .pattern p => do .ok (.rule (.str (← p.groupName none)) pattern skip hook)
  | .bytesPattern p => do
    .ok (.rule (.str (← (CompiledPattern.bytes p).groupName none)) pattern skip hook)
  | v => .error (.noAttribute v.typeName "groupindex")

end PatternLexer
