import PatternLexer.Transform

/-!
# Configurations

A configuration tells a cursor the line its texts start at, and the transforms that every reset applies to
the tokens.
-/

namespace PatternLexer

/-- A configuration of cursors. -/
structure Config where
  startLine : Value := .int 1
  /-- The transforms in order; absent if the caller gave none where a list has to be, which a reset
  complains about. -/
  transforms : Option (List Transform) := some []

namespace Config

/-- The configuration that holds where none is given. -/
def standard : Config := {}

/-- Equal to the standard configuration. -/
def isStandard (c : Config) : Bool :=
  c.startLine.same (.int 1) && (c.transforms.map List.isEmpty).getD false

/-- The configuration that a dictionary describes. The key `transforms` holds the transforms, or else the
key `transform` does; a `transforms` entry that is nothing hides the other and is kept as it is. Other
keys are ignored. -/
def ofEntries (entries : List (String × Value)) : Except Fault Config := do
  let startLine := (entries.lookup "start_line").getD (.int 1)
  match (entries.lookup "transforms").getD ((entries.lookup "transform").getD .null) with
  | .null => .ok ⟨startLine, if (entries.lookup "transforms").isSome then none else some []⟩
  | v => .ok ⟨startLine, some (← Transform.normalize v)⟩

/-- The configuration that a value describes, which has to be a dictionary. -/
def ofValue : Value → Except Fault Config
  | .dict entries => ofEntries entries
  | v => .error (.noAttribute v.typeName "items")

/-- The configuration with these parts; the transforms are those that the value yields. -/
def ofParts (startLine : Option Value) (transforms : Option Value) : Except Fault Config := do
  let line := startLine.getD (.int 1)
  match transforms with
  | none => .ok ⟨line, some []⟩
  | some v => .ok ⟨line, some ((← v.elements).map Transform.ofValue)⟩

/-- The line that a reset starts at, given what the caller tells about it: an entry or an attribute `line`,
or else the line of the configuration. -/
def lineFrom (c : Config) (info : Value) : Value :=
  match info with
  | .dict entries => (entries.lookup "line").getD c.startLine
  | v => (v.field? "line").getD c.startLine

end Config

end PatternLexer
