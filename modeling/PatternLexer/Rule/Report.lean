import PatternLexer.Value.Shown

/-!
# Error reports

An error about a rule can also be built by a caller, from values of any type. The report holds what it was
built from and its wording.
-/

namespace PatternLexer

/-- The kinds of errors about rule lists, the first two being more general. -/
inductive ReportKind where
  | general
  | rule
  | unnamedPattern
  | duplicateName
deriving Repr, DecidableEq

/-- Whether errors of kind `k` are among those of kind `other`. -/
def ReportKind.isA (k other : ReportKind) : Bool :=
  match other with
  | .general => true
  | .rule => k != .general
  | _ => k == other

/-- An error built by a caller. -/
structure Report where
  kind : ReportKind
  detail : Value
  index : Value
  source : Value
  /-- The clashing name, of a report about one. -/
  name : Value
  /-- Whether the name is reserved, as the caller put it. -/
  reserved : Value
  message : String

namespace Report

/-- The wording of a report about a rule. -/
def wording (detail : String) (index source : Value) : Except Fault String := do
  let place ← match index with
    | .null => .ok none
    | v => some <$> v.text
  let shownSource ← match source with
    | .null => .ok none
    | v => some <$> v.shown
  .ok (ruleMessage place detail shownSource)

/-- A report about no rule: its wording is its only argument, or all of them. -/
def general (arguments : List Value) : Except Fault Report := do
  let message ← match arguments with
    | [] => .ok ""
    | [v] => v.text
    | vs => (Value.tuple vs).shown
  .ok ⟨.general, .null, .null, .null, .null, .null, message⟩

/-- A report from its arguments, which are a detail or a name, a place and a source. -/
def make (kind : ReportKind) (arguments : List Value) (reserved : Value) : Except Fault Report := do
  let argument := fun i => (arguments[i]?).getD Value.null
  match kind with
  | .general => general arguments
  | .duplicateName =>
    let name := argument 0
    let shownName ← name.text
    let detail :=
      if reserved.truthy then "token name '" ++ shownName ++ "' is reserved"
      else "duplicate token name '" ++ shownName ++ "'"
    .ok ⟨kind, .str detail, argument 1, argument 2, name, reserved,
      ← wording detail (argument 1) (argument 2)⟩
  | _ =>
    let detail ← (argument 0).text
    .ok ⟨kind, argument 0, argument 1, argument 2, .null, .null,
      ← wording detail (argument 1) (argument 2)⟩

end Report

end PatternLexer
