import PatternLexer.Rule.Basic

/-!
# Composite patterns

The patterns of a rule list are merged into one: the ordered alternatives, each in a capturing group of its
own, with its flags carried by a group inside. That wrapper is the last group to close when its alternative
matches, so the group closed last tells which rule matched.
-/

namespace PatternLexer

open Text

/-- A match of a rule: which one, and what it matched. -/
structure RuleMatch where
  index : Nat
  text : String
  start : Nat
  stop : Nat
deriving Repr, DecidableEq

/-- A part of a text. -/
def Subject.slice (text : Subject) (start stop : Nat) : String :=
  String.ofList (text.extract start stop).toList

namespace RuleMatch

/-- The match in full. -/
def shown (m : RuleMatch) : String :=
  "RuleMatch(index=" ++ toString m.index ++ ", text=" ++ quoted m.text ++
    ", start=" ++ toString m.start ++ ", end=" ++ toString m.stop ++ ")"

end RuleMatch

namespace Pattern

/-- Drops flags of the whole pattern from its front; they are among its compiled flags. -/
def withoutLeadingFlags (cs : List Char) : List Char :=
  match cs with
  | '(' :: '?' :: rest =>
    match rest.dropWhile fun c => "aiLmsux".toList.contains c with
    | ')' :: body => if rest.head? = some ')' then cs else body
    | _ => cs
  | _ => cs

/-- The source of the pattern with its flags carried by a group. A comment at the end of a verbose pattern
is ended by a line feed, so that it does not swallow the parenthesis. -/
def scopedSource (p : Pattern) : String :=
  let body := withoutLeadingFlags p.source.toList
  let letters := p.flags.scopeLetters
  if letters.contains 'x' then String.ofList (['(', '?'] ++ letters ++ ':' :: body ++ ['\n', ')'])
  else if !letters.isEmpty then String.ofList (['(', '?'] ++ letters ++ ':' :: body ++ [')'])
  else String.ofList body

end Pattern

namespace Composite

/-- The source of the merged pattern. -/
def sourceOf (parts : List Pattern) : String :=
  String.intercalate "|" (parts.map fun p => "(" ++ p.scopedSource ++ ")")

/-- The wrapper groups of the parts from index `index` on, the next free group being `group`. -/
def ownersFrom (group index : Nat) : List Pattern → List (Nat × Nat)
  | [] => []
  | p :: rest => (group, index) :: ownersFrom (group + 1 + p.groups) (index + 1) rest

end Composite

/-- Several patterns in one. -/
structure Composite where
  /-- The patterns that are merged, in order of priority. -/
  parts : List Pattern
  pattern : Pattern
  isMerged : Pattern.compile (Composite.sourceOf parts) {} = .ok pattern

namespace Composite

/-- The number of each wrapper group, with the index of its part. -/
def owners (c : Composite) : List (Nat × Nat) := ownersFrom 1 0 c.parts

/-- Merges patterns, in order of priority. -/
def build (parts : List Pattern) : Except Fault Composite :=
  match h : Pattern.compile (sourceOf parts) {} with
  | .ok merged => .ok ⟨parts, merged, h⟩
  | .error e => .error (.pattern e)

theorem build_parts {parts : List Pattern} {c : Composite} (h : build parts = .ok c) :
    c.parts = parts := by
  unfold build at h
  split at h
  · cases h
    rfl
  · cases h

/-- The first rule that matches at `pos`, even if it matches nothing. With no rules at all there is a match
but no group was closed, which is a fault. -/
def matchAt (c : Composite) (text : Subject) (pos : Nat) : Except Fault (Option RuleMatch) :=
  match c.pattern.matchAt text pos with
  | none => .ok none
  | some s =>
    match s.lastClosed? with
    | none => .error (.missingKey "None")
    | some g =>
      match c.owners.lookup g with
      | none => .error (.missingKey (toString g))
      | some index => .ok (some ⟨index, text.slice pos s.pos, pos, s.pos⟩)

/-- The match at an offset of a text, both given as values; an offset past the end is the end. -/
def matchValue (c : Composite) (text pos : Value) : Except Fault (Option RuleMatch) := do
  let offset ← pos.offset
  let subject ← text.subject
  c.matchAt subject (min offset subject.size)

/-- The pattern of a value that stands among rules to be merged. -/
def patternOf (v : Value) : Except Fault Pattern := do
  match (← v.field "pattern") with
  | .pattern p => .ok p
  | w =>
    match (← w.field "pattern") with
    | .str _ => .error (.noAttribute w.typeName "flags")
    | s => .error (.notText s.mismatch)

/-- Merges the patterns of values. -/
def ofValues (values : List Value) : Except Fault Composite := do
  build (← values.mapM patternOf)

end Composite

end PatternLexer
