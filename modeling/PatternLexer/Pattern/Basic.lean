import PatternLexer.Pattern.Reader
import PatternLexer.Pattern.Search

/-!
# Compiled patterns

A pattern is compiled from its source and the flags given with it, and then matched at a place of a
text.
-/

namespace PatternLexer

/-- What the reader makes of a source. -/
structure Reading where
  flags : Flags
  tree : Tree
  /-- The number of capturing groups. -/
  groups : Nat
  /-- The named groups with their numbers, in the order in which they open. -/
  names : List (String × Nat)
  /-- The source refers to a group by its number, which is another one when the source becomes a part of
  a larger pattern. -/
  byNumber : Bool
  /-- The number of groups of flags of the whole pattern. -/
  flagGroups : Nat
deriving Repr, DecidableEq

namespace Tree

/-- How an unsupported repetition is called. -/
def repeatName : Greed → String
  | .greedy => "MAX_REPEAT"
  | .lazy => "MIN_REPEAT"
  | .possessive => "POSSESSIVE_REPEAT"

/-- The longest way that a lookbehind goes back. -/
def maxLookbehind : Nat := 0xFFFFFFFF

/-- The first fault of a tree that has been read: a lookbehind whose body has no fixed width, or a
repetition in a template. -/
def fault? (template : Bool) : Tree → Option PatternCause
  | .empty | .single _ | .anchor _ | .backref _ => none
  | .seq a b | .alt a b | .conditional _ a b => (a.fault? template).or (b.fault? template)
  | .group _ b | .scope _ _ b | .atomic b | .ahead _ b => b.fault? template
  | .behind _ width b =>
    if maxLookbehind < width.least then some .lookbehindTooLong
    else if width.most ≠ some width.least then some .variableLookbehind
    else b.fault? template
  | .many greed _ _ _ => if template then some (.templateRepeat (repeatName greed)) else none
  | .loop greed _ _ b =>
    if template then some (.templateRepeat (repeatName greed)) else b.fault? template

end Tree

namespace Reading

/-- Settles the choice of character classes: all scripts, unless ASCII is asked for. -/
def settleFlags (fs : Flags) : Except PatternFailure Flags :=
  if !fs.ascii then .ok { fs with unicode := true }
  else if fs.unicode then .error .flagsConflict
  else .ok fs

/-- Refuses a condition on a group that the pattern does not have. -/
def checkConditions : Read Unit := do
  let r ← Reader.here
  match r.mentioned.find? fun m => r.nextGroup ≤ m.1 with
  | some (g, pos) => Reader.refuseAt (.noSuchGroup g) pos
  | none => pure ()

/-- Refuses a tree with a fault. -/
def checkTree (template : Bool) (tree : Tree) : Read Unit := do
  match tree.fault? template with
  | some cause => Read.fail (.invalid ⟨cause, (← Reader.here).source, none⟩)
  | none => pure ()

/-- Reads the whole source. -/
def readAll : Read Reading := do
  Reader.checkDangling
  let r ← Reader.here
  let items ← Reader.alternatives r.flags.verbose false (8 * (r.rest.length + 2))
  let tree := Tree.ofList (Reader.joinAlternatives items)
  let r ← Reader.here
  let flags ← Read.ofExcept (settleFlags r.flags)
  Reader.refuseIf (!r.rest.isEmpty) .unbalancedParenthesis 0
  checkConditions
  checkTree flags.template tree
  return ⟨flags, tree, r.widths.length, r.names, r.byNumber, r.flagGroups⟩

/-- Reads a source under the flags given with it. -/
def ofSource (source : String) (given : Flags) : Except PatternFailure Reading :=
  (readAll.run (.start source given)).map (·.1)

end Reading

/-- A compiled pattern: a source, and what the reader made of it under the flags given with it. -/
structure Pattern extends Reading where
  source : String
  isRead : ∃ given, Reading.ofSource source given = .ok toReading
deriving Repr, DecidableEq

namespace Pattern

/-- Compiles a pattern. -/
def compile (source : String) (given : Flags) : Except PatternFailure Pattern :=
  match h : Reading.ofSource source given with
  | .ok reading => .ok ⟨reading, source, given, h⟩
  | .error e => .error e

/-- Matches the pattern at `pos`: where the search stands at the end of the first way to match. -/
def matchAt (p : Pattern) (text : Subject) (pos : Nat) : Option Progress :=
  p.tree.search text p.flags (.start pos) some

/-- The pattern matches the empty text. -/
def matchesEmpty (p : Pattern) : Bool := (p.matchAt #[] 0).isSome

end Pattern

/-- A pattern that a caller has compiled from bytes, with what is asked of it. It can be tried on bytes only, and
nothing here is: so its reading is left out. -/
structure BytesPattern where
  source : List UInt8
  flags : List Flag
  groups : Nat
  /-- The named groups with their numbers, in the order in which they open. -/
  names : List (String × Nat)
deriving Repr, DecidableEq

/-- A compiled pattern of either kind. -/
inductive CompiledPattern where
  | text (p : Pattern)
  | bytes (p : BytesPattern)

/-- The named groups of a compiled pattern. -/
def CompiledPattern.names : CompiledPattern → List (String × Nat)
  | text p => p.names
  | bytes p => p.names

end PatternLexer
