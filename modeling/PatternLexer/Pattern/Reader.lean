import PatternLexer.Pattern.Reader.Element
import PatternLexer.Pattern.Reader.Opening

/-!
# Reading a pattern

A pattern is read by recursive descent: alternatives, the sequence of elements in each, and the groups among
the elements. The reader builds the tree, numbers the groups, and reports the first fault it meets.
-/

namespace PatternLexer

namespace Reader

/-! ## The pattern -/

/-- The elements read so far, in order and with bare groups dissolved. -/
def elements (found : List Element) : List Tree := found.reverse.flatMap Element.trees

/-- The piece ends an alternative. -/
def endsItem (p : Piece) : Bool := p = .char '|' || p = .char ')'

/-- The bounds of the repetition that the piece `p`, just left behind, announces; none if it does not. -/
def readRepetition (p : Piece) : Read (Option (Nat × Option Nat)) :=
  match p with
  | .char '?' => pure (some (0, some 1))
  | .char '*' => pure (some (0, none))
  | .char '+' => pure (some (1, none))
  | .char '\x7b' => readBounds
  | _ => pure none

/-- The element without groups that begins with the piece `p`, just left behind at offset `start`. -/
def readAtom (start : Nat) (p : Piece) : Read Tree :=
  match p with
  | .escape c => treeEscape c
  | .char '[' => readClass start
  | .char '.' => pure (.single .any)
  | .char '^' => pure (.anchor .lineStart)
  | .char '$' => pure (.anchor .lineEnd)
  | .char c => pure (.single (.code c.toNat))

/-- The elements of `found` with what the piece `p` adds to them, which opens no group. -/
def addPiece (start : Nat) (p : Piece) (found : List Element) : Read (List Element) := do
  match (← readRepetition p) with
  | some (least, most) => repeatLast start least most found
  | none => return .plain (← readAtom start p) :: found

mutual

/-- The alternatives from here to a closing parenthesis or to the end. -/
def alternatives (verbose nested : Bool) : (fuel : Nat) → Read (List (List Tree))
  | 0 => refuse .tooDeep 0
  | fuel + 1 => do
    let item ← sequence verbose [] fuel
    furtherItems verbose nested item fuel

/-- The alternative `item`, just read, and those after it. -/
def furtherItems (verbose nested : Bool) (item : List Tree) : (fuel : Nat) → Read (List (List Tree))
  | 0 => refuse .tooDeep 0
  | fuel + 1 => do
    if ← accept '|' then
      noteStarted
      let r ← here
      let verbose := if nested then verbose else r.flags.verbose
      return item :: (← alternatives verbose nested fuel)
    else return [item]

/-- The elements from here to the end of an alternative, after those of `found`. -/
def sequence (verbose : Bool) (found : List Element) : (fuel : Nat) → Read (List Tree)
  | 0 => refuse .tooDeep 0
  | fuel + 1 => do
    let start := (← here).pos
    match (← nextUnless endsItem) with
    | none => return elements found
    | some p =>
      if verbose && p.isChar isVerboseBlank then sequence verbose found fuel
      else if verbose && p = .char '#' then
        skipLine ((← here).rest.length + 1)
        sequence verbose found fuel
      else if p = .char '(' then
        match (← readOpening start) with
        | .comment => sequence verbose found fuel
        | .global on =>
          if (← here).started then refuseAt .misplacedFlags start
          else
            setFlags on
            sequence (← here).flags.verbose found fuel
        | opening =>
          noteStarted
          sequence verbose ((← group opening start verbose fuel) :: found) fuel
      else
        noteStarted
        sequence verbose (← addPiece start p found) fuel

/-- The group that `opening` announces, whose parenthesis stands at offset `start`. -/
def group (opening : Opening) (start : Nat) (verbose : Bool) : (fuel : Nat) → Read Element
  | 0 => refuse .tooDeep 0
  | fuel + 1 => do
    match opening with
    | .comment | .global _ => return .bare []
    | .reference t => return .plain t
    | .capturing name =>
      let g ← openGroup name
      let items ← enclosed start (alternatives verbose true fuel)
      let body := Tree.ofList (joinAlternatives items)
      closeGroup g body
      return .plain (.group g body)
    | .plain on off =>
      let verbose := (verbose || on.verbose) && !off.verbose
      let items ← enclosed start (alternatives verbose true fuel)
      let body := joinAlternatives items
      return if on.isEmpty && off.isEmpty then .bare body else .plain (.scope on off (.ofList body))
    | .atomic =>
      let items ← enclosed start (alternatives verbose true fuel)
      return .plain (.atomic (.ofList (joinAlternatives items)))
    | .ahead negated =>
      let items ← enclosed start (alternatives verbose true fuel)
      return .plain (.ahead negated (.ofList (joinAlternatives items)))
    | .behind negated =>
      let items ← inLookbehind (enclosed start (alternatives verbose true fuel))
      let body := Tree.ofList (joinAlternatives items)
      let width := body.width (groupWidth (← here).widths)
      return .plain (.behind negated width body)
    | .conditional g =>
      let (yes, no) ← enclosed start (branches verbose fuel)
      return .plain (.conditional g (.ofList yes) (.ofList no))

/-- The branches of a condition. -/
def branches (verbose : Bool) : (fuel : Nat) → Read (List Tree × List Tree)
  | 0 => refuse .tooDeep 0
  | fuel + 1 => do
    let yes ← sequence verbose [] fuel
    if ← accept '|' then
      let no ← sequence verbose [] fuel
      refuseIf ((← peek) = some (.char '|')) .tooManyBranches 0
      return (yes, no)
    else return (yes, [])

end

end Reader

end PatternLexer
