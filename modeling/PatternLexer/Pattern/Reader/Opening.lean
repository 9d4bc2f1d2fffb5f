import PatternLexer.Pattern.Reader.Escape

/-!
# The front of a group

What follows an opening parenthesis decides what kind of group it opens: flags, a name, an assertion, a
condition, or nothing of this kind.
-/

namespace PatternLexer

open Text

namespace Reader

/-- What the front of a parenthesis announces. -/
inductive Opening where
  | comment
  /-- Flags of the whole pattern. -/
  | global (on : Flags)
  | reference (t : Tree)
  | capturing (name : Option String)
  | plain (on off : Flags)
  | atomic
  | ahead (negated : Bool)
  | behind (negated : Bool)
  | conditional (group : Nat)

/-! ## Flags in a group -/

/-- The option that a piece names. -/
def flagOf? : Piece → Option Flag
  | .char c => Flag.ofLetter? c
  | .escape _ => none

/-- The piece is one letter of some script. -/
def isLetter : Piece → Bool
  | .char c => isAlphabetic c.toNat
  | .escape _ => false

/-- The complaint about a piece that names no option where one, or `expected`, has to stand. -/
def badFlag {α : Type} (expected : String) (p : Piece) : Read α :=
  refuse (if isLetter p then .unknownFlag else .missing expected) p.chars.length

/-- The options to switch on, `flag` and those after it, and the piece that ends them. -/
def flagsOn : (fuel : Nat) → Flags → Flag → Read (Flags × Piece)
  | 0, _, _ => refuse .tooDeep 0
  | fuel + 1, on, flag => do
    refuseIf (flag = .locale) .localeFlag 0
    let on := on.insert flag
    refuseIf (flag.choosesClasses && on.ascii && on.unicode) .incompatibleFlags 0
    let p ← nextOr (refuse (.missing "-, : or )") 0)
    if p.isChar fun c => c = ')' || c = '-' || c = ':' then return (on, p)
    match flagOf? p with
    | some following => flagsOn fuel on following
    | none => badFlag "-, : or )" p

/-- The options to switch off, `flag` and those after it up to a colon. -/
def flagsOff : (fuel : Nat) → Flags → Flag → Read Flags
  | 0, _, _ => refuse .tooDeep 0
  | fuel + 1, off, flag => do
    refuseIf flag.choosesClasses .classesFlagOff 0
    let off := off.insert flag
    let p ← nextOr (refuse (.missing ":") 0)
    if p = .char ':' then return off
    match flagOf? p with
    | some following => flagsOff fuel off following
    | none => badFlag ":" p

/-- The options to switch on at the front of a group, of which `first` is one, if any are. -/
def readFlagsOn (first : Option Flag) : Read (Flags × Piece) := do
  match first with
  | some flag => flagsOn ((← here).rest.length + 2) {} flag
  | none => pure ({}, .char '-')

/-- The options to switch off, after the piece `stop`, which ends those to switch on. -/
def readFlagsOff (stop : Piece) : Read Flags := do
  if stop = .char '-' then
    let fuel := (← here).rest.length + 2
    let p ← nextOr (refuse (.missing "flag") 0)
    match flagOf? p with
    | some flag => flagsOff fuel {} flag
    | none => badFlag "flag" p
  else pure {}

/-- Switches options on for the whole pattern, at its start. -/
def setFlags (on : Flags) : Read Unit :=
  .move (fun r =>
      if r.started then r
      else { r with flags := r.flags.union on, flagGroups := r.flagGroups + 1 }) fun r => by
    split
    · exact .refl r
    · rename_i h
      exact
        { Before.refl r with
          verbose := fun hv => by simp [Flags.union, hv]
          fixed := fun hs => absurd hs h
          flagGroups := Nat.le_succ _
          unset := fun hsame => absurd hsame (Nat.succ_ne_self _) }

/-- Notes that flags of the whole pattern may not follow. -/
def noteStarted : Read Unit :=
  .move ({ · with started := true }) fun r => { Before.refl r with fixed := fun _ => ⟨rfl, rfl⟩ }

/-- The flags that begin with the option `first`, or with a minus sign if there is none, and hold for the
whole pattern or for the group that they stand in. -/
def readFlags (first : Option Flag) : Read Opening := do
  let (on, stop) ← readFlagsOn first
  if stop = .char ')' then return .global on
  refuseIf on.template .globalFlagOn 1
  let off ← readFlagsOff stop
  refuseIf off.template .globalFlagOff 1
  refuseIf (!(on.inter off).isEmpty) .flagOnAndOff 1
  return .plain on off

/-! ## Groups -/

/-- The number of a named group. -/
def lookup (name : String) : Read (Option Nat) := do
  return (← here).names.lookup name

/-- A name between a parenthesis and `stop` that has to be well formed. -/
def readGroupName (stop : Char) : Read String := do
  let name ← readName stop "group name"
  refuseIf (!isName name) (.badGroupName name) (name.length + 1)
  pure name

/-- Gives a name to the group `g`. -/
def recordName (name : String) (g : Nat) : Read Unit := do
  match (← lookup name) with
  | some earlier => refuse (.repeatedGroupName name g earlier) (name.length + 1)
  | none =>
    .move (fun r => { r with names := r.names ++ [(name, g)] }) fun r =>
      { Before.refl r with names := List.prefix_append _ _ }

/-- Opens a group, named or not, and returns its number. -/
def openGroup (name : Option String) : Read Nat := do
  let g := (← here).nextGroup
  if let some n := name then recordName n g
  .move (fun r => { r with widths := r.widths ++ [none] }) fun r => { Before.refl r with }
  pure g

/-- Closes a group whose body has been read. -/
def closeGroup (g : Nat) (body : Tree) : Read Unit :=
  .move
    (fun r => { r with widths := r.widths.set (g - 1) (some (body.width (groupWidth r.widths))) })
    fun r => { Before.refl r with }

/-- The number of a group that is referred to by name, in a reference that is `back` characters long. -/
def groupNamed (name : String) (back : Nat) : Read Nat := do
  match (← lookup name) with
  | none => refuse (.unknownGroupName name) back
  | some g => pure g

/-- A reference to a group by name. -/
def namedReference : Read Tree := do
  let name ← readGroupName ')'
  let g ← groupNamed name (name.length + 1)
  refuseIf (!(← here).isClosed g) .openGroup (name.length + 1)
  checkLookbehind g
  pure (.backref g)

/-- The least group number that no condition may mention. -/
def maxGroups : Nat := 1073741823

/-- Notes that a condition of `back` characters mentions the group `g`. -/
def noteCondition (g back : Nat) : Read Unit :=
  .move (fun r =>
      { r with
        mentioned :=
          if r.mentioned.any (·.1 == g) then r.mentioned else r.mentioned ++ [(g, r.pos - back)] })
    fun r => { Before.refl r with }

/-- The group that a condition is on, by a number that is `back` characters long with its parenthesis. -/
def groupNumbered (text : String) (back : Nat) : Read Nat := do
  match readInteger text with
  | .error _ => refuse (.badGroupName text) back
  | .ok n =>
    noteNumber
    refuseIf (n < 0) (.badGroupName text) back
    let g := n.toNat
    refuseIf (g = 0) .badGroupNumber back
    refuseIf (maxGroups ≤ g) (.noSuchGroup g) back
    noteCondition g back
    pure g

/-- The group that a condition is on, by name or by number. -/
def conditionGroup (text : String) (back : Nat) : Read Nat :=
  if isName text then groupNamed text back else groupNumbered text back

/-- A condition up to its closing parenthesis. -/
def readCondition : Read Nat := do
  let text ← readName ')' "group name"
  let g ← conditionGroup text (text.length + 1)
  checkLookbehind g
  pure g

/-- Leaves a comment behind, up to its closing parenthesis; `start` is the offset of the opening one. -/
def skipComment (start : Nat) : (fuel : Nat) → Read Unit
  | 0 => refuse .tooDeep 0
  | fuel + 1 => do
    let p ← nextOr (refuseAt (.missing "), unterminated comment") start)
    if p = .char ')' then pure () else skipComment start fuel

/-- Leaves the rest of a line behind. -/
def skipLine : (fuel : Nat) → Read Unit
  | 0 => refuse .tooDeep 0
  | fuel + 1 => do
    match (← next) with
    | none => pure ()
    | some p => if p = .char '\n' then pure () else skipLine fuel

/-- The characters that are skipped in a verbose pattern. -/
def isVerboseBlank (c : Char) : Bool := c = ' ' || (9 ≤ c.toNat && c.toNat ≤ 13)

/-- What follows `(?P`. -/
def readNamed : Read Opening := do
  if ← accept '<' then return .capturing (some (← readGroupName '>'))
  if ← accept '=' then return .reference (← namedReference)
  let p ← nextOr (refuse .unexpectedEnd 0)
  refuse (.unknownExtension ("P" ++ p.text)) (p.chars.length + 2)

/-- What follows `(?<`. -/
def readBehind : Read Opening := do
  let p ← nextOr (refuse .unexpectedEnd 0)
  if p = .char '=' then pure (.behind false)
  else if p = .char '!' then pure (.behind true)
  else refuse (.unknownExtension ("<" ++ p.text)) (p.chars.length + 2)

/-- What the piece `p` announces, just left behind after a parenthesis at offset `start` and a question
mark. -/
def readExtension (start : Nat) (p : Piece) : Read Opening := do
  match p with
  | .char 'P' => readNamed
  | .char ':' => pure (.plain {} {})
  | .char '#' =>
    skipComment start ((← here).rest.length + 1)
    pure .comment
  | .char '=' => pure (.ahead false)
  | .char '!' => pure (.ahead true)
  | .char '<' => readBehind
  | .char '(' => return .conditional (← readCondition)
  | .char '>' => pure .atomic
  | _ =>
    if (flagOf? p).isSome || p = .char '-' then readFlags (flagOf? p)
    else refuse (.unknownExtension p.text) (p.chars.length + 1)

/-- What follows a parenthesis at offset `start`. -/
def readOpening (start : Nat) : Read Opening := do
  if !(← accept '?') then return .capturing none
  readExtension start (← nextOr (refuse .unexpectedEnd 0))

/-- What stands in a lookbehind. It notes the group number that was free when the outermost one around began. -/
def inLookbehind {α : Type} (inside : Read α) : Read α where
  run r :=
    match inside.run { r with lookbehind := some (r.lookbehind.getD r.nextGroup) } with
    | .ok (a, s) => .ok (a, { s with lookbehind := r.lookbehind })
    | .error e => .error e
  forward := by
    intro r a s h
    split at h
    · rename_i b t ht
      cases h
      exact { inside.forward ht with lookbehind := rfl }
    · cases h

/-- Leaves the closing parenthesis behind; `start` is the offset of the opening one. -/
def closeParenthesis (start : Nat) : Read Unit := do
  if !(← accept ')') then refuseAt (.missing "), unterminated subpattern") start

/-- What stands in parentheses, the opening one, at offset `start`, just left behind. -/
def enclosed {α : Type} (start : Nat) (inside : Read α) : Read α := do
  let a ← inside
  closeParenthesis start
  pure a

end Reader

end PatternLexer
