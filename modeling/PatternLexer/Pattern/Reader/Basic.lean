import PatternLexer.Pattern.Error
import PatternLexer.Pattern.Tree

/-!
# The reader of patterns

The reader goes through the source of a pattern piece by piece; a piece is a character or a backslash with the
character after it. A reading step either moves the reader on or refuses the pattern at an offset. It never
moves the reader back, which is a part of the type of steps.
-/

namespace PatternLexer

/-- The smallest unit of a pattern's source. -/
inductive Piece where
  | char (c : Char)
  | escape (c : Char)
deriving Repr, DecidableEq

namespace Piece

/-- The source of a piece. -/
def chars : Piece → List Char
  | .char c => [c]
  | .escape c => ['\\', c]

/-- The source of a piece as a text. -/
def text (p : Piece) : String := String.ofList p.chars

/-- The piece is a character that satisfies `p`. -/
def isChar (p : Char → Bool) : Piece → Bool
  | .char c => p c
  | .escape _ => false

/-- The piece that a source begins with. -/
def first? : List Char → Option Piece
  | [] => none
  | '\\' :: c :: _ => some (.escape c)
  | c :: _ => some (.char c)

end Piece

/-- Where the reader stands. -/
structure Reader where
  source : String
  /-- The source from the next piece on. -/
  rest : List Char
  /-- The offset of the next piece. -/
  pos : Nat
  /-- The flags of the whole pattern. -/
  flags : Flags
  /-- The named groups, in the order in which they open. -/
  names : List (String × Nat) := []
  /-- The widths of the groups opened so far; an open group has none yet. -/
  widths : List (Option Width) := []
  /-- Inside a lookbehind, the first group number that was free when the outermost one began. -/
  lookbehind : Option Nat := none
  /-- Group numbers that conditions mention, with the offset of the first mention. -/
  mentioned : List (Nat × Nat) := []
  /-- A group has been referred to by its number. -/
  byNumber : Bool := false
  /-- How many groups of flags of the whole pattern have been read. -/
  flagGroups : Nat := 0
  /-- Something has been read that no flags of the whole pattern may stand after. -/
  started : Bool := false
deriving Repr

/-- The reader at the start of a source, under the flags given with it. -/
def Reader.start (source : String) (given : Flags) : Reader where
  source := source
  rest := source.toList
  pos := 0
  flags := given

/-- `s` can be reached from `r` by reading: what is left of the source was left before, what was noted
stays noted, lookbehinds around are the same, and the flags of the whole pattern change by groups of such flags
only, which stand at its start, and none is taken back. -/
structure Reader.Before (r s : Reader) : Prop where
  rest : s.rest <:+ r.rest
  names : r.names <+: s.names
  lookbehind : s.lookbehind = r.lookbehind
  byNumber : r.byNumber = true → s.byNumber = true
  verbose : r.flags.verbose = true → s.flags.verbose = true
  fixed : r.started = true → s.started = true ∧ s.flags = r.flags
  flagGroups : r.flagGroups ≤ s.flagGroups
  unset : s.flagGroups = r.flagGroups → s.flags = r.flags

/-- Steps that note nothing and leave the flags as they are. -/
theorem Reader.Before.of_rest {r : Reader} {rest : List Char} (h : rest <:+ r.rest) (pos : Nat) :
    r.Before { r with rest := rest, pos := pos } where
  rest := h
  names := List.prefix_refl _
  lookbehind := rfl
  byNumber := id
  verbose := id
  fixed hr := ⟨hr, rfl⟩
  flagGroups := Nat.le_refl _
  unset _ := rfl

namespace Reader.Before

/-- A reader is before itself. -/
theorem refl (r : Reader) : r.Before r := .of_rest (List.suffix_refl _) r.pos

/-- Steps forward can be put together. -/
theorem trans {r s t : Reader} (h : r.Before s) (h' : s.Before t) : r.Before t where
  rest := h'.rest.trans h.rest
  names := h.names.trans h'.names
  lookbehind := h'.lookbehind.trans h.lookbehind
  byNumber := h'.byNumber ∘ h.byNumber
  verbose := h'.verbose ∘ h.verbose
  fixed hr :=
    have hs := h.fixed hr
    have ht := h'.fixed hs.1
    ⟨ht.1, ht.2.trans hs.2⟩
  flagGroups := Nat.le_trans h.flagGroups h'.flagGroups
  unset ht :=
    have hle := h.flagGroups
    have hle' := h'.flagGroups
    have hs := h.unset (by omega)
    (h'.unset (by omega)).trans hs

end Reader.Before

/-- A reading step, which moves the reader forward unless it refuses the pattern. -/
structure Read (α : Type) where
  run : Reader → Except PatternFailure (α × Reader)
  forward : ∀ {r a s}, run r = .ok (a, s) → r.Before s

namespace Read

variable {α β : Type}

/-- Does nothing but yield a value. -/
def ret (a : α) : Read α where
  run r := .ok (a, r)
  forward := by
    intro r b s h
    cases h
    exact .refl r

/-- Takes one step and then the next. -/
def andThen (x : Read α) (f : α → Read β) : Read β where
  run r :=
    match x.run r with
    | .ok (a, t) => (f a).run t
    | .error e => .error e
  forward := by
    intro r b s h
    split at h
    · rename_i a t hx
      exact (x.forward hx).trans ((f a).forward h)
    · cases h

instance : Monad Read where
  pure := ret
  bind := andThen

/-- Ends the reading. -/
def fail (failure : PatternFailure) : Read α where
  run _ := .error failure
  forward := by
    intro r a s h
    cases h

/-- The value, unless there is none. -/
def ofExcept (x : Except PatternFailure α) : Read α :=
  match x with
  | .ok a => pure a
  | .error e => fail e

/-- Takes the step, and goes back if it yields nothing. -/
def attempt (x : Read (Option α)) : Read (Option α) where
  run r :=
    match x.run r with
    | .ok (some a, s) => .ok (some a, s)
    | .ok (none, _) => .ok (none, r)
    | .error e => .error e
  forward := by
    intro r a s h
    split at h
    · rename_i hx
      cases h
      exact x.forward hx
    · cases h
      exact .refl r
    · cases h

/-- Changes the reader in a way that moves it forward. -/
def move (f : Reader → Reader) (hf : ∀ r : Reader, r.Before (f r)) : Read Unit where
  run r := .ok ((), f r)
  forward := by
    intro r u s h
    cases h
    exact hf r

end Read

namespace Reader

variable {α : Type}

/-! ## Pieces -/

/-- The number that the next group gets. -/
def nextGroup (r : Reader) : Nat := r.widths.length + 1

/-- The group has been closed. -/
def isClosed (r : Reader) (g : Nat) : Bool :=
  match g with
  | 0 => false
  | i + 1 => ((r.widths[i]?).getD none).isSome

/-- The width of a closed group. -/
def groupWidth (widths : List (Option Width)) (g : Nat) : Width :=
  ((widths[g - 1]?).getD none).getD (.exactly 0)

/-- Where the reader stands. -/
def here : Read Reader where
  run r := .ok (r, r)
  forward := by
    intro r a s h
    cases h
    exact .refl r

/-- Refuses the pattern, at the given offset. -/
def refuseAt (cause : PatternCause) (pos : Nat) : Read α := do
  Read.fail (.invalid ⟨cause, (← here).source, some pos⟩)

/-- Refuses the pattern, `back` characters before the next piece. -/
def refuse (cause : PatternCause) (back : Nat) : Read α := do
  refuseAt cause ((← here).pos - back)

/-- Refuses the pattern if `bad` holds. -/
def refuseIf (bad : Bool) (cause : PatternCause) (back : Nat) : Read Unit :=
  if bad then refuse cause back else pure ()

/-- A backslash that nothing follows is refused as soon as it is the next piece. -/
def checkDangling : Read Unit := do
  refuseIf ((← here).rest == ['\\']) .danglingEscape 0

/-- The next piece, which stays. -/
def peek : Read (Option Piece) := return Piece.first? (← here).rest

/-- The reader past the piece `p`. -/
def past (r : Reader) (p : Piece) : Reader :=
  { r with rest := r.rest.drop p.chars.length, pos := r.pos + p.chars.length }

/-- Leaving a piece behind is a step forward. -/
theorem before_past (r : Reader) (p : Piece) : r.Before (r.past p) := .of_rest (List.drop_suffix _ _) _

/-- Leaves the next piece behind and returns it, unless there is none or `stop` holds of it. -/
def nextUnless (stop : Piece → Bool) : Read (Option Piece) := do
  match (← peek) with
  | none => pure none
  | some p =>
    if stop p then pure none
    else
      Read.move (past · p) (before_past · p)
      checkDangling
      pure (some p)

/-- Leaves the next piece behind and returns it. -/
def next : Read (Option Piece) := nextUnless fun _ => false

/-- Leaves the next piece behind and returns it; at the end of the source, refuses. -/
def nextOr (refusal : Read Piece) : Read Piece := do
  match (← next) with
  | some p => pure p
  | none => refusal

/-- Leaves the next piece behind if it is the character `c`. -/
def accept (c : Char) : Read Bool := return (← nextUnless (· != .char c)).isSome

/-- The next pieces that are characters satisfying `p`, at most `limit` of them. -/
def takeWhile (p : Char → Bool) : (limit : Nat) → Read (List Char)
  | 0 => pure []
  | limit + 1 => do
    match (← nextUnless fun q => !q.isChar p) with
    | some q => return q.chars ++ (← takeWhile p limit)
    | none => pure []

/-- The next pieces that are characters satisfying `p`, all of them. -/
def takeAll (p : Char → Bool) : (fuel : Nat) → Read (List Char)
  | 0 => refuse .tooDeep 0
  | fuel + 1 => do
    match (← nextUnless fun q => !q.isChar p) with
    | some q => return q.chars ++ (← takeAll p fuel)
    | none => pure []

/-- The complaint about a name that the source ends in. -/
def unfinishedName (stop : Char) (what : String) (found : List Char) : Read α :=
  if found.isEmpty then refuse (.missing what) 0
  else refuse (.missing (String.ofList [stop] ++ ", unterminated name")) found.length

/-- The source up to the character `stop`, which is left behind too; `what` names it in complaints. -/
def takeUntil (stop : Char) (what : String) : (fuel : Nat) → List Char → Read String
  | 0, _ => refuse .tooDeep 0
  | fuel + 1, found => do
    let p ← nextOr (unfinishedName stop what found)
    if p = .char stop then
      if found.isEmpty then refuse (.missing what) 1 else pure (String.ofList found)
    else takeUntil stop what fuel (found ++ p.chars)

/-- A name up to the character `stop`. -/
def readName (stop : Char) (what : String) : Read String := do
  takeUntil stop what ((← here).rest.length + 1) []

end Reader

end PatternLexer
