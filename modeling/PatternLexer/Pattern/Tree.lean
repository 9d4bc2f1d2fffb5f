import PatternLexer.Pattern.Flags

/-!
# Pattern trees

The abstract form of a pattern: elements of one character, anchors, sequences, ordered alternatives,
capturing groups, groups that change flags, assertions, repetitions, references to groups and
conditions on them. Groups are numbered from 1 in the order in which they open.
-/

namespace PatternLexer

/-- A class of characters with a letter of its own. -/
inductive Category where
  | digit
  | space
  | word
deriving Repr, DecidableEq

/-- One entry of a bracketed class. -/
inductive ClassItem where
  | code (c : Nat)
  | range (low high : Nat)
  | category (k : Category) (negated : Bool)
deriving Repr, DecidableEq

/-- A pattern that matches exactly one character. -/
inductive Single where
  | any
  | code (c : Nat)
  | notCode (c : Nat)
  | oneOf (negated : Bool) (items : List ClassItem)
deriving Repr, DecidableEq

/-- A condition on a place in the text. -/
inductive Anchor where
  /-- The start of the text, or of a line when the pattern is multi-line. -/
  | lineStart
  | textStart
  /-- The end of the text, or the place before a last line feed, or before any when multi-line. -/
  | lineEnd
  | textEnd
  /-- Between a word character and another character or an end of the text. -/
  | boundary
  | notBoundary
deriving Repr, DecidableEq

/-- How a repetition chooses its count. -/
inductive Greed where
  /-- As many as possible, fewer if what follows fails. -/
  | greedy
  /-- As few as possible, more if what follows fails. -/
  | lazy
  /-- As many as possible, never fewer. -/
  | possessive
deriving Repr, DecidableEq

/-- The number of characters that a pattern can match; `most` is absent when there is no bound. -/
structure Width where
  least : Nat
  most : Option Nat
deriving Repr, DecidableEq

/-- A pattern. -/
inductive Tree where
  | empty
  | single (u : Single)
  | anchor (a : Anchor)
  | seq (first second : Tree)
  /-- The alternatives are tried in order. -/
  | alt (first second : Tree)
  | group (index : Nat) (body : Tree)
  | scope (on off : Flags) (body : Tree)
  /-- Only the first way in which the body matches counts. -/
  | atomic (body : Tree)
  | ahead (negated : Bool) (body : Tree)
  /-- The body has to match the text just before; `width` is what it can cover. -/
  | behind (negated : Bool) (width : Width) (body : Tree)
  | many (greed : Greed) (least : Nat) (most : Option Nat) (u : Single)
  | loop (greed : Greed) (least : Nat) (most : Option Nat) (body : Tree)
  /-- The text that the group matched last. -/
  | backref (index : Nat)
  /-- `yes` if the group has matched, else `no`. -/
  | conditional (index : Nat) (yes no : Tree)
deriving Repr, DecidableEq, Inhabited

namespace Width

/-- Exactly `n` characters. -/
def exactly (n : Nat) : Width := ⟨n, some n⟩

/-- One after the other. -/
def add (a b : Width) : Width :=
  ⟨a.least + b.least, match a.most, b.most with
    | some m, some n => some (m + n)
    | _, _ => none⟩

/-- One or the other. -/
def join (a b : Width) : Width :=
  ⟨min a.least b.least, match a.most, b.most with
    | some m, some n => some (max m n)
    | _, _ => none⟩

/-- Between `low` and `high` times; no bound on the count gives no bound on the width unless the body
is empty. -/
def times (a : Width) (low : Nat) (high : Option Nat) : Width :=
  ⟨a.least * low, match high, a.most with
    | none, some 0 => some 0
    | none, _ => none
    | some 0, _ => some 0
    | some n, some m => some (m * n)
    | some _, none => none⟩

end Width

namespace Tree

/-- The sequence of a list of patterns. -/
def ofList : List Tree → Tree
  | [] => .empty
  | [t] => t
  | t :: rest => .seq t (ofList rest)

/-- The ordered alternatives of a list of sequences. -/
def ofAlternatives : List (List Tree) → Tree
  | [] => .empty
  | [item] => ofList item
  | item :: rest => .alt (ofList item) (ofAlternatives rest)

/-- The width of a pattern, given the widths of the groups it refers to. -/
def width (groups : Nat → Width) : Tree → Width
  | .empty | .anchor _ | .ahead _ _ | .behind _ _ _ => .exactly 0
  | .single _ => .exactly 1
  | .seq a b => (a.width groups).add (b.width groups)
  | .alt a b => (a.width groups).join (b.width groups)
  | .group _ b | .scope _ _ b | .atomic b => b.width groups
  | .many _ low high _ => (Width.exactly 1).times low high
  | .loop _ low high b => (b.width groups).times low high
  | .backref g => groups g
  | .conditional _ yes no => (yes.width groups).join (no.width groups)

/-- The pattern with every group number increased by `n`. -/
def shift (n : Nat) : Tree → Tree
  | .empty => .empty
  | .single u => .single u
  | .anchor a => .anchor a
  | .seq a b => .seq (a.shift n) (b.shift n)
  | .alt a b => .alt (a.shift n) (b.shift n)
  | .group g b => .group (g + n) (b.shift n)
  | .scope on off b => .scope on off (b.shift n)
  | .atomic b => .atomic (b.shift n)
  | .ahead neg b => .ahead neg (b.shift n)
  | .behind neg w b => .behind neg w (b.shift n)
  | .many g low high u => .many g low high u
  | .loop g low high b => .loop g low high (b.shift n)
  | .backref g => .backref (g + n)
  | .conditional g yes no => .conditional (g + n) (yes.shift n) (no.shift n)

end Tree

end PatternLexer
