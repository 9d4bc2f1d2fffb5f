import PatternLexer.Pattern.Class

/-!
# Matching a pattern against a text

A pattern is matched from a given place by ordered search: alternatives from left to right, repetition
by its greed, and a return to the last choice whenever what follows fails. The search takes what
follows as a function, so the answer is the first way of matching the pattern and then the rest.

The state of a search is the offset reached and the list of the group ends passed on the way, the
latest first. A choice that is taken back takes back the ends passed since.
-/

namespace PatternLexer

/-- The text that is matched, by code point. -/
abbrev Subject := Array Char

/-- A group opened or closed at an offset. -/
structure Mark where
  group : Nat
  closes : Bool
  offset : Nat
deriving Repr, DecidableEq

/-- Where a search stands. -/
structure Progress where
  pos : Nat
  /-- The latest mark first. -/
  marks : List Mark
deriving Repr, DecidableEq

namespace Progress

/-- The start of a search. -/
def start (pos : Nat) : Progress := ⟨pos, []⟩

/-- `n` characters further. -/
def advance (s : Progress) (n : Nat) : Progress := { s with pos := s.pos + n }

/-- Opens a group here. -/
def opening (s : Progress) (g : Nat) : Progress := { s with marks := ⟨g, false, s.pos⟩ :: s.marks }

/-- Closes a group here. -/
def closing (s : Progress) (g : Nat) : Progress := { s with marks := ⟨g, true, s.pos⟩ :: s.marks }

/-- Where the group was last opened (`closes := false`) or closed. -/
def lastMark? (s : Progress) (g : Nat) (closes : Bool) : Option Nat :=
  (s.marks.find? fun m => m.group == g && m.closes == closes).map (·.offset)

/-- The span of a group, from its last opening to its last closing, if they are in this order. -/
def span? (s : Progress) (g : Nat) : Option (Nat × Nat) :=
  match s.lastMark? g false, s.lastMark? g true with
  | some a, some b => if a ≤ b then some (a, b) else none
  | _, _ => none

/-- The group that was closed last. -/
def lastClosed? (s : Progress) : Option Nat :=
  (s.marks.find? (·.closes)).map (·.group)

end Progress

/-! ## Anchors and elements of one character -/

/-- The character at `pos` satisfies `p`. -/
def Subject.at? (text : Subject) (pos : Nat) (p : Nat → Bool) : Bool :=
  match text[pos]? with
  | some c => p c.toNat
  | none => false

/-- Whether a word character stands on exactly one side of `pos`. -/
def Subject.isBoundary (text : Subject) (fs : Flags) (pos : Nat) : Bool :=
  let word := fun code => Category.word.holds fs code
  (pos != 0 && Subject.at? text (pos - 1) word) != Subject.at? text pos word

/-- Whether the anchor holds at `pos`. Neither boundary condition holds in an empty text. -/
def Anchor.holds (fs : Flags) (text : Subject) (pos : Nat) : Anchor → Bool
  | .lineStart =>
    pos == 0 || (fs.multiline && Subject.at? text (pos - 1) (· == 10))
  | .textStart => pos == 0
  | .lineEnd =>
    pos == text.size || ((fs.multiline || pos + 1 == text.size) && Subject.at? text pos (· == 10))
  | .textEnd => pos == text.size
  | .boundary => text.size != 0 && text.isBoundary fs pos
  | .notBoundary => text.size != 0 && !text.isBoundary fs pos

/-- The number of characters from `pos` on that the element accepts, at most `limit`. -/
def Single.runLength (u : Single) (fs : Flags) (text : Subject) : (limit pos : Nat) → Nat
  | 0, _ => 0
  | limit + 1, pos =>
    if Subject.at? text pos fun code => u.accepts fs code then
      u.runLength fs text limit (pos + 1) + 1
    else 0

/-! ## Repetition -/

/-- What follows in a search. -/
abbrev Next := Progress → Option Progress

/-- Goes on after `n` characters, or else after one fewer, down to `least`. -/
def Progress.fewer (s : Progress) (least : Nat) (next : Next) : Nat → Option Progress
  | 0 => if least = 0 then next s else none
  | n + 1 =>
    if n + 1 < least then none
    else match next (s.advance (n + 1)) with
      | some r => some r
      | none => s.fewer least next n

/-- Goes on after `count` characters, or else after one more, `extra` times. -/
def Progress.more (s : Progress) (next : Next) : (extra count : Nat) → Option Progress
  | 0, count => next (s.advance count)
  | extra + 1, count =>
    match next (s.advance count) with
    | some r => some r
    | none => s.more next extra (count + 1)

/-- The most characters that a repetition covers where there are `room` of them. -/
def capped (most : Option Nat) (room : Nat) : Nat :=
  match most with
  | some m => min m room
  | none => room

/-- Repetition of an element of one character. -/
def Single.search (u : Single) (fs : Flags) (text : Subject) (greed : Greed) (least : Nat)
    (most : Option Nat) (s : Progress) (next : Next) : Option Progress :=
  let found := u.runLength fs text (capped most (text.size - s.pos)) s.pos
  if found < least then none
  else match greed with
    | .greedy => s.fewer least next found
    | .lazy => s.more next (found - least) least
    | .possessive => next (s.advance found)

/-- Whether a further round is allowed after `count` of them. -/
def allows (most : Option Nat) (count : Nat) : Bool :=
  match most with
  | some m => count < m
  | none => true

/-- Rounds of `round`, as many as possible first. Past the required ones a round is tried only if it
starts elsewhere than the optional round before it, at `last`. -/
def greedyRounds (round : Progress → Next → Option Progress) (least : Nat) (most : Option Nat) :
    (fuel count : Nat) → (last : Option Nat) → Progress → Next → Option Progress
  | 0, _, _, _, _ => none
  | fuel + 1, count, last, s, next =>
    if count < least then
      round s fun t => greedyRounds round least most fuel (count + 1) last t next
    else if allows most count && last != some s.pos then
      match round s fun t => greedyRounds round least most fuel (count + 1) (some s.pos) t next with
      | some r => some r
      | none => next s
    else next s

/-- Rounds of `round`, as few as possible first, with the same restriction on optional rounds. -/
def lazyRounds (round : Progress → Next → Option Progress) (least : Nat) (most : Option Nat) :
    (fuel count : Nat) → (last : Option Nat) → Progress → Next → Option Progress
  | 0, _, _, _, _ => none
  | fuel + 1, count, last, s, next =>
    if count < least then
      round s fun t => lazyRounds round least most fuel (count + 1) last t next
    else match next s with
      | some r => some r
      | none =>
        if allows most count && last != some s.pos then
          round s fun t => lazyRounds round least most fuel (count + 1) (some s.pos) t next
        else none

/-- Rounds of `round`, each the first way in which it matches, until one fails or moves nothing. -/
def possessiveRounds (round : Progress → Next → Option Progress) (least : Nat) (most : Option Nat) :
    (fuel count : Nat) → Progress → Option Progress
  | 0, _, _ => none
  | fuel + 1, count, s =>
    if count < least then
      match round s some with
      | some t => possessiveRounds round least most fuel (count + 1) t
      | none => none
    else if allows most count then
      match round s some with
      | some t => if t.pos = s.pos then some t else possessiveRounds round least most fuel (count + 1) t
      | none => some s
    else some s

/-- Repetition of a pattern. The required rounds and one more than the characters left bound the number
of rounds. -/
def rounds (text : Subject) (round : Progress → Next → Option Progress) (greed : Greed) (least : Nat)
    (most : Option Nat) (s : Progress) (next : Next) : Option Progress :=
  let fuel := least + (text.size - s.pos) + 2
  match greed with
  | .greedy => greedyRounds round least most fuel 0 none s next
  | .lazy => lazyRounds round least most fuel 0 none s next
  | .possessive =>
    match possessiveRounds round least most fuel 0 s with
    | some t => next t
    | none => none

/-! ## The search -/

/-- The characters of the span stand at the place reached, up to case if it is ignored. -/
def Progress.repeats (s : Progress) (fs : Flags) (text : Subject) (first last : Nat) : Bool :=
  (List.range (last - first)).all fun i =>
    match text[first + i]?, text[s.pos + i]? with
    | some c, some d =>
      if fs.ignoreCase then folded fs c.toNat == folded fs d.toNat else c == d
    | _, _ => false

namespace Tree

/-- Matches the pattern from `s`, then what follows; the first way in which both succeed. -/
def search (text : Subject) : Tree → Flags → Progress → Next → Option Progress
  | .empty, _, s, next => next s
  | .single u, fs, s, next =>
    if Subject.at? text s.pos fun code => u.accepts fs code then next (s.advance 1) else none
  | .anchor a, fs, s, next => if a.holds fs text s.pos then next s else none
  | .seq a b, fs, s, next => a.search text fs s fun t => b.search text fs t next
  | .alt a b, fs, s, next =>
    match a.search text fs s next with
    | some r => some r
    | none => b.search text fs s next
  | .group g b, fs, s, next => b.search text fs (s.opening g) fun t => next (t.closing g)
  | .scope on off b, fs, s, next => b.search text (fs.within on off) s next
  | .atomic b, fs, s, next =>
    match b.search text fs s some with
    | some t => next t
    | none => none
  | .ahead negated b, fs, s, next =>
    match b.search text fs s some, negated with
    | some t, false => next { t with pos := s.pos }
    | none, true => next s
    | _, _ => none
  | .behind negated width b, fs, s, next =>
    if width.least ≤ s.pos then
      match b.search text fs { s with pos := s.pos - width.least } some, negated with
      | some t, false => next { t with pos := s.pos }
      | none, true => next s
      | _, _ => none
    else if negated then next s else none
  | .many greed least most u, fs, s, next => u.search fs text greed least most s next
  | .loop greed least most b, fs, s, next =>
    rounds text (fun t k => b.search text fs t k) greed least most s next
  | .backref g, fs, s, next =>
    match s.span? g with
    | some (first, last) =>
      if s.repeats fs text first last then next (s.advance (last - first)) else none
    | none => none
  | .conditional g yes no, fs, s, next =>
    match s.span? g with
    | some _ => yes.search text fs s next
    | none => no.search text fs s next

end Tree

end PatternLexer
