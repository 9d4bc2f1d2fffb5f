import PatternLexer.Pattern.Search
import Mathlib.Tactic.Common

/-!
# Searches that are moved

A search does the same in another surrounding: with groups of a larger pattern before its own, which get higher
numbers, and with more text in front of its own, which moves its offsets. Neither the groups passed before nor the
flags for reading make a difference. The text in front makes none unless the pattern looks back.

Two searches are related through what follows them. If the continuation of the one is that of the other, seen
through a function `f`, then so are the answers.

* `Moves` says this of two ways of searching, and the repetitions are shown to keep it.
* `Tree.looksBack` tells the patterns whose search depends on the text before the place where it starts.
* `Tree.search_moved` is the main result: the search of a pattern is moved with its groups and its text.
-/

namespace PatternLexer

/-! ## Flags -/

/-- The flags agree on all that the search looks at. How a pattern is read does not matter to it. -/
structure Flags.Agree (a b : Flags) : Prop where
  ignoreCase : a.ignoreCase = b.ignoreCase
  multiline : a.multiline = b.multiline
  dotAll : a.dotAll = b.dotAll
  unicode : a.unicode = b.unicode

namespace Flags.Agree

variable {a b : Flags}

/-- Flags that agree do so inside a group that changes them. -/
theorem within (h : a.Agree b) (on off : Flags) : (a.within on off).Agree (b.within on off) := by
  rcases h with ⟨h1, h2, h3, h4⟩
  constructor
  all_goals
    simp only [Flags.within, Flags.diff, Flags.union]
    split <;> simp_all

/-- They put the same characters into a category. -/
theorem category (h : a.Agree b) (code : Nat) (k : Category) : k.holds a code = k.holds b code := by
  cases k <;> simp [Category.holds, h.unicode]

/-- They fold the case of a character in the same way. -/
theorem folded (h : a.Agree b) (code : Nat) : PatternLexer.folded a code = PatternLexer.folded b code := by
  simp [PatternLexer.folded, h.unicode]

/-- They take the same characters for equal up to case. -/
theorem equalFolded (h : a.Agree b) (c code : Nat) :
    PatternLexer.equalFolded a c code = PatternLexer.equalFolded b c code := by
  simp [PatternLexer.equalFolded, h.folded, h.unicode]

/-- An item of a class holds the same characters. -/
theorem item (h : a.Agree b) (code : Nat) (i : ClassItem) : i.holds a code = i.holds b code := by
  cases i <;> simp [ClassItem.holds, h.category]

theorem itemFolded (h : a.Agree b) (code : Nat) (i : ClassItem) :
    i.holdsFolded a code = i.holdsFolded b code := by
  cases i <;>
    simp [ClassItem.holdsFolded, h.category, h.equalFolded, foldedVariants, h.unicode]

/-- What stands for one character accepts the same characters. -/
theorem accepts (h : a.Agree b) (code : Nat) (u : Single) : u.accepts a code = u.accepts b code := by
  cases u <;>
    simp [Single.accepts, h.ignoreCase, h.dotAll, h.equalFolded, h.folded, h.item, h.itemFolded]

/-- A word ends at the same places. -/
theorem boundary (h : a.Agree b) (text : Subject) (pos : Nat) :
    text.isBoundary a pos = text.isBoundary b pos := by
  simp [Subject.isBoundary, h.category]

/-- An anchor holds at the same places. -/
theorem anchor (h : a.Agree b) (text : Subject) (pos : Nat) (x : Anchor) :
    x.holds a text pos = x.holds b text pos := by
  cases x <;> simp [Anchor.holds, h.multiline, h.boundary]

/-- A run of such characters is as long. -/
theorem runLength (h : a.Agree b) (text : Subject) (u : Single) :
    ∀ limit pos, u.runLength a text limit pos = u.runLength b text limit pos := by
  intro limit
  induction limit with
  | zero => intro pos; rfl
  | succ limit ih => intro pos; simp [Single.runLength, h.accepts, ih]

/-- A reference repeats the same characters. -/
theorem repeats (h : a.Agree b) (text : Subject) (s : Progress) (first last : Nat) :
    s.repeats a text first last = s.repeats b text first last := by
  simp [Progress.repeats, h.ignoreCase, h.folded]

end Flags.Agree

/-! ## The rest of a text -/

namespace Subject

variable {text whole : Subject} {d : Nat}

/-- `text` is what `whole` has from the offset `d` on. -/
structure IsRest (text whole : Subject) (d : Nat) : Prop where
  size : whole.size = text.size + d
  getElem? : ∀ i, whole[i + d]? = text[i]?

namespace IsRest

/-- A text is its own rest from the beginning. -/
theorem refl (text : Subject) : text.IsRest text 0 := ⟨rfl, fun _ => rfl⟩

theorem eq (h : text.IsRest whole 0) : whole = text :=
  Array.ext_getElem? fun i => h.getElem? i

variable (h : text.IsRest whole d)
include h

/-- Offsets in the rest are moved by what stands in front. -/
theorem at? (pos : Nat) (p : Nat → Bool) : whole.at? (pos + d) p = text.at? pos p := by
  unfold Subject.at?
  rw [h.getElem?]

/-- As much is left behind a place. -/
theorem room (pos : Nat) : whole.size - (pos + d) = text.size - pos := by
  rw [h.size]
  omega

/-- A run of characters is as long where it is moved to. -/
theorem runLength (u : Single) (fs : Flags) :
    ∀ limit pos, u.runLength fs whole limit (pos + d) = u.runLength fs text limit pos := by
  intro limit
  induction limit with
  | zero => intro pos; rfl
  | succ limit ih =>
    intro pos
    have hnext := ih (pos + 1)
    rw [Nat.add_right_comm] at hnext
    simp only [Single.runLength, h.at?, hnext]

end IsRest

end Subject

/-! ## Looking back -/

/-- Whether the condition depends on the text before the place. -/
def Anchor.looksBack : Anchor → Bool
  | .lineStart | .textStart | .boundary | .notBoundary => true
  | .lineEnd | .textEnd => false

/-- Whether a search for the pattern depends on the text before the place where it starts. -/
def Tree.looksBack : Tree → Bool
  | .anchor a => a.looksBack
  | .behind .. => true
  | .empty | .single _ | .many .. | .backref _ => false
  | .seq a b | .alt a b | .conditional _ a b => a.looksBack || b.looksBack
  | .group _ b | .scope _ _ b | .atomic b | .ahead _ b | .loop _ _ _ b => b.looksBack

namespace Tree

/-- A sequence looks back if one of its patterns does. -/
theorem looksBack_ofList (ts : List Tree) : (ofList ts).looksBack = ts.any looksBack := by
  induction ts with
  | nil => rfl
  | cons t rest ih =>
    cases rest with
    | nil => simp [ofList]
    | cons u rest =>
      show (t.looksBack || (ofList (u :: rest)).looksBack) = _
      rw [ih]
      rfl

/-- Alternatives look back if one of their patterns does. -/
theorem looksBack_ofAlternatives (items : List (List Tree)) :
    (ofAlternatives items).looksBack = items.any fun item => item.any looksBack := by
  induction items with
  | nil => rfl
  | cons item rest ih =>
    cases rest with
    | nil => simp [ofAlternatives, looksBack_ofList]
    | cons next rest =>
      show ((ofList item).looksBack || (ofAlternatives (next :: rest)).looksBack) = _
      rw [ih, looksBack_ofList]
      rfl

end Tree

/-- The text in front of the rest does not matter to an anchor that does not look back. -/
theorem Subject.IsRest.anchor {text whole : Subject} {d : Nat} (h : text.IsRest whole d) {a : Anchor}
    (ha : a.looksBack = false ∨ d = 0) (fs : Flags) (pos : Nat) :
    a.holds fs whole (pos + d) = a.holds fs text pos := by
  rcases ha with ha | rfl
  · cases a with
    | lineEnd =>
      -- It asks whether the text ends here or behind one more character.
      have hsize : ∀ n, (n + d == whole.size) = (n == text.size) := by
        intro n
        simp [h.size]
      have hnext := hsize (pos + 1)
      rw [Nat.add_right_comm] at hnext
      simp only [Anchor.holds, hsize, hnext, h.at?]
    | textEnd => simp [Anchor.holds, h.size]
    | _ => cases ha
  · rw [h.eq]
    rfl

/-! ## Moved places -/

/-- The mark with `n` groups in front of its group and `d` characters in front of its text. -/
def Mark.moved (n d : Nat) (m : Mark) : Mark := ⟨m.group + n, m.closes, m.offset + d⟩

/-- The same place in a search with `n` groups and `d` characters in front, which has passed `before` already. -/
def Progress.moved (n d : Nat) (before : List Mark) (s : Progress) : Progress :=
  ⟨s.pos + d, s.marks.map (Mark.moved n d) ++ before⟩

namespace Progress

variable {n d : Nat} {before : List Mark} {s : Progress}

@[simp] theorem moved_pos : (s.moved n d before).pos = s.pos + d := rfl

@[simp] theorem moved_advance (k : Nat) :
    (s.advance k).moved n d before = (s.moved n d before).advance k := by
  simp only [moved, advance, Nat.add_right_comm]

theorem moved_repeats {text whole : Subject} (h : text.IsRest whole d) (fs : Flags) (first last : Nat) :
    (s.moved n d before).repeats fs whole (first + d) (last + d) = s.repeats fs text first last := by
  unfold repeats
  rw [Nat.add_sub_add_right]
  simp only [moved_pos, Nat.add_right_comm _ d, h.getElem?]

theorem moved_lastMark? (hbefore : ∀ m ∈ before, m.group ≤ n) {g : Nat} (hg : 0 < g ∨ before = [])
    (closes : Bool) :
    (s.moved n d before).lastMark? (g + n) closes = (s.lastMark? g closes).map (· + d) := by
  -- The marks passed before are of other groups, so the last mark is among the moved ones.
  have hnone : before.find? (fun m => m.group == g + n && m.closes == closes) = none := by
    rw [List.find?_eq_none]
    intro m hm
    rcases hg with hg | rfl
    · have hle := hbefore m hm
      have hne : m.group ≠ g + n := by omega
      simp [hne]
    · cases hm
  have hsame : (fun m : Mark => (m.moved n d).group == g + n && (m.moved n d).closes == closes) =
      fun m => m.group == g && m.closes == closes := by
    funext m
    have hgroup : (m.group + n == g + n) = (m.group == g) := by simp
    simp only [Mark.moved, hgroup]
  unfold lastMark? moved
  simp only [List.find?_append, hnone, Option.or_none, List.find?_map, Function.comp_def, hsame, Option.map_map]
  rfl

theorem moved_span? (hbefore : ∀ m ∈ before, m.group ≤ n) {g : Nat} (hg : 0 < g ∨ before = []) :
    (s.moved n d before).span? (g + n) = (s.span? g).map fun x => (x.1 + d, x.2 + d) := by
  simp only [span?, moved_lastMark? hbefore hg]
  cases s.lastMark? g false with
  | none => rfl
  | some a =>
    cases s.lastMark? g true with
    | none => rfl
    | some b =>
      simp only [Option.map_some, Nat.add_le_add_iff_right]
      split <;> rfl

end Progress

/-! ## Moved searches -/

/-- The second way of searching is the first one moved. -/
def Moves (n d : Nat) (before : List Mark) (round round' : Progress → Next → Option Progress) : Prop :=
  ∀ (f : Progress → Progress) (s : Progress) (next next' : Next),
    (∀ u : Progress, next' (u.moved n d before) = (next u).map f) →
      round' (s.moved n d before) next' = (round s next).map f

namespace Moves

variable {n d : Nat} {before : List Mark} {round round' : Progress → Next → Option Progress}

/-- A search that nothing follows ends at the place moved. -/
theorem once (h : Moves n d before round round') (s : Progress) :
    round' (s.moved n d before) some = (round s some).map (Progress.moved n d before) :=
  h (Progress.moved n d before) s some some fun _ => rfl

/-- Where an optional round started, seen from both searches. -/
theorem last_ne (last : Option Nat) (pos : Nat) :
    (last.map (· + d) != some (pos + d)) = (last != some pos) := by
  cases last with
  | none => rfl
  | some l => simp [bne]

/-- Rounds that are taken as often as possible are moved if each round is. -/
theorem greedyRounds (h : Moves n d before round round') (least : Nat) (most : Option Nat) :
    ∀ fuel count last, Moves n d before (greedyRounds round least most fuel count last)
      (PatternLexer.greedyRounds round' least most fuel count (last.map (· + d))) := by
  intro fuel
  induction fuel with
  | zero => intro count last f s next next' _; rfl
  | succ fuel ih =>
    intro count last f s next next' hnext
    -- A round is related with the rounds after it as what follows.
    have hmore : ∀ c l, (round' (s.moved n d before)
        fun t => PatternLexer.greedyRounds round' least most fuel c (l.map (· + d)) t next') =
        (round s fun t => PatternLexer.greedyRounds round least most fuel c l t next).map f :=
      fun c l => h f s _ _ fun u => ih c l f u next next' hnext
    have hrequired := hmore (count + 1) last
    have hoptional := hmore (count + 1) (some s.pos)
    rw [Option.map_some] at hoptional
    simp only [PatternLexer.greedyRounds, Progress.moved_pos, last_ne, hrequired, hoptional, hnext]
    split
    · rfl
    · split
      · cases round s fun t => PatternLexer.greedyRounds round least most fuel (count + 1)
          (some s.pos) t next <;> rfl
      · rfl

/-- So are those that are taken as rarely as possible. -/
theorem lazyRounds (h : Moves n d before round round') (least : Nat) (most : Option Nat) :
    ∀ fuel count last, Moves n d before (lazyRounds round least most fuel count last)
      (PatternLexer.lazyRounds round' least most fuel count (last.map (· + d))) := by
  intro fuel
  induction fuel with
  | zero => intro count last f s next next' _; rfl
  | succ fuel ih =>
    intro count last f s next next' hnext
    have hmore : ∀ c l, (round' (s.moved n d before)
        fun t => PatternLexer.lazyRounds round' least most fuel c (l.map (· + d)) t next') =
        (round s fun t => PatternLexer.lazyRounds round least most fuel c l t next).map f :=
      fun c l => h f s _ _ fun u => ih c l f u next next' hnext
    -- A round that is required does not note where it began, and one that is optional does.
    have hrequired := hmore (count + 1) last
    have hoptional := hmore (count + 1) (some s.pos)
    rw [Option.map_some] at hoptional
    simp only [PatternLexer.lazyRounds, Progress.moved_pos, last_ne, hrequired, hoptional, hnext]
    split
    · rfl
    · cases next s with
      | some r => rfl
      | none =>
        simp only [Option.map_none]
        split <;> rfl

/-- So are those that are not gone back into. -/
theorem possessiveRounds (h : Moves n d before round round') (least : Nat) (most : Option Nat) :
    ∀ fuel count (s : Progress),
      PatternLexer.possessiveRounds round' least most fuel count (s.moved n d before) =
        (PatternLexer.possessiveRounds round least most fuel count s).map
          (Progress.moved n d before) := by
  intro fuel
  induction fuel with
  | zero => intro count s; rfl
  | succ fuel ih =>
    intro count s
    simp only [PatternLexer.possessiveRounds, h.once]
    cases round s some with
    | none =>
      simp only [Option.map_none]
      split
      · rfl
      · split <;> rfl
    | some t =>
      simp only [Option.map_some, Progress.moved_pos, ih, Nat.add_right_cancel_iff]
      split
      · rfl
      · split
        · split <;> rfl
        · rfl

/-- A repetition is moved whichever way its rounds are taken. -/
theorem rounds {text whole : Subject} (htext : text.IsRest whole d) (h : Moves n d before round round')
    (greed : Greed) (least : Nat) (most : Option Nat) :
    Moves n d before (PatternLexer.rounds text round greed least most)
      (PatternLexer.rounds whole round' greed least most) := by
  intro f s next next' hnext
  simp only [PatternLexer.rounds, Progress.moved_pos, htext.room]
  cases greed with
  | greedy => exact h.greedyRounds _ _ _ _ none f s next next' hnext
  | lazy => exact h.lazyRounds _ _ _ _ none f s next next' hnext
  | possessive =>
    simp only [h.possessiveRounds]
    cases PatternLexer.possessiveRounds round least most (least + (text.size - s.pos) + 2) 0 s with
    | none => rfl
    | some t => exact hnext t

/-- Giving characters back one by one is moved. -/
theorem fewer (least : Nat) (f : Progress → Progress) (s : Progress) (next next' : Next)
    (hnext : ∀ u : Progress, next' (u.moved n d before) = (next u).map f) :
    ∀ k, (s.moved n d before).fewer least next' k = (s.fewer least next k).map f := by
  intro k
  induction k with
  | zero =>
    simp only [Progress.fewer, hnext]
    split <;> rfl
  | succ k ih =>
    simp only [Progress.fewer, ← Progress.moved_advance, hnext, ih]
    split
    · rfl
    · cases next (s.advance (k + 1)) <;> rfl

/-- So is taking more of them one by one. -/
theorem more (f : Progress → Progress) (s : Progress) (next next' : Next)
    (hnext : ∀ u : Progress, next' (u.moved n d before) = (next u).map f) :
    ∀ extra count, (s.moved n d before).more next' extra count = (s.more next extra count).map f := by
  intro extra
  induction extra with
  | zero =>
    intro count
    simp only [Progress.more, ← Progress.moved_advance, hnext]
  | succ extra ih =>
    intro count
    simp only [Progress.more, ← Progress.moved_advance, hnext, ih]
    cases next (s.advance count) <;> rfl

/-- A repetition of what stands for one character is moved. -/
theorem single {text whole : Subject} (htext : text.IsRest whole d) {fs fs' : Flags} (hfs : fs'.Agree fs)
    (u : Single) (greed : Greed) (least : Nat) (most : Option Nat) :
    Moves n d before (fun s next => u.search fs text greed least most s next)
      (fun s next => u.search fs' whole greed least most s next) := by
  intro f s next next' hnext
  simp only [Single.search, Progress.moved_pos, hfs.runLength, htext.room, htext.runLength]
  split
  · rfl
  · cases greed with
    | greedy => exact fewer least f s next next' hnext _
    | lazy => exact more f s next next' hnext _ _
    | possessive => simp only [← Progress.moved_advance, hnext]

end Moves

/-! ## The search -/

namespace Tree

/-- Every reference is to a group with a number from 1 on. -/
def PositiveRefs : Tree → Prop
  | .empty | .single _ | .anchor _ | .many .. => True
  | .seq a b | .alt a b => a.PositiveRefs ∧ b.PositiveRefs
  | .group _ b | .scope _ _ b | .atomic b | .ahead _ b | .behind _ _ b | .loop _ _ _ b =>
    b.PositiveRefs
  | .backref g => 0 < g
  | .conditional g yes no => 0 < g ∧ yes.PositiveRefs ∧ no.PositiveRefs

section Moved

variable {text whole : Subject} {n d : Nat} {before : List Mark}
variable (htext : text.IsRest whole d) (hbefore : ∀ m ∈ before, m.group ≤ n)
include htext hbefore

/-- Putting groups in front of a pattern and text in front of its text moves its search, and does nothing else:
neither marks of groups up to `n` that were passed before nor the flags for reading make a difference. If the
pattern looks back, no text may be put in front. -/
theorem search_moved (t : Tree) : ∀ fs fs' : Flags, fs'.Agree fs → t.PositiveRefs ∨ before = [] →
    t.looksBack = false ∨ d = 0 → Moves n d before (fun s next => t.search text fs s next)
      (fun s next => (t.shift n).search whole fs' s next) := by
  induction t with
  | empty => intro fs fs' _ _ _ f s next next' hnext; exact hnext s
  | single u =>
    intro fs fs' hfs _ _ f s next next' hnext
    simp only [shift, search, Progress.moved_pos, htext.at?, hfs.accepts, ← Progress.moved_advance, hnext]
    split <;> rfl
  | anchor a =>
    intro fs fs' hfs _ hback f s next next' hnext
    simp only [shift, search, Progress.moved_pos, hfs.anchor, htext.anchor hback, hnext]
    split <;> rfl
  | seq a b iha ihb =>
    intro fs fs' hfs hrefs hback f s next next' hnext
    have hback' : (a.looksBack = false ∧ b.looksBack = false) ∨ d = 0 := hback.imp_left Bool.or_eq_false_iff.1
    have ha := iha fs fs' hfs (hrefs.imp_left And.left) (hback'.imp_left And.left)
    have hb := ihb fs fs' hfs (hrefs.imp_left And.right) (hback'.imp_left And.right)
    exact ha f s _ _ fun u => hb f u next next' hnext
  | alt a b iha ihb =>
    intro fs fs' hfs hrefs hback f s next next' hnext
    have hback' : (a.looksBack = false ∧ b.looksBack = false) ∨ d = 0 := hback.imp_left Bool.or_eq_false_iff.1
    have ha := iha fs fs' hfs (hrefs.imp_left And.left) (hback'.imp_left And.left) f s next next' hnext
    have hb := ihb fs fs' hfs (hrefs.imp_left And.right) (hback'.imp_left And.right) f s next next' hnext
    simp only [shift, search, ha, hb]
    cases a.search text fs s next <;> rfl
  | group g b ih =>
    intro fs fs' hfs hrefs hback f s next next' hnext
    -- Its marks are set before and behind the body, and moved with the rest.
    exact ih fs fs' hfs hrefs hback f (s.opening g) _ _ fun u => hnext (u.closing g)
  | scope on off b ih =>
    intro fs fs' hfs
    exact ih _ _ (hfs.within on off)
  | atomic b ih =>
    intro fs fs' hfs hrefs hback f s next next' hnext
    have hb := (ih fs fs' hfs hrefs hback).once s
    simp only [shift, search, hb]
    cases b.search text fs s some with
    | none => rfl
    | some t => exact hnext t
  | ahead negated b ih =>
    intro fs fs' hfs hrefs hback f s next next' hnext
    -- The body is searched on its own, and what follows begins at the place of before.
    have hb := (ih fs fs' hfs hrefs hback).once s
    simp only [shift, search, hb]
    cases b.search text fs s some with
    | none =>
      cases negated with
      | false => rfl
      | true => exact hnext s
    | some t =>
      cases negated with
      | false => exact hnext { t with pos := s.pos }
      | true => rfl
  | behind negated width b ih =>
    intro fs fs' hfs hrefs hback f s next next' hnext
    -- The pattern looks back, so its text stands where it did.
    obtain rfl : d = 0 := hback.resolve_left nofun
    -- The body is searched from further back, and on its own.
    have hb := (ih fs fs' hfs hrefs (.inr rfl)).once { s with pos := s.pos - width.least }
    have hstart : ({ s with pos := s.pos - width.least } : Progress).moved n 0 before =
      { s.moved n 0 before with pos := s.pos - width.least } := rfl
    rw [hstart] at hb
    simp only [shift, search, Progress.moved_pos, Nat.add_zero, hb]
    split
    · cases b.search text fs { s with pos := s.pos - width.least } some with
      | none =>
        cases negated with
        | false => rfl
        | true => exact hnext s
      | some t =>
        cases negated with
        | false => exact hnext { t with pos := s.pos }
        | true => rfl
    · split
      · exact hnext s
      · rfl
  | many greed least most u =>
    intro fs fs' hfs _ _
    exact Moves.single htext hfs u greed least most
  | loop greed least most b ih =>
    intro fs fs' hfs hrefs hback
    exact (ih fs fs' hfs hrefs hback).rounds htext greed least most
  | backref g =>
    intro fs fs' hfs hrefs _ f s next next' hnext
    -- What the group matched is the same text, further on.
    simp only [shift, search, Progress.moved_span? hbefore hrefs]
    cases s.span? g with
    | none => rfl
    | some span =>
      simp only [Option.map_some, Progress.moved_repeats htext, hfs.repeats, Nat.add_sub_add_right,
        ← Progress.moved_advance, hnext]
      split <;> rfl
  | conditional g yes no ihyes ihno =>
    intro fs fs' hfs hrefs hback f s next next' hnext
    have hback' : (yes.looksBack = false ∧ no.looksBack = false) ∨ d = 0 := hback.imp_left Bool.or_eq_false_iff.1
    simp only [shift, search, Progress.moved_span? hbefore (hrefs.imp_left And.left)]
    cases s.span? g with
    | none =>
      exact ihno fs fs' hfs (hrefs.imp_left fun h => h.2.2) (hback'.imp_left And.right) f s next next' hnext
    | some span =>
      exact ihyes fs fs' hfs (hrefs.imp_left fun h => h.2.1) (hback'.imp_left And.left) f s next next' hnext

end Moved

/-- A pattern whose groups keep their numbers. -/
theorem shift_zero (t : Tree) : t.shift 0 = t := by
  induction t with
  | seq a b iha ihb | alt a b iha ihb | conditional _ a b iha ihb => simp only [shift, iha, ihb, Nat.add_zero]
  | group _ b ih | scope _ _ b ih | atomic b ih | ahead _ b ih | behind _ _ b ih | loop _ _ _ b ih =>
    simp only [shift, ih, Nat.add_zero]
  | _ => rfl

end Tree

end PatternLexer
