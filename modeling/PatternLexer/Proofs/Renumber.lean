import PatternLexer.Proofs.Moving

/-!
# Renumbering groups

A pattern that becomes a part of a larger one has groups before it, so its own groups get higher numbers. This
changes nothing about how it matches: `Tree.search_shift` relates the search of `t.shift n`, after marks of groups
up to `n`, to the search of `t` alone. The text is the same, so the pattern may look back.
-/

namespace PatternLexer

/-! ## Marks of renumbered groups -/

/-- The mark when `n` groups are put in front of its group. -/
def Mark.shift (n : Nat) (m : Mark) : Mark := { m with group := m.group + n }

/-- The same place in a search with `n` groups put in front, which has passed `before` already. -/
def Progress.after (n : Nat) (before : List Mark) (s : Progress) : Progress :=
  { s with marks := s.marks.map (Mark.shift n) ++ before }

/-- The second way of searching is the first with its groups renumbered. -/
def Renumbers (n : Nat) (before : List Mark) (round round' : Progress → Next → Option Progress) :
    Prop :=
  ∀ (f : Progress → Progress) (s : Progress) (next next' : Next),
    (∀ u : Progress, next' (u.after n before) = (next u).map f) →
      round' (s.after n before) next' = (round s next).map f

/-- Renumbering moves a search by no characters. -/
theorem Moves.renumbers {n : Nat} {before : List Mark} {round round' : Progress → Next → Option Progress}
    (h : Moves n 0 before round round') : Renumbers n before round round' := h

/-! ## The search -/

/-- Renumbering the groups of a pattern renumbers the marks of its search, and nothing else: neither
marks of groups up to `n` that were passed before nor the flags for reading make a difference. -/
theorem Tree.search_shift (text : Subject) {n : Nat} {before : List Mark}
    (hbefore : ∀ m ∈ before, m.group ≤ n) (t : Tree) (ht : t.PositiveRefs) (fs fs' : Flags) (hfs : fs'.Agree fs) :
    Renumbers n before (fun s next => t.search text fs s next) (fun s next => (t.shift n).search text fs' s next) :=
  (t.search_moved (.refl text) hbefore fs fs' hfs (.inl ht) (.inr rfl)).renumbers

end PatternLexer
