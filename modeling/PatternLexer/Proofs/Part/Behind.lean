import PatternLexer.Proofs.Part.Abreast

/-!
# What stands behind a part

A part of a larger pattern is read without a look at what stands behind the bar after it. So two larger patterns
that begin alike are read alike up to the last bar that they have in common: the same elements, with the same group
numbers. This holds of references by number too.

A `Fork` is what the two patterns go on with, and `Fork.Beside` says that two readers stand at the same place in front
of the bar. By `Fork.Beside.sequence` they read the same elements as long as the first has not passed the bar.
-/

namespace PatternLexer

open Reader

/-! ## Readers in front of a bar -/

/-- What two patterns go on with behind the bar up to which they are the same. -/
structure Fork where
  rest : List Char
  other : List Char

namespace Fork

/-- The readers have noted the same, and the same is left for them up to the bar. -/
def Beside (k : Fork) (r r' : Reader) : Prop :=
  ∃ front source, r.rest = front ++ '|' :: k.rest ∧
    r' = { r with rest := front ++ '|' :: k.other, source := source }

/-- The same is left up to the bar. -/
def Rests (k : Fork) (cs cs' : List Char) : Prop :=
  ∃ front, cs = front ++ '|' :: k.rest ∧ cs' = front ++ '|' :: k.other

variable {k : Fork} {r r' s s' : Reader} {cs cs' : List Char} {p : Piece}

namespace Rests

/-- The next piece is the same, even if it is the bar. -/
theorem first? (h : k.Rests cs cs') : Piece.first? cs' = Piece.first? cs := by
  obtain ⟨front, rfl, rfl⟩ := h
  cases front with
  | nil => rfl
  | cons c front =>
    by_cases hc : c = '\\'
    · subst hc
      cases front with
      | nil => rfl
      | cons d front => rfl
    · rw [List.cons_append, List.cons_append, Piece.first?_char hc, Piece.first?_char hc]

/-- A piece in front of the bar is left behind. -/
theorem drop (h : k.Rests cs cs') (hbar : '|' :: k.rest <:+ cs.drop p.chars.length) :
    k.Rests (cs.drop p.chars.length) (cs'.drop p.chars.length) := by
  obtain ⟨front, rfl, rfl⟩ := h
  -- The piece stands in front of the bar, since the bar is left.
  have hle : p.chars.length ≤ front.length := by
    have hlength := hbar.length_le
    have hpos : 0 < p.chars.length := by cases p <;> exact Nat.succ_pos _
    rw [List.length_drop, List.length_append, List.length_cons] at hlength
    omega
  rw [List.drop_append_of_le_length hle, List.drop_append_of_le_length hle]
  exact ⟨_, rfl, rfl⟩

/-- A character that is no bar stands in front of the bar. -/
theorem suffix_drop {c : Char} (h : k.Rests cs cs') (hfirst : Piece.first? cs = some (.char c)) (hc : c ≠ '|') :
    '|' :: k.rest <:+ cs.drop 1 := by
  obtain ⟨front, rfl, rfl⟩ := h
  cases front with
  | nil =>
    cases hfirst
    exact absurd rfl hc
  | cons d front => exact List.suffix_append front _

end Rests

/-- Readers with the same flags, the bar being still to come. -/
def pairing (k : Fork) : Pairing where
  rests := k.Rests
  flags := Eq
  reach cs := '|' :: k.rest <:+ cs
  reach_back hsuffix hcs := hcs.trans hsuffix
  first? := Rests.first?
  past h hfirst hp := h.drop (hp.elim id fun ⟨_, hchar, hc⟩ => by
    subst hchar
    exact h.suffix_drop hfirst hc)

theorem abreast_iff : k.pairing.Abreast r r' ↔ k.Beside r r' := by
  constructor
  · rintro ⟨_, source, _, ⟨front, hrest, rfl⟩, rfl, rfl⟩
    exact ⟨front, source, hrest, rfl⟩
  · rintro ⟨front, source, hrest, rfl⟩
    exact ⟨_, source, _, ⟨front, hrest, rfl⟩, rfl, rfl⟩

namespace Beside

/-- Sequences that go well are read alike if the bar is still to come behind the first. -/
theorem sequence {verbose : Bool} {found : List Element} {n n' : Nat} {item item' : List Tree} (h : k.Beside r r')
    (hitem : (sequence verbose found n).run r = .ok (item, s))
    (hitem' : (Reader.sequence verbose found n').run r' = .ok (item', s')) (hbar : '|' :: k.rest <:+ s.rest) :
    item = item' ∧ k.Beside s s' := by
  have hkeeps : k.pairing.KeepsFlags :=
    ⟨fun hsame => congrArg Flags.verbose (Eq.symm hsame), fun on _ _ hsame => congrArg (Flags.union · on) hsame⟩
  obtain ⟨hsame, hs⟩ := (Pairing.grammar hkeeps n n').sequence verbose found (abreast_iff.2 h) hitem hitem' hbar
  exact ⟨hsame, abreast_iff.1 hs⟩

theorem same (h : k.Beside r r') : r' = { r with rest := r'.rest, source := r'.source } := by
  obtain ⟨front, source, hrest, rfl⟩ := h
  rfl

/-- They come to the bar together. -/
theorem at_bar (h : k.Beside r r') (hrest : r.rest = '|' :: k.rest) : r'.rest = '|' :: k.other := by
  obtain ⟨front, source, hfront, rfl⟩ := h
  have hnil : front = [] := by
    have hlength := congrArg List.length (hfront.symm.trans hrest)
    rw [List.length_append] at hlength
    exact List.length_eq_zero_iff.1 (by omega)
  rw [hnil]
  rfl

end Beside

end Fork

end PatternLexer
