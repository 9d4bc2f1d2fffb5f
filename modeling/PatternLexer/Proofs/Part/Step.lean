import PatternLexer.Pattern.Reader.Basic
import Mathlib.Tactic.Common

/-!
# Successful reading steps

What a reading step has done if it has not refused the pattern. Each step has one lemma that says so, and
no later proof looks into the step again.
-/

namespace PatternLexer

/-! ## Pieces -/

namespace Piece

variable {cs : List Char} {p : Piece}

/-- A piece is taken off the front of the source. -/
theorem first?_append (h : first? cs = some p) : p.chars ++ cs.drop p.chars.length = cs := by
  unfold first? at h
  split at h
  · cases h
  · cases h
    rfl
  · cases h
    rfl

/-- What is put after a source does not change its first piece, unless the source is a lone backslash. -/
theorem first?_append_right (h : first? cs = some p) (hcs : cs ≠ ['\\']) (t : List Char) :
    first? (cs ++ t) = some p := by
  unfold first? at h
  split at h
  · cases h
  · cases h
    rfl
  · rename_i c rest hne
    cases h
    -- A backslash with something behind it would have made an escape, and one with nothing is excluded.
    have hc : c ≠ '\\' ∨ rest = [] := by
      by_contra hboth
      simp only [not_or, not_not] at hboth
      rcases hboth with ⟨rfl, hrest⟩
      rcases List.exists_cons_of_ne_nil hrest with ⟨d, rest, rfl⟩
      exact hne d rest rfl rfl
    have hc' : c ≠ '\\' := by
      rcases hc with hc | rfl
      · exact hc
      · rintro rfl
        exact hcs rfl
    simp [first?, hc']

/-- Only at the end of the source there is no piece. -/
theorem first?_eq_none : first? cs = none ↔ cs = [] := by
  constructor
  · intro h
    unfold first? at h
    split at h
    · rfl
    · cases h
    · cases h
  · rintro rfl
    rfl

/-- A character other than a backslash is a piece of its own. -/
theorem first?_char {c : Char} {t : List Char} (hc : c ≠ '\\') :
    first? (c :: t) = some (.char c) := by
  simp [first?, hc]

end Piece

/-! ## Steps -/

namespace Read

variable {α β : Type} {x : Read α} {r s : Reader}

/-- A step that reads nothing leaves the reader where it is. -/
@[simp] theorem pure_ok {a b : α} : (pure a : Read α).run r = .ok (b, s) ↔ a = b ∧ r = s := by
  constructor
  · intro h
    cases h
    exact ⟨rfl, rfl⟩
  · rintro ⟨rfl, rfl⟩
    rfl

/-- Steps go well one after the other exactly if each goes well from where the one before has come to. -/
theorem bind_ok {f : α → Read β} {b : β} :
    (x >>= f).run r = .ok (b, s) ↔ ∃ a t, x.run r = .ok (a, t) ∧ (f a).run t = .ok (b, s) := by
  show (x.andThen f).run r = _ ↔ _
  unfold andThen
  cases hx : x.run r with
  | error e => simp [hx]
  | ok p =>
    rcases p with ⟨a, t⟩
    simp [hx]

/-- After a step that goes well the next one is taken. -/
theorem run_bind {f : α → Read β} {a : α} (h : x.run r = .ok (a, s)) : (x >>= f).run r = (f a).run s := by
  show (x.andThen f).run r = _
  unfold andThen
  simp only [h]

/-- Moving the reader goes well and does nothing else. -/
@[simp] theorem move_ok {f : Reader → Reader} {hf} {u : Unit} :
    (move f hf).run r = .ok (u, s) ↔ f r = s := by
  constructor
  · intro h
    cases h
    rfl
  · rintro rfl
    rfl

/-- After a move the next step is taken by the reader moved. -/
theorem move_bind {f : Reader → Reader} {hf} {g : Unit → Read β} {b : β} :
    (move f hf >>= g).run r = .ok (b, s) ↔ (g ()).run (f r) = .ok (b, s) := by
  rw [bind_ok]
  constructor
  · rintro ⟨u, t, hmove, hg⟩
    rw [move_ok.1 hmove]
    exact hg
  · intro hg
    exact ⟨(), f r, move_ok.2 rfl, hg⟩

/-- An outcome that is known goes well exactly if it is a value. -/
theorem ofExcept_ok {y : Except PatternFailure α} {a : α} :
    (ofExcept y).run r = .ok (a, s) ↔ y = .ok a ∧ r = s := by
  cases y with
  | error e =>
    constructor
    · intro h
      cases h
    · rintro ⟨h, _⟩
      cases h
  | ok b => simp [ofExcept]

/-- The step refuses every pattern. -/
def Refuses (x : Read α) : Prop := ∀ r a s, x.run r ≠ .ok (a, s)

/-- A failure refuses every pattern. -/
theorem fail_refuses (e : PatternFailure) : (fail e : Read α).Refuses := by
  intro r a s h
  cases h

/-- A step refuses every pattern if what follows does, whatever it yields. -/
theorem bind_refuses {f : α → Read β} (h : ∀ a, (f a).Refuses) : (x >>= f).Refuses := by
  intro r b s hb
  rcases bind_ok.1 hb with ⟨a, t, -, hf⟩
  exact h a t b s hf

end Read

namespace Reader

open Read

variable {α : Type} {r s : Reader}

/-- Looking at the reader leaves it where it is. -/
@[simp] theorem here_ok {t : Reader} : here.run r = .ok (t, s) ↔ r = t ∧ r = s := by
  constructor
  · intro h
    cases h
    exact ⟨rfl, rfl⟩
  · rintro ⟨rfl, rfl⟩
    rfl

/-- A step that looks at the reader goes on with that reader. -/
theorem here_bind {f : Reader → Read α} {a : α} :
    (here >>= f).run r = .ok (a, s) ↔ (f r).run r = .ok (a, s) := by
  simp [bind_ok]

/-- A complaint about some place refuses the pattern. -/
theorem refuseAt_refuses (cause : PatternCause) (pos : Nat) : (refuseAt cause pos : Read α).Refuses :=
  bind_refuses fun _ => fail_refuses _

/-- A complaint about a place some way back refuses the pattern. -/
theorem refuse_refuses (cause : PatternCause) (back : Nat) : (refuse cause back : Read α).Refuses :=
  bind_refuses fun _ => refuseAt_refuses _ _

/-- A check goes well exactly if there is nothing bad, and leaves the reader where it is. -/
@[simp] theorem refuseIf_ok {bad : Bool} {cause : PatternCause} {back : Nat} {u : Unit} :
    (refuseIf bad cause back).run r = .ok (u, s) ↔ bad = false ∧ r = s := by
  cases bad with
  | false => simp [refuseIf]
  | true =>
    constructor
    · intro h
      exact absurd h (refuse_refuses cause back r u s)
    · rintro ⟨h, _⟩
      cases h

/-- After a check that goes well the next step is taken where the reader was. -/
theorem refuseIf_bind {bad : Bool} {cause : PatternCause} {back : Nat} {f : Unit → Read α} {a : α} :
    (refuseIf bad cause back >>= f).run r = .ok (a, s) ↔ bad = false ∧ (f ()).run r = .ok (a, s) := by
  rw [bind_ok]
  constructor
  · rintro ⟨u, t, hcheck, hf⟩
    rcases refuseIf_ok.1 hcheck with ⟨hbad, rfl⟩
    exact ⟨hbad, hf⟩
  · rintro ⟨hbad, hf⟩
    exact ⟨(), r, refuseIf_ok.2 ⟨hbad, rfl⟩, hf⟩

/-- The reader goes on unless a lone backslash is left. -/
@[simp] theorem checkDangling_ok {u : Unit} :
    checkDangling.run r = .ok (u, s) ↔ r.rest ≠ ['\\'] ∧ r = s := by
  simp [checkDangling, bind_ok, and_comm]

/-- A piece that is looked at is not taken. -/
@[simp] theorem peek_ok {p : Option Piece} :
    peek.run r = .ok (p, s) ↔ Piece.first? r.rest = p ∧ r = s := by
  simp [peek, bind_ok, and_comm]

/-- The piece `p` is left behind, and the source goes on in a way that can be read. -/
structure Leaves (r : Reader) (p : Piece) (s : Reader) : Prop where
  first : Piece.first? r.rest = some p
  past : s = r.past p
  whole : s.rest ≠ ['\\']

/-- A piece is taken exactly if it is no stop and the source goes on in a way that can be read. -/
theorem nextUnless_some {stop : Piece → Bool} {p : Piece} :
    (nextUnless stop).run r = .ok (some p, s) ↔ stop p = false ∧ r.Leaves p s := by
  simp only [nextUnless, bind_ok, peek_ok]
  constructor
  · rintro ⟨_, _, ⟨rfl, rfl⟩, h⟩
    split at h
    · cases h
    · rename_i q hq
      split at h
      · cases h
      · rename_i hstop
        -- The reader moves past the piece first, and then sees whether a lone backslash is left.
        rcases by simpa only [bind_ok] using h with ⟨_, _, hmove, _, _, hdangling, hpure⟩
        rcases checkDangling_ok.1 hdangling with ⟨hwhole, rfl⟩
        obtain rfl := move_ok.1 hmove
        cases hpure
        exact ⟨by simpa using hstop, hq, rfl, hwhole⟩
  · rintro ⟨hstop, hfirst, rfl, hwhole⟩
    refine ⟨_, _, ⟨rfl, rfl⟩, ?_⟩
    simp [hfirst, hstop, bind_ok, hwhole]

/-- No piece is taken exactly if there is none or it is a stop, and the reader stays where it is. -/
theorem nextUnless_none {stop : Piece → Bool} :
    (nextUnless stop).run r = .ok (none, s) ↔
      (∀ p, Piece.first? r.rest = some p → stop p = true) ∧ r = s := by
  simp only [nextUnless, bind_ok, peek_ok]
  constructor
  · rintro ⟨_, _, ⟨rfl, rfl⟩, h⟩
    split at h
    · rename_i hnone
      obtain rfl := (pure_ok.1 h).2
      exact ⟨fun p hp => by simp [hnone] at hp, rfl⟩
    · rename_i q hq
      split at h
      · rename_i hstop
        obtain rfl := (pure_ok.1 h).2
        refine ⟨fun p hp => ?_, rfl⟩
        cases hq.symm.trans hp
        exact hstop
      · rcases by simpa only [bind_ok] using h with ⟨_, _, _, _, _, _, hpure⟩
        cases hpure
  · rintro ⟨hstop, rfl⟩
    refine ⟨_, _, ⟨rfl, rfl⟩, ?_⟩
    split
    · simp
    · rename_i q hq
      simp [hstop q hq]

/-- A piece that is there is taken. -/
theorem nextOr_run {p : Piece} {x : Read Piece} (h : r.Leaves p s) : (nextOr x).run r = .ok (p, s) :=
  Read.bind_ok.2 ⟨some p, s, nextUnless_some.2 ⟨rfl, h⟩, Read.pure_ok.2 ⟨rfl, rfl⟩⟩

/-- A character that is there is accepted. -/
theorem accept_run {c : Char} (h : r.Leaves (.char c) s) : (accept c).run r = .ok (true, s) := by
  have hnext : (nextUnless (· != .char c)).run r = .ok (some (.char c), s) := nextUnless_some.2 ⟨by simp, h⟩
  exact Read.bind_ok.2 ⟨_, s, hnext, Read.pure_ok.2 ⟨rfl, rfl⟩⟩

/-- A character other than a backslash can be left behind. -/
theorem Leaves.char {c : Char} {t : List Char} (hrest : r.rest = c :: t) (hc : c ≠ '\\') (ht : t ≠ ['\\']) :
    r.Leaves (.char c) (r.past (.char c)) := by
  refine ⟨?_, rfl, ?_⟩
  · rw [hrest]
    exact Piece.first?_char hc
  · show r.rest.drop 1 ≠ _
    rw [hrest]
    exact ht

/-- A character other than a backslash is left behind as it stands. -/
theorem Leaves.of_cons {c : Char} {t : List Char} {p : Piece} (h : r.Leaves p s)
    (hrest : r.rest = c :: t) (hc : c ≠ '\\') : p = .char c ∧ s.rest = t := by
  have hp : Piece.first? r.rest = some (.char c) := by
    rw [hrest]
    exact Piece.first?_char hc
  cases h.first.symm.trans hp
  refine ⟨rfl, ?_⟩
  rw [h.past, Reader.past, hrest]
  rfl

end Reader

end PatternLexer
