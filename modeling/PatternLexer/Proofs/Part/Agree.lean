import PatternLexer.Proofs.Part.Step

/-!
# Reading a part of a larger pattern

The source of a pattern is read twice: alone, and as a part of a larger pattern, between a parenthesis that
was opened for it and the one that closes it. A `Frame` is what the larger pattern puts around the part,
`Frame.Within` relates the two readers, and `Frame.Agrees` relates the two readings step by step: as long as
neither is refused, they take the same pieces, and what they build differs in group numbers only.

References by number do not follow the groups that they refer to. With them the readings still take the
same pieces, and of what they build it is only said that the one looks back if the other does;
`Frame.unnumbered` tells the cases apart. Where `Frame.fits` holds besides, the larger pattern is not refused
if the part alone is not.
-/

namespace PatternLexer

open Reader

/-! ## Frames -/

/-- What a larger pattern puts around one of its parts. -/
structure Frame where
  /-- The source after the parenthesis that closes the part. -/
  rest : List Char
  /-- A line feed was put behind the part, for a comment in a line that it may end with. -/
  feed : Bool
  /-- The flags under which the part is read. -/
  flags : Flags
  /-- The groups opened before the part. -/
  widths : List (Option Width)
  /-- The named groups opened before the part. -/
  names : List (String × Nat)
  /-- How many groups of flags of the whole pattern were read before the part. -/
  flagGroups : Nat
  /-- The part refers to no group by its number. -/
  unnumbered : Prop
  /-- The part can stand in a larger pattern. -/
  fits : Prop
  unnumbered_of_fits : fits → unnumbered

namespace Frame

variable (k : Frame)

/-- By how much the numbers of groups in the part grow. -/
def shift : Nat := k.widths.length

/-- The source from the closing parenthesis on. -/
def closing : List Char := ')' :: k.rest

/-- The source from the end of the part on. -/
def ending : List Char := if k.feed then '\n' :: k.closing else k.closing

/-- Behind a part there is at least the parenthesis that closes it. -/
theorem ending_ne_nil : k.ending ≠ [] := by
  unfold ending
  split
  · exact List.cons_ne_nil _ _
  · exact List.cons_ne_nil _ _

/-- What closes a part is no lone backslash. -/
theorem closing_ne : k.closing ≠ ['\\'] := by
  intro hlone
  cases hlone

/-- What stands behind a part is no lone backslash. -/
theorem append_ending_ne {cs : List Char} (h : cs ≠ ['\\']) : cs ++ k.ending ≠ ['\\'] := by
  intro hlone
  cases cs with
  | nil =>
    rw [List.nil_append, ending] at hlone
    split at hlone
    · cases hlone
    · cases hlone
  | cons c cs =>
    have hlength := congrArg List.length hlone
    have hend := List.length_pos_iff.2 k.ending_ne_nil
    rw [List.length_append, List.length_cons, List.length_singleton] at hlength
    omega

/-- The groups opened in the part are known to the second reader after those opened before. -/
structure Groups (r r' : Reader) : Prop where
  widths : r'.widths = k.widths ++ r.widths
  names : r'.names = k.names ++ r.names.map fun x => (x.1, x.2 + k.shift)
  fresh : ∀ x ∈ r.names, k.names.lookup x.1 = none
  positive : ∀ x ∈ r.names, 0 < x.2

/-- `r` reads the part alone, and `r'` has come to the same place in the larger pattern, where no flags of
the whole pattern may stand. At the end of the part it may have come past the line feed too. -/
structure Within (r r' : Reader) : Prop where
  rest : r'.rest = r.rest ++ k.ending ∨ r.rest = [] ∧ r'.rest = k.closing
  whole : r.rest ≠ ['\\']
  flags : r.flags = k.flags
  outer : r'.flags = {}
  begun : r'.started = true
  flagGroups : r.flagGroups = k.flagGroups
  count : r'.widths.length = k.shift + r.widths.length
  groups : k.unnumbered → k.Groups r r'
  lookbehind : k.fits → r'.lookbehind = r.lookbehind.map (· + k.shift)
  mentioned : k.fits → r'.mentioned = []

end Frame

/-- The readers have noted the same, other than which groups are there and where flags of the whole pattern may
stand. -/
structure Reader.SameNotes (r s : Reader) : Prop where
  flags : s.flags = r.flags
  names : s.names = r.names
  lookbehind : s.lookbehind = r.lookbehind
  mentioned : s.mentioned = r.mentioned
  flagGroups : s.flagGroups = r.flagGroups

/-- The readers differ in nothing that a frame looks at, other than their places. -/
structure Reader.SameGroups (r s : Reader) : Prop extends SameNotes r s where
  widths : s.widths = r.widths
  started : r.started = true → s.started = true

namespace Reader

/-- A reader has noted the same as itself. -/
theorem SameNotes.refl (r : Reader) : r.SameNotes r := ⟨rfl, rfl, rfl, rfl, rfl⟩

/-- Steps that note nothing can be put together. -/
theorem SameNotes.trans {r s u : Reader} (h : r.SameNotes s) (h' : s.SameNotes u) : r.SameNotes u where
  flags := h'.flags.trans h.flags
  names := h'.names.trans h.names
  lookbehind := h'.lookbehind.trans h.lookbehind
  mentioned := h'.mentioned.trans h.mentioned
  flagGroups := h'.flagGroups.trans h.flagGroups

/-- A reader has the same groups as itself. -/
theorem SameGroups.refl (r : Reader) : r.SameGroups r := { SameNotes.refl r with widths := rfl, started := id }

/-- Steps that leave the groups as they are can be put together. -/
theorem SameGroups.trans {r s u : Reader} (h : r.SameGroups s) (h' : s.SameGroups u) : r.SameGroups u where
  toSameNotes := h.toSameNotes.trans h'.toSameNotes
  widths := h'.widths.trans h.widths
  started := h'.started ∘ h.started

/-- Leaving a piece behind opens no group. -/
theorem sameGroups_past (r : Reader) (p : Piece) : r.SameGroups (r.past p) := { SameGroups.refl r with }

/-- The same, for readers of which one has left the piece behind. -/
theorem Leaves.groups {r s : Reader} {p : Piece} (h : r.Leaves p s) : r.SameGroups s := by
  rw [h.past]
  exact r.sameGroups_past p

end Reader

/-- What is known of the place where a reading ends, and so of all places before. -/
structure Ending where
  holds : Reader → Prop
  back : ∀ {r s : Reader}, r.Before s → holds s → holds r

namespace Ending

/-- Nothing is known. -/
def any : Ending := ⟨fun _ => True, fun _ _ => trivial⟩

/-- No reference by number was met if there is none, the source is used up only if `v` holds, and what was
read so far can stand in the larger pattern if the part does. -/
structure Allows (k : Frame) (v : Prop) (r : Reader) : Prop where
  number : k.unnumbered → r.byNumber = false
  ends : r.rest = [] → v
  flagGroups : k.fits → r.flagGroups ≤ k.flagGroups
  names : k.fits → ∀ x ∈ r.names, k.names.lookup x.1 = none

/-- This is known. -/
def allows (k : Frame) (v : Prop) : Ending where
  holds := Allows k v
  back := by
    rintro r s hrs hs
    constructor
    · -- What was noted on the way stays noted.
      intro hk
      by_contra hr
      have hnoted := hrs.byNumber (by simpa using hr)
      simp [hs.number hk] at hnoted
    · intro hr
      have hrest := hrs.rest
      rw [hr] at hrest
      exact hs.ends (List.suffix_nil.1 hrest)
    · exact fun hk => Nat.le_trans hrs.flagGroups (hs.flagGroups hk)
    · exact fun hk x hx => hs.names hk x (hrs.names.subset hx)

end Ending

namespace Frame

variable {k : Frame} {r r' s s' : Reader} {p : Piece}

namespace Within

/-- Readers that move on together, and open and close no groups, stay within the frame. -/
theorem keep (hw : k.Within r r') (hs : r.SameGroups s) (hs' : r'.SameGroups s')
    (hrest : s'.rest = s.rest ++ k.ending ∨ s.rest = [] ∧ s'.rest = k.closing)
    (hwhole : s.rest ≠ ['\\']) : k.Within s s' where
  rest := hrest
  whole := hwhole
  flags := hs.flags.trans hw.flags
  outer := hs'.flags.trans hw.outer
  begun := hs'.started hw.begun
  flagGroups := hs.flagGroups.trans hw.flagGroups
  count := by
    rw [hs.widths, hs'.widths]
    exact hw.count
  groups hk := by
    have hg := hw.groups hk
    constructor
    · rw [hs.widths, hs'.widths]
      exact hg.widths
    · rw [hs.names, hs'.names]
      exact hg.names
    · rw [hs.names]
      exact hg.fresh
    · rw [hs.names]
      exact hg.positive
  lookbehind hk := by
    rw [hs.lookbehind, hs'.lookbehind]
    exact hw.lookbehind hk
  mentioned hk := hs'.mentioned.trans (hw.mentioned hk)

/-- Readers that stay where they are and open and close no groups. -/
theorem stay (hw : k.Within r r') (hs : r.SameGroups s) (hs' : r'.SameGroups s') (hrest : s.rest = r.rest)
    (hrest' : s'.rest = r'.rest) : k.Within s s' := by
  apply hw.keep hs hs'
  · rw [hrest, hrest']
    exact hw.rest
  · rw [hrest]
    exact hw.whole

/-- The larger pattern has at least as much left. -/
theorem length_le (hw : k.Within r r') : r.rest.length ≤ r'.rest.length := by
  rcases hw.rest with hrest | ⟨hnil, -⟩
  · rw [hrest, List.length_append]
    omega
  · rw [hnil]
    exact Nat.zero_le _

/-- Before its end, what is left of the part stands before its ending. -/
theorem rest_of_ne_nil (hw : k.Within r r') (hne : r.rest ≠ []) : r'.rest = r.rest ++ k.ending := by
  rcases hw.rest with hrest | ⟨hnil, -⟩
  · exact hrest
  · exact absurd hnil hne

/-- The next piece of the part is next in the larger pattern. -/
theorem first? (hw : k.Within r r') (h : Piece.first? r.rest = some p) :
    Piece.first? r'.rest = some p := by
  have hne : r.rest ≠ [] := by
    intro hnil
    rw [hnil] at h
    cases h
  rw [hw.rest_of_ne_nil hne]
  exact Piece.first?_append_right h hw.whole _

/-- Behind a piece of the part, what is left of the larger pattern is what is left of the part and its ending. -/
theorem past_rest (hw : k.Within r r') (h : r.Leaves p s) : (r'.past p).rest = s.rest ++ k.ending := by
  have htaken := Piece.first?_append h.first
  have hne : r.rest ≠ [] := by
    intro hnil
    have hfirst := h.first
    rw [hnil] at hfirst
    cases hfirst
  rw [h.past]
  show r'.rest.drop _ = r.rest.drop _ ++ _
  rw [hw.rest_of_ne_nil hne, ← htaken, List.append_assoc, List.drop_left, List.drop_left]

/-- The second reader leaves a piece of the part behind too. -/
theorem leaves (hw : k.Within r r') (h : r.Leaves p s) :
    r'.Leaves p (r'.past p) ∧ k.Within s (r'.past p) := by
  have hrest := hw.past_rest h
  refine ⟨⟨hw.first? h.first, rfl, ?_⟩, hw.keep h.groups (r'.sameGroups_past p) (.inl hrest) h.whole⟩
  rw [hrest]
  exact k.append_ending_ne h.whole

/-- Where the part ends, the larger pattern goes on with a parenthesis or a line feed. -/
theorem first?_of_nil (hw : k.Within r r') (hnil : r.rest = []) :
    Piece.first? r'.rest = some (.char ')') ∨ Piece.first? r'.rest = some (.char '\n') := by
  have hrest : r'.rest = k.ending ∨ r'.rest = k.closing := by
    rcases hw.rest with hrest | ⟨-, hrest⟩
    · left
      simpa [hnil] using hrest
    · exact .inr hrest
  rcases hrest with hrest | hrest
  · rw [hrest, ending]
    split
    · exact .inr (Piece.first?_char (by decide))
    · exact .inl (Piece.first?_char (by decide))
  · left
    rw [hrest]
    exact Piece.first?_char (by decide)

/-- The readers take the same piece, except perhaps at the end of the part. If they take one, what is left of
the part stands before its ending. -/
theorem nextUnless {stop : Piece → Bool} {a : Option Piece} (hw : k.Within r r')
    (h : (nextUnless stop).run r = .ok (a, s)) :
    (∃ s', (Reader.nextUnless stop).run r' = .ok (a, s') ∧ k.Within s s' ∧
        (a ≠ none → s'.rest = s.rest ++ k.ending)) ∨ (a = none ∧ r = s ∧ r.rest = []) := by
  cases a with
  | some p =>
    rcases nextUnless_some.1 h with ⟨hstop, hleaves⟩
    obtain ⟨hleaves', hws⟩ := hw.leaves hleaves
    exact .inl ⟨_, nextUnless_some.2 ⟨hstop, hleaves'⟩, hws, fun _ => hw.past_rest hleaves⟩
  | none =>
    rcases nextUnless_none.1 h with ⟨hstop, rfl⟩
    cases hq : Piece.first? r.rest with
    | none => exact .inr ⟨rfl, rfl, Piece.first?_eq_none.1 hq⟩
    | some q =>
      -- The piece is a stop, and so it is for the second reader.
      have hstop' : ∀ p, Piece.first? r'.rest = some p → stop p = true := by
        intro p hp
        cases (hw.first? hq).symm.trans hp
        exact hstop q hq
      exact .inl ⟨r', nextUnless_none.2 ⟨hstop', rfl⟩, hw, fun h => absurd rfl h⟩

end Within

/-! ## Related readings -/

/-- A step of the reader of the part alone has come to `s` with the value `a`, and `x` is what comes of the step
that the other reader takes at the same place. If that is not refused, it ends at the same place with a related
value; it is not refused if the part fits. -/
structure Meets {α β : Type} (k : Frame) (R : α → β → Prop) (a : α) (s : Reader)
    (x : Except PatternFailure (β × Reader)) : Prop where
  same : ∀ a' s', x = .ok (a', s') → R a a' ∧ k.Within s s'
  goes : k.fits → ∃ a' s', x = .ok (a', s')

/-- The step `m` of a reader of the part alone and the step `m'` of one of the larger pattern at the same place
meet, unless the first is refused. -/
def Agrees {α β : Type} (k : Frame) (e : Ending) (R : α → β → Prop) (m : Read α) (m' : Read β) : Prop :=
  ∀ ⦃r r' a s⦄, k.Within r r' → m.run r = .ok (a, s) → e.holds s → k.Meets R a s (m'.run r')

/-- Steps meet where the second has a known outcome at the same place with a related value. -/
theorem Meets.of_ok {α β : Type} {R : α → β → Prop} {a : α} {a' : β} {x : Except PatternFailure (β × Reader)}
    (hx : x = .ok (a', s')) (hR : R a a') (hw : k.Within s s') : k.Meets R a s x := by
  subst hx
  constructor
  · rintro b t ⟨⟩
    exact ⟨hR, hw⟩
  · exact fun _ => ⟨a', s', rfl⟩

/-- If a first step meets, it is enough that what follows does, from wherever that step has come to. -/
theorem Meets.bind {α β γ δ : Type} {R : α → β → Prop} {S : γ → δ → Prop} {m' : Read β} {f' : β → Read δ} {a : α}
    {c : γ} {t : Reader} (h : k.Meets R a t (m'.run r'))
    (hf : ∀ a' t', R a a' → k.Within t t' → k.Meets S c s ((f' a').run t')) :
    k.Meets S c s ((m' >>= f').run r') := by
  constructor
  · intro c' s' h'
    rcases Read.bind_ok.1 h' with ⟨a', t', hm', hf'⟩
    rcases h.same a' t' hm' with ⟨ha, hwt⟩
    exact (hf a' t' ha hwt).same c' s' hf'
  · intro hk
    rcases h.goes hk with ⟨a', t', hm'⟩
    rcases h.same a' t' hm' with ⟨ha, hwt⟩
    rcases (hf a' t' ha hwt).goes hk with ⟨c', s', hf'⟩
    exact ⟨c', s', Read.bind_ok.2 ⟨a', t', hm', hf'⟩⟩

namespace Agrees

variable {α β γ δ : Type} {e : Ending} {R : α → β → Prop} {S : γ → δ → Prop}
variable {m : Read α} {m' : Read β} {f : α → Read γ} {f' : β → Read δ}

/-- Steps that read nothing agree if their values are related. -/
theorem pure {a : α} {a' : β} (h : R a a') : k.Agrees e R (pure a) (pure a') := by
  intro r r' b s hw hm _
  rcases Read.pure_ok.1 hm with ⟨rfl, rfl⟩
  exact .of_ok rfl h hw

/-- Steps one after the other agree if the second does for all values that the first may yield. -/
theorem bind (hm : k.Agrees e R m m') (hf : ∀ a a', R a a' → k.Agrees e S (f a) (f' a')) :
    k.Agrees e S (m >>= f) (m' >>= f') := by
  intro r r' c s hw h hs
  rcases Read.bind_ok.1 h with ⟨a, t, hma, hfa⟩
  -- What is known of the end is known of the place between the steps too.
  have hfirst := hm hw hma (e.back ((f a).forward hfa) hs)
  exact hfirst.bind fun a' t' ha hwt => hf a a' ha hwt hfa hs

/-- The same when both steps yield one value. -/
theorem bind_eq {x x' : Read α} {g : α → Read γ} {g' : α → Read δ} (hx : k.Agrees e Eq x x')
    (hg : ∀ a, k.Agrees e S (g a) (g' a)) : k.Agrees e S (x >>= g) (x' >>= g') := by
  refine bind hx ?_
  rintro a _ rfl
  exact hg a

/-- What is made of related values has only to be related again. -/
theorem map {g : α → γ} {g' : β → δ} (hm : k.Agrees e R m m') (hg : ∀ a a', R a a' → S (g a) (g' a')) :
    k.Agrees e S (g <$> m) (g' <$> m') := by
  show k.Agrees e S (m >>= fun a => Pure.pure (g a)) (m' >>= fun a' => Pure.pure (g' a'))
  exact bind hm fun a a' h => pure (hg a a' h)

/-- A choice that does not depend on the readers agrees if both of its branches do. -/
theorem ite {c : Prop} [Decidable c] {n : Read α} {n' : Read β} (hm : c → k.Agrees e R m m')
    (hn : ¬ c → k.Agrees e R n n') : k.Agrees e R (if c then m else n) (if c then m' else n') := by
  split
  · rename_i hc
    exact hm hc
  · rename_i hc
    exact hn hc

/-- Nothing has to be shown when the reading of the part alone is refused. -/
theorem left (h : m.Refuses) : k.Agrees e R m m' := by
  intro r r' a s _ hm
  exact absurd hm (h r a s)

/-- A part that does not fit may be refused in the larger pattern. -/
theorem right (hk : ¬ k.fits) (h : m'.Refuses) : k.Agrees e R m m' := by
  intro r r' a s _ _ _
  exact ⟨fun a' s' hm' => absurd hm' (h r' a' s'), fun hfits => absurd hfits hk⟩

/-- The readers that are looked at are within the frame. -/
theorem here : k.Agrees e k.Within here here := by
  intro r r' t s hw h _
  rcases here_ok.1 h with ⟨rfl, rfl⟩
  exact .of_ok rfl hw hw

/-- Readers that note something agree if they are still within the frame. -/
theorem move {g g' : Reader → Reader} {hg hg'} (h : ∀ r r', k.Within r r' → k.Within (g r) (g' r')) :
    k.Agrees e Eq (Read.move g hg) (Read.move g' hg') := by
  intro r r' u s hw hm _
  obtain rfl := Read.move_ok.1 hm
  exact .of_ok rfl rfl (h r r' hw)

/-- A check agrees if the part fits only where the larger pattern passes it too. -/
theorem refuseIf {bad bad' : Bool} {cause cause' : PatternCause} {back back' : Nat}
    (h : k.fits → bad = false → bad' = false) :
    k.Agrees e Eq (refuseIf bad cause back) (refuseIf bad' cause' back') := by
  intro r r' u s hw hm _
  rcases refuseIf_ok.1 hm with ⟨hbad, rfl⟩
  constructor
  · intro u' s' hm'
    rcases refuseIf_ok.1 hm' with ⟨-, rfl⟩
    exact ⟨rfl, hw⟩
  · exact fun hk => ⟨(), r', refuseIf_ok.2 ⟨h hk hbad, rfl⟩⟩

/-- A reading that goes back if it yields nothing; what it would have ended with must not matter. -/
theorem attempt {x x' : Read (Option α)} (h : k.Agrees .any Eq x x') :
    k.Agrees e Eq x.attempt x'.attempt := by
  intro r r' a s hw hx _
  -- One reading cannot go back where the other finds something, since what they find is the same.
  have hsplit : (∃ b, a = some b ∧ x.run r = .ok (some b, s)) ∨
      (a = none ∧ r = s ∧ ∃ t, x.run r = .ok (none, t)) := by
    unfold Read.attempt at hx
    simp only at hx
    split at hx
    · rename_i b t hb
      cases hx
      exact .inl ⟨b, rfl, hb⟩
    · rename_i t hb
      cases hx
      exact .inr ⟨rfl, rfl, t, hb⟩
    · cases hx
  rcases hsplit with ⟨b, rfl, hb⟩ | ⟨rfl, rfl, t, hb⟩
  · have hmeets := h hw hb trivial
    constructor
    · intro a' s' hx'
      unfold Read.attempt at hx'
      simp only at hx'
      split at hx'
      · rename_i b' t' hb'
        cases hx'
        exact hmeets.same _ _ hb'
      · rename_i t' hb'
        cases (hmeets.same _ _ hb').1
      · cases hx'
    · intro hk
      rcases hmeets.goes hk with ⟨a', t', ha'⟩
      obtain ⟨rfl, -⟩ := hmeets.same _ _ ha'
      exact ⟨some b, t', by simp only [Read.attempt, ha']⟩
  · have hmeets := h hw hb trivial
    constructor
    · intro a' s' hx'
      unfold Read.attempt at hx'
      simp only at hx'
      split at hx'
      · rename_i b' t' hb'
        cases (hmeets.same _ _ hb').1
      · cases hx'
        exact ⟨rfl, hw⟩
      · cases hx'
    · intro hk
      rcases hmeets.goes hk with ⟨a', t', ha'⟩
      obtain ⟨rfl, -⟩ := hmeets.same _ _ ha'
      exact ⟨none, r', by simp only [Read.attempt, ha']⟩

/-! ## Pieces -/

/-- A step that leaves no piece behind where the part ends. -/
theorem nextUnless {stop : Piece → Bool} (hparen : stop (.char ')') = true)
    (hfeed : stop (.char '\n') = true) :
    k.Agrees e Eq (nextUnless stop) (Reader.nextUnless stop) := by
  intro r r' a s hw h _
  rcases hw.nextUnless h with ⟨s', h', hws, -⟩ | ⟨rfl, rfl, hnil⟩
  · exact .of_ok h' rfl hws
  · -- The part is used up, and either way in which the larger pattern goes on is a stop.
    refine .of_ok (nextUnless_none.2 ⟨fun p hp => ?_, rfl⟩) rfl hw
    rcases hw.first?_of_nil hnil with hnext | hnext
    · cases hnext.symm.trans hp
      exact hparen
    · cases hnext.symm.trans hp
      exact hfeed

/-- A piece that has to come is the same, for without one the reading of the part is refused. -/
theorem nextOr {x x' : Read Piece} (hx : x.Refuses) : k.Agrees e Eq (nextOr x) (Reader.nextOr x') := by
  intro r r' p s hw h _
  rcases Read.bind_ok.1 h with ⟨a, t, ha, hp⟩
  cases a with
  | none =>
    -- Without a piece the first reading is refused.
    exact absurd hp (hx t p s)
  | some q =>
    rcases Read.pure_ok.1 hp with ⟨rfl, rfl⟩
    rcases hw.nextUnless ha with ⟨t', ha', hwt, -⟩ | ⟨hnone, -, -⟩
    · exact .of_ok (Read.bind_ok.2 ⟨some q, t', ha', Read.pure_ok.2 ⟨rfl, rfl⟩⟩) rfl hwt
    · cases hnone

/-- A character is accepted by both readers or by neither, other than those that may stand behind the part. -/
theorem accept {c : Char} (hparen : c ≠ ')') (hfeed : c ≠ '\n') :
    k.Agrees e Eq (accept c) (Reader.accept c) := by
  refine bind (nextUnless ?_ ?_) fun a a' ha => ?_
  · simpa [bne] using hparen.symm
  · simpa [bne] using hfeed.symm
  · exact pure (congrArg Option.isSome ha)

/-- Characters that cannot stand behind the part are the same. -/
theorem takeWhile {p : Char → Bool} (hparen : p ')' = false) (hfeed : p '\n' = false) :
    ∀ limit, k.Agrees e Eq (takeWhile p limit) (Reader.takeWhile p limit) := by
  intro limit
  induction limit with
  | zero => exact pure rfl
  | succ limit ih =>
    refine bind (nextUnless (by simp [Piece.isChar, hparen]) (by simp [Piece.isChar, hfeed])) ?_
    rintro (_ | q) _ rfl
    · exact pure rfl
    · refine bind ih fun cs cs' hcs => ?_
      exact pure (congrArg _ hcs)

/-- So are all that follow, the larger pattern having fuel enough if the part fits. -/
theorem takeAll {p : Char → Bool} (hparen : p ')' = false) (hfeed : p '\n' = false) :
    ∀ fuel fuel', (k.fits → fuel ≤ fuel') →
      k.Agrees e Eq (takeAll p fuel) (Reader.takeAll p fuel') := by
  intro fuel
  induction fuel with
  | zero => intro fuel' _; exact left (refuse_refuses _ _)
  | succ fuel ih =>
    intro fuel' hfuel
    cases fuel' with
    | zero => exact right (fun hk => Nat.not_succ_le_zero _ (hfuel hk)) (refuse_refuses _ _)
    | succ fuel' =>
      refine bind (nextUnless (by simp [Piece.isChar, hparen]) (by simp [Piece.isChar, hfeed])) ?_
      rintro (_ | q) _ rfl
      · exact pure rfl
      · refine bind (ih fuel' fun hk => Nat.le_of_succ_le_succ (hfuel hk)) fun cs cs' hcs => ?_
        exact pure (congrArg _ hcs)

/-- Whether a character is next, other than those that may stand where the part ends. -/
theorem peek {c : Char} (hparen : c ≠ ')') (hfeed : c ≠ '\n') :
    k.Agrees e (fun a a' => a = some (.char c) ↔ a' = some (.char c)) peek Reader.peek := by
  intro r r' a s hw h _
  rcases peek_ok.1 h with ⟨rfl, rfl⟩
  refine .of_ok (peek_ok.2 ⟨rfl, rfl⟩) ?_ hw
  cases hq : Piece.first? r.rest with
  | none =>
    rcases hw.first?_of_nil (Piece.first?_eq_none.1 hq) with hp | hp
    · rw [hp]
      simp [hparen.symm]
    · rw [hp]
      simp [hfeed.symm]
  | some q => rw [hw.first? hq]

/-! ## Names -/

/-- A name that does not end is refused. -/
theorem unfinishedName_refuses (stop : Char) (what : String) (found : List Char) :
    (unfinishedName stop what found : Read α).Refuses := by
  unfold unfinishedName
  split
  · exact refuse_refuses _ _
  · exact refuse_refuses _ _

/-- The characters up to the end of a name are the same. -/
theorem takeUntil (stop : Char) (what : String) :
    ∀ fuel fuel' found, (k.fits → fuel ≤ fuel') → k.Agrees e Eq (takeUntil stop what fuel found)
      (Reader.takeUntil stop what fuel' found) := by
  intro fuel
  induction fuel with
  | zero => intro fuel' found _; exact left (refuse_refuses _ _)
  | succ fuel ih =>
    intro fuel' found hfuel
    cases fuel' with
    | zero => exact right (fun hk => Nat.not_succ_le_zero _ (hfuel hk)) (refuse_refuses _ _)
    | succ fuel' =>
      refine bind_eq (nextOr (unfinishedName_refuses stop what found)) fun p => ?_
      refine ite (fun _ => ?_) fun _ => ih fuel' _ fun hk => Nat.le_of_succ_le_succ (hfuel hk)
      exact ite (fun _ => left (refuse_refuses _ _)) fun _ => pure rfl

/-- A name is the same, since the larger pattern has at least as much left. -/
theorem readName (stop : Char) (what : String) :
    k.Agrees e Eq (readName stop what) (Reader.readName stop what) :=
  bind here fun _ _ hw => takeUntil stop what _ _ [] fun _ => Nat.succ_le_succ hw.length_le

end Agrees

end Frame

end PatternLexer
