import PatternLexer.Proofs.Part.Abreast
import PatternLexer.Proofs.Part.Body

/-!
# Flags given with a source

Flags of a pattern are given with its source, or stand at its front. `Pattern.eq_of_source` says that this makes no
difference: a pattern is known by its source and its flags.

Readers of the same source that are given different flags read abreast. As long as only one of the patterns is
verbose, the other can become so only by flags at its front, before which nothing but comments and other flags may
stand (`Reader.opens_front`). Both readers take these alike (`Reader.sequence_front`), and from then on it does not
matter which flags were given.
-/

namespace PatternLexer

open Reader

/-! ## Readers of the same source -/

namespace Pairing

variable {r r' : Reader}

/-- The same is left for both readers. -/
def ofFlags (flags : Flags → Flags → Prop) : Pairing where
  rests := Eq
  flags := flags
  reach _ := True
  reach_back _ _ := trivial
  first? h := congrArg Piece.first? h.symm
  past h _ _ := congrArg _ h

/-- The readers may have any flags. -/
def anyFlags : Pairing := ofFlags fun _ _ => True

/-- Both patterns are verbose or neither is. -/
def sameVerbose : Pairing := ofFlags fun fs fs' => fs'.verbose = fs.verbose

theorem sameVerbose_keepsFlags : sameVerbose.KeepsFlags where
  verbose h := h
  union on _ _ h := congrArg (· || on.verbose) h

theorem abreast_anyFlags (h : sameVerbose.Abreast r r') : anyFlags.Abreast r r' := by
  obtain ⟨rest, source, flags, hrest, -, hr'⟩ := h
  exact ⟨rest, source, flags, hrest, trivial, hr'⟩

theorem abreast_sameVerbose (h : anyFlags.Abreast r r') (hverbose : r'.flags.verbose = r.flags.verbose) :
    sameVerbose.Abreast r r' := by
  obtain ⟨rest, source, flags, hrest, -, rfl⟩ := h
  exact ⟨rest, source, flags, hrest, hverbose, rfl⟩

end Pairing

open Pairing

/-! ## The front of a pattern -/

namespace Reader

variable {r r' s s' : Reader} {n n' : Nat} {item item' : List Tree}

/-- The front of a group leaves the flags as they are. -/
theorem readOpening_keeps {start : Nat} {opening : Opening} (h : (readOpening start).run r = .ok (opening, s)) :
    s.flags = r.flags := by
  let k := ofFlags fun fs _ => fs = r.flags
  have habreast : k.Abreast r r := ⟨r.rest, r.source, r.flags, rfl, rfl, rfl⟩
  obtain ⟨-, _, _, _, -, hflags, -⟩ := Steady.readOpening start habreast h h trivial
  exact hflags

/-- A pattern that is not verbose at first becomes so by flags at its front, before which nothing but comments and
other flags may stand. -/
theorem opens_front (hr : r.flags.verbose = false) (hs : s.flags.verbose = true)
    (h : (sequence false [] n).run r = .ok (item, s)) :
    ∃ t, r.rest = '(' :: t ∧ ∀ {u v : Reader} {opening : Opening}, r.Leaves (.char '(') u →
      (readOpening r.pos).run u = .ok (opening, v) → opening = .comment ∨ ∃ on, opening = .global on := by
  -- After anything else the flags are fixed.
  have hfixed : s.flags = r.flags → False := fun hsame => by
    rw [hsame, hr] at hs
    cases hs
  obtain ⟨m, hstep⟩ := sequence_ok h
  cases hstep with
  | ends _ _ hsame => exact (hfixed (by rw [hsame])).elim
  | blank _ _ hblank => cases hblank
  | line _ hverbose => cases hverbose
  | piece hleaves _ _ _ _ hadd hmore =>
    have hstays := ((addPiece _ _ _).forward hadd).trans ((sequence _ _ _).forward hmore)
    exact (hfixed ((hstays.fixed rfl).2.trans hleaves.groups.flags)).elim
  | @paren u v opening hleaves hopening hgoes =>
    refine ⟨_, (Piece.first?_append hleaves.first).symm, fun {u' v' opening'} hleaves' hopening' => ?_⟩
    obtain rfl : u' = u := hleaves'.past.trans hleaves.past.symm
    cases hopening'.symm.trans hopening
    cases hgoes with
    | global => exact .inr ⟨_, rfl⟩
    | comment => exact .inl rfl
    | group _ _ hgroup hmore =>
      have hstays := ((group _ _ _ _).forward hgroup).trans ((sequence _ _ _).forward hmore)
      have hflags := (readOpening_keeps hopening).trans hleaves.groups.flags
      exact (hfixed ((hstays.fixed rfl).2.trans hflags)).elim

/-- So do two patterns of the same source of which only one is verbose at first. -/
theorem opens_either (habreast : anyFlags.Abreast r r')
    (h : (sequence r.flags.verbose [] n).run r = .ok (item, s))
    (h' : (sequence r'.flags.verbose [] n').run r' = .ok (item', s')) (hs : s'.flags.verbose = s.flags.verbose)
    (hverbose : r'.flags.verbose ≠ r.flags.verbose) :
    ∃ t, r.rest = '(' :: t ∧ ∀ {u v u' v' : Reader} {opening : Opening}, r.Leaves (.char '(') u →
      (readOpening r.pos).run u = .ok (opening, v) → r'.Leaves (.char '(') u' →
      (readOpening r.pos).run u' = .ok (opening, v') → opening = .comment ∨ ∃ on, opening = .global on := by
  have hkept := ((sequence _ _ _).forward h).verbose
  have hkept' := ((sequence _ _ _).forward h').verbose
  obtain ⟨rest, source, flags, rfl, -, rfl⟩ := habreast
  -- The one that is not verbose at first has to become so, and its front tells by what.
  cases hr : r.flags.verbose with
  | false =>
    have hr' : flags.verbose = true := by simpa [hr] using hverbose
    rw [hr] at h
    obtain ⟨t, hrest, hfront⟩ := opens_front hr (hs ▸ hkept' hr') h
    exact ⟨t, hrest, fun hleaves hopening _ _ => hfront hleaves hopening⟩
  | true =>
    have hr' : flags.verbose = false := by simpa [hr] using hverbose
    dsimp only at h'
    rw [hr'] at h'
    obtain ⟨t, hrest, hfront⟩ := opens_front hr' (hs.trans (hkept hr)) h'
    exact ⟨t, hrest, fun _ _ hleaves hopening => hfront hleaves hopening⟩

/-- The first alternative is read alike if in the end both patterns are verbose or neither is. -/
theorem sequence_front (habreast : anyFlags.Abreast r r') (h : (sequence r.flags.verbose [] n).run r = .ok (item, s))
    (h' : (sequence r'.flags.verbose [] n').run r' = .ok (item', s'))
    (hs : s'.flags.verbose = s.flags.verbose) : item = item' ∧ anyFlags.Abreast s s' := by
  -- The front is gone through opening by opening, until both patterns are verbose or neither is.
  induction hlength : r.rest.length using Nat.strong_induction_on generalizing r r' n n' with
  | h length ih =>
    subst hlength
    by_cases hverbose : r'.flags.verbose = r.flags.verbose
    · rw [hverbose] at h'
      obtain ⟨hitem, hend⟩ := (grammar sameVerbose_keepsFlags n n').sequence _ []
        (abreast_sameVerbose habreast hverbose) h h' trivial
      exact ⟨hitem, abreast_anyFlags hend⟩
    · obtain ⟨t, hrest, hfront⟩ := opens_either habreast h h' hs hverbose
      have hsame : r'.rest = r.rest ∧ r'.pos = r.pos := by
        obtain ⟨rest, source, flags, rfl, -, rfl⟩ := habreast
        exact ⟨rfl, rfl⟩
      obtain ⟨m, u, opening, v, hleaves, hopening, hgoes⟩ := sequence_open hrest h
      obtain ⟨m', u', opening', v', hleaves', hopening', hgoes'⟩ := sequence_open (hsame.1.trans hrest) h'
      have hu : anyFlags.Abreast u u' := by
        rw [hleaves.past, hleaves'.past]
        exact habreast.past hleaves.first (.inl trivial)
      have hflags : v.flags = r.flags := (readOpening_keeps hopening).trans hleaves.groups.flags
      have hflags' : v'.flags = r'.flags := (readOpening_keeps hopening').trans hleaves'.groups.flags
      rw [hsame.2] at hopening'
      obtain ⟨rfl, hv⟩ := Steady.readOpening r.pos hu hopening hopening' trivial
      have hless : v.rest.length < r.rest.length := by
        have hle := ((readOpening _).forward hopening).rest.length_le
        have hlt := hleaves.length_lt
        omega
      rcases hfront hleaves hopening hleaves' hopening' with rfl | ⟨on, rfl⟩
      · cases hgoes with
        | group _ hcomment => exact absurd rfl hcomment
        | comment hmore =>
          cases hgoes' with
          | group _ hcomment => exact absurd rfl hcomment
          | comment hmore' =>
            rw [← hflags] at hmore
            rw [← hflags'] at hmore'
            exact ih _ hless hv hmore hmore' rfl
      · cases hgoes with
        | group hglobal => exact absurd rfl (hglobal _)
        | global _ hmore =>
          cases hgoes' with
          | group hglobal => exact absurd rfl (hglobal _)
          | global _ hmore' =>
            have hset : anyFlags.Abreast { v with flags := v.flags.union on, flagGroups := v.flagGroups + 1 }
                { v' with flags := v'.flags.union on, flagGroups := v'.flagGroups + 1 } := by
              obtain ⟨rest, source, flags, hrest, -, rfl⟩ := hv
              exact ⟨rest, source, _, hrest, trivial, rfl⟩
            exact ih _ hless hset hmore hmore' rfl

end Reader

/-! ## The same pattern -/

namespace Pattern

variable {p q : Pattern}

/-- A pattern is known by its source and its flags, whichever of these were given with the source. -/
theorem eq_of_source (hsource : p.source = q.source) (hflags : p.flags = q.flags) : p = q := by
  obtain ⟨given, hp⟩ := p.isRead
  obtain ⟨given', hq⟩ := q.isRead
  obtain ⟨n, items, s, hyields⟩ := Reading.ofSource_ok hp
  obtain ⟨n', items', s', hyields'⟩ := Reading.ofSource_ok hq
  have hverbose : s'.flags.verbose = s.flags.verbose := by
    rw [← (Flags.settleFlags_ok hyields.flags).verbose, ← (Flags.settleFlags_ok hyields'.flags).verbose, hflags]
  -- The first alternative, which the flags stand in front of, and then the others.
  obtain ⟨item, t, hitem, hfurther⟩ := Read.bind_ok.1 hyields.read
  obtain ⟨item', t', hitem', hfurther'⟩ := Read.bind_ok.1 hyields'.read
  have htverbose : t'.flags.verbose = t.flags.verbose := by
    rw [← Frame.furtherItems_flags hfurther, ← Frame.furtherItems_flags hfurther', hverbose]
  have hstart : anyFlags.Abreast (.start p.source given) (.start q.source given') :=
    ⟨q.source.toList, q.source, given', congrArg String.toList hsource, trivial, rfl⟩
  obtain ⟨rfl, ht⟩ := sequence_front hstart hitem hitem' htverbose
  rw [Frame.furtherItems_nested given'.verbose given.verbose] at hfurther'
  obtain ⟨rfl, hs⟩ := (grammar sameVerbose_keepsFlags n n').furtherItems given.verbose false item
    (abreast_sameVerbose ht htverbose) hfurther hfurther' trivial
  obtain ⟨rest, source, flags, -, -, rfl⟩ := hs
  have htree := hyields.tree.trans hyields'.tree.symm
  have hgroups := hyields.groups.trans hyields'.groups.symm
  have hnames := hyields.names.trans hyields'.names.symm
  have hbyNumber := hyields.byNumber.trans hyields'.byNumber.symm
  have hflagGroups := hyields.flagGroups.trans hyields'.flagGroups.symm
  rcases p with ⟨⟨_, _, _, _, _, _⟩, _, _⟩
  rcases q with ⟨⟨_, _, _, _, _, _⟩, _, _⟩
  cases hsource
  cases hflags
  cases htree
  cases hgroups
  cases hnames
  cases hbyNumber
  cases hflagGroups
  rfl

end Pattern

end PatternLexer
