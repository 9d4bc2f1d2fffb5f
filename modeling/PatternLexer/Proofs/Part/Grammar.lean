import PatternLexer.Proofs.Part.Opening

/-!
# The grammar in a part

Alternatives, sequences and groups are read alike alone and in a larger pattern (`Frame.reads`). The induction
is on the fuel of the first reading. The second may have any fuel, but needs more than the first if it is not to
be refused: it has one step more to take where a line feed was put behind a verbose part.

The end of the part needs care. Alone, a sequence ends where the source does; in the larger pattern it ends at
the closing parenthesis, which is found only if the sequence skips the line feed that may stand before it. So a
sequence that uses up the part has to be verbose just when there is a line feed, and one inside parentheses
never uses it up.
-/

namespace PatternLexer

open List (Forall₂)
open Reader

namespace Reader

variable {r s : Reader} {n : Nat} {verbose : Bool} {found : List Element} {ts : List Tree}

/-! ## One step of a sequence -/

/-- How a sequence goes on after the front of a parenthesis: flags of the whole pattern are set, a comment
is skipped, and a group becomes an element. -/
inductive GoesOn (verbose : Bool) (found : List Element) (start n : Nat) (ts : List Tree) (r s : Reader) :
    Opening → Prop where
  | global {on : Flags} (hstarted : r.started = false)
      (hrest : (sequence (r.flags.union on).verbose found n).run
        { r with flags := r.flags.union on, flagGroups := r.flagGroups + 1 } = .ok (ts, s)) :
      GoesOn verbose found start n ts r s (.global on)
  | comment (hrest : (sequence verbose found n).run r = .ok (ts, s)) :
      GoesOn verbose found start n ts r s .comment
  | group {opening : Opening} {x : Element} {t : Reader} (hglobal : ∀ on, opening ≠ .global on)
      (hcomment : opening ≠ .comment)
      (hgroup : (group opening start verbose n).run { r with started := true } = .ok (x, t))
      (hrest : (sequence verbose (x :: found) n).run t = .ok (ts, s)) :
      GoesOn verbose found start n ts r s opening

/-- Flags of the whole pattern are set where nothing was read before them. -/
theorem setFlags_run (on : Flags) (hstarted : r.started = false) :
    (setFlags on).run r = .ok ((), { r with flags := r.flags.union on, flagGroups := r.flagGroups + 1 }) :=
  Read.move_ok.2 (if_neg (by simp [hstarted]))

/-- These are all the ways to go on after the front of a parenthesis. -/
theorem goesOn_ok {start : Nat} {opening : Opening} :
    (match opening with
      | .comment => sequence verbose found n
      | .global on => do
        if (← here).started then refuseAt .misplacedFlags start
        else
          setFlags on
          sequence (← here).flags.verbose found n
      | opening => do
        noteStarted
        sequence verbose ((← group opening start verbose n) :: found) n).run r = .ok (ts, s) ↔
      GoesOn verbose found start n ts r s opening := by
  constructor
  · intro h
    -- A comment and the flags of the whole pattern hold nothing to be kept; every other opening makes an element.
    split at h
    · exact .comment h
    · rename_i on
      replace h := here_bind.1 h
      split at h
      · exact absurd h (refuseAt_refuses _ _ _ _ _)
      · rename_i hstarted
        have hstarted : r.started = false := by simpa using hstarted
        rw [Read.run_bind (setFlags_run on hstarted)] at h
        exact .global hstarted (here_bind.1 h)
    · rename_i hcomment hglobal
      replace h := Read.move_bind.1 h
      rcases Read.bind_ok.1 h with ⟨x, t, hgroup, h⟩
      exact .group hglobal hcomment hgroup h
  · intro h
    cases h with
    | comment hrest => exact hrest
    | global hstarted hrest =>
      refine here_bind.2 ?_
      rw [if_neg (by simp [hstarted]), Read.run_bind (setFlags_run _ hstarted)]
      exact here_bind.2 hrest
    | group hglobal hcomment hgroup hrest =>
      split
      · exact absurd rfl hcomment
      · exact absurd rfl (hglobal _)
      · exact Read.move_bind.2 (Read.bind_ok.2 ⟨_, _, hgroup, hrest⟩)

/-- What a sequence does first, and how it goes on. -/
inductive SequenceStep (verbose : Bool) (found : List Element) (n : Nat) (ts : List Tree) (r s : Reader) :
    Prop where
  | ends (hends : ∀ p, Piece.first? r.rest = some p → endsItem p = true) (hts : ts = elements found)
      (hs : r = s)
  | blank {p : Piece} {u : Reader} (hleaves : r.Leaves p u) (hends : endsItem p = false)
      (hblank : (verbose && p.isChar isVerboseBlank) = true)
      (hrest : (sequence verbose found n).run u = .ok (ts, s))
  | line {u v : Reader} (hleaves : r.Leaves (.char '#') u) (hverbose : verbose = true)
      (hskip : (skipLine (u.rest.length + 1)).run u = .ok ((), v))
      (hrest : (sequence verbose found n).run v = .ok (ts, s))
  | paren {u v : Reader} {opening : Opening} (hleaves : r.Leaves (.char '(') u)
      (hopening : (readOpening r.pos).run u = .ok (opening, v))
      (hgoes : GoesOn verbose found r.pos n ts v s opening)
  | piece {p : Piece} {u v : Reader} {found' : List Element} (hleaves : r.Leaves p u)
      (hends : endsItem p = false) (hblank : (verbose && p.isChar isVerboseBlank) = false)
      (hline : (verbose && decide (p = .char '#')) = false) (hparen : p ≠ .char '(')
      (hadd : (addPiece r.pos p found).run { u with started := true } = .ok (found', v))
      (hrest : (sequence verbose found' n).run v = .ok (ts, s))

/-- These are all the steps of a sequence. -/
theorem sequence_step :
    (sequence verbose found (n + 1)).run r = .ok (ts, s) ↔ SequenceStep verbose found n ts r s := by
  constructor
  · intro h
    replace h := here_bind.1 h
    rcases Read.bind_ok.1 h with ⟨p, u, hp, h⟩
    cases p with
    | none =>
      rcases Read.pure_ok.1 h with ⟨rfl, rfl⟩
      rcases nextUnless_none.1 hp with ⟨hends, rfl⟩
      exact .ends hends rfl rfl
    | some p =>
      rcases nextUnless_some.1 hp with ⟨hends, hleaves⟩
      dsimp only at h
      -- The reader asks in this order: blank, comment, parenthesis, and then it takes the piece itself.
      split at h
      · rename_i hblank
        exact .blank hleaves hends hblank h
      · rename_i hblank
        split at h
        · rename_i hline
          rcases Bool.and_eq_true_iff.1 hline with ⟨hverbose, hhash⟩
          obtain rfl := of_decide_eq_true hhash
          replace h := here_bind.1 h
          rcases Read.bind_ok.1 h with ⟨_, v, hskip, h⟩
          exact .line hleaves hverbose hskip h
        · rename_i hline
          split at h
          · rename_i hparen
            subst hparen
            rcases Read.bind_ok.1 h with ⟨opening, v, hopening, h⟩
            exact .paren hleaves hopening (goesOn_ok.1 h)
          · rename_i hparen
            replace h := Read.move_bind.1 h
            rcases Read.bind_ok.1 h with ⟨found', v, hadd, h⟩
            exact .piece hleaves hends (by simpa using hblank) (by simpa using hline) hparen hadd h
  · intro h
    refine here_bind.2 ?_
    cases h with
    | ends hends hts hs =>
      subst hts hs
      exact (Read.run_bind (nextUnless_none.2 ⟨hends, rfl⟩)).trans rfl
    | blank hleaves hends hblank hrest =>
      rw [Read.run_bind (nextUnless_some.2 ⟨hends, hleaves⟩)]
      dsimp only
      rw [if_pos hblank]
      exact hrest
    | line hleaves hverbose hskip hrest =>
      rw [Read.run_bind (nextUnless_some.2 ⟨rfl, hleaves⟩), hverbose]
      exact here_bind.2 (Read.bind_ok.2 ⟨(), _, hskip, hverbose ▸ hrest⟩)
    | paren hleaves hopening hgoes =>
      rw [Read.run_bind (nextUnless_some.2 ⟨rfl, hleaves⟩)]
      -- A parenthesis is neither a blank nor the start of a comment, whatever the flags.
      have hblank : (verbose && (Piece.char '(').isChar isVerboseBlank) = false := Bool.and_false _
      have hline : (verbose && decide (Piece.char '(' = .char '#')) = false := Bool.and_false _
      dsimp only
      rw [hblank, hline]
      exact Read.bind_ok.2 ⟨_, _, hopening, goesOn_ok.2 hgoes⟩
    | piece hleaves hends hblank hline hparen hadd hrest =>
      rw [Read.run_bind (nextUnless_some.2 ⟨hends, hleaves⟩)]
      dsimp only
      rw [hblank, hline, if_neg Bool.false_ne_true, if_neg Bool.false_ne_true, if_neg hparen]
      exact Read.move_bind.2 (Read.bind_ok.2 ⟨_, _, hadd, hrest⟩)

/-- A sequence takes at least one step. -/
theorem sequence_ok (h : (sequence verbose found n).run r = .ok (ts, s)) :
    ∃ m, SequenceStep verbose found m ts r s := by
  cases n with
  | zero => exact absurd h (refuse_refuses _ _ _ _ _)
  | succ m => exact ⟨m, sequence_step.1 h⟩

/-- A sequence ends where no piece goes on with it. -/
theorem sequence_ends (hends : ∀ p, Piece.first? r.rest = some p → endsItem p = true)
    (h : (sequence verbose found n).run r = .ok (ts, s)) : ts = elements found ∧ r = s := by
  rcases sequence_ok h with ⟨m, hstep⟩
  cases hstep with
  | ends _ hts hs => exact ⟨hts, hs⟩
  | blank hleaves hgo => simp [hends _ hleaves.first] at hgo
  | line hleaves => cases hends _ hleaves.first
  | paren hleaves => cases hends _ hleaves.first
  | piece hleaves hgo => simp [hends _ hleaves.first] at hgo

/-- What further alternatives there are: none, or those after a bar. -/
theorem furtherItems_ok {nested : Bool} {item : List Tree} {items : List (List Tree)}
    (h : (furtherItems verbose nested item n).run r = .ok (items, s)) :
    (Piece.first? r.rest ≠ some (.char '|') ∧ items = [item] ∧ r = s) ∨
      ∃ m u others, r.Leaves (.char '|') u ∧ items = item :: others ∧
        (alternatives (if nested then verbose else u.flags.verbose) nested m).run
          { u with started := true } = .ok (others, s) := by
  cases n with
  | zero => exact absurd h (refuse_refuses _ _ _ _ _)
  | succ m =>
    rcases Read.bind_ok.1 h with ⟨more, t, hmore, h⟩
    rcases Read.bind_ok.1 hmore with ⟨p, _, hp, hpure⟩
    rcases Read.pure_ok.1 hpure with ⟨rfl, rfl⟩
    cases p with
    | none =>
      rcases nextUnless_none.1 hp with ⟨hstop, rfl⟩
      rcases Read.pure_ok.1 h with ⟨rfl, rfl⟩
      -- The reader stays before every piece but a bar.
      refine .inl ⟨fun hbar => ?_, rfl, rfl⟩
      simpa using hstop _ hbar
    | some p =>
      rcases nextUnless_some.1 hp with ⟨hstop, hleaves⟩
      have hbar : p = .char '|' := by simpa using hstop
      subst hbar
      replace h := Read.move_bind.1 h
      replace h := here_bind.1 h
      rcases Read.bind_ok.1 h with ⟨others, _, hothers, hpure⟩
      rcases Read.pure_ok.1 hpure with ⟨rfl, rfl⟩
      exact .inr ⟨m, _, others, hleaves, rfl, hothers⟩

/-- A sequence goes on up to a bar or a closing parenthesis. -/
theorem sequence_stops : ∀ (n : Nat) {verbose : Bool} {found : List Element} {r s : Reader} {ts : List Tree},
    (sequence verbose found n).run r = .ok (ts, s) → ∀ p, Piece.first? s.rest = some p → endsItem p = true := by
  -- Every step but the last hands over to a shorter run that ends at the same place.
  intro n
  induction n with
  | zero =>
    intro verbose found r s ts h
    exact absurd h (refuse_refuses _ _ _ _ _)
  | succ n ih =>
    intro verbose found r s ts h
    cases sequence_step.1 h with
    | ends hends _ hs => exact hs ▸ hends
    | blank _ _ _ hrest => exact ih hrest
    | line _ _ _ hrest => exact ih hrest
    | piece _ _ _ _ _ _ hrest => exact ih hrest
    | paren _ _ hgoes =>
      cases hgoes with
      | global _ hrest => exact ih hrest
      | comment hrest => exact ih hrest
      | group _ _ _ hrest => exact ih hrest

/-- Alternatives too go on up to there. -/
theorem alternatives_stops {nested : Bool} : ∀ (items : List (List Tree)) {n : Nat} {verbose : Bool} {r s : Reader},
    (alternatives verbose nested n).run r = .ok (items, s) →
      ∀ p, Piece.first? s.rest = some p → endsItem p = true := by
  -- The fuel of the further alternatives is not known here, so the induction is on what was read.
  intro items
  induction items with
  | nil =>
    intro n verbose r s h
    cases n with
    | zero => exact absurd h (refuse_refuses _ _ _ _ _)
    | succ n =>
      rcases Read.bind_ok.1 h with ⟨item, t, -, hfurther⟩
      rcases furtherItems_ok hfurther with ⟨-, hitems, -⟩ | ⟨m, u, others, -, hitems, -⟩
      · cases hitems
      · cases hitems
  | cons first others ih =>
    intro n verbose r s h
    cases n with
    | zero => exact absurd h (refuse_refuses _ _ _ _ _)
    | succ n =>
      rcases Read.bind_ok.1 h with ⟨item, t, hitem, hfurther⟩
      rcases furtherItems_ok hfurther with ⟨-, -, rfl⟩ | ⟨m, u, others', -, hitems, hothers⟩
      · exact sequence_stops n hitem
      · obtain rfl := (List.cons.inj hitems).2
        exact ih hothers

/-- A sequence ends at a closing parenthesis. -/
theorem sequence_paren {t : List Char} (hrest : r.rest = ')' :: t)
    (h : (sequence verbose found n).run r = .ok (ts, s)) : ts = elements found ∧ r = s := by
  refine sequence_ends (fun p hp => ?_) h
  rw [hrest, Piece.first?_char (by decide)] at hp
  cases hp
  rfl

end Reader

namespace Frame

variable {k : Frame} {e : Ending} {v : Prop} {r r' s s' : Reader} {n : Nat}

/-- The second alternatives look back if the first ones do, and in a part without references by number they are the
first ones renumbered. -/
structure SameItems (k : Frame) (items items' : List (List Tree)) : Prop where
  looksBack : (items'.any fun item => item.any Tree.looksBack) = items.any fun item => item.any Tree.looksBack
  shifted : k.unnumbered → Forall₂ (Forall₂ (Tree.IsShift k.shift)) items items'

namespace SameItems

variable {item item' : List Tree} {items items' : List (List Tree)}

/-- A single alternative is the same if its sequence is. -/
theorem single (h : k.SameTrees item item') : k.SameItems [item] [item'] where
  looksBack := by rw [List.any_cons, List.any_cons, h.looksBack]
  shifted hk := .cons (h.shifted hk) .nil

/-- Alternatives are the same one by one. -/
theorem cons (h : k.SameTrees item item') (hrest : k.SameItems items items') :
    k.SameItems (item :: items) (item' :: items') where
  looksBack := by rw [List.any_cons, List.any_cons, h.looksBack, hrest.looksBack]
  shifted hk := .cons (h.shifted hk) (hrest.shifted hk)

/-- Such alternatives amount to such sequences. -/
theorem join (h : k.SameItems items items') : k.SameTrees (joinAlternatives items) (joinAlternatives items') where
  looksBack := by rw [looksBack_joinAlternatives, looksBack_joinAlternatives, h.looksBack]
  shifted hk := Tree.IsShift.joinAlternatives (h.shifted hk)

/-- The same alternatives make the same pattern. -/
theorem tree (h : k.SameItems items items') :
    k.SameTree (.ofList (joinAlternatives items)) (.ofList (joinAlternatives items')) := h.join.tree

end SameItems

/-! ## The end of a part -/

theorem Meets.here_bind {α β : Type} {R : α → β → Prop} {a : α} {f : Reader → Read β}
    (h : k.Meets R a s ((f r').run r')) : k.Meets R a s ((Reader.here >>= f).run r') := h

/-- A step that may leave a piece behind, where the part may end. If it leaves one, what is left of the
part stands before its ending. -/
theorem Within.nextUnless_bind {α β : Type} {R : α → β → Prop} {stop : Piece → Bool}
    {f : Option Piece → Read α} {f' : Option Piece → Read β} {a : α} (hw : k.Within r r')
    (h : (Reader.nextUnless stop >>= f).run r = .ok (a, s))
    (hsome : ∀ p t t', k.Within t t' → t'.rest = t.rest ++ k.ending → (f (some p)).run t = .ok (a, s) →
      k.Meets R a s ((f' (some p)).run t'))
    (hnone : (f none).run r = .ok (a, s) → k.Meets R a s ((f' none).run r'))
    (hend : r.rest = [] → (f none).run r = .ok (a, s) →
      k.Meets R a s ((Reader.nextUnless stop >>= f').run r')) :
    k.Meets R a s ((Reader.nextUnless stop >>= f').run r') := by
  rcases Read.bind_ok.1 h with ⟨p, t, hp, hf⟩
  rcases hw.nextUnless hp with ⟨t', hp', hwt, hrest⟩ | ⟨rfl, rfl, hnil⟩
  · -- Both readers have done the same, so one of the two continuations applies.
    rw [Read.run_bind hp']
    cases p with
    | some p => exact hsome p t t' hwt (hrest (Option.some_ne_none p)) hf
    | none =>
      rcases nextUnless_none.1 hp with ⟨-, rfl⟩
      rcases nextUnless_none.1 hp' with ⟨-, rfl⟩
      exact hnone hf
  · exact hend hnil hf

/-- At the end of the part the larger pattern goes on with its closing parenthesis, or with the line feed before
it, which it can leave behind. -/
theorem Within.ends (hw : k.Within r r') (hnil : r.rest = []) :
    r'.rest = k.closing ∨ k.feed = true ∧ r'.Leaves (.char '\n') (r'.past (.char '\n')) ∧
      (r'.past (.char '\n')).rest = k.closing ∧ k.Within r (r'.past (.char '\n')) := by
  -- Nothing is left of the part, so what is left of the larger pattern is the ending or, once the line feed has been
  -- taken, the closing parenthesis.
  have hcases : r'.rest = k.closing ∨ k.feed = true ∧ r'.rest = '\n' :: k.closing := by
    rcases hw.rest with hrest | ⟨-, hrest⟩
    · rw [hnil, List.nil_append, ending] at hrest
      split at hrest
      · rename_i hfeed
        exact .inr ⟨hfeed, hrest⟩
      · exact .inl hrest
    · exact .inl hrest
  rcases hcases with hrest | ⟨hfeed, hrest⟩
  · exact .inl hrest
  · have hleaves := Leaves.char hrest (by decide) k.closing_ne
    have hclosing := (hleaves.of_cons hrest (by decide)).2
    exact .inr ⟨hfeed, hleaves, hclosing,
      hw.keep (SameGroups.refl r) (r'.sameGroups_past _) (.inr ⟨hnil, hclosing⟩) hw.whole⟩

/-- A comment that ends with the part ends at the line feed that was put behind it. -/
theorem skipLine_agrees : ∀ fuel fuel' {u : Unit} {r r' : Reader}, (k.fits → fuel ≤ fuel') → k.Within r r' →
    r'.rest = r.rest ++ k.ending → (skipLine fuel).run r = .ok (u, s) → (s.rest = [] → k.feed = true) →
    k.Meets (fun _ _ => True) u s ((skipLine fuel').run r') := by
  intro fuel
  induction fuel with
  | zero =>
    intro fuel' u r r' _ _ _ h
    exact absurd h (refuse_refuses _ _ _ _ _)
  | succ fuel ih =>
    intro fuel' u r r' hfuel hw hrest h hend
    cases fuel' with
    | zero =>
      exact ⟨fun _ _ h' => absurd h' (refuse_refuses _ _ _ _ _),
        fun hk => absurd (hfuel hk) (Nat.not_succ_le_zero _)⟩
    | succ fuel' =>
      refine hw.nextUnless_bind h (fun p t t' hwt hrest' hp => ?_) (fun hp => ?_) fun hnil hp => ?_
      · by_cases hfeed : p = .char '\n'
        · simp only [hfeed, if_true] at hp ⊢
          rcases Read.pure_ok.1 hp with ⟨-, rfl⟩
          exact .of_ok rfl trivial hwt
        · simp only [hfeed, if_false] at hp ⊢
          exact ih fuel' (fun hk => Nat.le_of_succ_le_succ (hfuel hk)) hwt hrest' hp hend
      · rcases Read.pure_ok.1 hp with ⟨-, rfl⟩
        exact .of_ok rfl trivial hw
      · -- The part is used up, and what follows it is the line feed.
        rcases Read.pure_ok.1 hp with ⟨-, rfl⟩
        have hending : r'.rest = '\n' :: k.closing := by
          rw [hrest, hnil, ending, if_pos (hend hnil)]
          rfl
        rcases hw.ends hnil with hclosing | ⟨-, hleaves, -, hwithin⟩
        · rw [hending] at hclosing
          cases hclosing
        · rw [Read.run_bind (nextUnless_some.2 ⟨rfl, hleaves⟩)]
          exact .of_ok rfl trivial hwithin

/-- The larger pattern goes on to the closing parenthesis where a sequence uses up the part. -/
theorem sequence_end {verbose : Bool} {found found' : List Element} {ts : List Tree} {n' : Nat}
    (hfuel : k.fits → 0 < n') (hfound : k.SameElements found found') (hw : k.Within r r') (hnil : r.rest = [])
    (hverbose : verbose = k.feed)
    (h : (Pure.pure (elements found) : Read (List Tree)).run r = .ok (ts, s)) :
    k.Meets k.SameTrees ts s ((sequence verbose found' (n' + 1)).run r') := by
  rcases Read.pure_ok.1 h with ⟨rfl, rfl⟩
  have hsame : k.SameTrees (elements found) (elements found') := hfound.trees
  have hends : ∀ {u : Reader} {n : Nat}, u.rest = k.closing →
      SequenceStep verbose found' n (elements found') u u := by
    intro u n hu
    refine .ends (fun p hp => ?_) rfl rfl
    rw [hu, closing, Piece.first?_char (by decide)] at hp
    cases hp
    rfl
  rcases hw.ends hnil with hrest | ⟨hfeed, hleaves, hclosing, hwithin⟩
  · exact .of_ok (sequence_step.2 (hends hrest)) hsame hw
  · -- The line feed is skipped as a blank, and then the parenthesis is next.
    have hblank : (verbose && (Piece.char '\n').isChar isVerboseBlank) = true := by
      rw [hverbose, hfeed]
      rfl
    cases n' with
    | zero =>
      refine ⟨fun ts' s' h' => ?_, fun hk => absurd (hfuel hk) (Nat.lt_irrefl 0)⟩
      -- Without a further step the second reading is refused.
      have hfirst := hleaves.first
      cases sequence_step.1 h' with
      | ends hstop _ _ => cases hstop _ hfirst
      | blank _ _ _ hmore => exact absurd hmore (refuse_refuses _ _ _ _ _)
      | line hleaves' => cases hfirst.symm.trans hleaves'.first
      | paren hleaves' => cases hfirst.symm.trans hleaves'.first
      | piece hleaves' _ hnoblank =>
        cases hfirst.symm.trans hleaves'.first
        rw [hblank] at hnoblank
        cases hnoblank
    | succ n' =>
      have hnext : (sequence verbose found' (n' + 1)).run (r'.past (.char '\n')) = .ok (elements found', _) :=
        sequence_step.2 (hends hclosing)
      exact .of_ok (sequence_step.2 (.blank hleaves rfl hblank hnext)) hsame hwithin

/-- Flags of the whole pattern are refused in a larger pattern, and a part that fits has none. -/
theorem Agrees.global {α β : Type} {R : α → β → Prop} {start start' : Nat} {on on' : Flags} {f : Read α}
    {f' : Read β} :
    k.Agrees (.allows k v) R
      (Reader.here >>= fun t => if t.started then refuseAt .misplacedFlags start else setFlags on >>= fun _ => f)
      (Reader.here >>= fun t =>
        if t.started then refuseAt .misplacedFlags start' else setFlags on' >>= fun _ => f') := by
  intro r r' a s hw h hs
  replace h := here_bind.1 h
  constructor
  · intro a' s' h'
    replace h' := here_bind.1 h'
    -- The larger pattern has begun before its part.
    rw [if_pos hw.begun] at h'
    exact absurd h' (refuseAt_refuses _ _ _ _ _)
  · intro hk
    split at h
    · exact absurd h (refuseAt_refuses _ _ _ _ _)
    · -- Here the part is given flags, and one that fits has as many such groups at its end as at its start.
      rename_i hstarted
      replace h := Read.move_bind.1 h
      rw [if_neg hstarted] at h
      have hmore := (f.forward h).flagGroups
      have hless := hs.flagGroups hk
      have hsame := hw.flagGroups
      simp only at hmore
      omega

/-! ## The grammar -/

/-- What is read with fuel `n` is read alike in the larger pattern, with any fuel; with more fuel it is not
refused there if the part fits. -/
structure Reads (k : Frame) (n : Nat) : Prop where
  alternatives : ∀ n' verbose nested, (k.fits → n < n') → (nested = false → verbose = k.flags.verbose) →
    k.Agrees (.allows k (verbose = k.feed)) k.SameItems
      (Reader.alternatives verbose nested n) (Reader.alternatives verbose true n')
  furtherItems : ∀ n' verbose nested item item', (k.fits → n < n') →
    (nested = false → verbose = k.flags.verbose) →
    k.SameTrees item item' → k.Agrees (.allows k (verbose = k.feed)) k.SameItems
      (Reader.furtherItems verbose nested item n) (Reader.furtherItems verbose true item' n')
  sequence : ∀ n' verbose found found', (k.fits → n < n') → k.SameElements found found' →
    k.Agrees (.allows k (verbose = k.feed)) k.SameTrees
      (Reader.sequence verbose found n) (Reader.sequence verbose found' n')
  group : ∀ n' verbose v opening opening' start start', (k.fits → n < n') → k.Opens opening opening' →
    k.Agrees (.allows k v) k.SameElement (Reader.group opening start verbose n)
      (Reader.group opening' start' verbose n')
  branches : ∀ n' verbose, (k.fits → n < n') → k.Agrees (.allows k (verbose = k.feed))
    (fun b b' => k.SameTrees b.1 b'.1 ∧ k.SameTrees b.2 b'.2)
    (Reader.branches verbose n) (Reader.branches verbose n')

namespace Reads

variable (ih : k.Reads n)
include ih

/-- Alternatives are a first one and those behind bars. -/
theorem alternatives_succ (n' : Nat) (verbose nested : Bool) (hfuel : k.fits → n + 1 < n')
    (hnested : nested = false → verbose = k.flags.verbose) :
    k.Agrees (.allows k (verbose = k.feed)) k.SameItems
      (Reader.alternatives verbose nested (n + 1)) (Reader.alternatives verbose true n') := by
  cases n' with
  | zero => exact .right (fun hk => Nat.not_lt_zero _ (hfuel hk)) (refuse_refuses _ _)
  | succ n' =>
    have hless : k.fits → n < n' := fun hk => Nat.lt_of_succ_lt_succ (hfuel hk)
    refine .bind (ih.sequence n' verbose [] [] hless .nil) fun item item' hitem => ?_
    exact ih.furtherItems n' verbose nested item item' hless hnested hitem

/-- A bar is no end of the part, so that the same alternatives follow. -/
theorem furtherItems_succ (n' : Nat) (verbose nested : Bool) (item item' : List Tree)
    (hfuel : k.fits → n + 1 < n') (hnested : nested = false → verbose = k.flags.verbose)
    (hitem : k.SameTrees item item') :
    k.Agrees (.allows k (verbose = k.feed)) k.SameItems
      (Reader.furtherItems verbose nested item (n + 1))
      (Reader.furtherItems verbose true item' n') := by
  cases n' with
  | zero => exact .right (fun hk => Nat.not_lt_zero _ (hfuel hk)) (refuse_refuses _ _)
  | succ n' =>
    have hless : k.fits → n < n' := fun hk => Nat.lt_of_succ_lt_succ (hfuel hk)
    refine .bind_eq (.accept (by decide) (by decide)) fun more => ?_
    refine .ite (fun _ => ?_) fun _ => .pure (.single hitem)
    refine .bind .noteStarted fun _ _ _ => ?_
    refine .bind .here fun r r' hr => ?_
    -- Alone, the part reads the verbose flag again after each bar. It has not changed by then.
    have hverbose : (if nested then verbose else r.flags.verbose) = verbose := by
      cases nested with
      | false => simp [hr.flags, hnested rfl]
      | true => rfl
    simp only [hverbose, if_true]
    refine .bind (ih.alternatives n' verbose nested hless hnested) fun items items' hitems => ?_
    exact .pure (.cons hitem hitems)

/-- A comment is skipped alike, and what follows it is read alike. -/
theorem comment (n' : Nat) {found found' : List Element} {r r' s : Reader} {ts : List Tree} (hfuel : k.fits → n < n')
    (hfound : k.SameElements found found') (hw : k.Within r r') (hrest : r'.rest = r.rest ++ k.ending)
    (h : (skipLine (r.rest.length + 1) >>= fun _ => Reader.sequence true found n).run r = .ok (ts, s))
    (hs : (Ending.allows k (true = k.feed)).holds s) :
    k.Meets k.SameTrees ts s
      ((skipLine (r'.rest.length + 1) >>= fun _ => Reader.sequence true found' n').run r') := by
  rcases Read.bind_ok.1 h with ⟨_, u, hskip, hp⟩
  -- A comment that ends with the part needs the line feed behind it.
  have hfeed : u.rest = [] → k.feed = true := fun hnil =>
    ((Ending.back _ ((Reader.sequence _ _ _).forward hp) hs).ends hnil).symm
  have hline := skipLine_agrees _ (r'.rest.length + 1) (fun _ => Nat.succ_le_succ hw.length_le) hw hrest hskip hfeed
  exact hline.bind fun _ u' _ hwu => ih.sequence n' true found found' hfuel hfound hwu hp hs

/-- A sequence goes on in the same way, until the part ends or a bar or a parenthesis comes. -/
theorem sequence_succ (n' : Nat) (verbose : Bool) (found found' : List Element)
    (hfuel : k.fits → n + 1 < n') (hfound : k.SameElements found found') :
    k.Agrees (.allows k (verbose = k.feed)) k.SameTrees
      (Reader.sequence verbose found (n + 1)) (Reader.sequence verbose found' n') := by
  intro r r' ts s hw h hs
  cases n' with
  | zero =>
    exact ⟨fun _ _ h' => absurd h' (refuse_refuses _ _ _ _ _),
      fun hk => absurd (hfuel hk) (Nat.not_lt_zero _)⟩
  | succ n' =>
    have hless : k.fits → n < n' := fun hk => Nat.lt_of_succ_lt_succ (hfuel hk)
    have hend : r.rest = [] → (Pure.pure (elements found) : Read (List Tree)).run r = .ok (ts, s) →
        k.Meets k.SameTrees ts s ((Reader.sequence verbose found' (n' + 1)).run r') := by
      intro hnil hp
      have hverbose := hs.ends ((Read.pure_ok.1 hp).2 ▸ hnil)
      exact sequence_end (fun hk => Nat.lt_of_le_of_lt (Nat.zero_le _) (hless hk)) hfound hw hnil hverbose hp
    replace h := here_bind.1 h
    refine Meets.here_bind ?_
    refine hw.nextUnless_bind h (fun p t t' hwt hrest hp => ?_) (fun hp => ?_) hend
    · dsimp only at hp ⊢
      -- Both readers take the piece `p`: a blank or a comment, a parenthesis, or anything else.
      by_cases hblank : (verbose && p.isChar isVerboseBlank) = true
      · rw [if_pos hblank] at hp ⊢
        exact ih.sequence n' verbose found found' hless hfound hwt hp hs
      rw [if_neg hblank] at hp ⊢
      by_cases hcomment : (verbose && decide (p = .char '#')) = true
      · rw [if_pos hcomment] at hp ⊢
        obtain rfl : verbose = true := (Bool.and_eq_true_iff.1 hcomment).1
        exact ih.comment n' hless hfound hwt hrest (here_bind.1 hp) hs
      rw [if_neg hcomment] at hp ⊢
      refine Agrees.ite (fun _ => ?_) (fun _ => ?_) hwt hp hs
      · refine .bind (.readOpening _ _) fun opening opening' hopens => ?_
        have hgroup := ih.group n' verbose (verbose = k.feed) opening opening' r.pos r'.pos hless hopens
        have hmore := Agrees.bind .noteStarted fun _ _ _ => .bind hgroup fun x x' hx =>
          ih.sequence n' verbose _ _ hless (.cons hx hfound)
        cases hopens with
        | comment => exact ih.sequence n' verbose found found' hless hfound
        | global on => exact .global
        | _ => exact hmore
      · refine .bind .noteStarted fun _ _ _ => ?_
        refine .bind (.addPiece _ _ p hfound) fun found found' hfound => ?_
        exact ih.sequence n' verbose found found' hless hfound
    · rcases Read.pure_ok.1 hp with ⟨rfl, rfl⟩
      exact .of_ok rfl hfound.trees hw

/-- Each kind of group meets if its alternatives and branches do. -/
theorem group_succ (n' : Nat) (verbose : Bool) (v : Prop) (opening opening' : Opening)
    (start start' : Nat) (hfuel : k.fits → n + 1 < n') (hopens : k.Opens opening opening') :
    k.Agrees (.allows k v) k.SameElement (Reader.group opening start verbose (n + 1))
      (Reader.group opening' start' verbose n') := by
  cases n' with
  | zero => exact .right (fun hk => Nat.not_lt_zero _ (hfuel hk)) (refuse_refuses _ _)
  | succ n' =>
    have hless : k.fits → n < n' := fun hk => Nat.lt_of_succ_lt_succ (hfuel hk)
    have hinside : ∀ verbose, k.Agrees (.allows k v) k.SameItems
        (enclosed start (Reader.alternatives verbose true n))
        (enclosed start' (Reader.alternatives verbose true n')) := fun verbose =>
      .enclosed start start' (ih.alternatives n' verbose true hless fun h => nomatch h)
    cases hopens with
    | comment => exact .pure (.bare .nil)
    | global on => exact .pure (.bare .nil)
    | reference ht => exact .pure (.plain ht)
    | capturing name =>
      refine .bind (.openGroup name) fun g g' ⟨hpositive, hg'⟩ => ?_
      refine .bind (hinside verbose) fun items items' hitems => ?_
      refine .bind (.closeGroup hpositive hg' hitems.tree) fun _ _ _ => .pure (.plain ?_)
      -- The number of the group moves along with those of the groups inside.
      refine ⟨hitems.tree.looksBack, fun hk => ?_⟩
      rcases hitems.tree.shifted hk with ⟨heq, hrefs⟩
      refine ⟨?_, hrefs⟩
      rw [hg', heq]
      rfl
    | plain on off =>
      refine .bind (hinside _) fun items items' hitems => .pure ?_
      split
      · exact .bare hitems.join
      · exact .plain ⟨hitems.tree.looksBack, fun hk => (hitems.tree.shifted hk).scope _ _⟩
    | atomic =>
      refine .bind (hinside verbose) fun items items' hitems => .pure (.plain ?_)
      exact ⟨hitems.tree.looksBack, fun hk => (hitems.tree.shifted hk).atomic⟩
    | ahead negated =>
      refine .bind (hinside verbose) fun items items' hitems => .pure (.plain ?_)
      exact ⟨hitems.tree.looksBack, fun hk => (hitems.tree.shifted hk).ahead negated⟩
    | behind negated =>
      refine .bind (.inLookbehind (hinside verbose)) fun items items' hitems => ?_
      refine .bind .here fun r r' hr => .pure (.plain ⟨rfl, fun hk => ?_⟩)
      have hbody := hitems.tree.shifted hk
      -- The width of the body depends on the groups that it refers to, which are the same ones.
      have hwidth := hbody.width r.widths
      rw [← (hr.groups hk).widths] at hwidth
      refine ⟨?_, hbody.2⟩
      rw [hwidth, hbody.1]
      rfl
    | conditional hg =>
      refine .bind (.enclosed start start' (ih.branches n' verbose hless)) fun b b' hb => .pure (.plain ?_)
      refine ⟨congrArg₂ _ hb.1.tree.looksBack hb.2.tree.looksBack, fun hk => ?_⟩
      rcases hg hk with ⟨hpositive, rfl⟩
      have hyes := hb.1.tree.shifted hk
      have hno := hb.2.tree.shifted hk
      refine ⟨?_, hpositive, hyes.2, hno.2⟩
      rw [hyes.1, hno.1]
      rfl

/-- A condition has one branch or two, the same ones in both readings. -/
theorem branches_succ (n' : Nat) (verbose : Bool) (hfuel : k.fits → n + 1 < n') :
    k.Agrees (.allows k (verbose = k.feed))
      (fun b b' => k.SameTrees b.1 b'.1 ∧ k.SameTrees b.2 b'.2)
      (Reader.branches verbose (n + 1)) (Reader.branches verbose n') := by
  cases n' with
  | zero => exact .right (fun hk => Nat.not_lt_zero _ (hfuel hk)) (refuse_refuses _ _)
  | succ n' =>
    have hless : k.fits → n < n' := fun hk => Nat.lt_of_succ_lt_succ (hfuel hk)
    refine .bind (ih.sequence n' verbose [] [] hless .nil) fun yes yes' hyes => ?_
    refine .bind_eq (.accept (by decide) (by decide)) fun more => ?_
    refine .ite (fun _ => ?_) fun _ => .pure ⟨hyes, .nil⟩
    refine .bind (ih.sequence n' verbose [] [] hless .nil) fun no no' hno => ?_
    -- A third branch is refused in both, since both are before the same piece.
    refine .bind (.peek (c := '|') (by decide) (by decide)) fun a a' ha => ?_
    refine .bind (.refuseIf fun _ hbar => ?_) fun _ _ _ => .pure ⟨hyes, hno⟩
    rw [decide_eq_false_iff_not] at hbar ⊢
    exact fun h => hbar (ha.2 h)

end Reads

/-- A part is read alike alone and in a larger pattern. -/
theorem reads (k : Frame) : ∀ n, k.Reads n := by
  intro n
  induction n with
  | zero =>
    constructor
    all_goals
      intros
      exact .left (refuse_refuses _ _)
  | succ n ih =>
    exact ⟨ih.alternatives_succ, ih.furtherItems_succ, ih.sequence_succ, ih.group_succ, ih.branches_succ⟩

end Frame

end PatternLexer
