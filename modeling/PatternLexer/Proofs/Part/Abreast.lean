import PatternLexer.Proofs.Part.Agree
import PatternLexer.Pattern.Reader

/-!
# Readings abreast

Two readers that have noted the same, and differ in what is left for them or in their flags, may still read abreast:
piece by piece, with the same elements and the same group numbers.

A `Pairing` says how they differ, `Pairing.Abreast` that they stand at the same place, and `Pairing.Steady` relates two
steps that differ in nothing but their fuel. If both go well and the first does not get too far, they yield the same
and stay abreast. `Pairing.grammar` is about the functions of the grammar, where it matters which flags are verbose.
-/

namespace PatternLexer

open Reader

/-! ## Pairs of readers -/

/-- How two readers differ. -/
structure Pairing where
  /-- What is left for the one and for the other. -/
  rests : List Char → List Char → Prop
  /-- The flags of the one and of the other. -/
  flags : Flags → Flags → Prop
  /-- The first reader has not got too far, this being left for it. -/
  reach : List Char → Prop
  reach_back : ∀ {cs ds : List Char}, cs <:+ ds → reach cs → reach ds
  first? : ∀ {cs cs' : List Char}, rests cs cs' → Piece.first? cs' = Piece.first? cs
  /-- What is left behind the next piece, unless that is too far. Characters other than bars never are. -/
  past : ∀ {cs cs' : List Char} {p : Piece}, rests cs cs' → Piece.first? cs = some p →
    (reach (cs.drop p.chars.length) ∨ ∃ c, p = .char c ∧ c ≠ '|') →
    rests (cs.drop p.chars.length) (cs'.drop p.chars.length)

namespace Pairing

/-- The readers have noted the same, and what is left for them and their flags differ in this way. -/
def Abreast (k : Pairing) (r r' : Reader) : Prop :=
  ∃ rest source flags, k.rests r.rest rest ∧ k.flags r.flags flags ∧
    r' = { r with rest := rest, source := source, flags := flags }

/-- The first reader has not got too far. -/
def ending (k : Pairing) : Ending where
  holds s := k.reach s.rest
  back hrs hs := k.reach_back hrs.rest hs

/-- If both steps go well where the readers are abreast, and what `e` says is known of the end of the first, then they
yield the same and the readers are abreast again. -/
def Steady {α : Type} (k : Pairing) (e : Ending) (m m' : Read α) : Prop :=
  ∀ ⦃r r' a a' s s'⦄, k.Abreast r r' → m.run r = .ok (a, s) → m'.run r' = .ok (a', s') → e.holds s →
    a = a' ∧ k.Abreast s s'

variable {k : Pairing} {e : Ending} {r r' s s' : Reader} {p : Piece}

namespace Abreast

/-- The next piece is the same. -/
theorem first? (h : k.Abreast r r') : Piece.first? r'.rest = Piece.first? r.rest := by
  obtain ⟨rest, source, flags, hrest, -, rfl⟩ := h
  exact k.first? hrest

/-- Readers that leave the same piece behind, which is not too far. -/
theorem past (h : k.Abreast r r') (hfirst : Piece.first? r.rest = some p)
    (hp : k.reach (r.past p).rest ∨ ∃ c, p = .char c ∧ c ≠ '|') : k.Abreast (r.past p) (r'.past p) := by
  obtain ⟨rest, source, flags, hrest, hflags, rfl⟩ := h
  exact ⟨_, source, flags, k.past hrest hfirst hp, hflags, rfl⟩

end Abreast

/-! ## Steady steps -/

namespace Steady

variable {α β : Type} {m m' : Read α} {f f' : α → Read β}

/-- A step that reads nothing yields its value in both readings. -/
theorem pure (a : α) : k.Steady e (pure a) (pure a) := by
  intro r r' b b' s s' h hm hm' _
  rcases Read.pure_ok.1 hm with ⟨rfl, rfl⟩
  rcases Read.pure_ok.1 hm' with ⟨rfl, rfl⟩
  exact ⟨rfl, h⟩

/-- Steady steps one after the other are steady: what is known of the end is known of the place between them too. -/
theorem bind (hm : k.Steady e m m') (hf : ∀ a, k.Steady e (f a) (f' a)) : k.Steady e (m >>= f) (m' >>= f') := by
  intro r r' b b' s s' h hb hb' hs
  rcases Read.bind_ok.1 hb with ⟨a, t, ha, hb⟩
  rcases Read.bind_ok.1 hb' with ⟨a', t', ha', hb'⟩
  obtain ⟨rfl, ht⟩ := hm h ha ha' (e.back ((f a).forward hb) hs)
  exact hf a ht hb hb' hs

/-- What is made of the value of a steady step is the same in both readings. -/
theorem map {g : α → β} (hm : k.Steady e m m') : k.Steady e (g <$> m) (g <$> m') :=
  bind hm fun a => pure (g a)

/-- A choice that does not depend on the readers is steady if both of its branches are. -/
theorem ite {c : Prop} [Decidable c] {n n' : Read α} (hm : c → k.Steady e m m') (hn : ¬ c → k.Steady e n n') :
    k.Steady e (if c then m else n) (if c then m' else n') := by
  split
  · rename_i hc
    exact hm hc
  · rename_i hc
    exact hn hc

/-- Nothing has to be shown where one of the readings is refused. -/
theorem left (h : m.Refuses) : k.Steady e m m' := by
  intro r r' a a' s s' _ hm
  exact absurd hm (h r a s)

/-- The same where it is the second reading that is refused. -/
theorem right (h : m'.Refuses) : k.Steady e m m' := by
  intro r r' a a' s s' _ _ hm'
  exact absurd hm' (h r' a' s')

/-- A step that looks at its reader may use that the two are abreast. -/
theorem here_bind {f f' : Reader → Read β} (h : ∀ r r', k.Abreast r r' → k.Steady e (f r) (f' r')) :
    k.Steady e (here >>= f) (here >>= f') := by
  intro r r' a a' s s' hr hm hm' hs
  exact h r r' hr hr (Reader.here_bind.1 hm) (Reader.here_bind.1 hm') hs

/-- A step that notes something by what was noted before. -/
theorem note {f : Reader → Reader} {hf} (hrest : ∀ r, (f r).rest = r.rest) (hflags : ∀ r, (f r).flags = r.flags)
    (hnote : ∀ r rest source flags, f { r with rest := rest, source := source, flags := flags } =
      { f r with rest := rest, source := source, flags := flags }) :
    k.Steady e (Read.move f hf) (Read.move f hf) := by
  intro r r' a a' s s' hr hm hm' _
  obtain ⟨rest, source, flags, hrests, hpair, rfl⟩ := hr
  obtain rfl := Read.move_ok.1 hm
  obtain rfl := Read.move_ok.1 hm'
  refine ⟨rfl, rest, source, flags, ?_, ?_, hnote r rest source flags⟩
  · rw [hrest]
    exact hrests
  · rw [hflags]
    exact hpair

/-- A check that is refused in one reading need not be refused in the other: nothing is claimed then. -/
theorem refuseIf (bad : Bool) (cause cause' : PatternCause) (back back' : Nat) :
    k.Steady e (refuseIf bad cause back) (Reader.refuseIf bad cause' back') :=
  ite (fun _ => left (refuse_refuses _ _)) fun _ => pure ()

/-- A step that may go back does so in both readings, provided that it never gets too far. -/
theorem attempt {x x' : Read (Option α)} (h : k.Steady .any x x') : k.Steady e x.attempt x'.attempt := by
  intro r r' a a' s s' hr hm hm' _
  -- A step that finds nothing is taken back: the reader is where it was.
  have hsplit : ∀ {x : Read (Option α)} {r s : Reader} {a : Option α}, x.attempt.run r = .ok (a, s) →
      (a ≠ none ∧ x.run r = .ok (a, s)) ∨ (a = none ∧ r = s ∧ ∃ t, x.run r = .ok (none, t)) := by
    intro x r s a hx
    unfold Read.attempt at hx
    dsimp only at hx
    split at hx
    · rename_i b t hb
      cases hx
      exact .inl ⟨Option.some_ne_none b, hb⟩
    · rename_i t hb
      cases hx
      exact .inr ⟨rfl, rfl, t, hb⟩
    · cases hx
  rcases hsplit hm with ⟨hne, ha⟩ | ⟨rfl, rfl, t, ha⟩
  · rcases hsplit hm' with ⟨-, ha'⟩ | ⟨-, -, t', ha'⟩
    · exact h hr ha ha' trivial
    · exact absurd (h hr ha ha' trivial).1 hne
  · rcases hsplit hm' with ⟨hne', ha'⟩ | ⟨rfl, rfl, t', ha'⟩
    · exact absurd (h hr ha ha' trivial).1.symm hne'
    · exact ⟨rfl, hr⟩

/-! ## Pieces -/

/-- Readers that are abreast leave the same piece behind. They stay abreast if that is not too far. -/
theorem nextUnless_of {stop : Piece → Bool}
    (hpast : ∀ s p, stop p = false → e.holds s → k.reach s.rest ∨ ∃ c, p = .char c ∧ c ≠ '|') :
    k.Steady e (nextUnless stop) (Reader.nextUnless stop) := by
  intro r r' a a' s s' hr hm hm' hs
  cases a with
  | none =>
    rcases nextUnless_none.1 hm with ⟨hstop, rfl⟩
    cases a' with
    | none =>
      rcases nextUnless_none.1 hm' with ⟨-, rfl⟩
      exact ⟨rfl, hr⟩
    | some p =>
      obtain ⟨hgoes, hleaves⟩ := nextUnless_some.1 hm'
      have hp := hstop p (hr.first? ▸ hleaves.first)
      cases hp.symm.trans hgoes
  | some p =>
    obtain ⟨hgoes, hleaves⟩ := nextUnless_some.1 hm
    cases a' with
    | none =>
      have hp := (nextUnless_none.1 hm').1 p (hr.first?.trans hleaves.first)
      cases hp.symm.trans hgoes
    | some p' =>
      -- Both are before the same piece, so both leave it behind.
      have hleaves' := (nextUnless_some.1 hm').2
      obtain rfl : p = p' := by
        have hfirst := hr.first?
        rw [hleaves.first, hleaves'.first] at hfirst
        exact (Option.some.inj hfirst).symm
      have hreach := hpast s p hgoes hs
      rw [hleaves.past] at hreach
      rw [hleaves.past, hleaves'.past]
      exact ⟨rfl, hr.past hleaves.first hreach⟩

/-- A step that takes the next piece is steady where the reader has not got too far. -/
theorem nextUnless (stop : Piece → Bool) : k.Steady k.ending (nextUnless stop) (Reader.nextUnless stop) :=
  nextUnless_of fun _ _ _ hs => .inl hs

/-- A step that takes no bar and no escape never gets too far. -/
theorem nextUnless_chars {stop : Piece → Bool} (hstop : ∀ p, stop p = false → ∃ c, p = .char c ∧ c ≠ '|') :
    k.Steady e (Reader.nextUnless stop) (Reader.nextUnless stop) :=
  nextUnless_of fun _ p hp _ => .inr (hstop p hp)

/-- The next piece is the same in both readings. -/
theorem next : k.Steady k.ending next Reader.next := nextUnless _

/-- So it is where a piece has to come. -/
theorem nextOr {x x' : Read Piece} (hx : x.Refuses) : k.Steady k.ending (nextOr x) (Reader.nextOr x') := by
  refine bind next fun p => ?_
  cases p with
  | none => exact left hx
  | some p => exact pure p

/-- A bar is taken in both readings or in neither, as long as it is not one too far. -/
theorem accept_bar : k.Steady k.ending (accept '|') (accept '|') := map (nextUnless _)

/-- Any other character is taken in both readings or in neither, wherever the readers are. -/
theorem accept {c : Char} (hc : c ≠ '|') : k.Steady e (accept c) (Reader.accept c) := by
  refine map (nextUnless_chars fun p hp => ⟨c, ?_, hc⟩)
  simpa using hp

/-- A piece that is one of some characters without the bar is a character other than the bar. -/
theorem isChar_ne_bar {p : Char → Bool} (hbar : p '|' = false) (q : Piece) (hq : (!q.isChar p) = false) :
    ∃ c, q = .char c ∧ c ≠ '|' := by
  cases q with
  | char c =>
    refine ⟨c, rfl, ?_⟩
    rintro rfl
    simp [Piece.isChar, hbar] at hq
  | escape c => cases hq

/-- Characters without the bar are the same in both readings. -/
theorem takeWhile {p : Char → Bool} (hbar : p '|' = false) :
    ∀ limit, k.Steady e (takeWhile p limit) (Reader.takeWhile p limit) := by
  intro limit
  induction limit with
  | zero => exact pure _
  | succ limit ih =>
    refine bind (nextUnless_chars (isChar_ne_bar hbar)) fun q => ?_
    cases q with
    | none => exact pure _
    | some q => exact bind ih fun cs => pure _

/-- So are all that follow, whatever the fuel of the one and of the other. -/
theorem takeAll {p : Char → Bool} (hbar : p '|' = false) :
    ∀ fuel fuel', k.Steady e (takeAll p fuel) (Reader.takeAll p fuel') := by
  intro fuel
  induction fuel with
  | zero => exact fun fuel' => left (refuse_refuses _ _)
  | succ fuel ih =>
    intro fuel'
    cases fuel' with
    | zero => exact right (refuse_refuses _ _)
    | succ fuel' =>
      refine bind (nextUnless_chars (isChar_ne_bar hbar)) fun q => ?_
      cases q with
      | none => exact pure _
      | some q => exact bind (ih fuel') fun cs => pure _

/-- The piece that is looked at is the same, and none is taken. -/
theorem peek : k.Steady e peek peek := by
  intro r r' a a' s s' hr hm hm' _
  rcases peek_ok.1 hm with ⟨rfl, rfl⟩
  rcases peek_ok.1 hm' with ⟨rfl, rfl⟩
  exact ⟨hr.first?.symm, hr⟩

/-- The characters up to the end of a name are the same, whatever they are. -/
theorem takeUntil (stop : Char) (what : String) : ∀ fuel fuel' found,
    k.Steady k.ending (takeUntil stop what fuel found) (Reader.takeUntil stop what fuel' found) := by
  intro fuel
  induction fuel with
  | zero => exact fun fuel' found => left (refuse_refuses _ _)
  | succ fuel ih =>
    intro fuel' found
    cases fuel' with
    | zero => exact right (refuse_refuses _ _)
    | succ fuel' =>
      refine bind (nextOr (Frame.Agrees.unfinishedName_refuses stop what found)) fun p => ?_
      refine ite (fun _ => ?_) fun _ => ih fuel' _
      exact ite (fun _ => left (refuse_refuses _ _)) fun _ => pure _

/-- The fuel for a name is the length of what is left, in which the readers differ. -/
theorem readName (stop : Char) (what : String) : k.Steady k.ending (readName stop what) (readName stop what) :=
  here_bind fun _ _ _ => takeUntil stop what _ _ []

/-! ## Escapes and classes -/

/-- Hexadecimal digits are no bars, so that an escape of them never gets too far. -/
theorem hexEscape (c : Char) (count : Nat) : k.Steady e (hexEscape c count) (hexEscape c count) := by
  refine bind (takeWhile (by decide) count) fun digits => ?_
  refine ite (fun _ => left (refuse_refuses _ _)) fun _ => ?_
  exact ite (fun _ => left (refuse_refuses _ _)) fun _ => pure _

/-- The name of a character is looked up in the same table. -/
theorem namedEscape : k.Steady k.ending namedEscape namedEscape := by
  refine bind (accept (by decide)) fun found => ?_
  refine ite (fun _ => ?_) fun _ => left (refuse_refuses _ _)
  refine bind (readName '\x7d' _) fun name => ?_
  cases Text.namedCode? name with
  | some code => exact pure code
  | none => exact left (refuse_refuses _ _)

/-- The code of octal digits depends on nothing but the digits. -/
theorem octalEscape (digits : List Char) : k.Steady e (octalEscape digits) (octalEscape digits) :=
  ite (fun _ => left (refuse_refuses _ _)) fun _ => pure _

/-- An escape for a code is steady; only one by name may get too far. -/
theorem codeEscape (c : Char) : k.Steady k.ending (codeEscape c) (codeEscape c) := by
  refine ite (fun _ => hexEscape c 2) fun _ => ?_
  refine ite (fun _ => hexEscape c 4) fun _ => ?_
  refine ite (fun _ => hexEscape c 8) fun _ => ?_
  refine ite (fun _ => namedEscape) fun _ => ?_
  exact ite (fun _ => left (refuse_refuses _ _)) fun _ => pure _

/-- So is an escape in a class. -/
theorem classEscape (c : Char) : k.Steady k.ending (classEscape c) (classEscape c) := by
  unfold Reader.classEscape
  cases simpleEscape? c with
  | some code => exact pure _
  | none =>
    cases categoryEscape? c with
    | some item => exact pure _
    | none =>
      refine ite (fun _ => ?_) fun _ => bind (codeEscape c) fun _ => pure _
      exact bind (takeWhile (by decide) 2) fun digits => bind (octalEscape _) fun _ => pure _

/-- Groups noted are the same, and so is what a lookbehind allows. -/
theorem checkLookbehind (g : Nat) : k.Steady e (checkLookbehind g) (checkLookbehind g) := by
  refine here_bind fun r r' hr => ?_
  obtain ⟨rest, source, flags, hrest, hflags, rfl⟩ := hr
  dsimp only
  cases r.lookbehind with
  | none => exact pure _
  | some first => exact bind (refuseIf _ _ _ _ _) fun _ => refuseIf _ _ _ _ _

/-- That a reference by number was read is noted in both readings. -/
theorem noteNumber : k.Steady e noteNumber noteNumber := note (fun _ => rfl) (fun _ => rfl) fun _ _ _ _ => rfl

/-- A reference by number is to the same group, since the groups opened are the same. -/
theorem numberedReference (digits : List Char) :
    k.Steady e (numberedReference digits) (numberedReference digits) := by
  refine here_bind fun r r' hr => ?_
  obtain ⟨rest, source, flags, hrest, hflags, rfl⟩ := hr
  refine ite (fun _ => ?_) fun _ => left (refuse_refuses _ _)
  exact bind noteNumber fun _ => bind (refuseIf _ _ _ _ _) fun _ => bind (checkLookbehind _) fun _ => pure _

/-- Whether digits are a reference or an octal code depends on nothing but the digits. -/
theorem digitEscape (c : Char) : k.Steady e (digitEscape c) (digitEscape c) := by
  refine bind (takeWhile (by decide) 1) fun digits => ?_
  split
  · refine ite (fun _ => ?_) fun _ => numberedReference _
    refine bind (takeWhile (by decide) 1) fun more => ?_
    split
    · exact bind (octalEscape _) fun _ => pure _
    · exact numberedReference _
  · exact numberedReference _

/-- An escape outside of classes stands for the same tree. -/
theorem treeEscape (c : Char) : k.Steady k.ending (treeEscape c) (treeEscape c) := by
  unfold Reader.treeEscape
  split
  · exact pure _
  · exact pure _
  · exact pure _
  · refine ite (fun _ => bind (takeWhile (by decide) 2) fun digits => pure _) fun _ => ?_
    exact ite (fun _ => digitEscape c) fun _ => bind (codeEscape c) fun _ => pure _

/-- An item of a class is the same in both readings. -/
theorem classItem (p : Piece) : k.Steady k.ending (classItem p) (classItem p) := by
  cases p with
  | char c => exact pure _
  | escape c => exact classEscape c

/-- A range depends on nothing but the items at its ends. -/
theorem classRange (low high : Piece) (a b : ClassItem) :
    k.Steady e (classRange low high a b) (classRange low high a b) := by
  have hbad : k.Steady e (Reader.classRange.badRange low high) (Reader.classRange.badRange low high) :=
    left (refuse_refuses _ _)
  unfold Reader.classRange
  split
  · exact ite (fun _ => hbad) fun _ => pure _
  · exact hbad

/-- The items of a class are the same up to the bracket that closes it. -/
theorem classItems (start : Nat) : ∀ fuel fuel' found,
    k.Steady k.ending (classItems start fuel found) (Reader.classItems start fuel' found) := by
  intro fuel
  induction fuel with
  | zero => exact fun fuel' found => left (refuse_refuses _ _)
  | succ fuel ih =>
    intro fuel' found
    cases fuel' with
    | zero => exact right (refuse_refuses _ _)
    | succ fuel' =>
      refine bind (nextOr (refuseAt_refuses _ _)) fun p => ite (fun _ => pure _) fun _ => ?_
      refine bind (classItem p) fun low => bind (accept (by decide)) fun ranged => ite (fun _ => ?_) fun _ => ih _ _
      refine bind (nextOr (refuseAt_refuses _ _)) fun q => ite (fun _ => pure _) fun _ => ?_
      exact bind (classItem q) fun high => bind (classRange p q low high) fun item => ih _ _

/-- A class is the same in both readings. -/
theorem readClass (start : Nat) : k.Steady k.ending (readClass start) (readClass start) := by
  refine bind (accept (by decide)) fun negated => here_bind fun r r' _ => ?_
  exact bind (classItems start _ _ []) fun items => pure _

/-! ## Repetition -/

/-- A number in braces depends on nothing but its digits. -/
theorem readCount (digits : List Char) : k.Steady e (readCount digits) (readCount digits) := by
  refine ite (fun _ => left (Read.fail_refuses _)) fun _ => ?_
  exact ite (fun _ => left (Read.fail_refuses _)) fun _ => pure _

/-- So does one that may be left out. -/
theorem readCount? (digits : List Char) : k.Steady e (readCount? digits) (readCount? digits) :=
  ite (fun _ => pure _) fun _ => map (readCount digits)

/-- So do the bounds of a repetition. -/
theorem boundsOf (low high : List Char) (start : Nat) :
    k.Steady e (boundsOf low high start) (boundsOf low high start) := by
  refine bind (readCount? low) fun least => bind (readCount? high) fun most => ?_
  cases most with
  | none => exact pure _
  | some m => exact ite (fun _ => left (refuseAt_refuses _ _)) fun _ => pure _

/-- The digits in braces and what stands between them are read without passing the bar. -/
theorem readBoundDigits : k.Steady e readBoundDigits readBoundDigits := by
  refine here_bind fun r r' _ => bind peek fun p => ite (fun _ => pure _) fun _ => ?_
  refine bind (takeAll (by decide) _ _) fun low => bind (accept (by decide)) fun comma => ite (fun _ => ?_) fun _ => ?_
  · refine bind (takeAll (by decide) _ _) fun high => ?_
    exact bind (accept (by decide)) fun closed => pure _
  · exact bind (accept (by decide)) fun closed => pure _

/-- Braces without bounds are a character in both readings, and the readers go back behind the opening one. -/
theorem readBounds : k.Steady e readBounds readBounds := by
  refine here_bind fun r r' hr => ?_
  obtain ⟨rest, source, flags, hrest, hflags, rfl⟩ := hr
  refine bind (attempt readBoundDigits) fun digits => ?_
  cases digits with
  | none => exact pure _
  | some x => exact bind (boundsOf _ _ _) fun _ => pure _

/-- Neither of the signs behind a repetition is a bar. -/
theorem readGreed : k.Steady e readGreed readGreed := by
  refine bind (accept (by decide)) fun found => ite (fun _ => pure _) fun _ => ?_
  exact bind (accept (by decide)) fun found => ite (fun _ => pure _) fun _ => pure _

/-- The element to repeat has been read in both readings before. -/
theorem repeatLast (start least : Nat) (most : Option Nat) (found : List Element) :
    k.Steady e (repeatLast start least most found) (repeatLast start least most found) := by
  cases found with
  | nil => exact left (refuseAt_refuses _ _)
  | cons last before =>
    unfold Reader.repeatLast
    dsimp only
    cases last.unrepeatable? with
    | some cause => exact left (refuseAt_refuses _ _)
    | none => exact bind readGreed fun greed => pure _

/-- The same signs repeat in both readings. -/
theorem readRepetition (p : Piece) : k.Steady e (readRepetition p) (readRepetition p) := by
  unfold Reader.readRepetition
  split
  · exact pure _
  · exact pure _
  · exact pure _
  · exact readBounds
  · exact pure _

/-- A piece that repeats nothing begins the same tree. -/
theorem readAtom (start : Nat) (p : Piece) : k.Steady k.ending (readAtom start p) (readAtom start p) := by
  unfold Reader.readAtom
  split
  · exact treeEscape _
  · exact readClass start
  · exact pure _
  · exact pure _
  · exact pure _
  · exact pure _

/-- A piece adds the same element, or repeats the last one in the same way. -/
theorem addPiece (start : Nat) (p : Piece) (found : List Element) :
    k.Steady k.ending (addPiece start p found) (addPiece start p found) := by
  refine bind (readRepetition p) fun bounds => ?_
  cases bounds with
  | some x => exact repeatLast start _ _ found
  | none => exact bind (readAtom start p) fun t => pure _

/-! ## The front of a group -/

/-- An unknown flag is refused. -/
theorem badFlag_refuses (expected : String) (p : Piece) : (badFlag expected p : Read α).Refuses := refuse_refuses _ _

/-- The flags set by a group are the same, up to the piece that ends them. -/
theorem flagsOn : ∀ fuel fuel' on flag, k.Steady k.ending (flagsOn fuel on flag) (Reader.flagsOn fuel' on flag) := by
  intro fuel
  induction fuel with
  | zero => exact fun fuel' on flag => left (refuse_refuses _ _)
  | succ fuel ih =>
    intro fuel' on flag
    cases fuel' with
    | zero => exact right (refuse_refuses _ _)
    | succ fuel' =>
      refine bind (refuseIf _ _ _ _ _) fun _ => bind (refuseIf _ _ _ _ _) fun _ => ?_
      refine bind (nextOr (refuse_refuses _ _)) fun p => ite (fun _ => pure _) fun _ => ?_
      cases flagOf? p with
      | some following => exact ih fuel' _ following
      | none => exact left (badFlag_refuses _ p)

/-- So are those that it takes away. -/
theorem flagsOff : ∀ fuel fuel' off flag,
    k.Steady k.ending (flagsOff fuel off flag) (Reader.flagsOff fuel' off flag) := by
  intro fuel
  induction fuel with
  | zero => exact fun fuel' off flag => left (refuse_refuses _ _)
  | succ fuel ih =>
    intro fuel' off flag
    cases fuel' with
    | zero => exact right (refuse_refuses _ _)
    | succ fuel' =>
      refine bind (refuseIf _ _ _ _ _) fun _ => bind (nextOr (refuse_refuses _ _)) fun p => ?_
      refine ite (fun _ => pure _) fun _ => ?_
      cases flagOf? p with
      | some following => exact ih fuel' _ following
      | none => exact left (badFlag_refuses _ p)

/-- Flags are set only if a first one was read. -/
theorem readFlagsOn (first : Option Flag) : k.Steady k.ending (readFlagsOn first) (readFlagsOn first) := by
  cases first with
  | some flag => exact here_bind fun _ _ _ => flagsOn _ _ _ flag
  | none => exact pure _

/-- Flags are taken away only behind a hyphen. -/
theorem readFlagsOff (stop : Piece) : k.Steady k.ending (readFlagsOff stop) (readFlagsOff stop) := by
  refine ite (fun _ => here_bind fun _ _ _ => bind (nextOr (refuse_refuses _ _)) fun p => ?_) fun _ => pure _
  cases flagOf? p with
  | some flag => exact flagsOff _ _ _ flag
  | none => exact left (badFlag_refuses _ p)

/-- The flags of a group, or of the whole pattern, are the same. -/
theorem readFlags (first : Option Flag) : k.Steady k.ending (readFlags first) (readFlags first) := by
  refine bind (readFlagsOn first) fun on => ite (fun _ => pure _) fun _ => ?_
  refine bind (refuseIf _ _ _ _ _) fun _ => bind (readFlagsOff _) fun off => ?_
  exact bind (refuseIf _ _ _ _ _) fun _ => bind (refuseIf _ _ _ _ _) fun _ => pure _

/-- The same names stand for the same groups. -/
theorem lookup (name : String) : k.Steady e (lookup name) (lookup name) := by
  refine here_bind fun r r' hr => ?_
  obtain ⟨rest, source, flags, hrest, hflags, rfl⟩ := hr
  exact pure _

/-- The name of a group is the same in both readings. -/
theorem readGroupName (stop : Char) : k.Steady k.ending (readGroupName stop) (readGroupName stop) :=
  bind (readName stop _) fun _ => bind (refuseIf _ _ _ _ _) fun _ => pure _

/-- A name is new in both readings or in neither, and stands for the same number afterwards. -/
theorem recordName (name : String) (g : Nat) : k.Steady e (recordName name g) (recordName name g) := by
  refine bind (lookup name) fun earlier => ?_
  cases earlier with
  | some earlier => exact left (refuse_refuses _ _)
  | none =>
    exact note (fun _ => rfl) (fun _ => rfl) fun _ _ _ _ => rfl

/-- A group gets the same number, the groups opened before being the same. -/
theorem openGroup (name : Option String) : k.Steady e (openGroup name) (openGroup name) := by
  refine here_bind fun r r' hr => ?_
  obtain ⟨rest, source, flags, hrest, hflags, rfl⟩ := hr
  cases name with
  | none => exact bind (note (fun _ => rfl) (fun _ => rfl) fun _ _ _ _ => rfl) fun _ => pure _
  | some name =>
    exact bind (recordName name _) fun _ => bind (note (fun _ => rfl) (fun _ => rfl) fun _ _ _ _ => rfl) fun _ => pure _

/-- A group that is closed has the same width. -/
theorem closeGroup (g : Nat) (body : Tree) : k.Steady e (closeGroup g body) (closeGroup g body) :=
  note (fun _ => rfl) (fun _ => rfl) fun _ _ _ _ => rfl

/-- A name refers to the same group. -/
theorem groupNamed (name : String) (back : Nat) : k.Steady e (groupNamed name back) (groupNamed name back) := by
  refine bind (lookup name) fun g => ?_
  cases g with
  | none => exact left (refuse_refuses _ _)
  | some g => exact pure _

/-- A reference by name is to the same group. -/
theorem namedReference : k.Steady k.ending namedReference namedReference := by
  refine bind (readGroupName _) fun name => bind (groupNamed _ _) fun g => here_bind fun r r' hr => ?_
  obtain ⟨rest, source, flags, hrest, hflags, rfl⟩ := hr
  exact bind (refuseIf _ _ _ _ _) fun _ => bind (checkLookbehind g) fun _ => pure _

/-- A group that a condition asks for is noted in both readings. -/
theorem noteCondition (g back : Nat) : k.Steady e (noteCondition g back) (noteCondition g back) :=
  note (fun _ => rfl) (fun _ => rfl) fun _ _ _ _ => rfl

/-- A condition by number asks for the same group. -/
theorem groupNumbered (text : String) (back : Nat) :
    k.Steady e (groupNumbered text back) (groupNumbered text back) := by
  unfold Reader.groupNumbered
  cases Text.readInteger text with
  | error _ => exact left (refuse_refuses _ _)
  | ok n =>
    refine bind noteNumber fun _ => bind (refuseIf _ _ _ _ _) fun _ => bind (refuseIf _ _ _ _ _) fun _ => ?_
    exact bind (refuseIf _ _ _ _ _) fun _ => bind (noteCondition _ back) fun _ => pure _

/-- So does a condition, whether by number or by name. -/
theorem conditionGroup (text : String) (back : Nat) :
    k.Steady e (conditionGroup text back) (conditionGroup text back) :=
  ite (fun _ => groupNamed text back) fun _ => groupNumbered text back

/-- The condition in parentheses is the same in both readings. -/
theorem readCondition : k.Steady k.ending readCondition readCondition :=
  bind (readName _ _) fun text => bind (conditionGroup text _) fun g => bind (checkLookbehind g) fun _ => pure _

/-- A comment ends at the same parenthesis. -/
theorem skipComment (start : Nat) :
    ∀ fuel fuel', k.Steady k.ending (skipComment start fuel) (Reader.skipComment start fuel') := by
  intro fuel
  induction fuel with
  | zero => exact fun fuel' => left (refuse_refuses _ _)
  | succ fuel ih =>
    intro fuel'
    cases fuel' with
    | zero => exact right (refuse_refuses _ _)
    | succ fuel' => exact bind (nextOr (refuseAt_refuses _ _)) fun p => ite (fun _ => pure _) fun _ => ih fuel'

/-- The rest of a line is left out in both readings, the fuels being of no matter. -/
theorem skipLine : ∀ fuel fuel', k.Steady k.ending (skipLine fuel) (Reader.skipLine fuel') := by
  intro fuel
  induction fuel with
  | zero => exact fun fuel' => left (refuse_refuses _ _)
  | succ fuel ih =>
    intro fuel'
    cases fuel' with
    | zero => exact right (refuse_refuses _ _)
    | succ fuel' =>
      refine bind next fun p => ?_
      cases p with
      | none => exact pure _
      | some p => exact ite (fun _ => pure _) fun _ => ih fuel'

/-- What begins as a named group is one in both readings, or a reference by name. -/
theorem readNamed : k.Steady k.ending readNamed readNamed := by
  refine bind (accept (by decide)) fun _ => ite (fun _ => bind (readGroupName _) fun _ => pure _) fun _ => ?_
  refine bind (accept (by decide)) fun _ => ite (fun _ => bind namedReference fun _ => pure _) fun _ => ?_
  exact bind (nextOr (refuse_refuses _ _)) fun p => left (refuse_refuses _ _)

/-- A lookbehind is negated in both readings or in neither. -/
theorem readBehind : k.Steady k.ending readBehind readBehind := by
  refine bind (nextOr (refuse_refuses _ _)) fun p => ite (fun _ => pure _) fun _ => ?_
  exact ite (fun _ => pure _) fun _ => left (refuse_refuses _ _)

/-- What a question mark at the front of a group begins is the same in both readings. -/
theorem readExtension (start : Nat) (p : Piece) :
    k.Steady k.ending (readExtension start p) (readExtension start p) := by
  unfold Reader.readExtension
  split
  · exact readNamed
  · exact pure _
  · exact here_bind fun _ _ _ => bind (skipComment start _ _) fun _ => pure _
  · exact pure _
  · exact pure _
  · exact readBehind
  · exact bind readCondition fun _ => pure _
  · exact pure _
  · exact ite (fun _ => readFlags _) fun _ => left (refuse_refuses _ _)

/-- The front of a group is the same in both readings. -/
theorem readOpening (start : Nat) : k.Steady k.ending (readOpening start) (readOpening start) := by
  refine bind (accept (by decide)) fun _ => ite (fun _ => pure _) fun _ => ?_
  exact bind (nextOr (refuse_refuses _ _)) fun p => readExtension start p

/-- That something was read that flags of the whole pattern cannot stand behind is noted in both readings. -/
theorem noteStarted : k.Steady e noteStarted noteStarted := note (fun _ => rfl) (fun _ => rfl) fun _ _ _ _ => rfl

/-- Flags of the whole pattern are set in both readings, if they may be added to the flags of either. -/
theorem setFlags (on : Flags) (hunion : ∀ fs fs' : Flags, k.flags fs fs' → k.flags (fs.union on) (fs'.union on)) :
    k.Steady e (setFlags on) (setFlags on) := by
  intro r r' a a' s s' hr hm hm' _
  obtain ⟨rest, source, flags, hrest, hflags, rfl⟩ := hr
  obtain rfl := Read.move_ok.1 hm
  obtain rfl := Read.move_ok.1 hm'
  refine ⟨rfl, ?_⟩
  -- What is set behind the start is ignored.
  cases hstarted : r.started with
  | true =>
    simp only [if_true]
    exact ⟨rest, source, flags, hrest, hflags, by rw [hstarted]⟩
  | false =>
    simp only [Bool.false_eq_true, if_false]
    exact ⟨rest, source, flags.union on, hrest, hunion _ _ hflags, rfl⟩

/-- What is read in a lookbehind is steady, and the readers know of the same lookbehind behind it. -/
theorem inLookbehind (hm : k.Steady k.ending m m') :
    k.Steady k.ending (inLookbehind m) (Reader.inLookbehind m') := by
  intro r r' a a' s s' hr h h' hs
  obtain ⟨rest, source, flags, hrest, hflags, rfl⟩ := hr
  unfold Reader.inLookbehind at h h'
  dsimp only at h h'
  split at h
  · rename_i b t ht
    split at h'
    · rename_i b' t' ht'
      cases h
      cases h'
      -- The readers inside know of the same lookbehind, and those behind it of that around.
      have hinside : k.Abreast { r with lookbehind := some (r.lookbehind.getD r.nextGroup) }
          { r with
            rest := rest
            source := source
            flags := flags
            lookbehind := some (r.lookbehind.getD r.nextGroup) } := ⟨rest, source, flags, hrest, hflags, rfl⟩
      obtain ⟨hb, rest', source', flags', hrest', hflags', rfl⟩ := hm hinside ht ht' hs
      exact ⟨hb, rest', source', flags', hrest', hflags', rfl⟩
    · cases h'
  · cases h

/-- A group is closed in both readings, a parenthesis being no bar. -/
theorem closeParenthesis (start : Nat) : k.Steady e (closeParenthesis start) (closeParenthesis start) :=
  bind (accept (by decide)) fun _ => ite (fun _ => left (refuseAt_refuses _ _)) fun _ => pure _

/-- What is read between parentheses is steady if it is so without them. -/
theorem enclosed (start : Nat) (hm : k.Steady e m m') : k.Steady e (enclosed start m) (Reader.enclosed start m') :=
  bind hm fun _ => bind (closeParenthesis start) fun _ => pure _

end Steady

/-! ## The grammar -/

/-- Both patterns are verbose or neither is, and flags may be set in both. -/
structure KeepsFlags (k : Pairing) : Prop where
  verbose : ∀ {fs fs' : Flags}, k.flags fs fs' → fs'.verbose = fs.verbose
  union : ∀ (on fs fs' : Flags), k.flags fs fs' → k.flags (fs.union on) (fs'.union on)

/-- The functions of the grammar are steady, with whatever fuel. -/
structure Grammar (k : Pairing) (n n' : Nat) : Prop where
  alternatives : ∀ verbose nested,
    k.Steady k.ending (alternatives verbose nested n) (Reader.alternatives verbose nested n')
  furtherItems : ∀ verbose nested item,
    k.Steady k.ending (furtherItems verbose nested item n) (Reader.furtherItems verbose nested item n')
  sequence : ∀ verbose found, k.Steady k.ending (sequence verbose found n) (Reader.sequence verbose found n')
  group : ∀ opening start verbose,
    k.Steady k.ending (group opening start verbose n) (Reader.group opening start verbose n')
  branches : ∀ verbose, k.Steady k.ending (branches verbose n) (Reader.branches verbose n')

namespace Grammar

open Steady

variable {n n' : Nat} (ih : k.Grammar n n') (hkeeps : k.KeepsFlags)
include ih

/-- Alternatives are a first one and those behind bars. -/
theorem alternatives_succ (verbose nested : Bool) : k.Steady k.ending
    (Reader.alternatives verbose nested (n + 1)) (Reader.alternatives verbose nested (n' + 1)) :=
  bind (ih.sequence verbose []) fun item => ih.furtherItems verbose nested item

include hkeeps in
/-- Another alternative is read under the verbose flag, which is the same in both readings. -/
theorem furtherItems_succ (verbose nested : Bool) (item : List Tree) : k.Steady k.ending
    (Reader.furtherItems verbose nested item (n + 1)) (Reader.furtherItems verbose nested item (n' + 1)) := by
  refine bind accept_bar fun found => ite (fun _ => ?_) fun _ => pure _
  refine bind noteStarted fun _ => here_bind fun r r' hr => ?_
  obtain ⟨rest, source, flags, hrest, hflags, rfl⟩ := hr
  dsimp only
  rw [hkeeps.verbose hflags]
  exact bind (ih.alternatives _ nested) fun items => pure _

include hkeeps in
/-- An alternative goes on with a line to leave out, a group or a piece, and ends at the same stop. -/
theorem sequence_succ (verbose : Bool) (found : List Element) : k.Steady k.ending
    (Reader.sequence verbose found (n + 1)) (Reader.sequence verbose found (n' + 1)) := by
  refine here_bind fun r r' hr => ?_
  obtain ⟨rest, source, flags, hrest, hflags, rfl⟩ := hr
  refine bind (nextUnless _) fun p => ?_
  cases p with
  | none => exact pure _
  | some p =>
    refine ite (fun _ => ih.sequence verbose found) fun _ => ite (fun _ => ?_) fun _ => ite (fun _ => ?_) fun _ => ?_
    · exact here_bind fun _ _ _ => bind (skipLine _ _) fun _ => ih.sequence verbose found
    · refine bind (readOpening _) fun opening => ?_
      -- All openings other than a comment and flags of the whole pattern go on in this way.
      have hgroup : k.Steady k.ending
          (Reader.noteStarted >>= fun _ => Reader.group opening r.pos verbose n >>= fun x =>
            Reader.sequence verbose (x :: found) n)
          (Reader.noteStarted >>= fun _ => Reader.group opening r.pos verbose n' >>= fun x =>
            Reader.sequence verbose (x :: found) n') :=
        bind noteStarted fun _ => bind (ih.group opening _ verbose) fun x => ih.sequence verbose (x :: found)
      cases opening with
      | comment => exact ih.sequence verbose found
      | global on =>
        refine here_bind fun u u' hu => ?_
        obtain ⟨rest, source, flags, hrest, hflags, rfl⟩ := hu
        refine ite (fun _ => left (refuseAt_refuses _ _)) fun _ => bind (setFlags on (hkeeps.union on)) fun _ => ?_
        -- The verbose flag is read again behind them, and has the same value in both.
        refine here_bind fun u u' hu => ?_
        obtain ⟨rest, source, flags, hrest, hflags, rfl⟩ := hu
        dsimp only
        rw [hkeeps.verbose hflags]
        exact ih.sequence _ found
      | _ => exact hgroup
    · exact bind noteStarted fun _ => bind (addPiece _ p found) fun found => ih.sequence verbose found

/-- Each kind of group is steady if alternatives and branches are. -/
theorem group_succ (opening : Opening) (start : Nat) (verbose : Bool) : k.Steady k.ending
    (Reader.group opening start verbose (n + 1)) (Reader.group opening start verbose (n' + 1)) := by
  have hinside : ∀ verbose, k.Steady k.ending (Reader.enclosed start (Reader.alternatives verbose true n))
      (Reader.enclosed start (Reader.alternatives verbose true n')) := fun verbose =>
    enclosed start (ih.alternatives verbose true)
  cases opening with
  | comment => exact pure _
  | global _ => exact pure _
  | reference t => exact pure _
  | capturing name =>
    refine bind (openGroup name) fun g => bind (hinside verbose) fun items => ?_
    exact bind (closeGroup g _) fun _ => pure _
  | plain on off => exact bind (hinside _) fun items => pure _
  | atomic => exact bind (hinside verbose) fun items => pure _
  | ahead negated => exact bind (hinside verbose) fun items => pure _
  | behind negated =>
    refine bind (inLookbehind (hinside verbose)) fun items => here_bind fun u u' hu => ?_
    obtain ⟨rest, source, flags, hrest, hflags, rfl⟩ := hu
    exact pure _
  | conditional g => exact bind (enclosed start (ih.branches verbose)) fun b => pure _

/-- A condition has one branch or two, and no third. -/
theorem branches_succ (verbose : Bool) :
    k.Steady k.ending (Reader.branches verbose (n + 1)) (Reader.branches verbose (n' + 1)) := by
  refine bind (ih.sequence verbose []) fun yes => bind accept_bar fun found => ite (fun _ => ?_) fun _ => pure _
  refine bind (ih.sequence verbose []) fun no => bind peek fun p => ?_
  exact bind (refuseIf _ _ _ _ _) fun _ => pure _

end Grammar

/-- The functions of the grammar are steady with any fuel, by induction on the first. -/
theorem grammar {k : Pairing} (hkeeps : k.KeepsFlags) : ∀ n n', k.Grammar n n' := by
  -- Where either fuel is used up that reading is refused, and nothing is claimed of it.
  intro n
  induction n with
  | zero =>
    intro n'
    constructor
    all_goals
      intros
      exact .left (refuse_refuses _ _)
  | succ n ih =>
    intro n'
    cases n' with
    | zero =>
      constructor
      all_goals
        intros
        exact .right (refuse_refuses _ _)
    | succ n' =>
      exact ⟨(ih n').alternatives_succ, (ih n').furtherItems_succ hkeeps, (ih n').sequence_succ hkeeps,
        (ih n').group_succ, (ih n').branches_succ⟩

end Pairing

end PatternLexer
