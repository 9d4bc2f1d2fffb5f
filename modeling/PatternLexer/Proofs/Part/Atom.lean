import PatternLexer.Proofs.Part.Element

/-!
# Elements without groups in a part

Escapes, classes and repetitions are read alike alone and in a larger pattern. They take what stands before
the end of the part: neither a parenthesis nor a line feed continues a numeral, a class or a repetition.
-/

namespace PatternLexer

open List (Forall₂)
open Reader

/-! ## Notes of numbers -/

namespace Read

variable {α : Type}

/-- A reading that goes on after a reference by number was noted keeps the note. -/
theorem noteNumber_bind {f : Unit → Read α} {r s : Reader} {a : α}
    (h : (noteNumber >>= f).run r = .ok (a, s)) : s.byNumber = true := by
  rcases bind_ok.1 h with ⟨u, t, hnote, hf⟩
  obtain rfl := move_ok.1 hnote
  exact ((f u).forward hf).byNumber rfl

end Read

namespace Frame

variable {k : Frame} {e : Ending} {v : Prop}

/-- The second pattern looks back if the first one does, and in a part without references by number it is the first
one renumbered. -/
structure SameTree (k : Frame) (t t' : Tree) : Prop where
  looksBack : t'.looksBack = t.looksBack
  shifted : k.unnumbered → t.IsShift k.shift t'

/-- The same for sequences. -/
structure SameTrees (k : Frame) (ts ts' : List Tree) : Prop where
  looksBack : ts'.any Tree.looksBack = ts.any Tree.looksBack
  shifted : k.unnumbered → Forall₂ (Tree.IsShift k.shift) ts ts'

/-- The same for one element of a sequence that is read. -/
structure SameElement (k : Frame) (x x' : Element) : Prop where
  looksBack : x'.looksBack = x.looksBack
  shifted : k.unnumbered → x.IsShift k.shift x'

/-- The elements of a sequence are the same one by one. -/
def SameElements (k : Frame) (found found' : List Element) : Prop := Forall₂ k.SameElement found found'

/-- The same for numbers of groups. -/
def SameGroup (k : Frame) (g g' : Nat) : Prop := k.unnumbered → 0 < g ∧ g' = g + k.shift

/-- The frame, with nothing said about what is built. -/
def loose (k : Frame) : Frame := { k with unnumbered := False, fits := False, unnumbered_of_fits := False.elim }

/-- A pattern in which there are no groups. -/
theorem SameTree.refl {t : Tree} (h : t.shift k.shift = t) (ht : t.PositiveRefs) : k.SameTree t t :=
  ⟨rfl, fun _ => ⟨h.symm, ht⟩⟩

/-- Empty sequences are the same. -/
theorem SameTrees.nil : k.SameTrees [] [] := ⟨rfl, fun _ => .nil⟩

/-- The same sequences make the same pattern. -/
theorem SameTrees.tree {ts ts' : List Tree} (h : k.SameTrees ts ts') : k.SameTree (.ofList ts) (.ofList ts') where
  looksBack := by rw [Tree.looksBack_ofList, Tree.looksBack_ofList, h.looksBack]
  shifted hk := Tree.IsShift.ofList (h.shifted hk)

/-- What stands for the same sequences is the same element. -/
theorem SameElement.bare {body body' : List Tree} (h : k.SameTrees body body') :
    k.SameElement (.bare body) (.bare body') := ⟨h.looksBack, fun hk => .bare (h.shifted hk)⟩

/-- What stands for the same pattern is the same element. -/
theorem SameElement.plain {t t' : Tree} (h : k.SameTree t t') : k.SameElement (.plain t) (.plain t') where
  looksBack := by simp [Element.looksBack, Element.trees, h.looksBack]
  shifted hk := .plain (h.shifted hk)

/-- The same elements make the same sequence, in which the last one read comes last. -/
theorem SameElements.trees {found found' : List Element} (h : k.SameElements found found') :
    k.SameTrees (elements found) (elements found') where
  looksBack := by
    rw [looksBack_elements, looksBack_elements]
    induction h with
    | nil => rfl
    | cons hx _ ih => rw [List.any_cons, List.any_cons, hx.looksBack, ih]
  shifted hk := Element.IsShift.elements (h.imp fun _ _ hx => hx.shifted hk)

variable {r r' : Reader}

/-- Readers within a frame are so too if nothing is said about what is built. -/
theorem Within.loose (hw : k.Within r r') : k.loose.Within r r' :=
  { hw with groups := False.elim, lookbehind := False.elim, mentioned := False.elim }

theorem Within.tighten (hk : ¬ k.unnumbered) (hw : k.loose.Within r r') : k.Within r r' :=
  { hw with
    groups := fun h => absurd h hk
    lookbehind := fun h => absurd (k.unnumbered_of_fits h) hk
    mentioned := fun h => absurd (k.unnumbered_of_fits h) hk }

namespace Agrees

variable {α β : Type} {m : Read α} {m' : Read β} {R S : α → β → Prop}

/-- A step that notes a reference by number does not have to yield what a part without such references does. -/
theorem numbered (h : k.loose.Agrees .any S m m') (hS : ∀ a a', S a a' → ¬ k.unnumbered → R a a')
    (hnumber : ∀ r a s, m.run r = .ok (a, s) → s.byNumber = true) : k.Agrees (.allows k v) R m m' := by
  intro r r' a s hw hm hs
  -- The number was noted, so the part does refer to groups by number.
  have hk : ¬ k.unnumbered := by
    intro hk
    have hnone := hs.number hk
    simp [hnumber r a s hm] at hnone
  constructor
  · intro a' s' hm'
    obtain ⟨hS', hw'⟩ := (h hw.loose hm trivial).same a' s' hm'
    exact ⟨hS a a' hS' hk, hw'.tighten hk⟩
  · exact fun hfits => absurd (k.unnumbered_of_fits hfits) hk

/-! ## Escapes -/

/-- Neither a parenthesis nor a line feed is a hexadecimal digit, so that the digits are the same. -/
theorem hexEscape (c : Char) (count : Nat) :
    k.Agrees e Eq (hexEscape c count) (Reader.hexEscape c count) := by
  refine bind_eq (takeWhile (by decide) (by decide) count) fun digits => ?_
  refine ite (fun _ => left (refuse_refuses _ _)) fun _ => ?_
  exact ite (fun _ => left (refuse_refuses _ _)) fun _ => pure rfl

/-- The name of a character, which ends at a brace, is the same. -/
theorem namedEscape : k.Agrees e Eq namedEscape Reader.namedEscape := by
  refine bind_eq (accept (by decide) (by decide)) fun found => ?_
  refine ite (fun _ => ?_) fun _ => left (refuse_refuses _ _)
  refine bind_eq (readName '\x7d' _) fun name => ?_
  cases Text.namedCode? name with
  | some code => exact pure rfl
  | none => exact left (refuse_refuses _ _)

/-- The code of octal digits depends on nothing but the digits. -/
theorem octalEscape (digits : List Char) :
    k.Agrees e Eq (octalEscape digits) (Reader.octalEscape digits) :=
  ite (fun _ => left (refuse_refuses _ _)) fun _ => pure rfl

/-- An escape for a code stands for the same one in both readings. -/
theorem codeEscape (c : Char) : k.Agrees e Eq (codeEscape c) (Reader.codeEscape c) := by
  refine ite (fun _ => hexEscape c 2) fun _ => ?_
  refine ite (fun _ => hexEscape c 4) fun _ => ?_
  refine ite (fun _ => hexEscape c 8) fun _ => ?_
  refine ite (fun _ => namedEscape) fun _ => ?_
  exact ite (fun _ => left (refuse_refuses _ _)) fun _ => pure rfl

/-- So does an escape in a class for an item. -/
theorem classEscape (c : Char) : k.Agrees e Eq (classEscape c) (Reader.classEscape c) := by
  unfold Reader.classEscape
  cases simpleEscape? c with
  | some code => exact pure rfl
  | none =>
    cases categoryEscape? c with
    | some item => exact pure rfl
    | none =>
      refine ite (fun _ => ?_) fun _ => ?_
      · refine bind_eq (takeWhile (by decide) (by decide) 2) fun digits => ?_
        refine bind_eq (octalEscape (c :: digits)) fun code => ?_
        exact pure rfl
      · refine bind_eq (codeEscape c) fun code => ?_
        exact pure rfl

/-- The group is closed for both readers or for neither. -/
theorem isClosed {r r' : Reader} (hg : k.Groups r r') {g : Nat} (hpositive : 0 < g) :
    r'.isClosed (g + k.shift) = r.isClosed g := by
  obtain ⟨i, rfl⟩ : ∃ i, g = i + 1 := ⟨g - 1, by omega⟩
  have hindex : i + 1 + k.shift = k.widths.length + i + 1 := by
    unfold shift
    omega
  rw [hindex]
  unfold Reader.isClosed
  dsimp only
  rw [hg.widths, List.getElem?_append_right (Nat.le_add_right _ _), Nat.add_sub_cancel_left]

/-- Inside a lookbehind, a group may be referred to if the one that it corresponds to may. -/
theorem checkLookbehind {g g' : Nat} (hg : k.SameGroup g g') :
    k.Agrees e Eq (checkLookbehind g) (Reader.checkLookbehind g') := by
  intro r r' u s hw h _
  replace h := here_bind.1 h
  -- A lookbehind around is one for both readers, and began where the same group was free.
  have hrefuse : k.fits → ∀ first, r.lookbehind = some first → r.isClosed g = true → g < first →
      ∃ s', (Reader.checkLookbehind g').run r' = .ok ((), s') := by
    intro hk first hfirst hclosed hlt
    obtain ⟨hpositive, rfl⟩ := hg (k.unnumbered_of_fits hk)
    have hfirst' := hw.lookbehind hk
    rw [hfirst] at hfirst'
    have hclosed' := (isClosed (hw.groups (k.unnumbered_of_fits hk)) hpositive).trans hclosed
    refine ⟨r', here_bind.2 ?_⟩
    rw [hfirst']
    refine refuseIf_bind.2 ⟨by simp [hclosed'], refuseIf_ok.2 ⟨?_, rfl⟩⟩
    simp only [decide_eq_false_iff_not]
    omega
  have hstays : ∀ u' s', (Reader.checkLookbehind g').run r' = .ok (u', s') → r' = s' := by
    intro u' s' h'
    replace h' := here_bind.1 h'
    cases hlook : r'.lookbehind with
    | none =>
      rw [hlook] at h'
      exact (Read.pure_ok.1 h').2
    | some first =>
      rw [hlook] at h'
      exact (refuseIf_ok.1 (refuseIf_bind.1 h').2).2
  cases hlook : r.lookbehind with
  | none =>
    rw [hlook] at h
    rcases Read.pure_ok.1 h with ⟨-, rfl⟩
    refine ⟨fun u' s' h' => ⟨rfl, hstays u' s' h' ▸ hw⟩, fun hk => ⟨(), r', here_bind.2 ?_⟩⟩
    rw [hw.lookbehind hk, hlook]
    exact Read.pure_ok.2 ⟨rfl, rfl⟩
  | some first =>
    rw [hlook] at h
    rcases refuseIf_bind.1 h with ⟨hclosed, h⟩
    rcases refuseIf_ok.1 h with ⟨hlt, rfl⟩
    refine ⟨fun u' s' h' => ⟨rfl, hstays u' s' h' ▸ hw⟩, fun hk => ⟨(), hrefuse hk first hlook ?_ ?_⟩⟩
    · simpa using hclosed
    · simpa using hlt

/-- That a reference by number was read is noted in both readings. -/
theorem noteNumber : k.Agrees e Eq noteNumber Reader.noteNumber :=
  move fun r r' hw => hw.stay { SameGroups.refl r with } { SameGroups.refl r' with } rfl rfl

/-- A reference by number takes the same digits. In a part without such references there is none. -/
theorem numberedReference (digits : List Char) :
    k.Agrees (.allows k v) k.SameTree (numberedReference digits) (Reader.numberedReference digits) := by
  -- A reference does not look back, whatever it refers to.
  refine numbered (S := fun t t' => t'.looksBack = t.looksBack) ?_ (fun t t' h hk => ⟨h, hk.elim⟩) fun r a s h => ?_
  · refine bind here fun r r' hr => ?_
    -- A group that exists in the part exists in the larger pattern, by any number up to its own.
    by_cases hlt : Text.digitsValue 10 digits < r.nextGroup
    · have hlt' : Text.digitsValue 10 digits < r'.nextGroup := by
        have hcount := hr.count
        unfold nextGroup at *
        omega
      simp only [hlt, hlt', if_true]
      refine bind noteNumber fun _ _ _ => ?_
      refine bind (refuseIf False.elim) fun _ _ _ => ?_
      exact bind (checkLookbehind False.elim) fun _ _ _ => pure rfl
    · simp only [hlt, if_false]
      exact left (refuse_refuses _ _)
  · rcases Read.bind_ok.1 h with ⟨t, t', -, h⟩
    dsimp only at h
    split at h
    · exact Read.noteNumber_bind h
    · exact absurd h (refuse_refuses _ _ _ _ _)

/-- What stands for one character does not depend on group numbers. -/
theorem single (u : Single) :
    k.Agrees e k.SameTree (Pure.pure (.single u)) (Pure.pure (.single u)) :=
  pure (.refl rfl trivial)

/-- Digits are taken for an octal code in both readings, or for a reference by number. -/
theorem digitEscape (c : Char) :
    k.Agrees (.allows k v) k.SameTree (digitEscape c) (Reader.digitEscape c) := by
  refine bind_eq (takeWhile (by decide) (by decide) 1) fun digits => ?_
  -- One digit is a reference; two are one, unless a third makes them an octal numeral.
  rcases digits with _ | ⟨d, _ | ⟨_, _⟩⟩
  · exact numberedReference [c]
  · refine ite (fun _ => ?_) fun _ => numberedReference [c, d]
    refine bind_eq (takeWhile (by decide) (by decide) 1) fun more => ?_
    rcases more with _ | ⟨d', _ | ⟨_, _⟩⟩
    · exact numberedReference [c, d]
    · refine bind_eq (octalEscape [c, d, d']) fun code => ?_
      exact single _
    · exact numberedReference [c, d]
  · exact numberedReference [c]

/-- An escape outside of classes stands for the same pattern. -/
theorem treeEscape (c : Char) :
    k.Agrees (.allows k v) k.SameTree (treeEscape c) (Reader.treeEscape c) := by
  unfold Reader.treeEscape
  cases anchorEscape? c with
  | some a => exact pure (.refl rfl trivial)
  | none =>
    cases categoryEscape? c with
    | some item => exact single _
    | none =>
      cases simpleEscape? c with
      | some code => exact single _
      | none =>
        refine ite (fun _ => ?_) fun _ => ite (fun _ => digitEscape c) fun _ => ?_
        · refine bind_eq (takeWhile (by decide) (by decide) 2) fun digits => ?_
          exact single _
        · refine bind_eq (codeEscape c) fun code => ?_
          exact single _

/-! ## Bracketed classes -/

/-- An item of a class is the same in both readings. -/
theorem classItem (p : Piece) : k.Agrees e Eq (classItem p) (Reader.classItem p) := by
  cases p with
  | char c => exact pure rfl
  | escape c => exact classEscape c

/-- So is a range, which depends on nothing but its ends. -/
theorem classRange (low high : Piece) (a b : ClassItem) :
    k.Agrees e Eq (classRange low high a b) (Reader.classRange low high a b) := by
  have hbad : (classRange.badRange low high).Refuses := refuse_refuses _ _
  cases a with
  | code a =>
    cases b with
    | code b => exact ite (fun _ => left hbad) fun _ => pure rfl
    | _ => exact left hbad
  | _ => exact left hbad

/-- The items of a class are the same, since a parenthesis does not close it. -/
theorem classItems (start start' : Nat) :
    ∀ fuel fuel' found, (k.fits → fuel ≤ fuel') → k.Agrees e Eq (classItems start fuel found)
      (Reader.classItems start' fuel' found) := by
  intro fuel
  induction fuel with
  | zero => intro fuel' found _; exact left (refuse_refuses _ _)
  | succ fuel ih =>
    intro fuel' found hfuel
    cases fuel' with
    | zero => exact right (fun hk => Nat.not_succ_le_zero _ (hfuel hk)) (refuse_refuses _ _)
    | succ fuel' =>
      have hless : k.fits → fuel ≤ fuel' := fun hk => Nat.le_of_succ_le_succ (hfuel hk)
      refine bind_eq (nextOr (refuseAt_refuses _ _)) fun p => ?_
      refine ite (fun _ => pure rfl) fun _ => ?_
      refine bind_eq (classItem p) fun low => ?_
      refine bind_eq (accept (by decide) (by decide)) fun dash => ?_
      refine ite (fun _ => ?_) fun _ => ih fuel' _ hless
      refine bind_eq (nextOr (refuseAt_refuses _ _)) fun q => ?_
      refine ite (fun _ => pure rfl) fun _ => ?_
      refine bind_eq (classItem q) fun high => ?_
      refine bind_eq (classRange p q low high) fun item => ?_
      exact ih fuel' _ hless

/-- A class is the same in both readings. -/
theorem readClass (start start' : Nat) :
    k.Agrees e k.SameTree (readClass start) (Reader.readClass start') := by
  refine bind_eq (accept (by decide) (by decide)) fun negated => ?_
  refine bind here fun _ _ hw => ?_
  refine bind_eq (classItems start start' _ _ [] fun _ => Nat.succ_le_succ hw.length_le) fun items => ?_
  exact single _

/-! ## Repetition -/

/-- A number in braces depends on nothing but its digits. -/
theorem readCount (digits : List Char) : k.Agrees e Eq (readCount digits) (Reader.readCount digits) := by
  refine ite (fun _ => left (Read.fail_refuses _)) fun _ => ?_
  exact ite (fun _ => left (Read.fail_refuses _)) fun _ => pure rfl

/-- So does one that may be left out. -/
theorem readCount? (digits : List Char) :
    k.Agrees e Eq (readCount? digits) (Reader.readCount? digits) := by
  refine ite (fun _ => pure rfl) fun _ => ?_
  exact map (readCount digits) fun _ _ h => congrArg some h

/-- So do the bounds of a repetition. -/
theorem boundsOf (low high : List Char) (start start' : Nat) :
    k.Agrees e Eq (boundsOf low high start) (Reader.boundsOf low high start') := by
  refine bind_eq (readCount? low) fun least => ?_
  refine bind (readCount? high) ?_
  rintro (_ | most) _ rfl
  · exact pure rfl
  · exact ite (fun _ => left (refuseAt_refuses _ _)) fun _ => pure rfl

/-- Neither a parenthesis nor a line feed continues the digits in braces. -/
theorem readBoundDigits : k.Agrees e Eq readBoundDigits Reader.readBoundDigits := by
  refine bind here fun r r' hw => ?_
  have hfuel : k.fits → r.rest.length + 1 ≤ r'.rest.length + 1 := fun _ => Nat.succ_le_succ hw.length_le
  -- Empty braces are no bounds, which both readers see from the closing one.
  refine bind (peek (c := '\x7d') (by decide) (by decide)) fun a a' ha => ?_
  simp only [ha]
  refine ite (fun _ => pure rfl) fun _ => ?_
  refine bind_eq (takeAll (by decide) (by decide) _ _ hfuel) fun low => ?_
  refine bind_eq (accept (by decide) (by decide)) fun comma => ?_
  refine ite (fun _ => ?_) fun _ => ?_
  · refine bind_eq (takeAll (by decide) (by decide) _ _ hfuel) fun high => ?_
    refine bind_eq (accept (by decide) (by decide)) fun closed => ?_
    exact pure rfl
  · refine bind_eq (accept (by decide) (by decide)) fun closed => ?_
    exact pure rfl

/-- Braces are bounds in both readings or in neither. -/
theorem readBounds : k.Agrees e Eq readBounds Reader.readBounds := by
  refine bind here fun _ _ _ => ?_
  refine bind (attempt readBoundDigits) ?_
  rintro (_ | ⟨low, high⟩) _ rfl
  · exact pure rfl
  · refine bind_eq (boundsOf low high _ _) fun bounds => ?_
    exact pure rfl

/-- Neither of them is a sign behind a repetition. -/
theorem readGreed : k.Agrees e Eq readGreed Reader.readGreed := by
  refine bind_eq (accept (by decide) (by decide)) fun lazy => ?_
  refine ite (fun _ => pure rfl) fun _ => ?_
  refine bind_eq (accept (by decide) (by decide)) fun possessive => ?_
  exact ite (fun _ => pure rfl) fun _ => pure rfl

/-- The same element is repeated, if there is one. -/
theorem repeatLast (start start' least : Nat) (most : Option Nat) {found found' : List Element}
    (hfound : k.SameElements found found') :
    k.Agrees e k.SameElements (repeatLast start least most found)
      (Reader.repeatLast start' least most found') := by
  -- In a part that fits the last elements are of one kind; else either reading may be refused for its own.
  cases hfound with
  | nil => exact left (refuseAt_refuses _ _)
  | @cons last last' before before' hlast hbefore =>
    have hkind : k.fits → last'.unrepeatable? = last.unrepeatable? := fun hk =>
      (hlast.shifted (k.unnumbered_of_fits hk)).unrepeatable?
    simp only [Reader.repeatLast]
    cases hrepeats : last.unrepeatable? with
    | some cause => exact left (refuseAt_refuses _ _)
    | none =>
      cases hrepeats' : last'.unrepeatable? with
      | some cause =>
        refine right (fun hk => ?_) (refuseAt_refuses _ _)
        rw [hrepeats, hrepeats'] at hkind
        cases hkind hk
      | none =>
        refine bind_eq readGreed fun greed => ?_
        have hrepeated : k.SameTree (repeated greed least most last.trees) (repeated greed least most last'.trees) := by
          refine ⟨?_, fun hk => Tree.IsShift.repeated (hlast.shifted hk).trees greed least most⟩
          rw [looksBack_repeated, looksBack_repeated]
          exact hlast.looksBack
        exact pure (.cons (.plain hrepeated) hbefore)

/-! ## Elements -/

/-- The same pieces repeat in both readings. -/
theorem readRepetition (p : Piece) : k.Agrees e Eq (readRepetition p) (Reader.readRepetition p) := by
  unfold Reader.readRepetition
  split
  · exact pure rfl
  · exact pure rfl
  · exact pure rfl
  · exact readBounds
  · exact pure rfl

/-- A piece that repeats nothing begins the same pattern. -/
theorem readAtom (start start' : Nat) (p : Piece) :
    k.Agrees (.allows k v) k.SameTree (readAtom start p) (Reader.readAtom start' p) := by
  unfold Reader.readAtom
  split
  · exact treeEscape _
  · exact readClass start start'
  · exact single _
  · exact pure (.refl rfl trivial)
  · exact pure (.refl rfl trivial)
  · exact single _

/-- A piece adds the same element, or repeats the last one in the same way. -/
theorem addPiece (start start' : Nat) (p : Piece) {found found' : List Element}
    (hfound : k.SameElements found found') :
    k.Agrees (.allows k v) k.SameElements (addPiece start p found)
      (Reader.addPiece start' p found') := by
  refine bind (readRepetition p) ?_
  rintro (_ | ⟨least, most⟩) _ rfl
  · refine bind (readAtom start start' p) fun t t' ht => ?_
    exact pure (.cons (.plain ht) hfound)
  · exact repeatLast start start' least most hfound

end Agrees

end Frame

end PatternLexer
