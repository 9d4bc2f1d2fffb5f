import PatternLexer.Proofs.Part.Atom

/-!
# The front of a group in a part

The front of a parenthesis announces the same group alone and in a larger pattern. Here the numbers of groups
are given out and looked up: a group gets the next free number in either reading, and a name is found with
the number of its own group, because a name of the part is none of the names before it.
-/

namespace PatternLexer

open List (Forall₂)
open Reader

/-! ## Parentheses -/

namespace Reader

variable {r s : Reader} {start : Nat}

/-- A group is closed exactly if its parenthesis is left behind. -/
theorem closeParenthesis_ok {u : Unit} :
    (closeParenthesis start).run r = .ok (u, s) ↔ r.Leaves (.char ')') s := by
  constructor
  · intro h
    rcases Read.bind_ok.1 h with ⟨found, t, hfound, h⟩
    rcases Read.bind_ok.1 hfound with ⟨p, t', hp, hpure⟩
    rcases Read.pure_ok.1 hpure with ⟨rfl, rfl⟩
    cases p with
    | none => exact absurd h (refuseAt_refuses _ _ _ _ _)
    | some p =>
      rcases nextUnless_some.1 hp with ⟨hstop, hleaves⟩
      rcases Read.pure_ok.1 h with ⟨-, rfl⟩
      have hparen : p = .char ')' := by simpa using hstop
      exact hparen ▸ hleaves
  · intro hleaves
    exact Read.bind_ok.2 ⟨true, s, accept_run hleaves, Read.pure_ok.2 ⟨rfl, rfl⟩⟩

/-- What is read between parentheses is read without them, up to the one that closes. -/
theorem enclosed_ok {α : Type} {m : Read α} {a : α} :
    (enclosed start m).run r = .ok (a, s) ↔ ∃ t, m.run r = .ok (a, t) ∧ t.Leaves (.char ')') s := by
  constructor
  · intro h
    rcases Read.bind_ok.1 h with ⟨b, t, hm, h⟩
    rcases Read.bind_ok.1 h with ⟨u, _, hclose, hpure⟩
    rcases Read.pure_ok.1 hpure with ⟨rfl, rfl⟩
    exact ⟨t, hm, closeParenthesis_ok.1 hclose⟩
  · rintro ⟨t, hm, hleaves⟩
    exact Read.bind_ok.2 ⟨a, t, hm, Read.bind_ok.2 ⟨(), s, closeParenthesis_ok.2 hleaves,
      Read.pure_ok.2 ⟨rfl, rfl⟩⟩⟩

theorem inLookbehind_ok {α : Type} {m : Read α} {a : α} :
    (inLookbehind m).run r = .ok (a, s) ↔
      ∃ t, m.run { r with lookbehind := some (r.lookbehind.getD r.nextGroup) } = .ok (a, t) ∧
        s = { t with lookbehind := r.lookbehind } := by
  unfold inLookbehind
  dsimp only
  constructor
  · intro h
    split at h
    · rename_i b t ht
      cases h
      exact ⟨t, ht, rfl⟩
    · cases h
  · rintro ⟨t, ht, rfl⟩
    rw [ht]

/-- A piece is left behind on the way. -/
theorem Leaves.before {p : Piece} (h : r.Leaves p s) : r.Before s := by
  rw [h.past]
  exact r.before_past p

end Reader

namespace Frame

variable {k : Frame} {e : Ending} {v : Prop} {r r' s s' : Reader}

/-- The fronts announce the same, up to the numbers of groups. -/
inductive Opens (k : Frame) : Opening → Opening → Prop where
  | comment : Opens k .comment .comment
  | global (on : Flags) : Opens k (.global on) (.global on)
  | reference {t t' : Tree} (h : k.SameTree t t') : Opens k (.reference t) (.reference t')
  | capturing (name : Option String) : Opens k (.capturing name) (.capturing name)
  | plain (on off : Flags) : Opens k (.plain on off) (.plain on off)
  | atomic : Opens k .atomic .atomic
  | ahead (negated : Bool) : Opens k (.ahead negated) (.ahead negated)
  | behind (negated : Bool) : Opens k (.behind negated) (.behind negated)
  | conditional {g g' : Nat} (h : k.SameGroup g g') : Opens k (.conditional g) (.conditional g')

/-! ## Groups by name -/

/-- Where all numbers have grown, so has the one that a name is looked up with. -/
theorem lookup_renumbered (names : List (String × Nat)) (name : String) (n : Nat) :
    (names.map fun x => (x.1, x.2 + n)).lookup name = (names.lookup name).map (· + n) := by
  induction names with
  | nil => rfl
  | cons x rest ih =>
    rcases x with ⟨first, g⟩
    simp only [List.map_cons, List.lookup_cons, ih]
    split <;> rfl

namespace Groups

/-- The group of a name is the same one for both readers. -/
theorem lookup (hg : k.Groups r r') {name : String} {g : Nat} (h : r.names.lookup name = some g) :
    0 < g ∧ r'.names.lookup name = some (g + k.shift) := by
  have hmem : (name, g) ∈ r.names := by
    rcases List.lookup_eq_some_iff.1 h with ⟨before, after, hnames, -⟩
    simp [hnames]
  refine ⟨hg.positive _ hmem, ?_⟩
  -- No group before the part has the name, so the lookup goes past those.
  rw [hg.names, List.lookup_append, hg.fresh _ hmem, lookup_renumbered, h]
  rfl

/-- A new name is given to the next group of either reader. -/
theorem name (hg : k.Groups r r') {name : String} {g : Nat} (hpositive : 0 < g)
    (hnew : r'.names.lookup name = none) :
    k.Groups { r with names := r.names ++ [(name, g)] }
      { r' with names := r'.names ++ [(name, g + k.shift)] } := by
  have hfresh : k.names.lookup name = none := by
    rw [hg.names, List.lookup_append] at hnew
    exact (Option.or_eq_none_iff.1 hnew).1
  refine ⟨hg.widths, ?_, ?_, ?_⟩
  · simp [hg.names]
  · intro x hx
    rcases List.mem_append.1 hx with hx | hx
    · exact hg.fresh x hx
    · rw [List.mem_singleton.1 hx]
      exact hfresh
  · intro x hx
    rcases List.mem_append.1 hx with hx | hx
    · exact hg.positive x hx
    · rw [List.mem_singleton.1 hx]
      exact hpositive

end Groups

namespace Agrees

/-- Looking a name up leaves the reader where it is. -/
theorem lookup_ok {name : String} {a : Option Nat} :
    (Reader.lookup name).run r = .ok (a, s) ↔ r.names.lookup name = a ∧ r = s := by
  simp [Reader.lookup, Read.bind_ok, and_comm]

/-- A name of the part is new to the larger pattern if none of the names before is the same. -/
theorem recordName {name : String} {g g' : Nat} (hpositive : 0 < g) (hg' : g' = g + k.shift) :
    k.Agrees (.allows k v) Eq (recordName name g) (Reader.recordName name g') := by
  intro r r' u s hw h hs
  rcases Read.bind_ok.1 h with ⟨a, t, ha, h⟩
  rcases lookup_ok.1 ha with ⟨rfl, rfl⟩
  split at h
  · exact absurd h (refuse_refuses _ _ _ _ _)
  · rename_i hold
    obtain rfl := Read.move_ok.1 h
    -- A name that is new to the larger pattern is none of the names before the part.
    have hwithin : r'.names.lookup name = none →
        k.Within { r with names := r.names ++ [(name, g)] }
          { r' with names := r'.names ++ [(name, g')] } := by
      intro hnew
      subst hg'
      exact { hw with groups := fun hk => (hw.groups hk).name hpositive hnew }
    constructor
    · intro u' s' h'
      rcases Read.bind_ok.1 h' with ⟨a', t', ha', h'⟩
      rcases lookup_ok.1 ha' with ⟨rfl, rfl⟩
      split at h'
      · exact absurd h' (refuse_refuses _ _ _ _ _)
      · rename_i hnew
        obtain rfl := Read.move_ok.1 h'
        exact ⟨rfl, hwithin hnew⟩
    · intro hk
      have hg := hw.groups (k.unnumbered_of_fits hk)
      have hfresh : k.names.lookup name = none :=
        hs.names hk (name, g) (List.mem_append_right _ (List.mem_singleton_self _))
      have hnew : r'.names.lookup name = none := by
        rw [hg.names, List.lookup_append, hfresh, lookup_renumbered, hold]
        rfl
      refine ⟨(), _, Read.bind_ok.2 ⟨none, r', lookup_ok.2 ⟨hnew, rfl⟩, Read.move_ok.2 rfl⟩⟩

/-- A group of the part gets a number in the larger pattern that is greater by the groups before. -/
theorem openGroup (name : Option String) :
    k.Agrees (.allows k v) (fun g g' => 0 < g ∧ g' = g + k.shift) (openGroup name)
      (Reader.openGroup name) := by
  refine bind here fun r r' hr => ?_
  have hpositive : 0 < r.nextGroup := Nat.succ_pos _
  have hnext : r'.nextGroup = r.nextGroup + k.shift := by
    have hcount := hr.count
    unfold nextGroup
    omega
  -- The name is recorded before the width is, so that a group is known by name in its own body.
  have hopen : k.Agrees (.allows k v) Eq
      (Read.move (fun r => { r with widths := r.widths ++ [none] }) fun r => { Before.refl r with })
      (Read.move (fun r => { r with widths := r.widths ++ [none] }) fun r => { Before.refl r with }) := by
    refine move fun r r' hw => { hw with count := ?_, groups := fun hk => ?_ }
    · simp [hw.count, Nat.add_assoc]
    · have hg := hw.groups hk
      exact ⟨by simp [hg.widths], hg.names, hg.fresh, hg.positive⟩
  cases name with
  | none => exact bind hopen fun _ _ _ => pure ⟨hpositive, hnext⟩
  | some n =>
    refine bind (recordName hpositive hnext) fun _ _ _ => ?_
    exact bind hopen fun _ _ _ => pure ⟨hpositive, hnext⟩

/-- A group that is closed has the same width in both. -/
theorem closeGroup {g g' : Nat} {body body' : Tree} (hpositive : 0 < g) (hg' : g' = g + k.shift)
    (hbody : k.SameTree body body') :
    k.Agrees e Eq (closeGroup g body) (Reader.closeGroup g' body') := by
  refine move fun r r' hw => { hw with count := ?_, groups := fun hk => ?_ }
  · simp [hw.count]
  · have hg := hw.groups hk
    have hwidth := (hbody.shifted hk).width r.widths
    have hindex : g' - 1 = k.widths.length + (g - 1) := by
      unfold shift at hg'
      omega
    refine ⟨?_, hg.names, hg.fresh, hg.positive⟩
    simp only [hg.widths, hwidth, hindex]
    rw [List.set_append_right _ _ (Nat.le_add_right _ _), Nat.add_sub_cancel_left]

/-- A name refers to the same group. -/
theorem groupNamed (name : String) (back back' : Nat) :
    k.Agrees e k.SameGroup (groupNamed name back) (Reader.groupNamed name back') := by
  intro r r' g s hw h _
  rcases Read.bind_ok.1 h with ⟨a, t, ha, h⟩
  rcases lookup_ok.1 ha with ⟨rfl, rfl⟩
  split at h
  · exact absurd h (refuse_refuses _ _ _ _ _)
  · rename_i n hn
    rcases Read.pure_ok.1 h with ⟨rfl, rfl⟩
    constructor
    · intro g' s' h'
      rcases Read.bind_ok.1 h' with ⟨a', t', ha', h'⟩
      rcases lookup_ok.1 ha' with ⟨rfl, rfl⟩
      split at h'
      · exact absurd h' (refuse_refuses _ _ _ _ _)
      · -- Both know the name, and the groups that they know by it correspond.
        rename_i n' hn'
        rcases Read.pure_ok.1 h' with ⟨rfl, rfl⟩
        refine ⟨fun hk => ?_, hw⟩
        rcases (hw.groups hk).lookup hn with ⟨hpositive, hlookup⟩
        exact ⟨hpositive, Option.some.inj (hn'.symm.trans hlookup)⟩
    · intro hk
      rcases (hw.groups (k.unnumbered_of_fits hk)).lookup hn with ⟨-, hlookup⟩
      refine ⟨_, r', Read.bind_ok.2 ⟨_, r', lookup_ok.2 ⟨hlookup, rfl⟩, Read.pure_ok.2 ⟨rfl, rfl⟩⟩⟩

/-- The name of a group is the same in both readings. -/
theorem readGroupName (stop : Char) :
    k.Agrees e Eq (readGroupName stop) (Reader.readGroupName stop) := by
  refine bind_eq (readName stop _) fun name => ?_
  exact bind (refuseIf fun _ h => h) fun _ _ _ => pure rfl

/-- A reference by name is to the same group. -/
theorem namedReference : k.Agrees e k.SameTree namedReference Reader.namedReference := by
  refine bind_eq (readGroupName ')') fun name => ?_
  refine bind (groupNamed name _ _) fun g g' hg => ?_
  refine bind here fun r r' hw => ?_
  have hclosed : k.fits → (!r.isClosed g) = false → (!r'.isClosed g') = false := by
    intro hk hclosed
    obtain ⟨hpositive, rfl⟩ := hg (k.unnumbered_of_fits hk)
    rw [isClosed (hw.groups (k.unnumbered_of_fits hk)) hpositive]
    exact hclosed
  refine bind (refuseIf hclosed) fun _ _ _ => ?_
  refine bind (checkLookbehind hg) fun _ _ _ => pure ⟨rfl, fun hk => ?_⟩
  rcases hg hk with ⟨hpositive, rfl⟩
  exact ⟨rfl, hpositive⟩

/-! ## Conditions -/

/-- What is noted of a condition by number matters only if the part fits, which it does not then. -/
theorem noteCondition (hk : ¬ k.fits) (g g' back back' : Nat) :
    k.Agrees e Eq (noteCondition g back) (Reader.noteCondition g' back') :=
  move fun r r' hw =>
    { hw.stay (SameGroups.refl r) (SameGroups.refl r') rfl rfl with
      lookbehind := fun hfits => absurd hfits hk
      mentioned := fun hfits => absurd hfits hk
      groups := fun hnone => ⟨(hw.groups hnone).widths, (hw.groups hnone).names, (hw.groups hnone).fresh,
        (hw.groups hnone).positive⟩ }

/-- A condition by number asks for the same group, as far as anything is said of numbers. -/
theorem groupNumbered (text : String) (back back' : Nat) :
    k.Agrees (.allows k v) k.SameGroup (groupNumbered text back)
      (Reader.groupNumbered text back') := by
  -- A group given by its number is noted as such, so that nothing has to be shown of which group it is.
  refine numbered (S := fun _ _ => True) ?_ (fun _ _ _ hk hnone => absurd hnone hk) fun r g s h => ?_
  · unfold Reader.groupNumbered
    cases Text.readInteger text with
    | error _ => exact left (refuse_refuses _ _)
    | ok n =>
      refine bind noteNumber fun _ _ _ => ?_
      refine bind (refuseIf False.elim) fun _ _ _ => ?_
      refine bind (refuseIf False.elim) fun _ _ _ => ?_
      refine bind (refuseIf False.elim) fun _ _ _ => ?_
      exact bind (noteCondition id _ _ _ _) fun _ _ _ => pure trivial
  · unfold Reader.groupNumbered at h
    cases hn : Text.readInteger text with
    | error _ =>
      rw [hn] at h
      exact absurd h (refuse_refuses _ _ _ _ _)
    | ok n =>
      rw [hn] at h
      exact Read.noteNumber_bind h

/-- A condition asks for the same group, whether by number or by name. -/
theorem conditionGroup (text : String) (back back' : Nat) :
    k.Agrees (.allows k v) k.SameGroup (conditionGroup text back)
      (Reader.conditionGroup text back') :=
  ite (fun _ => groupNamed text back back') fun _ => groupNumbered text back back'

/-- The condition in parentheses is the same in both readings. -/
theorem readCondition :
    k.Agrees (.allows k v) k.SameGroup readCondition Reader.readCondition := by
  refine bind_eq (readName ')' _) fun text => ?_
  refine bind (conditionGroup text _ _) fun g g' hg => ?_
  exact bind (checkLookbehind hg) fun _ _ _ => pure hg

/-! ## Flags -/

/-- An unknown flag is refused. -/
theorem badFlag_refuses {α : Type} (expected : String) (p : Piece) :
    (badFlag expected p : Read α).Refuses :=
  refuse_refuses _ _

/-- The flags set by a group are the same, since neither a parenthesis nor a line feed is a flag. -/
theorem flagsOn : ∀ fuel fuel' on flag, (k.fits → fuel ≤ fuel') →
    k.Agrees e Eq (flagsOn fuel on flag) (Reader.flagsOn fuel' on flag) := by
  intro fuel
  induction fuel with
  | zero => intro fuel' on flag _; exact left (refuse_refuses _ _)
  | succ fuel ih =>
    intro fuel' on flag hfuel
    cases fuel' with
    | zero => exact right (fun hk => Nat.not_succ_le_zero _ (hfuel hk)) (refuse_refuses _ _)
    | succ fuel' =>
      refine bind (refuseIf fun _ h => h) fun _ _ _ => ?_
      refine bind (refuseIf fun _ h => h) fun _ _ _ => ?_
      refine bind_eq (nextOr (refuse_refuses _ _)) fun p => ?_
      refine ite (fun _ => pure rfl) fun _ => ?_
      cases flagOf? p with
      | some following => exact ih fuel' _ following fun hk => Nat.le_of_succ_le_succ (hfuel hk)
      | none => exact left (badFlag_refuses _ _)

/-- So are those that it takes away. -/
theorem flagsOff : ∀ fuel fuel' off flag, (k.fits → fuel ≤ fuel') →
    k.Agrees e Eq (flagsOff fuel off flag) (Reader.flagsOff fuel' off flag) := by
  intro fuel
  induction fuel with
  | zero => intro fuel' off flag _; exact left (refuse_refuses _ _)
  | succ fuel ih =>
    intro fuel' off flag hfuel
    cases fuel' with
    | zero => exact right (fun hk => Nat.not_succ_le_zero _ (hfuel hk)) (refuse_refuses _ _)
    | succ fuel' =>
      refine bind (refuseIf fun _ h => h) fun _ _ _ => ?_
      refine bind_eq (nextOr (refuse_refuses _ _)) fun p => ?_
      refine ite (fun _ => pure rfl) fun _ => ?_
      cases flagOf? p with
      | some following => exact ih fuel' _ following fun hk => Nat.le_of_succ_le_succ (hfuel hk)
      | none => exact left (badFlag_refuses _ _)

/-- Flags are set only if a first one was read. -/
theorem readFlagsOn (first : Option Flag) :
    k.Agrees e Eq (readFlagsOn first) (Reader.readFlagsOn first) := by
  cases first with
  | none => exact pure rfl
  | some flag =>
    exact bind here fun _ _ hw => flagsOn _ _ _ flag fun _ => Nat.add_le_add_right hw.length_le 2

/-- Flags are taken away only behind a hyphen. -/
theorem readFlagsOff (stop : Piece) :
    k.Agrees e Eq (readFlagsOff stop) (Reader.readFlagsOff stop) := by
  refine ite (fun _ => ?_) fun _ => pure rfl
  refine bind here fun _ _ hw => ?_
  refine bind_eq (nextOr (refuse_refuses _ _)) fun p => ?_
  cases flagOf? p with
  | some flag => exact flagsOff _ _ _ flag fun _ => Nat.add_le_add_right hw.length_le 2
  | none => exact left (badFlag_refuses _ _)

/-- The flags of a group, or of the whole pattern, are the same. -/
theorem readFlags (first : Option Flag) :
    k.Agrees e k.Opens (readFlags first) (Reader.readFlags first) := by
  refine bind (readFlagsOn first) ?_
  rintro ⟨on, stop⟩ _ rfl
  refine ite (fun _ => pure (.global on)) fun _ => ?_
  refine bind (refuseIf fun _ h => h) fun _ _ _ => ?_
  refine bind_eq (readFlagsOff stop) fun off => ?_
  refine bind (refuseIf fun _ h => h) fun _ _ _ => ?_
  exact bind (refuseIf fun _ h => h) fun _ _ _ => pure (.plain on off)

/-! ## Openings -/

/-- A comment ends in the part, since it is refused where the part ends before. -/
theorem skipComment (start start' : Nat) : ∀ fuel fuel', (k.fits → fuel ≤ fuel') →
    k.Agrees e Eq (skipComment start fuel) (Reader.skipComment start' fuel') := by
  intro fuel
  induction fuel with
  | zero => intro fuel' _; exact left (refuse_refuses _ _)
  | succ fuel ih =>
    intro fuel' hfuel
    cases fuel' with
    | zero => exact right (fun hk => Nat.not_succ_le_zero _ (hfuel hk)) (refuse_refuses _ _)
    | succ fuel' =>
      refine bind_eq (nextOr (refuseAt_refuses _ _)) fun p => ?_
      exact ite (fun _ => pure rfl) fun _ => ih fuel' fun hk => Nat.le_of_succ_le_succ (hfuel hk)

/-- What begins as a named group is one in both readings, or a reference by name. -/
theorem readNamed : k.Agrees e k.Opens readNamed Reader.readNamed := by
  refine bind_eq (accept (by decide) (by decide)) fun named => ?_
  refine ite (fun _ => ?_) fun _ => ?_
  · refine bind_eq (readGroupName '>') fun name => ?_
    exact pure (.capturing _)
  · refine bind_eq (accept (by decide) (by decide)) fun reference => ?_
    refine ite (fun _ => ?_) fun _ => ?_
    · exact bind namedReference fun t t' ht => pure (.reference ht)
    · exact left (Read.bind_refuses fun _ => refuse_refuses _ _)

/-- A lookbehind is negated in both readings or in neither. -/
theorem readBehind : k.Agrees e k.Opens readBehind Reader.readBehind := by
  refine bind_eq (nextOr (refuse_refuses _ _)) fun p => ?_
  refine ite (fun _ => pure (.behind false)) fun _ => ?_
  exact ite (fun _ => pure (.behind true)) fun _ => left (refuse_refuses _ _)

/-- What a question mark at the front of a group begins is the same in both readings. -/
theorem readExtension (start start' : Nat) (p : Piece) :
    k.Agrees (.allows k v) k.Opens (readExtension start p) (Reader.readExtension start' p) := by
  unfold Reader.readExtension
  split
  · exact readNamed
  · exact pure (.plain {} {})
  · refine bind here fun _ _ hw => ?_
    exact bind (skipComment start start' _ _ fun _ => Nat.succ_le_succ hw.length_le) fun _ _ _ => pure .comment
  · exact pure (.ahead false)
  · exact pure (.ahead true)
  · exact readBehind
  · exact bind readCondition fun g g' hg => pure (.conditional hg)
  · exact pure .atomic
  · exact ite (fun _ => readFlags _) fun _ => left (refuse_refuses _ _)

/-- The front of a group announces the same in both readings. -/
theorem readOpening (start start' : Nat) :
    k.Agrees (.allows k v) k.Opens (readOpening start) (Reader.readOpening start') := by
  refine bind_eq (accept (by decide) (by decide)) fun question => ?_
  refine ite (fun _ => pure (.capturing none)) fun _ => ?_
  refine bind_eq (nextOr (refuse_refuses _ _)) fun p => ?_
  exact readExtension start start' p

/-- No more flags of the whole pattern may follow in either reading. -/
theorem noteStarted : k.Agrees e Eq noteStarted Reader.noteStarted :=
  move fun r r' hw =>
    hw.stay { SameGroups.refl r with started := fun _ => rfl }
      { SameGroups.refl r' with started := fun _ => rfl } rfl rfl

/-- In a lookbehind the numbers of groups that were free before it differ like all others. -/
theorem inLookbehind {α β : Type} {R : α → β → Prop} {m : Read α} {m' : Read β}
    (h : k.Agrees (.allows k v) R m m') :
    k.Agrees (.allows k v) R (inLookbehind m) (Reader.inLookbehind m') := by
  intro r r' a s hw hm hs
  obtain ⟨t, ht, rfl⟩ := inLookbehind_ok.1 hm
  have hnext : r'.nextGroup = r.nextGroup + k.shift := by
    have hcount := hw.count
    unfold nextGroup
    omega
  have hinside : k.Within { r with lookbehind := some (r.lookbehind.getD r.nextGroup) }
      { r' with lookbehind := some (r'.lookbehind.getD r'.nextGroup) } := by
    refine { hw with groups := fun hk => { hw.groups hk with }, lookbehind := fun hk => ?_ }
    rw [hw.lookbehind hk, hnext]
    cases r.lookbehind with
    | none => rfl
    | some first => rfl
  have hmeets := h hinside ht { hs with }
  -- Behind it, what was noted before is noted again.
  have houtside : ∀ {t'}, k.Within t t' →
      k.Within { t with lookbehind := r.lookbehind } { t' with lookbehind := r'.lookbehind } := fun hwt =>
    { hwt with groups := fun hk => { hwt.groups hk with }, lookbehind := hw.lookbehind }
  constructor
  · intro a' s' hm'
    obtain ⟨t', ht', rfl⟩ := inLookbehind_ok.1 hm'
    obtain ⟨hR, hwt⟩ := hmeets.same a' t' ht'
    exact ⟨hR, houtside hwt⟩
  · intro hk
    obtain ⟨a', t', ht'⟩ := hmeets.goes hk
    exact ⟨a', _, inLookbehind_ok.2 ⟨t', ht', rfl⟩⟩

end Agrees

/-- What stands in parentheses never ends where the part does, whatever is known of the place after it. -/
theorem Agrees.enclosed {α β : Type} {v' : Prop} {R : α → β → Prop} {m : Read α} {m' : Read β}
    (start start' : Nat) (h : k.Agrees (.allows k v') R m m') :
    k.Agrees (.allows k v) R (Reader.enclosed start m) (Reader.enclosed start' m') := by
  intro r r' a s hw hm hs
  rcases enclosed_ok.1 hm with ⟨t, ha, hleaves⟩
  -- A parenthesis is left where the inner reading ends, so the part is not used up there.
  have ht : (Ending.allows k v').holds t := by
    have hback : (Ending.allows k v).holds t := (Ending.allows k v).back hleaves.before hs
    refine { hback with ends := fun hnil => ?_ }
    have hfirst := hleaves.first
    rw [hnil] at hfirst
    cases hfirst
  have hmeets := h hw ha ht
  constructor
  · intro a' s' hm'
    rcases enclosed_ok.1 hm' with ⟨t', ha', hleaves'⟩
    rcases hmeets.same a' t' ha' with ⟨hR, hwt⟩
    rw [hleaves'.past]
    exact ⟨hR, (hwt.leaves hleaves).2⟩
  · intro hk
    rcases hmeets.goes hk with ⟨a', t', ha'⟩
    have hwt := (hmeets.same a' t' ha').2
    exact ⟨a', _, enclosed_ok.2 ⟨t', ha', (hwt.leaves hleaves).1⟩⟩

end Frame

end PatternLexer
