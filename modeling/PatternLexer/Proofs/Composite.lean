import PatternLexer.Proofs.Part.Body

/-!
# Merged patterns

What a composite pattern is made of.

1. **One part.** A part of the composite source is read as a capturing group around a body, and the body
   matches like the pattern alone unless the pattern refers to groups by number (`Pattern.scoped_ok`). A
   pattern that fits where it stands is read there (`Pattern.scoped_run`).
2. **All parts.** The composite tree is the ordered alternatives of these groups (`Composite.parted`).
-/

namespace PatternLexer

open Reader

/-! ## Faults -/

namespace Tree

variable {t : Tree}

/-- Renumbering brings no fault in and takes none out. -/
theorem fault?_shift (template : Bool) (n : Nat) : (t.shift n).fault? template = t.fault? template := by
  induction t with
  | seq a b iha ihb | alt a b iha ihb | conditional _ a b iha ihb => simp only [shift, fault?, iha, ihb]
  | group _ b ih | scope _ _ b ih | atomic b ih | ahead _ b ih | behind _ _ b ih | loop _ _ _ b ih =>
    simp only [shift, fault?, ih]
  | _ => rfl

/-- What may stand in a template may stand anywhere. -/
theorem fault?_of_template (template : Bool) (h : t.fault? template = none) : t.fault? false = none := by
  induction t with
  | seq a b iha ihb | alt a b iha ihb | conditional _ a b iha ihb =>
    rcases Option.or_eq_none_iff.1 h with ⟨ha, hb⟩
    exact Option.or_eq_none_iff.2 ⟨iha ha, ihb hb⟩
  | group _ b ih | scope _ _ b ih | atomic b ih | ahead _ b ih => exact ih h
  | behind negated width b ih =>
    simp only [fault?] at h ⊢
    split
    · rename_i hlong
      rw [if_pos hlong] at h
      cases h
    · rename_i hlong
      rw [if_neg hlong] at h
      split
      · rename_i hvariable
        rw [if_pos hvariable] at h
        cases h
      · rename_i hvariable
        rw [if_neg hvariable] at h
        exact ih h
  | loop greed least most b ih =>
    cases template with
    | true => cases h
    | false => exact h
  | _ => rfl

theorem fault?_ofAlternatives {ts : List Tree} (h : ∀ t ∈ ts, t.fault? false = none) :
    (ofAlternatives (ts.map ([·]))).fault? false = none := by
  induction ts with
  | nil => rfl
  | cons t rest ih =>
    have ht := h t (.head _)
    have hrest := ih fun u hu => h u (.tail _ hu)
    cases rest with
    | nil => exact ht
    | cons _ _ => exact Option.or_eq_none_iff.2 ⟨ht, hrest⟩

end Tree

/-! ## The groups around a part -/

namespace Reader

variable {r s u w : Reader} {n : Nat} {inner rest : List Char}

/-- `u` stands in a group that opens where `r` stands, in front of `inner`. -/
structure Enters (r u : Reader) (inner : List Char) : Prop where
  rest : u.rest = inner
  notes : r.SameNotes u
  started : u.started = true

theorem readOpening_capturing {start : Nat} {opening : Opening}
    (hfirst : Piece.first? r.rest ≠ some (.char '?')) :
    (readOpening start).run r = .ok (opening, s) ↔ opening = .capturing none ∧ r = s := by
  constructor
  · intro h
    rcases Read.bind_ok.1 h with ⟨question, t, hquestion, h⟩
    rcases (accept_other hfirst).1 hquestion with ⟨rfl, rfl⟩
    rcases Read.pure_ok.1 h with ⟨rfl, rfl⟩
    exact ⟨rfl, rfl⟩
  · rintro ⟨rfl, rfl⟩
    exact Read.bind_ok.2 ⟨false, r, (accept_other hfirst).2 ⟨rfl, rfl⟩, Read.pure_ok.2 ⟨rfl, rfl⟩⟩

section Wrapper

variable (hrest : r.rest = '(' :: inner) (hfirst : Piece.first? inner ≠ some (.char '?'))
variable (hends : ∀ p, Piece.first? rest = some p → endsItem p = true)
include hrest hfirst hends

/-- A parenthesis that no question mark follows wraps what stands in it into a group of its own. -/
theorem wrapper_ok {item : List Tree} (h : (sequence false [] n).run r = .ok (item, s)) :
    ∃ m start items u w, (enclosed start (alternatives false true m)).run u = .ok (items, w) ∧
      r.Enters u inner ∧ u.widths.length = r.nextGroup ∧
      (w.rest = rest → item = [.group r.nextGroup (.ofList (joinAlternatives items))] ∧
        s.rest = rest ∧ w.SameNotes s ∧ s.widths.length = w.widths.length) := by
  -- The opening is that of a capturing group, and the sequence ends behind its closing parenthesis.
  rcases sequence_open hrest h with ⟨m, u, opening, v, hleaves, hopening, hgoes⟩
  have hu : u.rest = inner := (hleaves.of_cons hrest (by decide)).2
  rcases (readOpening_capturing (by rwa [hu])).1 hopening with ⟨rfl, rfl⟩
  cases hgoes with
  | @group _ x t _ _ hgroup hmore =>
    cases m with
    | zero => exact absurd hgroup (refuse_refuses _ _ _ _ _)
    | succ m =>
      rcases group_capturing.1 hgroup with ⟨items, w, hitems, hx, rfl⟩
      refine ⟨m, _, items, _, w, hitems, ⟨hu, { hleaves.groups with }, rfl⟩, ?_, fun hw => ?_⟩
      · simp [hleaves.groups.widths, nextGroup]
      · rcases sequence_ends (hw ▸ hends) hmore with ⟨rfl, rfl⟩
        refine ⟨?_, hw, { SameNotes.refl w with }, List.length_set⟩
        rw [hx]
        simp [elements, Element.trees, nextGroup, hleaves.groups.widths]

/-- Such a group is read if what stands in it is. -/
theorem wrapper_run (hwhole : inner ≠ ['\\']) : ∃ start u, r.Enters u inner ∧
    ∀ m items w, (enclosed start (alternatives false true m)).run u = .ok (items, w) → w.rest = rest →
      ∃ n item s, (sequence false [] n).run r = .ok (item, s) := by
  have hleaves := Leaves.char hrest (by decide) hwhole
  have hu : (r.past (.char '(')).rest = inner := (hleaves.of_cons hrest (by decide)).2
  refine ⟨r.pos, { r.past (.char '(') with started := true, widths := (r.past (.char '(')).widths ++ [none] },
    ⟨hu, { hleaves.groups with }, rfl⟩, fun m items w hitems hw => ?_⟩
  have hgroup := (group_capturing (r := { r.past (.char '(') with started := true })).2 ⟨items, w, hitems, rfl, rfl⟩
  have hopening : (readOpening r.pos).run (r.past (.char '(')) = .ok (.capturing none, r.past (.char '(')) :=
    (readOpening_capturing (by rwa [hu])).2 ⟨rfl, rfl⟩
  exact ⟨m + 2, _, _, sequence_step.2 (.paren hleaves hopening (.group (fun _ => nofun) nofun hgroup
    (sequence_step.2 (.ends (hw ▸ hends) rfl rfl))))⟩

end Wrapper

/-- No further alternatives follow unless a bar does. -/
theorem furtherItems_ends {verbose nested : Bool} {item : List Tree} {items : List (List Tree)}
    (hfirst : Piece.first? r.rest ≠ some (.char '|'))
    (h : (furtherItems verbose nested item n).run r = .ok (items, s)) : items = [item] ∧ r = s := by
  rcases furtherItems_ok h with ⟨-, hends⟩ | ⟨m, u, others, hleaves, -⟩
  · exact hends
  · exact absurd hleaves.first hfirst

theorem furtherItems_run_ends (verbose nested : Bool) (item : List Tree) (n : Nat)
    (hfirst : Piece.first? r.rest ≠ some (.char '|')) :
    (furtherItems verbose nested item (n + 1)).run r = .ok ([item], r) :=
  Read.bind_ok.2 ⟨false, r, (accept_other hfirst).2 ⟨rfl, rfl⟩, Read.pure_ok.2 ⟨rfl, rfl⟩⟩

/-- The reader behind a bar, where further alternatives begin. -/
def behindBar (r : Reader) : Reader := { r.past (.char '|') with started := true }

/-- Behind a bar the rest of the source is left. -/
theorem reaches_behindBar (hrest : r.rest = '|' :: rest) : r.Reaches rest r.behindBar := by
  refine ⟨?_, { SameGroups.refl r with started := fun _ => rfl }⟩
  show r.rest.drop 1 = rest
  rw [hrest]
  rfl

/-- After a bar, outside of groups, further alternatives follow. -/
theorem furtherItems_bar {verbose : Bool} {item : List Tree} {items : List (List Tree)}
    (hrest : r.rest = '|' :: rest) (h : (furtherItems verbose false item n).run r = .ok (items, s)) :
    ∃ m others, items = item :: others ∧
      (alternatives r.flags.verbose false m).run r.behindBar = .ok (others, s) := by
  rcases furtherItems_ok h with ⟨hbar, -⟩ | ⟨m, u, others, hleaves, hitems, hothers⟩
  · rw [hrest, Piece.first?_char (by decide)] at hbar
    exact absurd rfl hbar
  · obtain rfl := hleaves.past
    exact ⟨m, others, hitems, hothers⟩

theorem furtherItems_run_bar (verbose : Bool) (item : List Tree) {others : List (List Tree)}
    (hrest : r.rest = '|' :: rest) (hwhole : rest ≠ ['\\'])
    (h : (alternatives r.flags.verbose false n).run r.behindBar = .ok (others, s)) :
    (furtherItems verbose false item (n + 1)).run r = .ok (item :: others, s) := by
  have hleaves := Leaves.char hrest (by decide) hwhole
  refine Read.bind_ok.2 ⟨true, _, accept_run hleaves, ?_⟩
  exact Read.move_bind.2 (here_bind.2 (Read.bind_ok.2 ⟨others, s, h, Read.pure_ok.2 ⟨rfl, rfl⟩⟩))

theorem isSome_of_isCarried {letters : List Char}
    (h : ∀ c ∈ letters, ∃ flag, Flag.ofLetter? c = some flag ∧ flag.isCarried = true) :
    ∀ c ∈ letters, (Flag.ofLetter? c).isSome := fun c hc =>
  Option.isSome_iff_exists.2 ((h c hc).imp fun _ hflag => hflag.1)

section Carrier

variable {letters : List Char} (hon : Flags.ofLetters letters ≠ {})
variable (hletters : ∀ c ∈ letters, ∃ flag, Flag.ofLetter? c = some flag ∧ flag.isCarried = true)
variable (hrest : r.rest = '(' :: ('?' :: letters ++ ':' :: inner))
include hon hletters hrest

/-- A group that carries flags, and stands alone in the group around it. -/
theorem carrier_ok {items : List (List Tree)} (h : (alternatives false true n).run r = .ok (items, s)) :
    ∃ m start items' u w,
      (enclosed start (alternatives (Flags.ofLetters letters).verbose true m)).run u = .ok (items', w) ∧
      r.Enters u inner ∧ u.widths = r.widths ∧
      (w.rest = ')' :: rest → s = w ∧
        items = [[.scope (.ofLetters letters) {} (.ofList (joinAlternatives items'))]]) := by
  cases n with
  | zero => exact absurd h (refuse_refuses _ _ _ _ _)
  | succ n =>
    rcases Read.bind_ok.1 h with ⟨item, t, hitem, hfurther⟩
    rcases sequence_open hrest hitem with ⟨m, u, opening, v, hleaves, hopening, hgoes⟩
    have hu := (hleaves.of_cons hrest (by decide)).2
    have hne : letters ≠ [] := by
      rintro rfl
      exact hon rfl
    rcases readOpening_flags (.inr rfl) (isSome_of_isCarried hletters) hne hu hopening with ⟨hv, -, rfl⟩
    have hgroups := hleaves.groups.trans hv.groups
    cases hgoes with
    | @group _ x w _ _ hgroup hmore =>
      cases m with
      | zero => exact absurd hgroup (refuse_refuses _ _ _ _ _)
      | succ m =>
        rcases (group_plain hon).1 hgroup with ⟨items', hitems', hx⟩
        rw [Bool.false_or] at hitems'
        refine ⟨m, _, items', _, w, hitems', ⟨hv.rest, { hgroups with }, rfl⟩, hgroups.widths, fun hw => ?_⟩
        -- Nothing follows the group but the parenthesis of the wrapper: no further element, and no further alternative.
        rcases sequence_paren hw hmore with ⟨rfl, rfl⟩
        have hbar : Piece.first? w.rest ≠ some (.char '|') := by
          rw [hw, Piece.first?_char (by decide)]
          decide
        rcases furtherItems_ends hbar hfurther with ⟨rfl, rfl⟩
        exact ⟨rfl, by rw [hx]; rfl⟩

/-- Such a group is read if what stands in it is. -/
theorem carrier_run (hwhole : inner ≠ ['\\']) : ∃ start u, r.Enters u inner ∧
      ∀ m items w, (enclosed start (alternatives (Flags.ofLetters letters).verbose true m)).run u = .ok (items, w) →
        w.rest = ')' :: rest → ∃ n items', (alternatives false true n).run r = .ok (items', w) := by
  have hne : letters ≠ [] := by
    rintro rfl
    exact hon rfl
  have hleaves := Leaves.char hrest (by decide) (ne_lone (List.mem_append_right _ (.head _)) (by decide))
  have hu := (hleaves.of_cons hrest (by decide)).2
  obtain ⟨opening, v, hopening⟩ := readOpening_run r.pos hletters hne hu hwhole
  rcases readOpening_flags (.inr rfl) (isSome_of_isCarried hletters) hne hu hopening with ⟨hv, -, rfl⟩
  have hgroups := hleaves.groups.trans hv.groups
  refine ⟨r.pos, { v with started := true }, ⟨hv.rest, { hgroups with }, rfl⟩, fun m items w hitems hw => ?_⟩
  have hparen : ∀ p, Piece.first? w.rest = some p → p = .char ')' := by
    intro p hp
    rw [hw, Piece.first?_char (by decide)] at hp
    exact (Option.some.inj hp).symm
  -- From the inside out: the group, the sequence that holds it, and the alternatives with that one sequence.
  rw [if_neg (by decide)] at hopening
  have hgroup :
      (group (.plain (.ofLetters letters) {}) r.pos false (m + 1)).run { v with started := true } = .ok (_, w) :=
    (group_plain hon).2 ⟨items, by rwa [Bool.false_or], rfl⟩
  have hitem : (sequence false [] (m + 2)).run r = .ok (_, w) :=
    sequence_step.2 (.paren hleaves hopening (.group (fun _ => nofun) nofun hgroup
      (sequence_step.2 (.ends (fun p hp => hparen p hp ▸ rfl) rfl rfl))))
  have hbar : Piece.first? w.rest ≠ some (.char '|') := fun h => nomatch hparen _ h
  exact ⟨m + 3, _, Read.bind_ok.2 ⟨_, w, hitem, furtherItems_run_ends false true _ (m + 1) hbar⟩⟩

end Carrier

end Reader

/-! ## One part -/

namespace Pattern

variable {p : Pattern} {g : Nat} {body : Tree}

/-- `body` is read for the pattern `p`, `g` being the group around it. It looks back if `p` does. It matches like `p`
alone, with the groups from `g` on instead of those from 0 on, and has no fault, unless `p` refers to groups by
number. -/
structure IsBody (p : Pattern) (g : Nat) (body : Tree) : Prop where
  looksBack : body.looksBack = p.tree.looksBack
  renumbers : p.byNumber = false → ∀ (text : Subject) (before : List Mark), (∀ m ∈ before, m.group ≤ g) →
    Renumbers g before (p.tree.search text p.flags) (body.search text { unicode := true })
  sound : p.byNumber = false → body.fault? false = none

/-- The flags of a pattern are settled ones. -/
theorem settled (p : Pattern) : ∃ fs, Flags.Settled fs p.flags := by
  rcases p.readsBody with ⟨_, s, _, hb⟩
  exact ⟨s.flags, Flags.settleFlags_ok hb.flags⟩

theorem sound_shifted (h : p.tree.IsShift g body) : body.fault? false = none := by
  rw [h.1, Tree.fault?_shift]
  exact Tree.fault?_of_template _ p.sound

/-- A body under the flags of the composite pattern. -/
theorem IsBody.plain (hnone : p.flags.carried = {}) (hback : body.looksBack = p.tree.looksBack)
    (h : p.byNumber = false → p.tree.IsShift g body) : p.IsBody g body where
  looksBack := hback
  renumbers hnumber text before hbefore := by
    rcases p.settled with ⟨fs, hsettled⟩
    rcases h hnumber with ⟨rfl, hrefs⟩
    exact p.tree.search_shift text hbefore hrefs _ _ (hsettled.agree_standard hnone)
  sound hnumber := sound_shifted (h hnumber)

/-- A body in a group that carries the flags of its pattern. -/
theorem IsBody.scoped (hback : body.looksBack = p.tree.looksBack)
    (h : p.byNumber = false → p.tree.IsShift g body) : p.IsBody g (.scope p.flags.carried {} body) where
  looksBack := hback
  renumbers hnumber text before hbefore := by
    rcases p.settled with ⟨fs, hsettled⟩
    rcases h hnumber with ⟨rfl, hrefs⟩
    exact p.tree.search_shift text hbefore hrefs _ _ hsettled.agree_within
  sound hnumber := by
    show body.fault? false = none
    exact sound_shifted (h hnumber)

/-- Without flags to carry the body stands in the composite source as it is. -/
theorem scopedSource_plain (hnone : p.flags.carried = {}) (rest : List Char) :
    p.scopedSource.toList ++ ')' :: rest = withoutLeadingFlags p.source.toList ++ p.ending rest := by
  have hverbose : p.flags.verbose = false := congrArg Flags.verbose hnone
  simp [scopedSource, Flags.scopeLetters_eq_nil.2 hnone, ending, hverbose]

/-- Otherwise it stands in a group that carries the flags. -/
theorem scopedSource_carried (hsome : p.flags.carried ≠ {}) (rest : List Char) :
    p.scopedSource.toList ++ rest =
      '(' :: ('?' :: p.flags.scopeLetters ++ ':' :: (withoutLeadingFlags p.source.toList ++ p.ending rest)) := by
  have hletters : p.flags.scopeLetters ≠ [] := fun h => hsome (Flags.scopeLetters_eq_nil.1 h)
  unfold scopedSource ending
  simp only [Flags.contains_verbose]
  cases p.flags.verbose with
  | true => simp
  | false => simp [hletters]

/-- The front of a body is no front of a group. -/
theorem ReadsBody.first?_ne {r s : Reader} {items : List (List Tree)} (hb : p.ReadsBody r s items)
    (rest : List Char) :
    Piece.first? (r.rest ++ p.ending rest) ≠ some (.char '?') := by
  intro hfirst
  rcases Read.bind_ok.1 (hb.read _ (Nat.le_refl _)) with ⟨item, u, hitem, -⟩
  -- The body is empty and its ending comes first, or it begins with the mark and was refused alone.
  cases hr : Piece.first? r.rest with
  | none =>
    rw [Piece.first?_eq_none.1 hr, List.nil_append, ending] at hfirst
    split at hfirst
    · cases hfirst
    · cases hfirst
  | some q =>
    cases (Piece.first?_append_right hr hb.whole _).symm.trans hfirst
    exact sequence_question (Piece.first?_append hr).symm hitem

theorem first?_paren (cs : List Char) : Piece.first? ('(' :: cs) ≠ some (.char '?') := by
  rw [Piece.first?_char (by decide)]
  decide

/-- The part of `p` in the composite source was read from `r` to `s`, before `rest`. -/
structure Joins (p : Pattern) (r s : Reader) (rest : List Char) : Prop where
  flagsInFront : p.FlagsInFront
  rest : s.rest = rest
  flags : s.flags = {}
  nextGroup : s.nextGroup = r.nextGroup + 1 + p.groups
  mentioned : p.Fits r → s.mentioned = []
  names : p.Fits r → s.names.map Prod.fst = r.names.map Prod.fst ++ p.names.map Prod.fst

/-- What is known of the body is known of the part. -/
theorem Merges.joins {r s u w : Reader} {items : List (List Tree)} {rest inner : List Char}
    (hm : p.Merges u w inner items) (hnotes : r.SameNotes u) (hcount : u.widths.length = r.nextGroup)
    (hafter : w.SameNotes s) (hrest : s.rest = rest) (hwidths : s.widths.length = w.widths.length) :
    p.Joins r s rest where
  flagsInFront := hm.flagsInFront
  rest := hrest
  flags := hafter.flags.trans hm.flags
  nextGroup := by
    have hgroups := hm.groups
    unfold nextGroup at *
    omega
  mentioned hfits := hafter.mentioned.trans (hm.mentioned (hfits.of_notes hnotes))
  names hfits := by
    rw [hafter.names, hm.names (hfits.of_notes hnotes), hnotes.names, List.map_append, List.map_map]
    rfl

section Part

variable {r s : Reader} {rest : List Char}
variable (hrest : r.rest = '(' :: (p.scopedSource.toList ++ ')' :: rest)) (hflags : r.flags = {})
variable (hends : ∀ q, Piece.first? rest = some q → endsItem q = true)
include hrest hflags hends

/-- A part of the composite source is read as a group around its body. -/
theorem scoped_ok {n : Nat} {item : List Tree} (h : (sequence false [] n).run r = .ok (item, s)) :
    p.Joins r s rest ∧ ∃ body, item = [.group r.nextGroup body] ∧ p.IsBody r.nextGroup body := by
  rcases p.readsBody with ⟨r₀, s₀, items₀, hb⟩
  by_cases hnone : p.flags.carried = {}
  · -- There are no flags to carry, and the body stands in the wrapper itself.
    rw [scopedSource_plain hnone, ← hb.rest] at hrest
    obtain ⟨m, start, items, u, w, hitems, hu, hcount, hw⟩ := wrapper_ok hrest (hb.first?_ne rest) hends h
    have hverbose : p.flags.verbose = false := congrArg Flags.verbose hnone
    rw [← hverbose] at hitems
    have hmerges := hb.inFrame hu.rest (hu.notes.flags.trans hflags) hu.started hitems
    rcases hw hmerges.rest with ⟨hitem, hs, hnotes, hscount⟩
    refine ⟨hmerges.joins hu.notes hcount hnotes hs hscount, _, hitem,
      .plain hnone hmerges.looksBack fun hk => ?_⟩
    rw [← hcount]
    exact hmerges.shifted hk
  · -- The flags are carried by a group in the wrapper.
    rw [scopedSource_carried hnone, ← hb.rest] at hrest
    obtain ⟨m, start, items, u, w, hitems, hu, hcount, hw⟩ := wrapper_ok hrest (first?_paren _) hends h
    rcases enclosed_ok.1 hitems with ⟨t, halternatives, hparen⟩
    rw [← Flags.ofLetters_scopeLetters] at hnone
    obtain ⟨m', start', items', u', w', hitems', hu', hwidths', hw'⟩ :=
      carrier_ok hnone p.flags.scopeLetters_isCarried hu.rest halternatives
    rw [Flags.ofLetters_scopeLetters] at hitems' hw'
    have hnotes' := hu.notes.trans hu'.notes
    have hmerges := hb.inFrame hu'.rest (hnotes'.flags.trans hflags) hu'.started hitems'
    rcases hw' hmerges.rest with ⟨rfl, rfl⟩
    have hwrest := (hparen.of_cons hmerges.rest (by decide)).2
    rcases hw hwrest with ⟨hitem, hs, hnotes, hscount⟩
    have hcount' : u'.widths.length = r.nextGroup := by rw [hwidths', hcount]
    have hscount' := hscount.trans (congrArg List.length hparen.groups.widths)
    refine ⟨hmerges.joins hnotes' hcount' (hparen.groups.toSameNotes.trans hnotes) hs hscount', _, hitem,
      .scoped hmerges.looksBack fun hk => ?_⟩
    rw [← hcount']
    exact hmerges.shifted hk

/-- The part of a pattern that fits is read. -/
theorem scoped_run (hfits : p.Fits r) : ∃ n item s, (sequence false [] n).run r = .ok (item, s) := by
  rcases p.readsBody with ⟨r₀, s₀, items₀, hb⟩
  have hwhole : rest ≠ ['\\'] := by
    rintro rfl
    cases hends _ rfl
  have hinner : ∀ rest, r₀.rest ++ p.ending rest ≠ ['\\'] := fun rest =>
    ne_lone (List.mem_append_right _ (p.mem_ending rest)) (by decide)
  by_cases hnone : p.flags.carried = {}
  · rw [scopedSource_plain hnone, ← hb.rest] at hrest
    obtain ⟨start, u, hu, hrun⟩ := wrapper_run hrest (hb.first?_ne rest) hends (hinner rest)
    have huflags := hu.notes.flags.trans hflags
    obtain ⟨n, items, w, hitems⟩ :=
      hb.exists_inFrame hu.rest huflags hu.started (hfits.of_notes hu.notes) hwhole start
    have hw := (hb.inFrame hu.rest huflags hu.started hitems).rest
    have hverbose : p.flags.verbose = false := congrArg Flags.verbose hnone
    rw [hverbose] at hitems
    exact hrun n items w hitems hw
  · rw [scopedSource_carried hnone, ← hb.rest] at hrest
    have hcarrier := ne_lone (.head ('?' :: p.flags.scopeLetters ++ ':' :: (r₀.rest ++ p.ending (')' :: rest))))
      (show '(' ≠ '\\' by decide)
    obtain ⟨start, u, hu, hrun⟩ := wrapper_run hrest (first?_paren _) hends hcarrier
    rw [← Flags.ofLetters_scopeLetters] at hnone
    obtain ⟨start', u', hu', hrun'⟩ := carrier_run hnone p.flags.scopeLetters_isCarried hu.rest (hinner _)
    have hnotes := hu.notes.trans hu'.notes
    have hflags' := hnotes.flags.trans hflags
    obtain ⟨n, items, w, hitems⟩ := hb.exists_inFrame hu'.rest hflags' hu'.started (hfits.of_notes hnotes)
      (ne_lone (.head _) (by decide)) start'
    have hw := (hb.inFrame hu'.rest hflags' hu'.started hitems).rest
    -- Behind the body both parentheses are closed.
    have hverbose : p.flags.verbose = (Flags.ofLetters p.flags.scopeLetters).verbose := by
      rw [Flags.ofLetters_scopeLetters]
      rfl
    rw [hverbose] at hitems
    obtain ⟨n', items', halternatives⟩ := hrun' n items w hitems hw
    have hparen := Leaves.char hw (by decide) hwhole
    exact hrun n' items' _ (enclosed_ok.2 ⟨w, halternatives, hparen⟩) (hparen.of_cons hw (by decide)).2

end Part

end Pattern

/-! ## All parts -/

/-- The trees are groups around the bodies of the patterns, and `g` is the number of the first group. -/
inductive Parted : Nat → List Pattern → List Tree → Prop where
  | nil (g : Nat) : Parted g [] []
  | cons {g : Nat} {p : Pattern} {ps : List Pattern} {body : Tree} {ts : List Tree}
      (hbody : p.IsBody g body) (hrest : Parted (g + 1 + p.groups) ps ts) :
      Parted g (p :: ps) (.group g body :: ts)

namespace Composite

open Pattern

/-- The characters of a composite source. -/
def sourceChars : List Pattern → List Char
  | [] => []
  | [p] => '(' :: (p.scopedSource.toList ++ [')'])
  | p :: q :: rest => '(' :: (p.scopedSource.toList ++ ')' :: '|' :: sourceChars (q :: rest))

theorem sourceOf_toList (ps : List Pattern) : (sourceOf ps).toList = sourceChars ps := by
  have hchars : ['|'].intercalate (ps.map fun p => '(' :: (p.scopedSource.toList ++ [')'])) = sourceChars ps := by
    induction ps with
    | nil => rfl
    | cons p rest ih =>
      cases rest with
      | nil => simp [sourceChars]
      | cons q rest =>
        rw [List.map_cons] at ih
        rw [List.map_cons, List.map_cons, List.intercalate_cons_cons, ih]
        simp [sourceChars]
  rw [← hchars]
  simp [sourceOf, String.toList_intercalate, Function.comp_def]

/-- What stands behind a part, before the others. -/
def behindPart : List Pattern → List Char
  | [] => []
  | q :: rest => '|' :: sourceChars (q :: rest)

theorem behindPart_of_ne_nil {ps : List Pattern} (hne : ps ≠ []) : behindPart ps = '|' :: sourceChars ps := by
  cases ps with
  | nil => exact absurd rfl hne
  | cons q rest => rfl

/-- The source of a composite pattern begins with its first part between parentheses. -/
theorem sourceChars_cons (p : Pattern) (rest : List Pattern) :
    sourceChars (p :: rest) = '(' :: (p.scopedSource.toList ++ ')' :: behindPart rest) := by
  cases rest <;> rfl

/-- A part ends with the source or at a bar. -/
theorem behindPart_ends {rest : List Pattern} {c : Piece} (h : Piece.first? (behindPart rest) = some c) :
    endsItem c = true := by
  cases rest with
  | nil => cases h
  | cons q rest =>
    rw [behindPart, Piece.first?_char (by decide)] at h
    cases h
    rfl

/-- The parts are read one after the other. -/
theorem alternatives_ok : ∀ (ps : List Pattern) (n : Nat) {r s : Reader} {items : List (List Tree)},
    (alternatives false false n).run r = .ok (items, s) → ps ≠ [] → r.rest = sourceChars ps → r.flags = {} →
    s.flags = {} ∧ (∀ p ∈ ps, p.FlagsInFront) ∧ ∃ ts, items = ts.map ([·]) ∧ Parted r.nextGroup ps ts := by
  intro ps
  induction ps with
  | nil =>
    intro n r s items _ hne
    exact absurd rfl hne
  | cons p rest ih =>
    intro n r s items h _ hrest hflags
    cases n with
    | zero => exact absurd h (refuse_refuses _ _ _ _ _)
    | succ n =>
      rcases Read.bind_ok.1 h with ⟨item, t, hitem, hfurther⟩
      rw [sourceChars_cons] at hrest
      obtain ⟨hjoins, body, rfl, hbody⟩ := scoped_ok hrest hflags (fun _ => behindPart_ends) hitem
      cases rest with
      | nil =>
        -- The last part: the source ends behind it.
        have hbar : Piece.first? t.rest ≠ some (.char '|') := by
          rw [hjoins.rest]
          exact fun h => nomatch h
        rcases furtherItems_ends hbar hfurther with ⟨rfl, rfl⟩
        refine ⟨hjoins.flags, ?_, [.group r.nextGroup body], rfl, .cons hbody (.nil _)⟩
        exact List.forall_mem_singleton.2 hjoins.flagsInFront
      | cons q rest =>
        -- A bar stands behind the part, and the others are read from there.
        rcases furtherItems_bar hjoins.rest hfurther with ⟨m, others, rfl, hothers⟩
        have hu := reaches_behindBar hjoins.rest
        have huflags : t.behindBar.flags = {} := hu.groups.flags.trans hjoins.flags
        rw [hjoins.flags] at hothers
        obtain ⟨hsflags, hfront, ts, rfl, hparted⟩ := ih m hothers (List.cons_ne_nil _ _) hu.rest huflags
        have hnext : t.behindBar.nextGroup = r.nextGroup + 1 + p.groups := by
          rw [← hjoins.nextGroup]
          simp [nextGroup, hu.groups.widths]
        refine ⟨hsflags, List.forall_mem_cons.2 ⟨hjoins.flagsInFront, hfront⟩, .group r.nextGroup body :: ts, rfl,
          .cons hbody ?_⟩
        rw [← hnext]
        exact hparted

end Composite

namespace Parted

variable {g : Nat} {ps : List Pattern} {ts : List Tree}

/-- Groups have nothing in common that could be moved in front of the alternatives. -/
theorem joinAlternatives (h : Parted g ps ts) (hne : ps ≠ []) :
    Tree.ofList (joinAlternatives (ts.map ([·]))) = .ofAlternatives (ts.map ([·])) := by
  cases h with
  | nil => exact absurd rfl hne
  | cons hbody hrest =>
    cases hrest with
    | nil => rfl
    | cons hbody' hrest' =>
      simp [Reader.joinAlternatives, commonStart, sameElement, alternativesClass?, Tree.ofList]

end Parted

namespace Tree

/-- The alternatives of a tree. -/
def branches : Tree → List Tree
  | .alt a b => a :: b.branches
  | t => [t]

end Tree

namespace Parted

variable {g : Nat} {ps : List Pattern} {ts : List Tree}

/-- The alternatives of a composite tree are its parts. -/
theorem branches (h : Parted g ps ts) (hne : ps ≠ []) :
    (Tree.ofAlternatives (ts.map ([·]))).branches = ts := by
  induction h with
  | nil => exact absurd rfl hne
  | cons hbody hrest ih =>
    cases hrest with
    | nil => rfl
    | cons hbody' hrest' =>
      have hmore := ih (by simp)
      simp only [List.map_cons, Tree.ofAlternatives, Tree.ofList, Tree.branches] at hmore ⊢
      rw [hmore]

end Parted

namespace Composite

/-- There is one composite pattern of patterns. -/
theorem eq_of_parts {c c' : Composite} (h : c.parts = c'.parts) : c = c' := by
  obtain ⟨parts, pattern, hmerged⟩ := c
  obtain ⟨parts', pattern', hmerged'⟩ := c'
  cases h
  cases hmerged.symm.trans hmerged'
  rfl

/-- A composite pattern is what its parts are merged into. -/
theorem build_of_parts (c : Composite) : build c.parts = .ok c := by
  unfold build
  split
  · exact congrArg Except.ok (eq_of_parts rfl)
  · rename_i e he
    cases c.isMerged.symm.trans he

/-- The alternatives of the composite pattern, one for each part. -/
def branches (c : Composite) : List Tree := c.pattern.tree.branches

/-- The branches of a composite pattern are the alternatives read of its source. -/
theorem reads (c : Composite) (hne : c.parts ≠ []) : ∃ fuel s,
    (alternatives false false fuel).run (.start (sourceOf c.parts) {}) = .ok (c.branches.map ([·]), s) ∧
      Parted 1 c.parts c.branches ∧ c.pattern.tree = .ofAlternatives (c.branches.map ([·])) ∧
      c.pattern.flags = { unicode := true } := by
  rcases Reading.ofSource_ok (Pattern.compile_ok c.isMerged) with ⟨fuel, items, s, hs⟩
  obtain ⟨hflags, -, ts, rfl, hparted⟩ :=
    alternatives_ok c.parts _ hs.read hne (sourceOf_toList c.parts) rfl
  have htree := hs.tree.trans (hparted.joinAlternatives hne)
  have hbranches : c.branches = ts := by
    rw [branches, htree]
    exact hparted.branches hne
  have hsettled := hs.flags
  rw [hflags] at hsettled
  rw [hbranches]
  exact ⟨fuel + 1, s, hs.read, hparted, htree, (Except.ok.inj hsettled).symm⟩

/-- The composite pattern is the ordered alternatives of its parts, and has the flags of a pattern that is
given none. -/
theorem parted (c : Composite) (hne : c.parts ≠ []) :
    Parted 1 c.parts c.branches ∧ c.pattern.tree = .ofAlternatives (c.branches.map ([·])) ∧
      c.pattern.flags = { unicode := true } := by
  rcases c.reads hne with ⟨fuel, s, -, hparted⟩
  exact hparted

end Composite

end PatternLexer
