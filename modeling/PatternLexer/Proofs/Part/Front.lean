import PatternLexer.Proofs.Part.Fuel
import PatternLexer.Proofs.Part.Grammar
import PatternLexer.Rule.Composite
import Mathlib.Data.List.TakeWhile

/-!
# The front of a part

A pattern that is read alone may begin with flags of the whole pattern. In a larger pattern they are taken
from its front and carried by a group instead. `Pattern.readsBody` says what is left of the reading alone: the
body of the pattern, read under flags that stay as they are.
-/

namespace PatternLexer

namespace Reader

variable {r s : Reader} {c : Char} {t : List Char} {p : Piece} {n : Nat}

/-! ## Known sources -/

/-- `s` has come to the source `t`, and no group was opened or closed on the way. -/
structure Reaches (r : Reader) (t : List Char) (s : Reader) : Prop where
  rest : s.rest = t
  groups : r.SameGroups s

theorem nextOr_char {x : Read Piece} (hx : x.Refuses) (hrest : r.rest = c :: t) (hc : c ≠ '\\')
    (h : (nextOr x).run r = .ok (p, s)) : p = .char c ∧ r.Reaches t s ∧ s.rest ≠ ['\\'] := by
  rcases Read.bind_ok.1 h with ⟨q, _, hq, h⟩
  cases q with
  | none => exact absurd h (hx _ _ _)
  | some q =>
    have hleaves := (nextUnless_some.1 hq).2
    rcases Read.pure_ok.1 h with ⟨rfl, rfl⟩
    rcases hleaves.of_cons hrest hc with ⟨rfl, ht⟩
    exact ⟨rfl, ⟨ht, hleaves.groups⟩, hleaves.whole⟩

theorem accept_char {found : Bool} (hrest : r.rest = c :: t) (hc : c ≠ '\\')
    (h : (accept c).run r = .ok (found, s)) : found = true ∧ r.Reaches t s := by
  rcases Read.bind_ok.1 h with ⟨q, _, hq, h⟩
  rcases Read.pure_ok.1 h with ⟨rfl, rfl⟩
  cases q with
  | none =>
    have hstop := (nextUnless_none.1 hq).1 (.char c)
    rw [hrest] at hstop
    simpa using hstop (Piece.first?_char hc)
  | some q =>
    have hleaves := (nextUnless_some.1 hq).2
    exact ⟨rfl, (hleaves.of_cons hrest hc).2, hleaves.groups⟩

/-- A character that is not next is not accepted, and the reader stays where it is. -/
theorem accept_other {found : Bool} (hfirst : Piece.first? r.rest ≠ some (.char c)) :
    (accept c).run r = .ok (found, s) ↔ found = false ∧ r = s := by
  constructor
  · intro h
    rcases Read.bind_ok.1 h with ⟨q, _, hq, h⟩
    rcases Read.pure_ok.1 h with ⟨rfl, rfl⟩
    cases q with
    | none => exact ⟨rfl, (nextUnless_none.1 hq).2⟩
    | some q =>
      rcases nextUnless_some.1 hq with ⟨hstop, hleaves⟩
      have hchar : q = .char c := by simpa using hstop
      exact absurd (hchar ▸ hleaves.first) hfirst
  · rintro ⟨rfl, rfl⟩
    have hnone : (nextUnless (· != .char c)).run r = .ok (none, r) := by
      refine nextUnless_none.2 ⟨fun p hp => ?_, rfl⟩
      rw [bne_iff_ne]
      rintro rfl
      exact hfirst hp
    exact Read.bind_ok.2 ⟨none, r, hnone, Read.pure_ok.2 ⟨rfl, rfl⟩⟩

/-! ## Flags -/

end Reader

/-- A group can carry the option. -/
def Flag.isCarried : Flag → Bool
  | .locale | .template | .unicode => false
  | _ => true

theorem Flag.ne_locale {flag : Flag} (h : flag.isCarried = true) : decide (flag = .locale) = false := by
  cases flag <;> first | rfl | cases h

/-- A group can carry the options. -/
def Flags.IsCarried (fs : Flags) : Prop := fs.unicode = false ∧ fs.template = false

/-- Flags that a group can carry are still so with one more of them. -/
theorem Flags.IsCarried.insert {fs : Flags} {flag : Flag} (hfs : fs.IsCarried) (h : flag.isCarried = true) :
    (fs.insert flag).IsCarried := by
  cases flag <;> first | exact hfs | cases h

namespace Reader

variable {r s : Reader} {c : Char} {t : List Char} {p : Piece} {n : Nat}

theorem flagOf?_char (c : Char) : flagOf? (.char c) = Flag.ofLetter? c := rfl

/-- What may stand after letters of flags is no such letter. -/
theorem letter_no_stop {flag : Flag} (h : Flag.ofLetter? c = some flag) :
    c ≠ '\\' ∧ (decide (c = ')') || decide (c = '-') || decide (c = ':')) = false := by
  unfold Flag.ofLetter? at h
  split at h
  all_goals
    cases h <;> decide

theorem readExtension_flag {flag : Flag} {start : Nat} (h : Flag.ofLetter? c = some flag) :
    readExtension start (.char c) = readFlags (some flag) := by
  unfold Flag.ofLetter? at h
  split at h
  all_goals
    cases h <;> rfl

/-- The letters of flags are read up to the stop after them. -/
theorem flagsOn_ok {stop : Char} {body : List Char} (hstop : stop = ')' ∨ stop = ':') :
    ∀ (letters : List Char) (fuel : Nat) (on : Flags) (flag : Flag) {r s : Reader} {found : Flags × Piece},
      (∀ c ∈ letters, (Flag.ofLetter? c).isSome) → r.rest = letters ++ stop :: body →
      (flagsOn fuel on flag).run r = .ok (found, s) →
      found = ((letters.filterMap Flag.ofLetter?).foldl Flags.insert (on.insert flag), .char stop) ∧
        r.Reaches body s ∧ s.rest ≠ ['\\'] := by
  intro letters
  induction letters with
  | nil =>
    intro fuel on flag r s found _ hrest h
    cases fuel with
    | zero => exact absurd h (refuse_refuses _ _ _ _ _)
    | succ fuel =>
      replace h := (refuseIf_bind.1 h).2
      replace h := (refuseIf_bind.1 h).2
      rcases Read.bind_ok.1 h with ⟨p, t, hp, h⟩
      have hne : stop ≠ '\\' := by rcases hstop with rfl | rfl <;> decide
      rcases nextOr_char (refuse_refuses _ _) hrest hne hp with ⟨rfl, hreaches, hwhole⟩
      have hend : (Piece.char stop).isChar (fun c => c = ')' || c = '-' || c = ':') = true := by
        rcases hstop with rfl | rfl <;> rfl
      simp only [hend, if_true] at h
      rcases Read.pure_ok.1 h with ⟨rfl, rfl⟩
      exact ⟨rfl, hreaches, hwhole⟩
  | cons c letters ih =>
    intro fuel on flag r s found hletters hrest h
    cases fuel with
    | zero => exact absurd h (refuse_refuses _ _ _ _ _)
    | succ fuel =>
      replace h := (refuseIf_bind.1 h).2
      replace h := (refuseIf_bind.1 h).2
      -- The next letter is no stop, and so is taken for a flag.
      rcases Read.bind_ok.1 h with ⟨p, t, hp, h⟩
      rcases Option.isSome_iff_exists.1 (hletters c (.head _)) with ⟨following, hflag⟩
      rcases letter_no_stop hflag with ⟨hne, hgo⟩
      rcases nextOr_char (refuse_refuses _ _) hrest hne hp with ⟨rfl, hreaches, -⟩
      have hgo' : (Piece.char c).isChar (fun c => c = ')' || c = '-' || c = ':') = false := hgo
      simp only [hgo', flagOf?_char, hflag, Bool.false_eq_true, if_false] at h
      obtain ⟨hfound, hreaches', hwhole⟩ :=
        ih fuel _ _ (fun d hd => hletters d (.tail _ hd)) hreaches.rest h
      refine ⟨?_, ⟨hreaches'.rest, hreaches.groups.trans hreaches'.groups⟩, hwhole⟩
      rw [hfound, List.filterMap_cons, hflag]
      rfl

/-- The front of a group that carries flags, or that sets them for the whole pattern. -/
theorem readOpening_flags {stop : Char} {letters body : List Char} {start : Nat} {opening : Opening}
    (hstop : stop = ')' ∨ stop = ':') (hletters : ∀ c ∈ letters, (Flag.ofLetter? c).isSome)
    (hne : letters ≠ []) (hrest : r.rest = '?' :: letters ++ stop :: body)
    (h : (readOpening start).run r = .ok (opening, s)) :
    r.Reaches body s ∧ s.rest ≠ ['\\'] ∧
      opening = if stop = ')' then .global (.ofLetters letters) else .plain (.ofLetters letters) {} := by
  rcases List.exists_cons_of_ne_nil hne with ⟨c, letters, rfl⟩
  rcases Read.bind_ok.1 h with ⟨question, t, hquestion, h⟩
  rcases accept_char hrest (by decide) hquestion with ⟨rfl, ht⟩
  simp only [Bool.not_true, Bool.false_eq_true, if_false] at h
  rcases Read.bind_ok.1 h with ⟨p, u, hp, h⟩
  -- The first letter tells what the extension is; the others are read by `flagsOn`.
  rcases Option.isSome_iff_exists.1 (hletters c (.head _)) with ⟨flag, hflag⟩
  rcases letter_no_stop hflag with ⟨hc, -⟩
  rcases nextOr_char (refuse_refuses _ _) ht.rest hc hp with ⟨rfl, hu, -⟩
  rw [readExtension_flag hflag] at h
  rcases Read.bind_ok.1 h with ⟨⟨on, stopped⟩, w, hon, h⟩
  replace hon := here_bind.1 hon
  obtain ⟨hfound, hw, hwhole⟩ :=
    flagsOn_ok hstop letters _ _ _ (fun d hd => hletters d (.tail _ hd)) hu.rest hon
  rcases Prod.mk.inj hfound with ⟨hletters', rfl⟩
  have honeq : on = .ofLetters (c :: letters) := by
    rw [hletters', Flags.ofLetters, List.filterMap_cons, hflag]
    rfl
  have hgroups := ht.groups.trans (hu.groups.trans hw.groups)
  rcases hstop with rfl | rfl
  · simp only [if_true] at h
    rcases Read.pure_ok.1 h with ⟨rfl, rfl⟩
    exact ⟨⟨hw.rest, hgroups⟩, hwhole, by simp [honeq]⟩
  · -- Behind a colon no flags are turned off, and of the three refusals none has come.
    dsimp only at h
    rw [if_neg (by decide)] at h
    replace h := (refuseIf_bind.1 h).2
    rcases Read.bind_ok.1 h with ⟨off, _, hoff, h⟩
    rcases Read.pure_ok.1 hoff with ⟨rfl, rfl⟩
    replace h := (refuseIf_bind.1 h).2
    replace h := (refuseIf_bind.1 h).2
    rcases Read.pure_ok.1 h with ⟨rfl, rfl⟩
    exact ⟨⟨hw.rest, hgroups⟩, hwhole, by simp [honeq]⟩

/-- What holds a character other than a backslash is no lone backslash. -/
theorem ne_lone {cs : List Char} (hmem : c ∈ cs) (hc : c ≠ '\\') : cs ≠ ['\\'] := by
  rintro rfl
  exact hc (List.mem_singleton.1 hmem)

/-- The letters of options that a group can carry are not refused. -/
theorem flagsOn_run {body : List Char} (hwhole : body ≠ ['\\']) :
    ∀ (letters : List Char) (fuel : Nat) (on : Flags) (flag : Flag) {r : Reader},
      (∀ c ∈ letters, ∃ flag, Flag.ofLetter? c = some flag ∧ flag.isCarried = true) → flag.isCarried = true →
      on.IsCarried → r.rest = letters ++ ':' :: body → letters.length < fuel →
      ∃ on' s, on'.IsCarried ∧ (flagsOn fuel on flag).run r = .ok ((on', .char ':'), s) := by
  intro letters
  induction letters with
  | nil =>
    intro fuel on flag r _ hflag hon hrest hfuel
    obtain ⟨fuel, rfl⟩ := Nat.exists_eq_succ_of_ne_zero (Nat.ne_of_gt hfuel)
    have hinsert := hon.insert hflag
    refine ⟨on.insert flag, r.past (.char ':'), hinsert, refuseIf_bind.2 ⟨flag.ne_locale hflag, refuseIf_bind.2 ?_⟩⟩
    refine ⟨by simp [hinsert.1], ?_⟩
    rw [Read.run_bind (nextOr_run (Leaves.char hrest (by decide) hwhole))]
    rfl
  | cons c letters ih =>
    intro fuel on flag r hletters hflag hon hrest hfuel
    obtain ⟨fuel, rfl⟩ : ∃ n, fuel = n + 1 := ⟨fuel - 1, by omega⟩
    have hinsert := hon.insert hflag
    obtain ⟨next, hnext, hcarried⟩ := hletters c (.head _)
    rcases letter_no_stop hnext with ⟨hne, hgo⟩
    -- The colon is still to come, so the source does not end in a lone backslash.
    have hmem : ':' ∈ letters ++ ':' :: body := List.mem_append_right _ (.head _)
    have hleaves := Leaves.char hrest hne (ne_lone hmem (by decide))
    have hrest' : (r.past (.char c)).rest = letters ++ ':' :: body := (hleaves.of_cons hrest hne).2
    obtain ⟨on', s, hon', hmore⟩ := ih fuel (on.insert flag) next (fun d hd => hletters d (.tail _ hd)) hcarried
      hinsert hrest' (Nat.lt_of_succ_lt_succ hfuel)
    refine ⟨on', s, hon', refuseIf_bind.2 ⟨flag.ne_locale hflag, refuseIf_bind.2 ⟨by simp [hinsert.1], ?_⟩⟩⟩
    rw [Read.run_bind (nextOr_run hleaves)]
    have hgo' : (Piece.char c).isChar (fun c => c = ')' || c = '-' || c = ':') = false := hgo
    simp only [hgo', flagOf?_char, hnext, Bool.false_eq_true, if_false]
    exact hmore

/-- The front of a group that carries flags is not refused. -/
theorem readOpening_run {letters body : List Char} (start : Nat)
    (hletters : ∀ c ∈ letters, ∃ flag, Flag.ofLetter? c = some flag ∧ flag.isCarried = true) (hne : letters ≠ [])
    (hrest : r.rest = '?' :: letters ++ ':' :: body) (hwhole : body ≠ ['\\']) :
    ∃ opening s, (readOpening start).run r = .ok (opening, s) := by
  rcases List.exists_cons_of_ne_nil hne with ⟨c, letters, rfl⟩
  obtain ⟨flag, hflag, hcarried⟩ := hletters c (.head _)
  rcases letter_no_stop hflag with ⟨hc, -⟩
  -- The question mark and the first letter are left behind.
  have hmem : ':' ∈ letters ++ ':' :: body := List.mem_append_right _ (.head _)
  have hquestion := Leaves.char hrest (by decide) (ne_lone (.tail _ hmem) (by decide))
  have hrest' : (r.past (.char '?')).rest = c :: (letters ++ ':' :: body) :=
    (hquestion.of_cons hrest (by decide)).2
  have hletter := Leaves.char hrest' hc (ne_lone hmem (by decide))
  have hrest'' : ((r.past (.char '?')).past (.char c)).rest = letters ++ ':' :: body :=
    (hletter.of_cons hrest' hc).2
  have hless : letters.length < ((r.past (.char '?')).past (.char c)).rest.length + 2 := by
    rw [hrest'', List.length_append]
    omega
  obtain ⟨on, s, hon, hread⟩ := flagsOn_run hwhole letters _ {} flag (fun d hd => hletters d (.tail _ hd)) hcarried
    ⟨rfl, rfl⟩ hrest'' hless
  have hreadOn : (readFlagsOn (some flag)).run ((r.past (.char '?')).past (.char c)) = .ok ((on, .char ':'), s) :=
    here_bind.2 hread
  refine ⟨.plain on {}, s, ?_⟩
  rw [readOpening, Read.run_bind (accept_run hquestion)]
  simp only [Bool.not_true, Bool.false_eq_true, if_false]
  rw [Read.run_bind (nextOr_run hletter), readExtension_flag hflag, readFlags, Read.run_bind hreadOn]
  dsimp only
  rw [if_neg (by decide)]
  refine refuseIf_bind.2 ⟨hon.2, Read.bind_ok.2 ⟨{}, s, rfl, refuseIf_bind.2 ⟨rfl, refuseIf_bind.2 ⟨?_, rfl⟩⟩⟩⟩
  simp [Flags.inter, Flags.diff, Flags.isEmpty]

/-! ## Sequences that begin with a parenthesis -/

/-- A sequence that begins with a parenthesis. -/
theorem sequence_open {verbose : Bool} {found : List Element} {ts : List Tree}
    (hrest : r.rest = '(' :: t) (h : (sequence verbose found n).run r = .ok (ts, s)) :
    ∃ m u opening v, r.Leaves (.char '(') u ∧ (readOpening r.pos).run u = .ok (opening, v) ∧
      GoesOn verbose found r.pos m ts v s opening := by
  rcases sequence_ok h with ⟨m, hstep⟩
  have hfirst : Piece.first? r.rest = some (.char '(') := by
    rw [hrest]
    exact Piece.first?_char (by decide)
  -- The piece in front rules out every other step.
  cases hstep with
  | ends hends _ _ => cases hends _ hfirst
  | blank hleaves _ hblank _ =>
    cases hfirst.symm.trans hleaves.first
    simp [Piece.isChar, isVerboseBlank] at hblank
  | line hleaves => cases hfirst.symm.trans hleaves.first
  | paren hleaves hopening hgoes => exact ⟨m, _, _, _, hleaves, hopening, hgoes⟩
  | piece hleaves _ _ _ hparen =>
    cases hfirst.symm.trans hleaves.first
    exact absurd rfl hparen

/-- A group that captures, and has no name. -/
theorem group_capturing {verbose : Bool} {start : Nat} {x : Element} :
    (group (.capturing none) start verbose (n + 1)).run r = .ok (x, s) ↔
      ∃ items u, (enclosed start (alternatives verbose true n)).run
          { r with widths := r.widths ++ [none] } = .ok (items, u) ∧
        x = .plain (.group r.nextGroup (.ofList (joinAlternatives items))) ∧
        s = { u with
          widths := u.widths.set (r.nextGroup - 1)
            (some ((Tree.ofList (joinAlternatives items)).width (groupWidth u.widths))) } := by
  have hopen : (openGroup none).run r = .ok (r.nextGroup, { r with widths := r.widths ++ [none] }) := rfl
  constructor
  · intro h
    have h' : ((openGroup none) >>= _).run r = .ok (x, s) := h
    rw [Read.run_bind hopen] at h'
    rcases Read.bind_ok.1 h' with ⟨items, u, hitems, h'⟩
    replace h' := Read.move_bind.1 h'
    rcases Read.pure_ok.1 h' with ⟨rfl, rfl⟩
    exact ⟨items, u, hitems, rfl, rfl⟩
  · rintro ⟨items, u, hitems, rfl, rfl⟩
    show ((openGroup none) >>= _).run r = _
    rw [Read.run_bind hopen, Read.run_bind hitems]
    rfl

/-- A group that carries flags. -/
theorem group_plain {verbose : Bool} {start : Nat} {on : Flags} {x : Element} (hon : on ≠ {}) :
    (group (.plain on {}) start verbose (n + 1)).run r = .ok (x, s) ↔
      ∃ items, (enclosed start (alternatives (verbose || on.verbose) true n)).run r = .ok (items, s) ∧
        x = .plain (.scope on {} (.ofList (joinAlternatives items))) := by
  have hempty : on.isEmpty = false := by simpa [Flags.isEmpty] using hon
  have hverbose : (verbose || on.verbose) = ((verbose || on.verbose) && !({} : Flags).verbose) :=
    (Bool.and_true _).symm
  rw [hverbose]
  constructor
  · intro h
    rcases Read.bind_ok.1 h with ⟨items, u, hitems, h⟩
    rcases Read.pure_ok.1 h with ⟨rfl, rfl⟩
    exact ⟨items, hitems, by simp [hempty]⟩
  · rintro ⟨items, hitems, rfl⟩
    exact Read.bind_ok.2 ⟨items, s, hitems, by simp [hempty]⟩

/-- A repetition has nothing to repeat where a sequence begins. -/
theorem sequence_question {verbose : Bool} {ts : List Tree} (hrest : r.rest = '?' :: t)
    (h : (sequence verbose [] n).run r = .ok (ts, s)) : False := by
  rcases sequence_ok h with ⟨m, hstep⟩
  have hfirst : Piece.first? r.rest = some (.char '?') := by
    rw [hrest]
    exact Piece.first?_char (by decide)
  cases hstep with
  | ends hends _ _ => cases hends _ hfirst
  | blank hleaves _ hblank _ =>
    cases hfirst.symm.trans hleaves.first
    simp [Piece.isChar, isVerboseBlank] at hblank
  | line hleaves => cases hfirst.symm.trans hleaves.first
  | paren hleaves => cases hfirst.symm.trans hleaves.first
  | piece hleaves _ _ _ _ hadd =>
    -- The mark is read as a repetition, and nothing was found before it.
    cases hfirst.symm.trans hleaves.first
    rcases Read.bind_ok.1 hadd with ⟨bounds, _, hbounds, hadd⟩
    rcases Read.pure_ok.1 hbounds with ⟨rfl, rfl⟩
    exact absurd hadd (refuseAt_refuses _ _ _ _ _)

end Reader

/-! ## Flags of the whole pattern -/

namespace Frame

open Reader

/-- Flags that are not at the very front of a pattern are refused in a larger pattern. So a part that is read
there too keeps the flags that it begins with, unless it begins with blanks or comments in a line. -/
theorem sequence_flags {k : Frame} (hk : ¬ k.unnumbered) {verbose' : Bool} :
    ∀ n n' {r r' s s' : Reader} {ts ts' : List Tree}, k.Within r r' →
      (sequence false [] n).run r = .ok (ts, s) → (sequence verbose' [] n').run r' = .ok (ts', s') →
      s.flags = r.flags := by
  intro n
  induction n with
  | zero =>
    intro n' r r' s s' ts ts' _ h
    exact absurd h (refuse_refuses _ _ _ _ _)
  | succ n ih =>
    intro n' r r' s s' ts ts' hw h h'
    -- Only flags and comments in parentheses leave a reading at its start; after any other step the flags
    -- are fixed.
    cases sequence_step.1 h with
    | ends _ _ hs => rw [hs]
    | blank _ _ hblank => cases hblank
    | line _ hverbose => cases hverbose
    | @paren u v opening hleaves hopening hgoes =>
      have hfirst := hw.first? hleaves.first
      obtain ⟨t, hrest⟩ : ∃ t, r'.rest = '(' :: t := ⟨_, (Piece.first?_append hfirst).symm⟩
      rcases sequence_open hrest h' with ⟨m', u', opening', v', hleaves', hopening', hgoes'⟩
      have hwu := (hw.leaves hleaves).2
      rw [← hleaves'.past] at hwu
      have hallows : (Ending.allows k True).holds v :=
        ⟨fun h => absurd h hk, fun _ => trivial, fun h => absurd (k.unnumbered_of_fits h) hk,
          fun h => absurd (k.unnumbered_of_fits h) hk⟩
      obtain ⟨hopens, hwv⟩ := (Agrees.readOpening _ r'.pos hwu hopening hallows).same _ _ hopening'
      have hflags : v.flags = r.flags := hwv.flags.trans hw.flags.symm
      cases hgoes with
      | global hstarted _ =>
        -- The larger pattern is past its start.
        cases hopens
        cases hgoes' with
        | global hstarted' _ =>
          rw [hwv.begun] at hstarted'
          cases hstarted'
        | group hglobal => exact absurd rfl (hglobal _)
      | comment hmore =>
        cases hopens
        cases hgoes' with
        | comment hmore' => exact (ih m' hwv hmore hmore').trans hflags
        | group _ hcomment => exact absurd rfl hcomment
      | group _ _ hgroup hmore =>
        have hstays := ((Reader.group _ _ _ _).forward hgroup).trans ((sequence _ _ _).forward hmore)
        exact (hstays.fixed rfl).2.trans hflags
    | piece hleaves _ _ _ _ hadd hmore =>
      have hstays := ((addPiece _ _ _).forward hadd).trans ((sequence _ _ _).forward hmore)
      exact (hstays.fixed rfl).2.trans hleaves.groups.flags

/-- Outside of groups the flags decide how further alternatives are read. -/
theorem furtherItems_nested (verbose verbose' : Bool) (item : List Tree) (n : Nat) :
    furtherItems verbose false item n = furtherItems verbose' false item n := by
  cases n with
  | zero => rfl
  | succ n => rfl

/-- Further alternatives keep the flags. -/
theorem furtherItems_flags {verbose nested : Bool} {item : List Tree} {n : Nat} {r s : Reader}
    {items : List (List Tree)} (h : (furtherItems verbose nested item n).run r = .ok (items, s)) :
    s.flags = r.flags := by
  rcases furtherItems_ok h with ⟨-, -, rfl⟩ | ⟨m, u, others, hleaves, -, hothers⟩
  · rfl
  · exact (((alternatives _ _ _).forward hothers).fixed rfl).2.trans hleaves.groups.flags

end Frame

/-! ## Patterns that are read alone -/

namespace Reading

open Reader

/-- The alternatives of the source have been read up to `s`, and the reading is what they yield. -/
structure Yields (source : String) (given : Flags) (fuel : Nat) (items : List (List Tree)) (s : Reader)
    (reading : Reading) : Prop where
  whole : source.toList ≠ ['\\']
  read : (alternatives given.verbose false (fuel + 1)).run (.start source given) = .ok (items, s)
  ends : s.rest = []
  flags : settleFlags s.flags = .ok reading.flags
  tree : reading.tree = .ofList (joinAlternatives items)
  groups : reading.groups = s.widths.length
  names : reading.names = s.names
  byNumber : reading.byNumber = s.byNumber
  flagGroups : reading.flagGroups = s.flagGroups
  sound : reading.tree.fault? reading.flags.template = none

/-- A pattern passes the check exactly if nothing is wrong with it. -/
theorem checkTree_ok {template : Bool} {tree : Tree} {u : Unit} {r s : Reader} :
    (checkTree template tree).run r = .ok (u, s) ↔ tree.fault? template = none ∧ r = s := by
  unfold checkTree
  cases tree.fault? template with
  | none => simp
  | some cause =>
    constructor
    · intro h
      cases h
    · rintro ⟨h, -⟩
      cases h

/-- A source that is read to the end yields what its steps noted. -/
theorem ofSource_ok {source : String} {given : Flags} {reading : Reading}
    (h : ofSource source given = .ok reading) :
    ∃ fuel items s, Yields source given fuel items s reading := by
  obtain ⟨s, hs⟩ : ∃ s, readAll.run (.start source given) = .ok (reading, s) := by
    unfold ofSource at h
    cases hrun : readAll.run (.start source given) with
    | error e => simp [hrun, Except.map] at h
    | ok x =>
      rcases x with ⟨found, s⟩
      simp only [hrun, Except.map, Except.ok.injEq] at h
      exact ⟨s, by rw [h]⟩
  -- The steps of the reading, one after the other.
  rcases Read.bind_ok.1 hs with ⟨_, _, hdangling, hs⟩
  rcases checkDangling_ok.1 hdangling with ⟨hwhole, rfl⟩
  replace hs := here_bind.1 hs
  rcases Read.bind_ok.1 hs with ⟨items, t, hitems, hs⟩
  replace hs := here_bind.1 hs
  rcases Read.bind_ok.1 hs with ⟨flags, _, hflags, hs⟩
  rcases Read.ofExcept_ok.1 hflags with ⟨hsettle, rfl⟩
  rcases Read.bind_ok.1 hs with ⟨_, _, hcheck, hs⟩
  rcases refuseIf_ok.1 hcheck with ⟨hends, rfl⟩
  rcases Read.bind_ok.1 hs with ⟨_, _, -, hs⟩
  rcases Read.bind_ok.1 hs with ⟨_, _, hsound, hs⟩
  rcases Read.pure_ok.1 hs with ⟨rfl, -⟩
  exact ⟨_, items, t, hwhole, hitems, by simpa using hends, hsettle, rfl, rfl, rfl, rfl, rfl,
    (checkTree_ok.1 hsound).1⟩

end Reading

namespace Pattern

open Reader

/-- A pattern that compiles holds what was read from its source. -/
theorem compile_ok {source : String} {given : Flags} {p : Pattern} (h : compile source given = .ok p) :
    Reading.ofSource source given = .ok p.toReading := by
  unfold compile at h
  split at h
  · rename_i reading hreading
    cases h
    exact hreading
  · cases h

/-- Flags of the whole pattern stand at the front of the source, or its front is kept. -/
theorem withoutLeadingFlags_cases (cs : List Char) :
    withoutLeadingFlags cs = cs ∨
      ∃ letters body, cs = '(' :: '?' :: (letters ++ ')' :: body) ∧ letters ≠ [] ∧
        (∀ c ∈ letters, (Flag.ofLetter? c).isSome) ∧ withoutLeadingFlags cs = body := by
  unfold withoutLeadingFlags
  split
  · rename_i rest
    have hsplit := List.takeWhile_append_dropWhile
      (p := fun c => "aiLmsux".toList.contains c) (l := rest)
    -- The longest run of letters is dropped if there is one and it ends at a closing parenthesis.
    split
    · rename_i body hbody
      rw [hbody] at hsplit
      split
      · exact .inl rfl
      · rename_i hhead
        refine .inr ⟨_, body, by rw [hsplit], fun hnil => ?_, fun c hc => ?_, rfl⟩
        · rw [hnil] at hsplit
          rw [← hsplit] at hhead
          exact hhead rfl
        · have hmem := List.mem_takeWhile_imp hc
          have hletters : ("aiLmsux".toList.all fun d => (Flag.ofLetter? d).isSome) = true := by
            decide +kernel
          exact List.all_eq_true.1 hletters c (by simpa using hmem)
    · exact .inl rfl
  · exact .inl rfl

/-- How many groups of flags of the whole pattern are taken from its front when it becomes a part of a larger
one. -/
def droppedFlags (p : Pattern) : Nat :=
  if withoutLeadingFlags p.source.toList = p.source.toList then 0 else 1

/-- No flags of the whole pattern are left in it when it becomes a part of a larger one. -/
def FlagsInFront (p : Pattern) : Prop := p.flagGroups = p.droppedFlags

instance (p : Pattern) : Decidable p.FlagsInFront := inferInstanceAs (Decidable (_ = _))

/-- The body of the pattern is read from `r` to `s`, and yields its tree. -/
structure ReadsBody (p : Pattern) (r s : Reader) (items : List (List Tree)) : Prop where
  rest : r.rest = withoutLeadingFlags p.source.toList
  whole : r.rest ≠ ['\\']
  unnamed : r.names = []
  widths : r.widths = []
  outside : r.lookbehind = none
  dropped : r.flagGroups = p.droppedFlags
  read : ∀ n, 8 * r.rest.length + 2 ≤ n → (alternatives r.flags.verbose false n).run r = .ok (items, s)
  ends : s.rest = []
  flags : Reading.settleFlags s.flags = .ok p.flags
  tree : p.tree = .ofList (joinAlternatives items)
  groups : p.groups = s.widths.length
  names : p.names = s.names
  byNumber : p.byNumber = s.byNumber
  flagGroups : p.flagGroups = s.flagGroups

/-- Every pattern has a body, which was read behind the flags in its front. -/
theorem readsBody (p : Pattern) : ∃ r s items, p.ReadsBody r s items := by
  rcases p.isRead with ⟨given, hread⟩
  rcases Reading.ofSource_ok hread with ⟨fuel, items, t, ht⟩
  rcases withoutLeadingFlags_cases p.source.toList with hfront | ⟨letters, body, hsource, hne, hletters, hfront⟩
  · have hdropped : p.droppedFlags = 0 := if_pos hfront
    refine ⟨.start p.source given, t, items, hfront.symm, ht.whole, rfl, rfl, rfl, hdropped.symm, fun n hn => ?_,
      ht.ends, ht.flags, ht.tree, ht.groups, ht.names, ht.byNumber, ht.flagGroups⟩
    exact (Read.fueled _).alternatives n _ _ false hn (Nat.le_refl _) ht.read
  · -- Alone, the flags are set, and the sequence goes on behind them.
    have hdropped : p.droppedFlags = 1 := by
      refine if_neg fun hkept => ?_
      have hlength := congrArg List.length (hsource.symm.trans (hkept.symm.trans hfront))
      simp at hlength
      omega
    rcases Read.bind_ok.1 ht.read with ⟨item, u, hitem, hfurther⟩
    rcases sequence_open hsource hitem with ⟨m, v, opening, w, hleaves, hopening, hgoes⟩
    have hv : v.rest = '?' :: letters ++ ')' :: body := (hleaves.of_cons hsource (by decide)).2
    rcases readOpening_flags (.inl rfl) hletters hne hv hopening with ⟨hw, hwhole, rfl⟩
    have hgroups := hleaves.groups.trans hw.groups
    cases hgoes with
    | group hglobal => exact absurd rfl (hglobal _)
    | global _ hmore =>
      rw [Frame.furtherItems_nested] at hfurther
      refine ⟨{ w with flags := w.flags.union (.ofLetters letters), flagGroups := w.flagGroups + 1 }, t, items,
        hw.rest.trans hfront.symm, hwhole, hgroups.names, hgroups.widths, hgroups.lookbehind, ?_, fun n hn => ?_,
        ht.ends, ht.flags, ht.tree, ht.groups, ht.names, ht.byNumber, ht.flagGroups⟩
      · rw [hdropped]
        exact congrArg (· + 1) hgroups.flagGroups
      · obtain ⟨n, rfl⟩ : ∃ k, n = k + 1 := ⟨n - 1, by omega⟩
        have hn' := Nat.le_of_succ_le_succ hn
        have hu := Nat.mul_le_mul_left 8 ((sequence _ _ _).forward hmore).rest.length_le
        refine Read.bind_ok.2 ⟨item, u, ?_, ?_⟩
        · exact (Read.fueled _).sequence n _ _ [] hn' (Nat.le_refl _) hmore
        · exact (Read.fueled _).furtherItems n _ _ false item (Nat.le_trans (Nat.succ_le_succ hu) hn')
            (Nat.le_refl _) hfurther

/-- A pattern has no fault. -/
theorem sound (p : Pattern) : p.tree.fault? p.flags.template = none := by
  rcases p.isRead with ⟨given, hread⟩
  rcases Reading.ofSource_ok hread with ⟨fuel, items, t, ht⟩
  exact ht.sound

end Pattern

end PatternLexer
