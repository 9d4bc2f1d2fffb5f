import PatternLexer.Proofs.Part.Front

/-!
# The body of a part

The body of a pattern, which `Pattern.readsBody` says how it is read alone, is read in a larger pattern with other
group numbers.

* `Pattern.ReadsBody.inFrame`: what a reading of the body in the larger pattern comes to. It does not come about
  if flags of the whole pattern are left in the body. It looks back just if the pattern does.
* `Pattern.ReadsBody.exists_inFrame`: if the pattern fits where the body stands, the body is read there.
-/

namespace PatternLexer

open List (Forall₂)
open Reader

/-! ## Flags of a part -/

namespace Flags

variable {fs gs : Flags}

/-- Settled flags choose one kind of character classes, and are the given ones otherwise. -/
structure Settled (fs gs : Flags) : Prop where
  ascii : gs.ascii = fs.ascii
  ignoreCase : gs.ignoreCase = fs.ignoreCase
  multiline : gs.multiline = fs.multiline
  dotAll : gs.dotAll = fs.dotAll
  verbose : gs.verbose = fs.verbose
  unicode : gs.unicode = !gs.ascii

/-- Settling flags chooses Unicode classes unless those of ASCII are asked for. -/
theorem settleFlags_ok (h : Reading.settleFlags fs = .ok gs) : Settled fs gs := by
  unfold Reading.settleFlags at h
  split at h
  · rename_i hascii
    cases h
    exact ⟨rfl, rfl, rfl, rfl, rfl, hascii.symm⟩
  · rename_i hascii
    split at h
    · cases h
    · rename_i hunicode
      cases h
      exact ⟨rfl, rfl, rfl, rfl, rfl, by simp_all⟩

/-- The options that a group can carry. -/
def carried (fs : Flags) : Flags := { fs with template := false, unicode := false }

theorem ofLetters_scopeLetters (fs : Flags) : ofLetters fs.scopeLetters = fs.carried := by
  rcases fs with ⟨ascii, ignoreCase, multiline, dotAll, template, unicode, verbose⟩
  cases ascii <;> cases ignoreCase <;> cases multiline <;> cases dotAll <;> cases verbose <;> rfl

theorem scopeLetters_isCarried (fs : Flags) :
    ∀ c ∈ fs.scopeLetters, ∃ flag, Flag.ofLetter? c = some flag ∧ flag.isCarried = true := by
  intro c hc
  simp only [scopeLetters, List.mem_append] at hc
  rcases hc with (((hc | hc) | hc) | hc) | hc
  all_goals
    split at hc
    · rw [List.mem_singleton.1 hc]
      exact ⟨_, rfl, rfl⟩
    · exact absurd hc List.not_mem_nil

theorem contains_verbose (fs : Flags) : fs.scopeLetters.contains 'x' = fs.verbose := by
  rcases fs with ⟨ascii, ignoreCase, multiline, dotAll, template, unicode, verbose⟩
  cases ascii <;> cases ignoreCase <;> cases multiline <;> cases dotAll <;> cases verbose <;> rfl

theorem scopeLetters_eq_nil : fs.scopeLetters = [] ↔ fs.carried = {} := by
  rcases fs with ⟨ascii, ignoreCase, multiline, dotAll, template, unicode, verbose⟩
  cases ascii <;> cases ignoreCase <;> cases multiline <;> cases dotAll <;> cases verbose <;>
    simp [scopeLetters, carried]

/-- Without options to carry, the flags of the composite pattern do. -/
theorem Settled.agree_standard (h : Settled fs gs) (hnone : gs.carried = {}) :
    Agree { unicode := true } gs := by
  rcases gs with ⟨ascii, ignoreCase, multiline, dotAll, template, unicode, verbose⟩
  simp only [carried, Flags.mk.injEq] at hnone
  have hunicode := h.unicode
  constructor <;> simp_all

/-- Inside a group that carries them, the flags are those of the part. -/
theorem Settled.agree_within (h : Settled fs gs) :
    Agree (Flags.within { unicode := true } gs.carried {}) gs := by
  rcases gs with ⟨ascii, ignoreCase, multiline, dotAll, template, unicode, verbose⟩
  have hunicode := h.unicode
  cases ascii <;> constructor <;>
    simp_all [carried, within, choosesClasses, union, diff]

end Flags

/-! ## The body of a part -/

namespace Pattern

/-- The pattern can become a part of the larger pattern where the reader of that stands. -/
structure Fits (p : Pattern) (r : Reader) : Prop where
  unnumbered : p.byNumber = false
  flagsInFront : p.FlagsInFront
  fresh : ∀ x ∈ p.names, r.names.lookup x.1 = none
  outside : r.lookbehind = none
  mentioned : r.mentioned = []

/-- Whether a pattern fits depends on what the reader has noted only. -/
theorem Fits.of_notes {p : Pattern} {r s : Reader} (h : p.Fits r) (hs : r.SameNotes s) : p.Fits s where
  unnumbered := h.unnumbered
  flagsInFront := h.flagsInFront
  fresh := hs.names ▸ h.fresh
  outside := hs.lookbehind.trans h.outside
  mentioned := hs.mentioned.trans h.mentioned

/-- What stands behind the body of a part before `rest`: the closing parenthesis, and before that a line feed if the
pattern is verbose. -/
def ending (p : Pattern) (rest : List Char) : List Char :=
  if p.flags.verbose then '\n' :: ')' :: rest else ')' :: rest

theorem mem_ending (p : Pattern) (rest : List Char) : ')' ∈ p.ending rest := by
  unfold ending
  split
  · exact .tail _ (.head _)
  · exact .head _

/-- What the larger pattern, read from `r'`, puts around the body of `p`, which is read alone from `r`. -/
def frame (p : Pattern) (r r' : Reader) (rest : List Char) : Frame where
  rest := rest
  feed := p.flags.verbose
  flags := r.flags
  widths := r'.widths
  names := r'.names
  flagGroups := r.flagGroups
  unnumbered := p.byNumber = false
  fits := p.Fits r'
  unnumbered_of_fits := Fits.unnumbered

namespace ReadsBody

variable {p : Pattern} {r r' s s' : Reader} {items items' : List (List Tree)} {rest : List Char}
variable (hb : p.ReadsBody r s items)
include hb

/-- Reading the body moves the reader on. -/
theorem before : r.Before s := (alternatives r.flags.verbose false _).forward (hb.read _ (Nat.le_refl _))

/-- A body whose flags stay as they are is verbose if the pattern is. -/
theorem verbose_eq (h : s.flags = r.flags) : p.flags.verbose = r.flags.verbose :=
  (Flags.settleFlags_ok hb.flags).verbose.trans (congrArg Flags.verbose h)

theorem verbose_of_flagsInFront (h : p.FlagsInFront) : p.flags.verbose = r.flags.verbose := by
  apply hb.verbose_eq
  exact hb.before.unset (hb.flagGroups.symm.trans (h.trans hb.dropped.symm))

variable (hrest : r'.rest = r.rest ++ p.ending rest)
variable (houter : r'.flags = {}) (hbegun : r'.started = true)
include hrest houter hbegun

/-- The readers stand at the front of the body. -/
theorem within : (p.frame r r' rest).Within r r' where
  rest := .inl hrest
  whole := hb.whole
  flags := rfl
  outer := houter
  begun := hbegun
  flagGroups := rfl
  count := by simp [Frame.shift, frame, hb.widths]
  groups _ := ⟨by simp [frame, hb.widths], by simp [frame, hb.unnamed], by simp [hb.unnamed], by simp [hb.unnamed]⟩
  lookbehind hk := by rw [hk.outside, hb.outside]; rfl
  mentioned hk := hk.mentioned

/-- The body is read alike alone and in the larger pattern. -/
theorem meets (hverbose : p.flags.verbose = r.flags.verbose) :
    (p.frame r r' rest).Meets (p.frame r r' rest).SameItems items s
      ((alternatives p.flags.verbose true (8 * r'.rest.length + 2)).run r') := by
  have hwithin := hb.within hrest houter hbegun
  have hallows : (Ending.allows (p.frame r r' rest) (r.flags.verbose = p.flags.verbose)).holds s := by
    refine ⟨fun hk => hb.byNumber.symm.trans hk, fun _ => hverbose.symm, fun hk => ?_, fun hk => ?_⟩
    · exact Nat.le_of_eq (hb.flagGroups.symm.trans (hk.flagsInFront.trans hb.dropped.symm))
    · exact hb.names ▸ hk.fresh
  -- The closing parenthesis is left behind the body.
  have hlonger : r.rest.length < r'.rest.length := by
    have hending := List.length_pos_iff.2 (p.frame r r' rest).ending_ne_nil
    have hlength := congrArg List.length (show r'.rest = r.rest ++ (p.frame r r' rest).ending from hrest)
    rw [List.length_append] at hlength
    omega
  rw [hverbose]
  have hreads := (p.frame r r' rest).reads (8 * r.rest.length + 2)
  refine hreads.alternatives _ _ false (fun _ => by omega) (fun _ => rfl) hwithin (hb.read _ (Nat.le_refl _)) hallows

end ReadsBody

/-- The body of `p` was read in a larger pattern from `r` to `s`, before `rest`, and yielded `items`. -/
structure Merges (p : Pattern) (r s : Reader) (rest : List Char) (items : List (List Tree)) : Prop where
  flagsInFront : p.FlagsInFront
  rest : s.rest = rest
  flags : s.flags = {}
  groups : s.widths.length = r.widths.length + p.groups
  looksBack : (Tree.ofList (joinAlternatives items)).looksBack = p.tree.looksBack
  shifted : p.byNumber = false → p.tree.IsShift r.widths.length (.ofList (joinAlternatives items))
  mentioned : p.Fits r → s.mentioned = []
  names : p.Fits r → s.names = r.names ++ p.names.map fun x => (x.1, x.2 + r.widths.length)

namespace ReadsBody

variable {p : Pattern} {r r' s s' t' : Reader} {items items' : List (List Tree)} {rest : List Char} {start n' : Nat}

/-- At the end of the body only the parenthesis is left before the rest. -/
theorem closing (hb : p.ReadsBody r s items) (hend : (p.frame r r' rest).Within s t')
    (h : (alternatives p.flags.verbose true n').run r' = .ok (items', t')) : t'.rest = ')' :: rest := by
  rcases hend.ends hb.ends with hclosing | ⟨-, hleaves, -⟩
  · exact hclosing
  · -- Alternatives do not stop at a line feed.
    cases alternatives_stops items' h _ hleaves.first

variable (hb : p.ReadsBody r s items)
variable (hrest : r'.rest = r.rest ++ p.ending rest)
variable (houter : r'.flags = {}) (hbegun : r'.started = true)
include hb hrest houter hbegun

/-- What is read in the larger pattern is what was read alone, renumbered. -/
theorem inFrame (h : (enclosed start (alternatives p.flags.verbose true n')).run r' = .ok (items', s')) :
    p.Merges r' s' rest items' := by
  rcases enclosed_ok.1 h with ⟨t', hitems, hparen⟩
  have hwithin := hb.within hrest houter hbegun
  -- The body is verbose from its front on.
  have hverbose : p.flags.verbose = r.flags.verbose := by
    cases hr : r.flags.verbose with
    | true => exact (Flags.settleFlags_ok hb.flags).verbose.trans (hb.before.verbose hr)
    | false =>
      rw [← hr]
      apply hb.verbose_eq
      cases n' with
      | zero => exact absurd hitems (refuse_refuses _ _ _ _ _)
      | succ n' =>
        rcases Read.bind_ok.1 hitems with ⟨item', u', hitem', -⟩
        rcases Read.bind_ok.1 (hb.read _ (Nat.le_refl _)) with ⟨item, u, hitem, hfurther⟩
        rw [hr] at hitem
        rw [Frame.furtherItems_flags hfurther]
        exact Frame.sequence_flags (k := (p.frame r r' rest).loose) id _ _ hwithin.loose hitem hitem'
  have hitems' :=
    (Read.fueled n').alternatives (8 * r'.rest.length + 2) _ _ true (Nat.le_refl _) (Nat.le_refl _) hitems
  obtain ⟨hsame, hend⟩ := (hb.meets hrest houter hbegun hverbose).same _ _ hitems'
  constructor
  · exact hb.flagGroups.trans (hend.flagGroups.trans hb.dropped)
  · exact (hparen.of_cons (hb.closing hend hitems') (by decide)).2
  · rw [hparen.groups.flags, hend.outer]
  · rw [hparen.groups.widths, hend.count, hb.groups]
    rfl
  · rw [hb.tree]
    exact hsame.tree.looksBack
  · intro hk
    rw [hb.tree]
    exact hsame.tree.shifted hk
  · intro hk
    rw [hparen.groups.mentioned, hend.mentioned hk]
  · intro hk
    rw [hparen.groups.names, (hend.groups hk.unnumbered).names, hb.names]
    rfl

/-- A pattern that fits is read in the larger pattern. -/
theorem exists_inFrame (hfits : p.Fits r') (hwhole : rest ≠ ['\\']) (start : Nat) :
    ∃ n items' s', (enclosed start (alternatives p.flags.verbose true n)).run r' = .ok (items', s') := by
  have hmeets := hb.meets hrest houter hbegun (hb.verbose_of_flagsInFront hfits.flagsInFront)
  obtain ⟨items', t', hitems⟩ := hmeets.goes hfits
  have hclosing := hb.closing (hmeets.same _ _ hitems).2 hitems
  exact ⟨_, items', _, enclosed_ok.2 ⟨t', hitems, Leaves.char hclosing (by decide) hwhole⟩⟩

end ReadsBody

end Pattern

end PatternLexer
