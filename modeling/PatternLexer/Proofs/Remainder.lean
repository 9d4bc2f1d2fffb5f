import PatternLexer.Proofs.Tiling

/-!
# Scanning the rest of a text

What a scan finds from an offset on does not depend on the text in front of it, unless a pattern looks back. This is
so for references by number too, since the composite pattern looks back just if one of its parts does.

* `Lexer.probe_rest`: a step in the rest of a text is a step in the whole text, further on.
* `Lexer.Scans.rest`: so is a run.
* `Lexer.matchesOf_rest`: cut off in front of one of its matches, a text has the matches from this one on.
-/

namespace PatternLexer

/-! ## Searches -/

section Search

variable {text whole : Subject} {d : Nat} (htext : text.IsRest whole d)
include htext

/-- A pattern that does not look back matches in the rest of a text as it does in the whole text, further on. -/
theorem Tree.search_rest {t : Tree} (hback : t.looksBack = false) (fs : Flags) (pos : Nat) :
    t.search whole fs (.start (pos + d)) some =
      (t.search text fs (.start pos) some).map (Progress.moved 0 d []) := by
  have hbefore : ∀ m ∈ ([] : List Mark), m.group ≤ 0 := nofun
  have hmoves := t.search_moved htext hbefore fs fs ⟨rfl, rfl, rfl, rfl⟩ (.inr rfl) (.inl hback)
  rw [t.shift_zero] at hmoves
  exact hmoves.once (.start pos)

theorem Tree.endAt_rest {t : Tree} (hback : t.looksBack = false) (pos : Nat) :
    t.endAt whole (pos + d) = (t.endAt text pos).map (· + d) := by
  rw [Tree.endAt, Tree.endAt, Tree.search_rest htext hback, Option.map_map, Option.map_map]
  rfl

theorem Pattern.endAt_rest {p : Pattern} (hback : p.tree.looksBack = false) (pos : Nat) :
    p.endAt whole (pos + d) = (p.endAt text pos).map (· + d) := by
  rw [Pattern.endAt, Pattern.endAt, Pattern.matchAt, Pattern.matchAt, Tree.search_rest htext hback, Option.map_map,
    Option.map_map]
  rfl

theorem Rule.moveEnd_rest {r : Rule} (hback : r.pattern.tree.looksBack = false) (pos : Nat) :
    r.moveEnd whole (pos + d) = (r.moveEnd text pos).map (· + d) := by
  rw [Rule.moveEnd, Rule.moveEnd, Pattern.endAt_rest htext hback]
  cases r.pattern.endAt text pos with
  | none => rfl
  | some stop => simp [Option.filter_some, apply_ite]

end Search

/-! ## Matches -/

/-- The match, `d` characters further on. -/
def RuleMatch.moved (d : Nat) (m : RuleMatch) : RuleMatch := { m with start := m.start + d, stop := m.stop + d }

namespace Subject

/-- What is left behind the first characters is a rest. -/
theorem isRest_drop {cs : List Char} {d : Nat} (hd : d ≤ cs.length) :
    IsRest (cs.drop d).toArray cs.toArray d where
  size := by simp [hd]
  getElem? i := by simp [Nat.add_comm]

variable {text whole : Subject} {d : Nat} (htext : text.IsRest whole d)
include htext

/-- A piece of the rest is a piece of the whole, further behind. -/
theorem IsRest.slice (start stop : Nat) : whole.slice (start + d) (stop + d) = text.slice start stop := by
  have hextract : whole.extract (start + d) (stop + d) = text.extract start stop := by
    refine Array.ext_getElem? fun i => ?_
    rw [Array.getElem?_extract, Array.getElem?_extract, Nat.add_right_comm, htext.getElem?, htext.size,
      Nat.add_min_add_right, Nat.add_sub_add_right]
  rw [Subject.slice, Subject.slice, hextract]

/-- The first match in the whole is that in the rest, moved by what stands in front. -/
theorem IsRest.firstMatch (pos : Nat) (ends : List (Option Nat)) : ∀ index,
    whole.firstMatch (pos + d) index (ends.map (Option.map (· + d))) =
      (text.firstMatch pos index ends).map (RuleMatch.moved d) := by
  induction ends with
  | nil => intro index; rfl
  | cons x rest ih =>
    intro index
    cases x with
    | none => exact ih (index + 1)
    | some stop =>
      simp only [List.map_cons, Option.map_some, Subject.firstMatch, htext.slice]
      rfl

end Subject

/-! ## Composite patterns -/

namespace Parted

variable {g : Nat} {ps : List Pattern} {ts : List Tree}

/-- The branches look back just if their patterns do. -/
theorem looksBack (h : Parted g ps ts) : ts.map Tree.looksBack = ps.map fun p => p.tree.looksBack := by
  induction h with
  | nil => rfl
  | cons hbody _ ih => rw [List.map_cons, List.map_cons, ih, ← hbody.looksBack, Tree.looksBack]

end Parted

/-- The branches of a composite pattern whose parts do not look back match in the rest of a text as they do in the
whole text. -/
theorem Composite.ends_rest {c : Composite} (hne : c.parts ≠ []) (hback : ∀ p ∈ c.parts, p.tree.looksBack = false)
    {text whole : Subject} {d : Nat} (htext : text.IsRest whole d) (pos : Nat) :
    c.ends whole (pos + d) = (c.ends text pos).map (Option.map (· + d)) := by
  have hbranches : ∀ t ∈ c.branches, t.looksBack = false := by
    intro t ht
    have hmem := List.mem_map_of_mem (f := Tree.looksBack) ht
    rw [(c.parted hne).1.looksBack] at hmem
    rcases List.mem_map.1 hmem with ⟨p, hp, heq⟩
    rw [← heq, hback p hp]
  rw [ends, ends, List.map_map]
  exact List.map_congr_left fun t ht => Tree.endAt_rest htext (hbranches t ht) pos

namespace Lexer

variable {lx : Lexer} {text whole : Subject} {d pos stop : Nat} {ps : List Probe}

/-- No pattern of the rules given looks back. -/
def NeverLooksBack (lx : Lexer) : Prop := ∀ r ∈ lx.given, r.pattern.tree.looksBack = false

/-- The fallback rule does not look back either. -/
theorem NeverLooksBack.rules (h : lx.NeverLooksBack) : ∀ r ∈ lx.rules, r.pattern.tree.looksBack = false :=
  forall_rules h rfl

/-! ## Steps -/

/-- A step in the rest of a text is a step in the whole text, further on. -/
theorem probe_rest (hback : lx.NeverLooksBack) (htext : text.IsRest whole d) (hpos : pos ≤ text.size) :
    (lx.probe whole (pos + d)).found = (lx.probe text pos).found.map (RuleMatch.moved d) := by
  have hends : lx.composite.ends whole (pos + d) = (lx.composite.ends text pos).map (Option.map (· + d)) := by
    refine Composite.ends_rest parts_ne_nil (fun p hp => ?_) htext pos
    rw [lx.isOfRules] at hp
    rcases List.mem_map.1 hp with ⟨r, hr, rfl⟩
    exact hback.rules r hr
  have hpos' : pos + d ≤ whole.size := by
    rw [htext.size]
    omega
  rw [probe_eq hpos, probe_eq hpos', hends, htext.firstMatch]
  cases text.firstMatch pos 0 (lx.composite.ends text pos) with
  | none => rfl
  | some m =>
    have hmoves : (lx.rules.drop (m.index + 1)).map (fun r => r.moveEnd whole (pos + d)) =
        ((lx.rules.drop (m.index + 1)).map fun r => r.moveEnd text pos).map (Option.map (· + d)) := by
      rw [List.map_map]
      exact List.map_congr_left fun r hr => Rule.moveEnd_rest htext (hback.rules r (List.mem_of_mem_drop hr)) pos
    simp only [Option.map_some, RuleMatch.moved, Nat.add_lt_add_iff_right]
    -- An empty match is empty in both, and the later rules are asked one by one.
    split
    · rfl
    · rw [hmoves]
      exact htext.firstMatch _ _ _

/-! ## Runs -/

namespace Scans

/-- A run in the rest of a text is a run in the whole text, further on. -/
theorem rest (hback : lx.NeverLooksBack) (htext : text.IsRest whole d) (h : lx.Scans text pos ps stop)
    (hpos : pos ≤ text.size) : ∃ qs, lx.Scans whole (pos + d) qs (stop + d) ∧
      qs.filterMap Probe.found = (ps.filterMap Probe.found).map (RuleMatch.moved d) := by
  induction h with
  | @stop pos hfound =>
    have hfound' := probe_rest hback htext hpos
    rw [hfound] at hfound'
    refine ⟨_, .stop hfound', ?_⟩
    rw [List.filterMap_cons_none hfound, List.filterMap_cons_none hfound']
    rfl
  | @step pos stop m ps hfound _ ih =>
    have hfound' := probe_rest hback htext hpos
    rw [hfound] at hfound'
    rcases ih (probe_moves hpos hfound).inside with ⟨qs, hqs, hmatches⟩
    refine ⟨_, .step hfound' hqs, ?_⟩
    rw [List.filterMap_cons_some hfound, List.filterMap_cons_some hfound', hmatches]
    rfl

/-- There is one run from an offset. -/
theorem unique (h : lx.Scans text pos ps stop) {qs : List Probe} {stop' : Nat} (h' : lx.Scans text pos qs stop') :
    ps = qs := by
  induction h generalizing qs with
  | stop hfound =>
    cases h' with
    | stop _ => rfl
    | step hfound' _ => cases hfound.symm.trans hfound'
  | step hfound _ ih =>
    cases h' with
    | stop hfound' => cases hfound.symm.trans hfound'
    | step hfound' hrest =>
      cases hfound.symm.trans hfound'
      rw [ih hrest]

/-- A run goes on from the start of each of its matches. -/
theorem from_match (h : lx.Scans text pos ps stop) (hpos : pos ≤ text.size) {m : RuleMatch} {after : List RuleMatch} :
    ∀ {before : List RuleMatch}, ps.filterMap Probe.found = before ++ m :: after →
      ∃ qs, lx.Scans text m.start qs stop ∧ qs.filterMap Probe.found = m :: after := by
  induction h with
  | stop hfound =>
    intro before hsplit
    rw [List.filterMap_cons_none hfound] at hsplit
    cases before <;> cases hsplit
  | @step pos stop m' ps hfound hrest ih =>
    intro before hsplit
    have hmove := probe_moves hpos hfound
    have hmatches := hsplit
    rw [List.filterMap_cons_some hfound] at hsplit
    cases before with
    | nil =>
      -- It is the match of this very step, which starts where the step does.
      cases hsplit
      rw [hmove.starts]
      exact ⟨_, .step hfound hrest, hmatches⟩
    | cons b before => exact ih hmove.inside (List.cons.inj hsplit).2

end Scans

/-- Cut off in front of one of its matches, a text has the matches from this one on. -/
theorem matchesOf_rest (hback : lx.NeverLooksBack) {before after : List RuleMatch} {m : RuleMatch}
    (hsplit : lx.matchesOf whole = before ++ m :: after) (htext : text.IsRest whole m.start) :
    (lx.matchesOf text).map (RuleMatch.moved m.start) = m :: after := by
  rcases lx.trace_scans whole with ⟨stop, hwhole⟩
  rcases hwhole.from_match (Nat.zero_le _) hsplit with ⟨qs, hqs, hmatches⟩
  rcases lx.trace_scans text with ⟨stop', hscans⟩
  rcases hscans.rest hback htext (Nat.zero_le _) with ⟨rs, hrs, hmoved⟩
  rw [Nat.zero_add] at hrs
  rw [matchesOf, ← hmoved, hrs.unique hqs, hmatches]

end Lexer

end PatternLexer
