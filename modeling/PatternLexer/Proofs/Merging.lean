import PatternLexer.Proofs.Composite
import PatternLexer.Proofs.Validation

/-!
# Which rule lists can be merged

The patterns of a rule list are compiled alone, and once more as the parts of one pattern. That can fail where none
of the patterns does alone.

1. **Reading.** A composite source is read to its end if each of its patterns fits behind those before it
   (`Composite.alternatives_run`).
2. **Compiling.** Then it also compiles, since the composite pattern has no fault that none of its parts has
   (`Composite.exists_build`).
3. **Rule lists.** `Lexer.compile_merges`: good entries compile together if no pattern keeps flags of the whole
   pattern anywhere but in one group at its front, nor refers to groups by number. With such flags left they never do.
-/

namespace PatternLexer

open List (Forall₂)
open Reader

/-! ## Patterns that fit one behind the other -/

/-- The patterns can be merged in this order, behind groups with the names `known`. -/
inductive Mergeable : List String → List Pattern → Prop where
  | nil (known : List String) : Mergeable known []
  | cons {known : List String} {p : Pattern} {ps : List Pattern} (hnumber : p.byNumber = false)
      (hfront : p.FlagsInFront) (hfresh : ∀ x ∈ p.names, x.1 ∉ known)
      (hrest : Mergeable (known ++ p.names.map Prod.fst) ps) : Mergeable known (p :: ps)

namespace Mergeable

variable {known : List String} {ps : List Pattern}

theorem unnumbered (h : Mergeable known ps) : ∀ p ∈ ps, p.byNumber = false := by
  induction h with
  | nil => exact fun p hp => absurd hp List.not_mem_nil
  | cons hnumber _ _ _ ih => exact List.forall_mem_cons.2 ⟨hnumber, ih⟩

/-- Patterns with one name each, all of them different. -/
theorem of_rules {rules : List Rule} : ∀ {known : List String},
    (∀ r ∈ rules, r.pattern.byNumber = false ∧ r.pattern.FlagsInFront ∧ ∃ g, r.pattern.names = [(r.name, g)]) →
    (Lexer.namesOf rules).Nodup → (∀ name ∈ Lexer.namesOf rules, name ∉ known) →
    Mergeable known (rules.map Rule.pattern) := by
  induction rules with
  | nil => exact fun _ _ _ => .nil _
  | cons r rest ih =>
    intro known hrules hnodup hnew
    obtain ⟨hnumber, hfront, g, hnames⟩ := hrules r List.mem_cons_self
    obtain ⟨hother, hnodup⟩ := List.nodup_cons.1 hnodup
    -- The names known to the rest are those known before and that of this rule.
    refine .cons hnumber hfront ?_ (ih (fun u hu => hrules u (List.mem_cons_of_mem r hu)) hnodup ?_)
    · rw [hnames]
      exact List.forall_mem_singleton.2 (hnew r.name List.mem_cons_self)
    · intro name hname hmem
      rw [hnames] at hmem
      rcases List.mem_append.1 hmem with hmem | hmem
      · exact hnew name (List.mem_cons_of_mem _ hname) hmem
      · rw [List.mem_singleton.1 hmem] at hname
        exact hother hname

end Mergeable

/-! ## Reading -/

namespace Composite

open Pattern

/-- The parts are read one after the other up to the end, and no condition mentions a group by its number. -/
theorem alternatives_run : ∀ (ps : List Pattern) {r : Reader}, ps ≠ [] → r.rest = sourceChars ps → r.flags = {} →
    r.lookbehind = none → r.mentioned = [] → Mergeable (r.names.map Prod.fst) ps →
    ∃ n items s, (alternatives false false n).run r = .ok (items, s) ∧ s.rest = [] ∧ s.mentioned = [] := by
  intro ps
  induction ps with
  | nil =>
    intro r hne
    exact absurd rfl hne
  | cons p rest ih =>
    intro r _ hrest hflags houtside hmentioned hmerge
    cases hmerge with
    | cons hnumber hfront hfresh hmerge =>
      have hfits : p.Fits r := by
        refine ⟨hnumber, hfront, fun x hx => List.lookup_eq_none_iff.2 fun y hy => ?_, houtside, hmentioned⟩
        rw [bne_iff_ne]
        intro hsame
        exact hfresh x hx (hsame ▸ List.mem_map_of_mem hy)
      rw [sourceChars_cons] at hrest
      obtain ⟨n, item, t, hitem⟩ := scoped_run hrest hflags (fun _ => behindPart_ends) hfits
      have hjoins := (scoped_ok hrest hflags (fun _ => behindPart_ends) hitem).1
      have hitem' := (Read.fueled n).sequence (8 * r.rest.length + 1) _ false [] (Nat.le_refl _) (Nat.le_refl _) hitem
      cases rest with
      | nil =>
        have hbar : Piece.first? t.rest ≠ some (.char '|') := by
          rw [hjoins.rest]
          exact fun h => nomatch h
        exact ⟨8 * r.rest.length + 1 + 1, [item], t, Read.bind_ok.2 ⟨item, t, hitem',
          furtherItems_run_ends false false item _ hbar⟩, hjoins.rest, hjoins.mentioned hfits⟩
      | cons q rest =>
        have hu := reaches_behindBar hjoins.rest
        have htoutside := ((sequence _ _ _).forward hitem).lookbehind.trans houtside
        have hknown : Mergeable (t.behindBar.names.map Prod.fst) (q :: rest) := by
          rw [hu.groups.names, hjoins.names hfits]
          exact hmerge
        obtain ⟨m, others, s, hothers, hends, hsmentioned⟩ := ih (List.cons_ne_nil _ _) hu.rest
          (hu.groups.flags.trans hjoins.flags) (hu.groups.lookbehind.trans htoutside)
          (hu.groups.mentioned.trans (hjoins.mentioned hfits)) hknown
        -- The bar is left behind, so less fuel is needed after it.
        have hless : t.behindBar.rest.length < r.rest.length := by
          have htlength := ((sequence _ _ _).forward hitem).rest.length_le
          rw [hjoins.rest] at htlength
          rw [hu.rest]
          exact htlength
        have hothers' :
            (alternatives t.flags.verbose false (8 * r.rest.length)).run t.behindBar = .ok (others, s) := by
          rw [hjoins.flags]
          exact (Read.fueled m).alternatives _ _ false false (by omega) (Nat.le_refl _) hothers
        have hwhole : sourceChars (q :: rest) ≠ ['\\'] := by
          rw [sourceChars_cons]
          exact ne_lone List.mem_cons_self (by decide)
        exact ⟨8 * r.rest.length + 1 + 1, item :: others, s, Read.bind_ok.2 ⟨item, t, hitem',
          furtherItems_run_bar false item hjoins.rest hwhole hothers'⟩, hends, hsmentioned⟩

end Composite

/-! ## Compiling -/

/-- A source whose alternatives are read to its end is read, unless something is wrong with what they yield. -/
theorem Reading.ofSource_run {source : String} {given flags : Flags} {n : Nat} {items : List (List Tree)}
    {s : Reader} (hwhole : source.toList ≠ ['\\'])
    (hread : (alternatives given.verbose false n).run (.start source given) = .ok (items, s)) (hends : s.rest = [])
    (hflags : settleFlags s.flags = .ok flags) (hmentioned : s.mentioned = [])
    (hsound : (Tree.ofList (joinAlternatives items)).fault? flags.template = none) :
    ofSource source given =
      .ok ⟨flags, .ofList (joinAlternatives items), s.widths.length, s.names, s.byNumber, s.flagGroups⟩ := by
  -- The steps of the reader one after the other; each goes on from `s`, which none of them changes.
  have hread' := (Read.fueled n).alternatives (8 * (source.toList.length + 2)) source.toList.length _ false
    (by omega) (Nat.le_refl _) hread
  have hconditions : checkConditions.run s = .ok ((), s) := by
    refine here_bind.2 ?_
    rw [hmentioned]
    rfl
  suffices hall : readAll.run (.start source given) =
      .ok (⟨flags, .ofList (joinAlternatives items), s.widths.length, s.names, s.byNumber, s.flagGroups⟩, s) from
    congrArg (Except.map Prod.fst) hall
  refine Read.bind_ok.2 ⟨(), _, checkDangling_ok.2 ⟨hwhole, rfl⟩, here_bind.2 (Read.bind_ok.2 ⟨items, s, hread', ?_⟩)⟩
  refine here_bind.2 (Read.bind_ok.2 ⟨flags, s, Read.ofExcept_ok.2 ⟨hflags, rfl⟩, ?_⟩)
  refine refuseIf_bind.2 ⟨by simp [hends], ?_⟩
  have htree : (checkTree flags.template (.ofList (joinAlternatives items))).run s = .ok ((), s) :=
    checkTree_ok.2 ⟨hsound, rfl⟩
  rw [Read.run_bind hconditions, Read.run_bind htree]
  rfl

/-- The parts of a composite pattern have no fault. -/
theorem Parted.sound {g : Nat} {ps : List Pattern} {ts : List Tree} (h : Parted g ps ts)
    (hnumber : ∀ p ∈ ps, p.byNumber = false) : ∀ t ∈ ts, t.fault? false = none := by
  induction h with
  | nil => exact fun t ht => absurd ht List.not_mem_nil
  | cons hbody _ ih =>
    obtain ⟨hp, hrest⟩ := List.forall_mem_cons.1 hnumber
    exact List.forall_mem_cons.2 ⟨hbody.sound hp, ih hrest⟩

namespace Composite

/-- Patterns that fit one behind the other are merged. -/
theorem exists_build {ps : List Pattern} (hne : ps ≠ []) (h : Mergeable [] ps) : ∃ c, build ps = .ok c := by
  have hrest : (Reader.start (sourceOf ps) {}).rest = sourceChars ps := sourceOf_toList ps
  have hwhole : (sourceOf ps).toList ≠ ['\\'] := by
    rw [sourceOf_toList]
    cases ps with
    | nil => exact absurd rfl hne
    | cons p rest =>
      rw [sourceChars_cons]
      exact ne_lone List.mem_cons_self (by decide)
  obtain ⟨n, items, s, hread, hends, hmentioned⟩ := alternatives_run ps hne hrest rfl rfl rfl h
  obtain ⟨hflags, -, ts, rfl, hparted⟩ := alternatives_ok ps n hread hne hrest rfl
  -- Without references by number the parts are sound in their new places.
  have hsound : (Tree.ofList (joinAlternatives (ts.map ([·])))).fault? false = none := by
    rw [hparted.joinAlternatives hne]
    exact Tree.fault?_ofAlternatives (hparted.sound h.unnumbered)
  have hsettled : Reading.settleFlags s.flags = .ok { unicode := true } := by
    rw [hflags]
    rfl
  have hread' : (alternatives ({} : Flags).verbose false n).run (.start (sourceOf ps) {}) = .ok (ts.map ([·]), s) :=
    hread
  have hreading := Reading.ofSource_run hwhole hread' hends hsettled hmentioned hsound
  have hcompiled : ∃ p, Pattern.compile (sourceOf ps) {} = .ok p := by
    unfold Pattern.compile
    split
    · exact ⟨_, rfl⟩
    · rename_i e he
      cases he.symm.trans hreading
  obtain ⟨p, hp⟩ := hcompiled
  unfold build
  split
  · exact ⟨_, rfl⟩
  · rename_i e he
    cases he.symm.trans hp

/-- Merged patterns keep no flags of the whole pattern. -/
theorem flagsInFront (c : Composite) : ∀ p ∈ c.parts, p.FlagsInFront := by
  intro p hp
  rcases Reading.ofSource_ok (Pattern.compile_ok c.isMerged) with ⟨fuel, items, s, hs⟩
  exact (alternatives_ok c.parts _ hs.read (List.ne_nil_of_mem hp) (sourceOf_toList c.parts) rfl).2.1 p hp

end Composite

/-! ## Rule lists -/

namespace Lexer

/-- Once the entries are checked, it is left to merge their rules. -/
theorem compile_checked {entries : List Entry} {given : List Rule} (h : (checkFrom [] 0 entries).result = .ok given) :
    (compile entries).result = ofRules given := by
  rw [compile, Logged.result_bind, h]
  show (Logged.ofExcept (ofRules given) >>= _).result = _
  rw [Logged.result_bind, Logged.result_ofExcept]
  cases ofRules given with
  | error e => rfl
  | ok lx => rfl

theorem fallback_mergeable : Rule.fallback.pattern.byNumber = false ∧ Rule.fallback.pattern.FlagsInFront := by
  decide +kernel

/-- Rules with one name each, all of them different, are merged if their patterns allow it. -/
theorem exists_ofRules {given : List Rule} (hnodup : (namesOf (withFallback given)).Nodup)
    (hnames : ∀ r ∈ given, ∃ g, r.pattern.names = [(r.name, g)])
    (hfit : ∀ r ∈ given, r.pattern.FlagsInFront ∧ r.pattern.byNumber = false) : ∃ lx, ofRules given = .ok lx := by
  have hrules : ∀ r ∈ withFallback given,
      r.pattern.byNumber = false ∧ r.pattern.FlagsInFront ∧ ∃ g, r.pattern.names = [(r.name, g)] := by
    intro r hr
    rcases List.mem_append.1 hr with hr | hr
    · exact ⟨(hfit r hr).2, (hfit r hr).1, hnames r hr⟩
    · rw [List.mem_singleton.1 hr]
      exact ⟨fallback_mergeable.1, fallback_mergeable.2, 1, rfl⟩
  have hne : (withFallback given).map Rule.pattern ≠ [] := by simp [withFallback]
  obtain ⟨c, hc⟩ := Composite.exists_build hne (.of_rules hrules hnodup fun _ _ => List.not_mem_nil)
  rcases ofRules_cases given with ⟨lx, hlx, -⟩ | ⟨failure, hfailure⟩
  · exact ⟨lx, hlx⟩
  · cases hc.symm.trans (ofRules_eq_error.1 hfailure)

/-- A list that passes the checks compiles if its patterns can be merged. -/
theorem exists_compile {entries : List Entry} {given : List Rule} (h : (checkFrom [] 0 entries).result = .ok given)
    (hfit : ∀ r ∈ given, r.pattern.FlagsInFront ∧ r.pattern.byNumber = false) :
    ∃ lx, (compile entries).result = .ok lx ∧ lx.given = given := by
  obtain ⟨lx, hlx⟩ := exists_ofRules (checkFrom_withFallback h) (checkFrom_named h) hfit
  refine ⟨lx, (compile_checked h).trans hlx, ?_⟩
  rcases ofRules_cases given with ⟨lx', hlx', hgiven⟩ | ⟨failure, hfailure⟩
  · cases hlx.symm.trans hlx'
    exact hgiven
  · cases hlx.symm.trans hfailure

/-- The patterns of a lexer keep no flags of the whole pattern. -/
theorem flagsInFront (lx : Lexer) : ∀ r ∈ lx.given, r.pattern.FlagsInFront := by
  intro r hr
  apply lx.composite.flagsInFront
  rw [lx.isOfRules]
  exact List.mem_map_of_mem (List.mem_append_left _ hr)

/-- Each rule has an entry that stands for it, and each entry stands for a rule. -/
theorem standsFor_mem {vs : List Value} {given : List Rule} (h : Forall₂ Value.StandsFor vs given) :
    (∀ v ∈ vs, ∃ r ∈ given, v.StandsFor r) ∧ ∀ r ∈ given, ∃ v ∈ vs, v.StandsFor r := by
  induction h with
  | nil => exact ⟨fun v hv => absurd hv List.not_mem_nil, fun r hr => absurd hr List.not_mem_nil⟩
  | @cons v r vs given hvr _ ih =>
    constructor
    · refine List.forall_mem_cons.2 ⟨⟨r, List.mem_cons_self, hvr⟩, fun u hu => ?_⟩
      obtain ⟨q, hq, huq⟩ := ih.1 u hu
      exact ⟨q, List.mem_cons_of_mem r hq, huq⟩
    · refine List.forall_mem_cons.2 ⟨⟨v, List.mem_cons_self, hvr⟩, fun q hq => ?_⟩
      obtain ⟨u, hu, huq⟩ := ih.2 q hq
      exact ⟨u, List.mem_cons_of_mem v hu, huq⟩

/-- The entries got through the checks: what fails, if anything, is their merged pattern. -/
def isPastChecks : Except Fault Lexer → Bool
  | .error (.pattern _) | .ok _ => true
  | _ => false

/-- Entries are good if they get through the checks. -/
theorem allGood_of_isPastChecks {vs : List Value} (hproper : ∀ v ∈ vs, v.IsProper)
    (h : isPastChecks (compileValue (.list vs)).result = true) : Value.AllGood [] vs := by
  intro i v hv hbad
  obtain ⟨e, he, hpattern⟩ := (exists_compileValue_error hproper).2 ⟨i, v, hv, hbad⟩
  rw [he] at h
  cases e with
  | pattern failure => exact hpattern failure rfl
  | _ => cases h

/-- Good entries pass the checks, and all that can be wrong with them is their merged pattern. They compile together
only if no pattern keeps flags of the whole pattern when the group of such flags at its front is dropped, and they do
if moreover none refers to groups by number. -/
theorem compile_merges (vs : List Value) (hproper : ∀ v ∈ vs, v.IsProper) (hgood : Value.AllGood [] vs) :
    (∃ given, (checkFrom [] 0 (vs.map Entry.ofValue)).result = .ok given) ∧
    (∀ e, (compileValue (.list vs)).result = .error e → ∃ failure, e = .pattern failure) ∧
    ((∃ lx, (compileValue (.list vs)).result = .ok lx) →
      ∀ v ∈ vs, ∀ p, v.entryPattern? = some p → p.FlagsInFront) ∧
    ((∀ v ∈ vs, ∀ p, v.entryPattern? = some p → p.FlagsInFront ∧ p.byNumber = false) →
      ∃ lx, (compileValue (.list vs)).result = .ok lx) := by
  obtain ⟨given, hgiven, hstands⟩ : ∃ given, (checkFrom [] 0 (vs.map Entry.ofValue)).result = .ok given ∧
      Forall₂ Value.StandsFor vs given := by
    rcases compile_cases hproper with ⟨-, hchecked⟩ | ⟨e, i, v, -, hbad, -⟩
    · exact hchecked
    · exact absurd hbad.2.1 (hgood i v hbad.1)
  have hresult : (compileValue (.list vs)).result = ofRules given := by
    rw [compileValue_list, compile_checked hgiven]
  rw [hresult]
  refine ⟨⟨given, hgiven⟩, ?_, ?_, ?_⟩
  · intro e he
    rcases ofRules_cases given with ⟨lx, hlx, -⟩ | ⟨failure, hfailure⟩
    · cases hlx.symm.trans he
    · cases hfailure.symm.trans he
      exact ⟨failure, rfl⟩
  · rintro ⟨lx, hlx⟩ v hv p hp
    have hsame : lx.given = given := by
      rcases ofRules_cases given with ⟨lx', hlx', hgiven'⟩ | ⟨failure, hfailure⟩
      · cases hlx.symm.trans hlx'
        exact hgiven'
      · cases hfailure.symm.trans hlx
    obtain ⟨r, hr, hvr⟩ := (standsFor_mem hstands).1 v hv
    cases hp.symm.trans hvr.pattern
    exact lx.flagsInFront r (hsame ▸ hr)
  · intro hfit
    apply exists_ofRules (checkFrom_withFallback hgiven)
    · intro r hr
      obtain ⟨v, hv, hvr⟩ := (standsFor_mem hstands).2 r hr
      exact hvr.name
    · intro r hr
      obtain ⟨v, hv, hvr⟩ := (standsFor_mem hstands).2 r hr
      exact hfit v hv r.pattern hvr.pattern

/-- Flags of the whole pattern in front of the first pattern. -/
def flagsOnce : List Value := [.str "(?i)(?P<A>a)", .str "(?P<B>b)"]

theorem compile_merges_flagsOnce :
    (∀ v ∈ flagsOnce, v.IsProper) ∧ Value.AllGood [] flagsOnce ∧
      ∃ lx, (compileValue (.list flagsOnce)).result = .ok lx := by
  have hsources : ∀ s ∈ ["(?i)(?P<A>a)", "(?P<B>b)"], (Pattern.compile s {}).toOption.isSome = true ∧
      (Pattern.compile s {}).toOption.all (fun p => decide p.FlagsInFront && !p.byNumber) = true := by
    decide +kernel
  have hsource : ∀ v ∈ flagsOnce, ∃ s ∈ ["(?i)(?P<A>a)", "(?P<B>b)"], v = .str s := by
    simp [flagsOnce]
  have hproper : ∀ v ∈ flagsOnce, v.IsProper := by
    intro v hv
    obtain ⟨s, hs, rfl⟩ := hsource v hv
    exact isProper_source rfl (hsources s hs).1
  have hgood : Value.AllGood [] flagsOnce := allGood_of_isPastChecks hproper (by decide +kernel)
  refine ⟨hproper, hgood, (compile_merges flagsOnce hproper hgood).2.2.2 fun v hv p hp => ?_⟩
  obtain ⟨s, hs, rfl⟩ := hsource v hv
  have hpattern : (Pattern.compile s {}).toOption = some p := hp
  have hfit := (hsources s hs).2
  rw [hpattern] at hfit
  simpa using hfit

/-- Two groups of flags of the whole pattern, one behind the other. -/
def flagsTwice : List Value := [.str "(?i)(?s)(?P<A>a)"]

/-- Alone the pattern compiles. In the composite pattern its second group of flags is not at the start. -/
theorem compile_refuses_flagsTwice :
    (∀ v ∈ flagsTwice, v.IsProper) ∧ Value.AllGood [] flagsTwice ∧
      ∃ source, (compileValue (.list flagsTwice)).result =
        .error (.pattern (.invalid ⟨.misplacedFlags, source, some 6⟩)) := by
  have hproper : ∀ v ∈ flagsTwice, v.IsProper := by
    intro v hv
    rw [List.mem_singleton.1 hv]
    exact isProper_source rfl (by decide +kernel)
  refine ⟨hproper, allGood_of_isPastChecks hproper (by decide +kernel), ?_⟩
  have hrefused : (match (compileValue (.list flagsTwice)).result with
      | .error (.pattern (.invalid e)) => some (e.cause, e.pos)
      | _ => none) = some (.misplacedFlags, some 6) := by
    decide +kernel
  split at hrefused
  · rename_i e he
    rcases e with ⟨cause, source, pos⟩
    cases hrefused
    exact ⟨source, he⟩
  · cases hrefused

end Lexer

end PatternLexer
