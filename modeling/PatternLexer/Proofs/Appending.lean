import PatternLexer.Proofs.Part.Behind
import PatternLexer.Proofs.Options
import PatternLexer.Proofs.Unmatched

/-!
# Rules of lower priority

A rule at the end of a list comes to bear only where the rules before it do not.

* `Composite.branches_common`: composite patterns that begin with the same parts have the same branches for these,
  references by number included, since a part is read without a look at what stands behind it.
* `Lexer.probe_append`: a step that takes one of the rules before takes the same with the rule added, be it the first
  match of the composite pattern or one tried after an empty match.
* `Lexer.Scans.given_append`: so do all steps up to the first that takes the rule of last resort or nothing.
* `Lexer.compile_append` puts them together.
-/

namespace PatternLexer

open Reader Pattern

/-! ## Branches for common parts -/

namespace Composite

section Reading

variable {n n' : Nat} {r r' s s' t t' : Reader}

/-- A part is read alike in two lists if others come behind it in both. -/
theorem part_common {p : Pattern} {ps ps' : List Pattern} {item item' : List Tree} (hne : ps ≠ []) (hne' : ps' ≠ [])
    (hitem : (sequence false [] n).run r = .ok (item, t)) (hitem' : (sequence false [] n').run r' = .ok (item', t'))
    (hrest : r.rest = sourceChars (p :: ps)) (hrest' : r'.rest = sourceChars (p :: ps')) (hflags : r.flags = {})
    (hsame : r' = { r with rest := r'.rest, source := r'.source }) :
    item = item' ∧ t.rest = '|' :: sourceChars ps ∧ t'.rest = '|' :: sourceChars ps' ∧ t.flags = {} ∧
      t' = { t with rest := t'.rest, source := t'.source } := by
  rw [sourceChars_cons] at hrest hrest'
  obtain ⟨hjoins, -⟩ := scoped_ok hrest hflags (fun _ => behindPart_ends) hitem
  have htrest := hjoins.rest
  rw [behindPart_of_ne_nil hne] at htrest hrest
  rw [behindPart_of_ne_nil hne'] at hrest'
  -- The bar behind the part is the last character that the sources have in common.
  let k : Fork := ⟨sourceChars ps, sourceChars ps'⟩
  have hbeside : k.Beside r r' := by
    refine ⟨'(' :: (p.scopedSource.toList ++ [')']), r'.source, by simp [hrest, k], ?_⟩
    rw [hsame, hrest']
    simp [k]
  have hbar : '|' :: k.rest <:+ t.rest := ⟨[], htrest.symm⟩
  obtain ⟨hitems, ht⟩ := hbeside.sequence hitem hitem' hbar
  exact ⟨hitems, htrest, ht.at_bar htrest, hjoins.flags, ht.same⟩

/-- Lists of parts that begin with the same are read alike as far as they are the same. -/
theorem alternatives_common {q q' : Pattern} {rest rest' : List Pattern} : ∀ (common : List Pattern) (n n' : Nat)
    {r r' s s' : Reader} {items items' : List (List Tree)},
    (alternatives false false n).run r = .ok (items, s) → (alternatives false false n').run r' = .ok (items', s') →
    r.rest = sourceChars (common ++ q :: rest) → r'.rest = sourceChars (common ++ q' :: rest') → r.flags = {} →
    r' = { r with rest := r'.rest, source := r'.source } →
    items'.take common.length = items.take common.length := by
  intro common
  induction common with
  | nil =>
    intro n n' r r' s s' items items' _ _ _ _ _ _
    rfl
  | cons p common ih =>
    intro n n' r r' s s' items items' h h' hrest hrest' hflags hsame
    cases n with
    | zero => exact absurd h (refuse_refuses _ _ _ _ _)
    | succ n =>
      cases n' with
      | zero => exact absurd h' (refuse_refuses _ _ _ _ _)
      | succ n' =>
        rcases Read.bind_ok.1 h with ⟨item, t, hitem, hfurther⟩
        rcases Read.bind_ok.1 h' with ⟨item', t', hitem', hfurther'⟩
        have hne : common ++ q :: rest ≠ [] := List.append_ne_nil_of_right_ne_nil _ (List.cons_ne_nil _ _)
        have hne' : common ++ q' :: rest' ≠ [] := List.append_ne_nil_of_right_ne_nil _ (List.cons_ne_nil _ _)
        obtain ⟨rfl, ht, ht', htflags, htsame⟩ := part_common hne hne' hitem hitem' hrest hrest' hflags hsame
        -- Behind the bar the other parts follow in both lists.
        rcases furtherItems_bar ht hfurther with ⟨m, others, rfl, hothers⟩
        rcases furtherItems_bar ht' hfurther' with ⟨m', others', rfl, hothers'⟩
        have hu := reaches_behindBar ht
        have hu' := reaches_behindBar ht'
        have htflags' : t'.flags = {} := by
          rw [htsame]
          exact htflags
        have hbehind : t'.behindBar =
            { t.behindBar with rest := t'.behindBar.rest, source := t'.behindBar.source } := by
          rw [htsame]
          rfl
        rw [htflags] at hothers
        rw [htflags'] at hothers'
        have hmore := ih m m' hothers hothers' hu.rest hu'.rest (hu.groups.flags.trans htflags) hbehind
        rw [List.length_cons, List.take_succ_cons, List.take_succ_cons, hmore]

end Reading

/-- Composite patterns have the same branches for the parts with which both begin. -/
theorem branches_common {c c' : Composite} {common rest rest' : List Pattern} {q q' : Pattern}
    (hparts : c.parts = common ++ q :: rest) (hparts' : c'.parts = common ++ q' :: rest') :
    c'.branches.take common.length = c.branches.take common.length := by
  have hne : c.parts ≠ [] := hparts ▸ List.append_ne_nil_of_right_ne_nil _ (List.cons_ne_nil _ _)
  have hne' : c'.parts ≠ [] := hparts' ▸ List.append_ne_nil_of_right_ne_nil _ (List.cons_ne_nil _ _)
  rcases c.reads hne with ⟨n, s, hread, -⟩
  rcases c'.reads hne' with ⟨n', s', hread', -⟩
  have hrest : (Reader.start (sourceOf c.parts) {}).rest = sourceChars (common ++ q :: rest) := by
    rw [← hparts]
    exact sourceOf_toList c.parts
  have hrest' : (Reader.start (sourceOf c'.parts) {}).rest = sourceChars (common ++ q' :: rest') := by
    rw [← hparts']
    exact sourceOf_toList c'.parts
  have hitems := alternatives_common common n n' hread hread' hrest hrest' rfl rfl
  rw [← List.map_take, ← List.map_take] at hitems
  have hinjective : Function.Injective fun t : Tree => [t] := fun t u h => List.singleton_inj.1 h
  exact List.map_injective_iff.2 hinjective hitems

end Composite

/-! ## Steps -/

/-- The first match, if it is among the first `n`, does not depend on those behind. -/
theorem Subject.firstMatch_take {text : Subject} {pos index n : Nat} {ends ends' : List (Option Nat)} {m : RuleMatch}
    (hends : ends'.take n = ends.take n) (hm : text.firstMatch pos index ends = some m) (hlt : m.index < index + n) :
    text.firstMatch pos index ends' = some m := by
  have hsame : ∀ i < n, ends'[i]? = ends[i]? := by
    intro i hi
    rw [← List.getElem?_take_of_lt hi, hends, List.getElem?_take_of_lt hi]
  rw [firstMatch_some] at hm ⊢
  rcases hm with ⟨j, stop, hstop, hbefore, rfl⟩
  have hj : j < n := Nat.lt_of_add_lt_add_left hlt
  refine ⟨j, stop, (hsame j hj).trans hstop, fun i hi => ?_, rfl⟩
  exact (hsame i (Nat.lt_trans hi hj)).trans (hbefore i hi)

namespace Lexer

variable {lx lx' : Lexer} {r : Rule} {text : Subject} {pos stop stop' : Nat} {ps qs : List Probe} {m : RuleMatch}

/-- The step takes one of the rules given. -/
def takesGiven (lx : Lexer) (p : Probe) : Bool := p.found.any fun m => m.index < lx.given.length

/-- The steps of a scan up to the first that takes the rule of last resort or nothing. -/
def givenSteps (lx : Lexer) (text : Subject) : List Probe := (lx.trace text).takeWhile lx.takesGiven

section Append

variable (hgiven : lx'.given = lx.given ++ [r])
include hgiven

theorem rules_append : lx'.rules.take lx.given.length = lx.rules.take lx.given.length := by
  simp [rules, withFallback, hgiven]

theorem getElem?_rules_append {i : Nat} (hi : i < lx.given.length) : lx'.rules[i]? = lx.rules[i]? := by
  rw [← List.getElem?_take_of_lt hi, rules_append hgiven, List.getElem?_take_of_lt hi]

theorem ends_append (text : Subject) (pos : Nat) :
    (lx'.composite.ends text pos).take lx.given.length = (lx.composite.ends text pos).take lx.given.length := by
  have hparts : lx.composite.parts = lx.given.map Rule.pattern ++ Rule.fallback.pattern :: [] := by
    rw [lx.isOfRules]
    simp [withFallback]
  have hparts' : lx'.composite.parts =
      lx.given.map Rule.pattern ++ r.pattern :: [Rule.fallback.pattern] := by
    rw [lx'.isOfRules, hgiven]
    simp [withFallback]
  have hbranches := Composite.branches_common hparts hparts'
  rw [List.length_map] at hbranches
  rw [Composite.ends, Composite.ends, ← List.map_take, ← List.map_take, hbranches]

/-- A step that takes one of the rules before takes the same one with the rule added. -/
theorem probe_append (hpos : pos ≤ text.size) (hfound : (lx.probe text pos).found = some m)
    (hm : m.index < lx.given.length) :
    lx'.probe text pos = lx.probe text pos ∧
      ∀ i, (lx.probe text pos).bypassed = some i → i < lx.given.length := by
  unfold probe at hfound ⊢
  rw [Composite.matchAt_eq parts_ne_nil hpos] at hfound ⊢
  rw [Composite.matchAt_eq parts_ne_nil hpos]
  cases hfirst : text.firstMatch pos 0 (lx.composite.ends text pos) with
  | none =>
    rw [hfirst] at hfound
    cases hfound
  | some first =>
    simp only [hfirst] at hfound ⊢
    have hkeeps : first.index < lx.given.length →
        text.firstMatch pos 0 (lx'.composite.ends text pos) = some first := fun hlt =>
      Subject.firstMatch_take (ends_append hgiven text pos) hfirst (by omega)
    by_cases hmoves : first.start < first.stop
    · -- The first match is the one taken.
      rw [if_pos hmoves] at hfound
      cases hfound
      simp only [hkeeps hm, if_pos hmoves]
      exact ⟨trivial, nofun⟩
    · -- It is empty, and one of the later rules before the last is taken.
      simp only [if_neg hmoves, firstOwnMatch?_eq] at hfound
      have hlt : first.index < m.index := by
        rcases (Subject.firstMatch_some _).1 hfound with ⟨j, _, -, -, rfl⟩
        show first.index < first.index + 1 + j
        omega
      have hmore : ((lx'.rules.drop (first.index + 1)).map fun r => r.moveEnd text pos).take
            (lx.given.length - (first.index + 1)) =
          ((lx.rules.drop (first.index + 1)).map fun r => r.moveEnd text pos).take
            (lx.given.length - (first.index + 1)) := by
        rw [← List.map_take, ← List.map_take, ← List.drop_take, ← List.drop_take, rules_append hgiven]
      have hsame := Subject.firstMatch_take hmore hfound (by omega)
      simp only [hkeeps (by omega), if_neg hmoves, firstOwnMatch?_eq, hfound, hsame]
      refine ⟨trivial, fun i hi => ?_⟩
      cases hi
      omega

theorem emit_append (hm : m.index < lx.given.length) (place : Place) : lx'.emit place m = lx.emit place m := by
  have hlast : m.index ≠ lx.fallbackIndex := by
    rw [fallbackIndex_eq]
    omega
  have hlast' : m.index ≠ lx'.fallbackIndex := by
    rw [fallbackIndex_eq, hgiven, List.length_append]
    omega
  unfold emit
  simp only [getElem?_rules_append hgiven hm, if_neg hlast, if_neg hlast']

theorem bypassRecords_append {p : Probe} (hp : ∀ i, p.bypassed = some i → i < lx.given.length) (pos : Nat) :
    lx'.bypassRecords pos p = lx.bypassRecords pos p := by
  unfold bypassRecords
  cases hbypassed : p.bypassed with
  | none => rfl
  | some i => simp only [getElem?_rules_append hgiven (hp i hbypassed)]

/-! ## Runs -/

/-- The steps of a run up to the first that takes the rule of last resort or nothing are steps of the run with the
rule added, and they make the same tokens, the same fault and the same records. -/
theorem Scans.given_append (h : lx.Scans text pos ps stop) (hpos : pos ≤ text.size) :
    ∀ {qs : List Probe} {stop' : Nat}, lx'.Scans text pos qs stop' →
      ps.takeWhile lx.takesGiven <+: qs ∧
      ∀ place, lx'.emitAll place pos (ps.takeWhile lx.takesGiven) =
        lx.emitAll place pos (ps.takeWhile lx.takesGiven) := by
  induction h with
  | stop hfound =>
    intro qs stop' _
    rw [List.takeWhile_cons_of_neg (by simp [takesGiven, hfound])]
    exact ⟨List.nil_prefix, fun _ => rfl⟩
  | @step pos stop m ps hfound hrest ih =>
    intro qs stop' h'
    by_cases hm : m.index < lx.given.length
    · obtain ⟨hprobe, hbypassed⟩ := probe_append hgiven hpos hfound hm
      have hfound' := hfound
      rw [← hprobe] at hfound'
      rw [List.takeWhile_cons_of_pos (by simp [takesGiven, hfound, hm])]
      obtain ⟨qs, rfl, hrest'⟩ := h'.of_found hfound'
      obtain ⟨hfront, hemit⟩ := ih (probe_moves hpos hfound).inside hrest'
      refine ⟨List.cons_prefix_cons.2 ⟨hprobe.symm, hfront⟩, fun place => ?_⟩
      simp only [emitAll, hfound, bypassRecords_append hgiven hbypassed, emit_append hgiven hm, hemit]
    · rw [List.takeWhile_cons_of_neg (by simp [takesGiven, hfound, Nat.not_lt.1 hm])]
      exact ⟨List.nil_prefix, fun _ => rfl⟩

end Append

/-- A match of the rule of last resort makes an error token. -/
theorem emit_fallback (hm : m.index = lx.fallbackIndex) (place : Place) :
    ∃ t, lx.emit place m = .ok (some t) ∧ t.type = .str errorName := by
  have hr : lx.rules[m.index]? = some Rule.fallback := by
    rw [hm]
    exact rules_last
  exact ⟨_, emit_emitted hr rfl, tokenOf_type hr place _⟩

/-- The tokens of a run without error tokens are the first ones with the rule added, and all of them if the run goes
to the end of the text. -/
theorem Scans.tokens_append (hgiven : lx'.given = lx.given ++ [r]) (h : lx.Scans text pos ps stop)
    (hpos : pos ≤ text.size) : ∀ {qs : List Probe} {stop' : Nat}, lx'.Scans text pos qs stop' →
      ∀ {place : Place} {n : Int}, place.line = .int n →
        (∀ t ∈ (lx.emitAll place pos ps).tokens, t.type ≠ .str errorName) →
        (lx.emitAll place pos ps).tokens <+: (lx'.emitAll place pos qs).tokens ∧
        (stop = text.size → (lx'.emitAll place pos qs).tokens = (lx.emitAll place pos ps).tokens) := by
  induction h with
  | @stop pos hfound =>
    intro qs stop' h' place n _ _
    simp only [emitAll, hfound]
    refine ⟨List.nil_prefix, fun hend => ?_⟩
    cases h' with
    | stop hnone => simp only [emitAll, hnone]
    | step hother _ =>
      -- At the end of the text no step moves on.
      have hmove := probe_moves hpos hother
      have := hmove.moves
      have := hmove.inside
      omega
  | @step pos stop m ps hfound hrest ih =>
    intro qs stop' h' place n hline herror
    have hmove := probe_moves hpos hfound
    rcases Place.after_int hline m with ⟨next, k, hnext, hline'⟩
    by_cases hm : m.index < lx.given.length
    · obtain ⟨hprobe, -⟩ := probe_append hgiven hpos hfound hm
      have hfound' := hfound
      rw [← hprobe] at hfound'
      obtain ⟨qs, rfl, hrest'⟩ := h'.of_found hfound'
      simp only [emitAll, hfound, hfound', hnext, emit_append hgiven hm] at herror ⊢
      cases htoken : lx.emit next m with
      | error e =>
        exact ⟨List.prefix_refl _, fun _ => rfl⟩
      | ok token =>
        simp only [htoken] at herror ⊢
        obtain ⟨hfront, hall⟩ := ih hmove.inside hrest' hline' fun t ht => herror t (List.mem_append_right _ ht)
        refine ⟨(List.prefix_append_right_inj _).2 hfront, fun hend => ?_⟩
        rw [hall hend]
    · -- The rule of last resort would make an error token.
      have hlast : m.index = lx.fallbackIndex := by
        by_contra hne
        exact hm (given_of_ne_fallback (List.getElem?_eq_getElem hmove.ofRule) hne).1
      rcases emit_fallback hlast next with ⟨t, ht, htype⟩
      simp only [emitAll, hfound, hnext, ht] at herror
      exact absurd htype (herror t (List.mem_append_left _ (List.mem_singleton.2 rfl)))

/-- The tokens of the first steps are the first tokens. -/
theorem emitAll_tokens_prefix {steps : List Probe} : ∀ {ps : List Probe}, steps <+: ps → ∀ (place : Place) (pos : Nat),
    (lx.emitAll place pos steps).tokens <+: (lx.emitAll place pos ps).tokens := by
  induction steps with
  | nil =>
    intro ps _ place pos
    exact List.nil_prefix
  | cons p steps ih =>
    intro ps hfront place pos
    cases ps with
    | nil => cases List.prefix_nil.1 hfront
    | cons q ps =>
      obtain ⟨rfl, hmore⟩ := List.cons_prefix_cons.1 hfront
      cases hfound : p.found with
      | none =>
        simp only [emitAll, hfound]
        exact List.prefix_refl _
      | some m =>
        cases hnext : place.after m with
        | error e =>
          simp only [emitAll, hfound, hnext]
          exact List.prefix_refl _
        | ok next =>
          cases htoken : lx.emit next m with
          | error e =>
            simp only [emitAll, hfound, hnext, htoken]
            exact List.prefix_refl _
          | ok token =>
            simp only [emitAll, hfound, hnext, htoken]
            exact (List.prefix_append_right_inj _).2 (ih hmore next m.stop)

/-! ## Rule lists -/

/-- The rules of a longer list are those of the shorter one and those added. -/
theorem checkFrom_append {entries : List Entry} {e : Entry} {given given' : List Rule}
    (h : (checkFrom [] 0 entries).result = .ok given) (h' : (checkFrom [] 0 (entries ++ [e])).result = .ok given') :
    ∃ r, given' = given ++ [r] := by
  have hrules : given'.map some = given.map some ++ [e.rule?] := by
    rw [← checkFrom_rules h', List.map_append, checkFrom_rules h, List.map_singleton]
  obtain ⟨front, back, rfl, hfront, hback⟩ := List.map_eq_append_iff.1 hrules
  obtain ⟨r, rfl, -⟩ := List.map_eq_singleton_iff.1 hback
  exact ⟨r, congrArg (· ++ [r]) (List.map_injective_iff.2 (fun _ _ => Option.some.inj) hfront)⟩

/-- With an entry added at its end a list compiles to the same rules and one more, which is taken only where none of
them is. The steps of a scan up to the first that takes the rule of last resort or nothing are the same with the rule
added, as are the rules they take and the tokens, faults and records that they make. If there are no error tokens,
the tokens are the first ones with the rule added, and all of them if the whole text is scanned. -/
theorem compile_append (entries : List Entry) (e : Entry) (lx lx' : Lexer)
    (hcompiled : (compile entries).result = .ok lx) (hcompiled' : (compile (entries ++ [e])).result = .ok lx')
    (s : String) (line : Int) :
    ∃ (text : Subject) (steps : List Probe) (place : Place) (o o' : ScanOutcome) (stop : Nat),
      text = s.toList.toArray ∧ steps = lx.givenSteps text ∧ place = ⟨.int line, 0⟩ ∧
      o = lx.scanValue (.str s) (.int line) ∧ o' = lx'.scanValue (.str s) (.int line) ∧
      lx.Scans text 0 (lx.trace text) stop ∧ (∃ r, lx'.given = lx.given ++ [r]) ∧
      steps <+: lx.trace text ∧ steps <+: lx'.trace text ∧
      (∀ p ∈ steps, ∃ m, p.found = some m ∧ lx'.rules[m.index]? = lx.rules[m.index]?) ∧
      lx'.emitAll place 0 steps = lx.emitAll place 0 steps ∧
      (lx.emitAll place 0 steps).tokens <+: o.tokens ∧ (lx.emitAll place 0 steps).tokens <+: o'.tokens ∧
      ((∀ t ∈ o.tokens, t.type ≠ .str errorName) →
        o.tokens <+: o'.tokens ∧ (stop = text.size → o'.tokens = o.tokens)) ∧
      ((∀ m ∈ lx.matchesOf text, lx.HookReturns m) →
        (lx.tokenize (.str s) (.int line)).result = .ok o.tokens) ∧
      ((∀ m ∈ lx'.matchesOf text, lx'.HookReturns m) →
        (lx'.tokenize (.str s) (.int line)).result = .ok o'.tokens) := by
  let text : Subject := s.toList.toArray
  obtain ⟨r, hgiven⟩ := checkFrom_append (compile_ok hcompiled).1 (compile_ok hcompiled').1
  rcases lx.trace_scans text with ⟨stop, hscans⟩
  rcases lx'.trace_scans text with ⟨stop', hscans'⟩
  obtain ⟨hsteps, hemit⟩ : lx.givenSteps text <+: lx'.trace text ∧
      ∀ place, lx'.emitAll place 0 (lx.givenSteps text) = lx.emitAll place 0 (lx.givenSteps text) :=
    hscans.given_append hgiven (Nat.zero_le _) hscans'
  have hsteps₀ : lx.givenSteps text <+: lx.trace text := List.takeWhile_prefix _
  refine ⟨text, lx.givenSteps text, ⟨.int line, 0⟩, _, _, stop, rfl, rfl, rfl, rfl, rfl, hscans, ⟨r, hgiven⟩, hsteps₀,
    hsteps, fun p hp => ?_, hemit _, emitAll_tokens_prefix hsteps₀ _ 0, ?_, ?_, ?_, ?_⟩
  · have htakes := List.mem_takeWhile_imp hp
    rcases (Option.any_eq_true _ _).1 htakes with ⟨m, hm, hlt⟩
    exact ⟨m, hm, getElem?_rules_append hgiven (of_decide_eq_true hlt)⟩
  · rw [← hemit]
    exact emitAll_tokens_prefix hsteps _ 0
  · exact hscans.tokens_append hgiven (Nat.zero_le _) hscans' rfl
  · exact fun hhooks => tokenize_ok.2 ⟨hscans.emitAll_fault hhooks rfl, rfl⟩
  · exact fun hhooks => tokenize_ok.2 ⟨hscans'.emitAll_fault hhooks rfl, rfl⟩

/-- With a rule for words added, the blanks in front of a word are still taken first. -/
theorem compile_append_words :
    ∃ lx lx', (compile quotedRules).result = .ok lx ∧
      (compile (quotedRules ++ [.bare (.source "(?P<WORD>[a-z]+)")])).result = .ok lx' ∧
      lx.givenSteps "  ab".toList.toArray = [⟨some ⟨0, "  ", 0, 2⟩, none⟩] ∧
      [⟨some ⟨0, "  ", 0, 2⟩, none⟩] <+: lx'.trace "  ab".toList.toArray := by
  obtain ⟨lx, hlx, hcheck⟩ := Logged.exists_ok (compile quotedRules)
    (fun lx => lx.givenSteps "  ab".toList.toArray == [⟨some ⟨0, "  ", 0, 2⟩, none⟩])
    (by decide +kernel)
  obtain ⟨lx', hlx', -⟩ := Logged.exists_ok
    (compile (quotedRules ++ [.bare (.source "(?P<WORD>[a-z]+)")])) (fun _ => true) (by decide +kernel)
  obtain ⟨_, _, _, _, _, _, rfl, rfl, -, -, -, -, -, -, hsteps, -⟩ := compile_append _ _ lx lx' hlx hlx' "  ab" 1
  rw [beq_iff_eq] at hcheck
  rw [hcheck] at hsteps
  exact ⟨lx, lx', hlx, hlx', hcheck, hsteps⟩

end Lexer

end PatternLexer
