import Mathlib.Logic.Equiv.Basic
import PatternLexer.Proofs.Merging
import PatternLexer.Proofs.Pulling
import PatternLexer.Proofs.Unmatched

/-!
# Rules that compete

The order of two rules that stand side by side in a list only matters where they compete, that is where both have a
match that is not empty. A rule that matches the empty text may send a step on other ways than before, but it does not
take the step.

* `Subject.firstMatch_swap`: of two matches side by side one is missing, so that the first match is the same.
* `Lexer.probe_swapped` and `Lexer.emit_swapped`: the same steps are found, of the same rules, and the same tokens made.
* `Lexer.Scans.swapped`: so it is along a run.
* `Lexer.checkFrom_swapped`: the list with the two entries in each other's places passes the checks too.
* `Lexer.compile_swapped` puts them together.
-/

namespace PatternLexer

/-! ## First matches -/

/-- The same match, when the rules at `i` and `i + 1` have changed places. -/
def RuleMatch.swapped (i : Nat) (m : RuleMatch) : RuleMatch := { m with index := Equiv.swap i (i + 1) m.index }

theorem RuleMatch.swapped_of_ne {i : Nat} {m : RuleMatch} (h : m.index ≠ i) (h' : m.index ≠ i + 1) :
    m.swapped i = m := by
  rw [swapped, Equiv.swap_apply_of_ne_of_ne h h']

namespace Subject

variable {text : Subject} {pos : Nat}

theorem le_index_of_firstMatch {index : Nat} {ends : List (Option Nat)} {m : RuleMatch}
    (h : text.firstMatch pos index ends = some m) : index ≤ m.index := by
  obtain ⟨j, stop, -, -, rfl⟩ := (firstMatch_some index).1 h
  exact Nat.le_add_right index j

/-- Two neighbours can change places if one of them does not match. -/
theorem firstMatch_swap {x y : Option Nat} (h : x = none ∨ y = none) (front back : List (Option Nat)) :
    ∀ index, text.firstMatch pos index (front ++ y :: x :: back) =
      (text.firstMatch pos index (front ++ x :: y :: back)).map (RuleMatch.swapped (index + front.length)) := by
  induction front with
  | nil =>
    intro index
    cases x with
    | none =>
      cases y with
      | none =>
        -- Neither matches, and the matches behind them are not concerned.
        have hback : ∀ m ∈ text.firstMatch pos (index + 1 + 1) back, m.swapped index = m := by
          intro m hm
          have hle := le_index_of_firstMatch hm
          exact RuleMatch.swapped_of_ne (by omega) (by omega)
        simp only [List.nil_append, firstMatch, List.length_nil, Nat.add_zero]
        cases hfirst : text.firstMatch pos (index + 1 + 1) back with
        | none => rfl
        | some m => rw [Option.map_some, hback m hfirst]
      | some stop => simp [firstMatch, RuleMatch.swapped]
    | some stop =>
      obtain rfl : y = none := h.resolve_left (Option.some_ne_none stop)
      simp [firstMatch, RuleMatch.swapped]
  | cons z front ih =>
    intro index
    cases z with
    | none =>
      have hlength : index + (front.length + 1) = index + 1 + front.length := by omega
      rw [List.cons_append, List.cons_append, firstMatch, firstMatch, ih, List.length_cons, hlength]
    | some stop =>
      have hne : index ≠ index + (front.length + 1) := by omega
      have hne' : index ≠ index + (front.length + 1) + 1 := by omega
      rw [List.cons_append, List.cons_append, firstMatch, firstMatch, Option.map_some, List.length_cons,
        RuleMatch.swapped_of_ne hne hne']

end Subject

namespace Lexer

variable {lx lx' : Lexer} {front back : List Rule} {r r' : Rule} {text : Subject} {pos stop : Nat} {ps : List Probe}

/-- Both rules have a match of their own at `pos` that is not empty. -/
def Compete (lx : Lexer) (i j : Nat) (text : Subject) (pos : Nat) : Prop :=
  ∃ r r', lx.rules[i]? = some r ∧ lx.rules[j]? = some r' ∧ r.moveEnd text pos ≠ none ∧ r'.moveEnd text pos ≠ none

theorem perm_swapped (front : List Rule) (r r' : Rule) (back : List Rule) :
    (front ++ r' :: r :: back).Perm (front ++ r :: r' :: back) :=
  (List.Perm.swap r r' back).append_left front

/-! ## Steps -/

section Swap

variable (hgiven : lx.given = front ++ r :: r' :: back) (hgiven' : lx'.given = front ++ r' :: r :: back)

include hgiven in
theorem rules_pair : lx.rules = front ++ r :: r' :: (back ++ [Rule.fallback]) := by
  rw [rules, withFallback, hgiven, List.append_assoc]
  rfl

include hgiven in
/-- Rules that do not compete are not both found to move on. -/
theorem moveEnd_of_not_compete (h : ¬ lx.Compete front.length (front.length + 1) text pos) :
    r.moveEnd text pos = none ∨ r'.moveEnd text pos = none := by
  by_contra hboth
  obtain ⟨hr, hr'⟩ := not_or.1 hboth
  refine h ⟨r, r', ?_, ?_, hr, hr'⟩
  · rw [rules_pair hgiven]
    simp
  · rw [rules_pair hgiven, List.getElem?_append_right (Nat.le_succ _)]
    simp

include hgiven hgiven'

/-- A step takes the same rule up to the same place, wherever the rule is now. -/
theorem probe_swapped (hpos : pos ≤ text.size) (hnumber : ∀ q ∈ lx.given, q.pattern.byNumber = false)
    (hcompete : ¬ lx.Compete front.length (front.length + 1) text pos) :
    (lx'.probe text pos).found = ((lx.probe text pos).found).map (RuleMatch.swapped front.length) := by
  have hnumber' : ∀ q ∈ lx'.given, q.pattern.byNumber = false := by
    intro q hq
    rw [hgiven'] at hq
    exact hnumber q (hgiven ▸ (perm_swapped front r r' back).mem_iff.1 hq)
  have hends := moveEnd_of_not_compete hgiven hcompete
  rw [probe_eq_firstMatch hpos hnumber, probe_eq_firstMatch hpos hnumber', rules_pair hgiven, rules_pair hgiven',
    List.map_append, List.map_append, List.map_cons, List.map_cons, List.map_cons, List.map_cons,
    Subject.firstMatch_swap hends, List.length_map, Nat.zero_add]

/-- The rules are the same, but for their places. -/
theorem getElem?_rules_swapped (i : Nat) :
    lx'.rules[Equiv.swap front.length (front.length + 1) i]? = lx.rules[i]? := by
  rw [rules_pair hgiven, rules_pair hgiven']
  by_cases hfirst : i = front.length
  · subst hfirst
    rw [Equiv.swap_apply_left, List.getElem?_append_right (Nat.le_succ _)]
    simp
  by_cases hsecond : i = front.length + 1
  · subst hsecond
    rw [Equiv.swap_apply_right, List.getElem?_append_right (Nat.le_succ _)]
    simp
  rw [Equiv.swap_apply_of_ne_of_ne hfirst hsecond]
  by_cases hlt : i < front.length
  · rw [List.getElem?_append_left hlt, List.getElem?_append_left hlt]
  · -- Behind the two rules nothing has changed.
    obtain ⟨k, rfl⟩ : ∃ k, i = front.length + (k + 2) := ⟨i - front.length - 2, by omega⟩
    rw [List.getElem?_append_right (Nat.le_add_right _ _), List.getElem?_append_right (Nat.le_add_right _ _),
      Nat.add_sub_cancel_left, List.getElem?_cons_succ, List.getElem?_cons_succ, List.getElem?_cons_succ,
      List.getElem?_cons_succ]

/-- The match makes the same token. -/
theorem emit_swapped (place : Place) (m : RuleMatch) : lx'.emit place (m.swapped front.length) = lx.emit place m := by
  have hsame : lx'.fallbackIndex = lx.fallbackIndex := by
    rw [fallbackIndex_eq, fallbackIndex_eq, hgiven, hgiven']
    simp
  have hlast : Equiv.swap front.length (front.length + 1) lx.fallbackIndex = lx.fallbackIndex := by
    rw [fallbackIndex_eq, hgiven, List.length_append, List.length_cons, List.length_cons]
    exact Equiv.swap_apply_of_ne_of_ne (by omega) (by omega)
  have hfallback : Equiv.swap front.length (front.length + 1) m.index = lx'.fallbackIndex ↔
      m.index = lx.fallbackIndex := by
    rw [Equiv.swap_apply_eq_iff, hsame, hlast]
  unfold emit RuleMatch.swapped
  simp only [getElem?_rules_swapped hgiven hgiven', hfallback]

/-! ## Runs -/

/-- Along a run the same matches are found, and the same tokens made. -/
theorem Scans.swapped (hnumber : ∀ q ∈ lx.given, q.pattern.byNumber = false)
    (hcompete : ∀ p ≤ text.size, ¬ lx.Compete front.length (front.length + 1) text p)
    (h : lx.Scans text pos ps stop) (hpos : pos ≤ text.size) :
    ∀ {qs : List Probe} {stop' : Nat}, lx'.Scans text pos qs stop' →
      qs.filterMap Probe.found = (ps.filterMap Probe.found).map (RuleMatch.swapped front.length) ∧
      ∀ place, (lx'.emitAll place pos qs).tokens = (lx.emitAll place pos ps).tokens ∧
        (lx'.emitAll place pos qs).fault = (lx.emitAll place pos ps).fault := by
  induction h with
  | @stop pos hfound =>
    intro qs stop' h'
    have hprobe := probe_swapped hgiven hgiven' hpos hnumber (hcompete pos hpos)
    rw [hfound, Option.map_none] at hprobe
    cases h' with
    | stop _ =>
      refine ⟨?_, fun place => ?_⟩
      · rw [List.filterMap_cons_none hprobe, List.filterMap_cons_none hfound]
        rfl
      · simp only [emitAll, hprobe, hfound, and_self]
    | step hother _ => cases hprobe.symm.trans hother
  | @step pos stop m ps hfound _ ih =>
    intro qs stop' h'
    have hprobe := probe_swapped hgiven hgiven' hpos hnumber (hcompete pos hpos)
    rw [hfound, Option.map_some] at hprobe
    -- The other run takes the same step, with the match under the other rule's number, and makes the same token.
    obtain ⟨qs, rfl, hrest'⟩ := h'.of_found hprobe
    obtain ⟨hmatches, htokens⟩ := ih (probe_moves hpos hfound).inside hrest'
    refine ⟨?_, fun place => ?_⟩
    · rw [List.filterMap_cons_some hprobe, List.filterMap_cons_some hfound, List.map_cons, hmatches]
    · have hplace : place.after (m.swapped front.length) = place.after m := rfl
      simp only [emitAll, hprobe, hfound, hplace]
      cases place.after m with
      | error e => exact ⟨rfl, rfl⟩
      | ok next =>
        simp only [emit_swapped hgiven hgiven']
        cases hemit : lx.emit next m with
        | error e => exact ⟨rfl, rfl⟩
        | ok token =>
          obtain ⟨hrest, hfault⟩ := htokens next
          exact ⟨congrArg (token.toList ++ ·) hrest, hfault⟩

end Swap

/-! ## Rule lists -/

/-- With two neighbours in each other's places a list passes the checks as before, and comes to the same rules, two
neighbours among them in each other's places. -/
theorem checkFrom_swapped {before after : List Entry} {e e' : Entry} {given : List Rule}
    (h : (checkFrom [] 0 (before ++ e :: e' :: after)).result = .ok given) :
    ∃ front r r' back, given = front ++ r :: r' :: back ∧ front.length = before.length ∧
      (checkFrom [] 0 (before ++ e' :: e :: after)).result = .ok (front ++ r' :: r :: back) := by
  have hrules := checkFrom_rules h
  obtain ⟨hnodup, hnew⟩ := checkFrom_names h
  rw [List.map_append, List.map_cons, List.map_cons] at hrules
  obtain ⟨front, others, rfl, hfront, hothers⟩ := List.map_eq_append_iff.1 hrules.symm
  obtain ⟨r, others, rfl, hr, hothers⟩ := List.map_eq_cons_iff.1 hothers
  obtain ⟨r', back, rfl, hr', hback⟩ := List.map_eq_cons_iff.1 hothers
  -- The checks ask of the names only that they are free and differ, and the names are the same.
  have hperm : (namesOf (front ++ r' :: r :: back)).Perm (namesOf (front ++ r :: r' :: back)) :=
    (perm_swapped front r r' back).map Rule.name
  refine ⟨front, r, r', back, rfl, by simpa using congrArg List.length hfront, ?_⟩
  refine checkFrom_ok ?_ (hperm.nodup_iff.2 hnodup) fun name hname => hnew name (hperm.mem_iff.1 hname)
  rw [List.map_append, List.map_append, List.map_cons, List.map_cons, List.map_cons, List.map_cons, hfront, hr, hr',
    hback]

/-- If two entries side by side change places, the list compiles as before, and a scan comes to the same, as long as
the two rules do not compete anywhere in the text. The matches are those of the same rules, and from every first line
on the tokens are the same, as is the fault, whether they are made at once or pulled one by one. -/
theorem compile_swapped (before after : List Entry) (e e' : Entry) (lx : Lexer)
    (hcompiled : (compile (before ++ e :: e' :: after)).result = .ok lx)
    (hnumber : ∀ r ∈ lx.given, r.pattern.byNumber = false) :
    ∃ lx', (compile (before ++ e' :: e :: after)).result = .ok lx' ∧
      (∀ m : RuleMatch, lx'.rules[(m.swapped before.length).index]? = lx.rules[m.index]?) ∧
      ∀ s : String, (∀ pos ≤ s.length, ¬ lx.Compete before.length (before.length + 1) s.toList.toArray pos) →
        lx'.matchesOf s.toList.toArray =
          (lx.matchesOf s.toList.toArray).map (RuleMatch.swapped before.length) ∧
        ∀ line, (lx'.tokenize (.str s) line).result = (lx.tokenize (.str s) line).result ∧
          ((Scanner.new lx' (.str s) line).pullAll (s.length + 2) .fresh).1 =
            ((Scanner.new lx (.str s) line).pullAll (s.length + 2) .fresh).1 := by
  obtain ⟨front, r, r', back, hgiven, hlength, hchecked⟩ := checkFrom_swapped (compile_ok hcompiled).1
  have hmem : ∀ q ∈ front ++ r' :: r :: back, q ∈ lx.given := by
    intro q hq
    rw [hgiven]
    exact (perm_swapped front r r' back).mem_iff.1 hq
  obtain ⟨lx', hcompiled', hgiven'⟩ :=
    exists_compile hchecked fun q hq => ⟨lx.flagsInFront q (hmem q hq), hnumber q (hmem q hq)⟩
  rw [← hlength]
  refine ⟨lx', hcompiled', fun m => getElem?_rules_swapped hgiven hgiven' m.index, fun s hcompete => ?_⟩
  let text : Subject := s.toList.toArray
  have hsize : text.size = s.length := String.length_toList
  rw [← hsize] at hcompete
  rcases lx.trace_scans text with ⟨stop, hscans⟩
  rcases lx'.trace_scans text with ⟨stop', hscans'⟩
  obtain ⟨hmatches, htokens⟩ := hscans.swapped hgiven hgiven' hnumber hcompete (Nat.zero_le _) hscans'
  refine ⟨hmatches, fun line => ?_⟩
  obtain ⟨hsame, hfault⟩ : (lx'.scanValue (.str s) line).tokens = (lx.scanValue (.str s) line).tokens ∧
      (lx'.scanValue (.str s) line).fault = (lx.scanValue (.str s) line).fault := htokens ⟨line, 0⟩
  have hpulled : ∀ l : Lexer, ((Scanner.new l (.str s) line).pullAll (s.length + 2) .fresh).1 =
      (l.scanValue (.str s) line).tokens := by
    intro l
    rw [← hsize]
    exact (Scanner.pullAll_new l (.str s) line).1
  refine ⟨?_, by rw [hpulled, hpulled, hsame]⟩
  rw [tokenize_result, tokenize_result, ScanOutcome.result, ScanOutcome.result, hsame, hfault]

/-- In front of a word the number is empty, and at a digit the word has no match, so their order does not matter. -/
theorem compile_swapped_loose :
    ∃ lx lx', (compile looseRules).result = .ok lx ∧ (compile looseRules.reverse).result = .ok lx' ∧
      (∀ r ∈ lx.given, r.pattern.byNumber = false) ∧
      (∀ pos ≤ "ab12".length, ¬ lx.Compete 0 1 "ab12".toList.toArray pos) ∧
      ∀ line, (lx'.tokenize (.str "ab12") line).result = (lx.tokenize (.str "ab12") line).result := by
  let text : Subject := "ab12".toList.toArray
  obtain ⟨lx, hlx, hcheck⟩ := Logged.exists_ok (compile looseRules)
    (fun lx => lx.given.all (fun r => r.pattern.byNumber == false) && (List.range (text.size + 1)).all fun pos =>
      (lx.rules[0]?.any fun r => (r.moveEnd text pos).isNone) || lx.rules[1]?.any fun r => (r.moveEnd text pos).isNone)
    (by decide +kernel)
  rw [Bool.and_eq_true, List.all_eq_true, List.all_eq_true] at hcheck
  obtain ⟨hall, hends⟩ := hcheck
  have hnumber : ∀ r ∈ lx.given, r.pattern.byNumber = false := fun r hr => beq_iff_eq.1 (hall r hr)
  have hcompete : ∀ pos ≤ "ab12".length, ¬ lx.Compete 0 1 text pos := by
    rintro pos hpos ⟨r, r', hr, hr', hmoves, hmoves'⟩
    have hnone := hends pos (List.mem_range.2 (Nat.lt_succ_of_le hpos))
    rw [hr, hr'] at hnone
    simp [hmoves, hmoves'] at hnone
  obtain ⟨lx', hlx', -, hsame⟩ := compile_swapped [] [] _ _ lx hlx hnumber
  obtain ⟨-, hlines⟩ := hsame "ab12" hcompete
  exact ⟨lx, lx', hlx, hlx', hnumber, hcompete, fun line => (hlines line).1⟩

end Lexer

end PatternLexer
