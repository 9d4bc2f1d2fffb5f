import PatternLexer.Proofs.Options
import PatternLexer.Proofs.Place

/-!
# Unmatched text

Where no rule of the list moves on, the rule of last resort takes what is left of the line, and no other match or
token bears its name.

* `Lexer.probe_fallback`: a step takes the rule of last resort just if no rule of the list has a match there that is
  not empty; `Lexer.probe_lineRest` says what it takes.
* `Lexer.type_error`: a token is called an error just if it is made of such a match, since the name is reserved.
* `Lexer.Scans.after_fallback`: the match after such a match begins with the end of the line, which the rule of last
  resort does not take.
* `Lexer.errors_unmatched` puts them together.
-/

namespace PatternLexer

open List (Forall₂)

/-- The match takes what is left of a line. -/
structure RuleMatch.IsLineRest (text : Subject) (m : RuleMatch) : Prop where
  inLine : ∀ i, m.start ≤ i → i < m.stop → ¬ text.EndsLineAt i
  stops : m.stop = text.size ∨ text.EndsLineAt m.stop

/-- Each match of a tiling starts where the one before it ended. -/
theorem Tiles.adjacent {text : Subject} {pos stop : Nat} {ms : List RuleMatch} (h : Tiles text pos ms stop) :
    ∀ {k : Nat} {m m' : RuleMatch}, ms[k]? = some m → ms[k + 1]? = some m' →
      m'.start = m.stop ∧ m'.start < m'.stop ∧ m'.stop ≤ text.size := by
  induction h with
  | nil _ =>
    intro k m m' hm
    cases hm
  | cons _ _ _ hrest ih =>
    intro k m m' hm hm'
    cases k with
    | zero =>
      cases hm
      cases hrest with
      | nil _ => cases hm'
      | cons hstart hlt _ hrest =>
        cases hm'
        have hstop := hrest.length_le
        have hsize := hrest.le_size
        exact ⟨hstart, by omega, by omega⟩
    | succ k => exact ih hm hm'

namespace Lexer

variable {lx : Lexer} {text : Subject} {pos stop : Nat} {ps : List Probe} {m : RuleMatch}

/-! ## Steps of the rule of last resort -/

theorem fallbackIndex_eq (lx : Lexer) : lx.fallbackIndex = lx.given.length := by
  simp [fallbackIndex, rules, withFallback]

/-- A rule at another index is one of those given. -/
theorem given_of_ne_fallback {r : Rule} {i : Nat} (hr : lx.rules[i]? = some r) (hne : i ≠ lx.fallbackIndex) :
    i < lx.given.length ∧ r ∈ lx.given := by
  have hi : i < lx.rules.length := (List.getElem?_eq_some_iff.1 hr).1
  rw [fallbackIndex_eq] at hne
  simp only [rules, withFallback, List.length_append, List.length_singleton] at hi
  have hlt : i < lx.given.length := by omega
  rw [rules, withFallback, List.getElem?_append_left hlt] at hr
  exact ⟨hlt, List.mem_of_getElem? hr⟩

section Step

variable (hpos : pos ≤ text.size) (hnumber : ∀ r ∈ lx.given, r.pattern.byNumber = false)
variable (hfound : (lx.probe text pos).found = some m)
include hpos hnumber hfound

/-- The rule of last resort is taken just if no other rule moves on. -/
theorem probe_fallback : m.index = lx.fallbackIndex ↔ ∀ r ∈ lx.given, r.moveEnd text pos = none := by
  rw [probe_eq_firstMatch hpos hnumber, firstMatch_map] at hfound
  obtain ⟨⟨r, hr, hmoves⟩, hfirst, -, -⟩ := hfound
  constructor
  · intro hlast q hq
    rcases List.getElem?_of_mem hq with ⟨j, hj⟩
    have hlt : j < lx.given.length := (List.getElem?_eq_some_iff.1 hj).1
    rw [hlast, fallbackIndex_eq] at hfirst
    refine hfirst j hlt q ?_
    rw [rules, withFallback, List.getElem?_append_left hlt]
    exact hj
  · intro hnone
    by_contra hne
    have hgiven := (given_of_ne_fallback hr hne).2
    cases (hnone r hgiven).symm.trans hmoves

/-- It takes what is left of the line. -/
theorem probe_lineRest (hlast : m.index = lx.fallbackIndex) : m.IsLineRest text := by
  rw [probe_eq_firstMatch hpos hnumber, firstMatch_map] at hfound
  obtain ⟨⟨r, hr, hmoves⟩, -, rfl, -⟩ := hfound
  rw [hlast, rules_last] at hr
  cases hr
  rw [Rule.fallback_moveEnd, Rule.fallback_endAt] at hmoves
  split at hmoves
  · cases hmoves
  · have hstop : m.start + Rule.lineRest text m.start = m.stop := Option.some.inj hmoves
    have hstops := Rule.lineRest_stops hpos
    rw [hstop] at hstops
    refine ⟨fun i hle hlt => Rule.lineRest_inside hle ?_, hstops⟩
    rwa [hstop]

end Step

/-! ## Matches of a run -/

namespace Scans

/-- Each match of a run is found where it starts. -/
theorem found_of_mem (h : lx.Scans text pos ps stop) (hpos : pos ≤ text.size) :
    ∀ m ∈ ps.filterMap Probe.found, m.start ≤ text.size ∧ (lx.probe text m.start).found = some m := by
  induction h with
  | stop hfound =>
    intro m hm
    rw [List.filterMap_cons_none hfound] at hm
    cases hm
  | step hfound _ ih =>
    intro m hm
    have hmove := probe_moves hpos hfound
    rw [List.filterMap_cons_some hfound] at hm
    rcases List.mem_cons.1 hm with rfl | hm
    · rw [hmove.starts]
      exact ⟨hpos, hfound⟩
    · exact ih hmove.inside m hm

end Scans

/-- The match after one of the rule of last resort begins with the end of the line, so another rule found it. -/
theorem Scans.after_fallback (h : lx.Scans text pos ps stop) (hpos : pos ≤ text.size)
    (hnumber : ∀ r ∈ lx.given, r.pattern.byNumber = false) {k : Nat} {m' : RuleMatch}
    (hm : (ps.filterMap Probe.found)[k]? = some m) (hlast : m.index = lx.fallbackIndex)
    (hm' : (ps.filterMap Probe.found)[k + 1]? = some m') :
    m'.start = m.stop ∧ text.EndsLineAt m'.start ∧ m'.index < lx.given.length := by
  obtain ⟨hstart, hlt, hsize⟩ := (h.tiles hpos).adjacent hm hm'
  obtain ⟨hle, hfound⟩ := h.found_of_mem hpos m (List.mem_of_getElem? hm)
  obtain ⟨hle', hfound'⟩ := h.found_of_mem hpos m' (List.mem_of_getElem? hm')
  have hends : text.EndsLineAt m'.start := by
    rcases (probe_lineRest hle hnumber hfound hlast).stops with hstop | hends
    · omega
    · rwa [hstart]
  refine ⟨hstart, hends, ?_⟩
  -- The rule of last resort does not take the end of a line.
  have hne : m'.index ≠ lx.fallbackIndex := fun hlast' =>
    (probe_lineRest hle' hnumber hfound' hlast').inLine m'.start (Nat.le_refl _) hlt hends
  have hmove := probe_moves hle' hfound'
  exact (given_of_ne_fallback (List.getElem?_eq_getElem hmove.ofRule) hne).1

/-! ## Tokens -/

/-- A token is called an error just if it is made of a match of the rule of last resort. -/
theorem type_error {entries : List Entry} (hcompiled : (compile entries).result = .ok lx) {p : Place} {t : Token}
    (ht : lx.emit p m = .ok (some t)) : t.type = .str errorName ↔ m.index = lx.fallbackIndex := by
  rcases emit_some ht with ⟨r, v, hr, -, -, rfl⟩
  rw [tokenOf_type hr]
  constructor
  · intro hname
    by_contra hne
    have hgiven := (given_of_ne_fallback hr hne).2
    have hnames := (checkFrom_names (compile_ok hcompiled).1).2
    -- No rule that was given has the reserved name.
    have hfree := (hnames r.name (List.mem_map_of_mem hgiven)).1
    rw [Value.str.inj hname] at hfree
    revert hfree
    decide
  · intro hlast
    rw [hlast, rules_last] at hr
    cases hr
    rfl

/-- Tokens called errors are made of the matches where no rule that was given has a match of its own that is not
empty. Such a match takes what is left of its line: it has no line end in it, and it stops at one or at the end of
the text. So the match behind it begins with a line end, and is of a rule that was given. -/
theorem errors_unmatched (entries : List Entry) (lx : Lexer) (hcompiled : (compile entries).result = .ok lx)
    (hnumber : ∀ r ∈ lx.given, r.pattern.byNumber = false) (s : String) (line : Int) :
    ∃ (text : Subject) (ms : List RuleMatch) (o : ScanOutcome) (made : List (RuleMatch × Nat)),
      text = s.toList.toArray ∧ ms = lx.matchesOf text ∧ o = lx.scanValue (.str s) (.int line) ∧
      made <+: lx.emittedFrom 0 ms ∧ (o.fault = none → made = lx.emittedFrom 0 ms) ∧
      Forall₂ (fun x t => lx.Makes line ms x.2 x.1 t ∧
        (t.type = .str errorName ↔ ∀ r ∈ lx.given, r.moveEnd text x.1.start = none) ∧
        (t.type = .str errorName → x.1.IsLineRest text)) made o.tokens ∧
      ∀ k m, ms[k]? = some m →
        (m.index = lx.fallbackIndex ↔ ∀ r ∈ lx.given, r.moveEnd text m.start = none) ∧
        (m.index = lx.fallbackIndex → m.IsLineRest text ∧ ∀ m', ms[k + 1]? = some m' →
          m'.start = m.stop ∧ text.EndsLineAt m'.start ∧ m'.index < lx.given.length) := by
  let text : Subject := s.toList.toArray
  rcases lx.trace_scans text with ⟨stop, hscans⟩
  have hmatch : ∀ m ∈ lx.matchesOf text,
      (m.index = lx.fallbackIndex ↔ ∀ r ∈ lx.given, r.moveEnd text m.start = none) ∧
      (m.index = lx.fallbackIndex → m.IsLineRest text) := by
    intro m hm
    obtain ⟨hpos, hfound⟩ := hscans.found_of_mem (Nat.zero_le _) m hm
    exact ⟨probe_fallback hpos hnumber hfound, probe_lineRest hpos hnumber hfound⟩
  obtain ⟨made, hprefix, hall, hmade⟩ := lx.scan_made s line
  refine ⟨text, lx.matchesOf text, _, made, rfl, rfl, rfl, hprefix, hall, ?_, fun k m hm => ?_⟩
  · refine hmade.imp fun x t ht => ?_
    obtain ⟨hunmatched, hrest⟩ := hmatch x.1 (List.mem_of_getElem? ht.number)
    have htype := type_error hcompiled ht.emits
    exact ⟨ht, htype.trans hunmatched, fun herror => hrest (htype.1 herror)⟩
  · obtain ⟨hunmatched, hrest⟩ := hmatch m (List.mem_of_getElem? hm)
    refine ⟨hunmatched, fun hlast => ⟨hrest hlast, fun m' hm' => ?_⟩⟩
    exact hscans.after_fallback (Nat.zero_le _) hnumber hm hlast hm'

/-- Rules for numbers and for line feeds. -/
def lineRules : List Entry := [.bare (.source "(?P<NUM>\\d+)"), .bare (.source "(?P<NL>\\n)")]

/-- A question mark and the number behind it are left of their line. -/
theorem errors_unmatched_question :
    ∃ lx, (compile lineRules).result = .ok lx ∧ (∀ r ∈ lx.given, r.pattern.byNumber = false) ∧
      (lx.matchesOf "1?2\n3".toList.toArray)[1]? = some ⟨2, "?2", 1, 3⟩ ∧
      RuleMatch.IsLineRest "1?2\n3".toList.toArray ⟨2, "?2", 1, 3⟩ := by
  obtain ⟨lx, hlx, hcheck⟩ := Logged.exists_ok (compile lineRules)
    (fun lx => lx.given.all (fun r => r.pattern.byNumber == false) && (lx.fallbackIndex == 2 &&
      (lx.matchesOf "1?2\n3".toList.toArray)[1]? == some ⟨2, "?2", 1, 3⟩))
    (by decide +kernel)
  rw [Bool.and_eq_true, Bool.and_eq_true, List.all_eq_true, beq_iff_eq, beq_iff_eq] at hcheck
  obtain ⟨hall, hlast, hmatch⟩ := hcheck
  have hnumber : ∀ r ∈ lx.given, r.pattern.byNumber = false := fun r hr => beq_iff_eq.1 (hall r hr)
  obtain ⟨_, _, _, _, rfl, rfl, -, -, -, -, hspec⟩ := errors_unmatched _ lx hlx hnumber "1?2\n3" 1
  exact ⟨lx, hlx, hnumber, hmatch, ((hspec 1 _ hmatch).2 hlast.symm).1⟩

end Lexer

end PatternLexer
