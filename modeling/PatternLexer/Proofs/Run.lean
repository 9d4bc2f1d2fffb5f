import PatternLexer.Proofs.Probe

/-!
# Runs of a scan

A scan is a run of steps, each going on where the one before ended, up to the first that finds nothing.

* `Lexer.Scans` is such a run, whatever the number of steps allowed; `Lexer.trace_scans` says that the steps
  of a scan make up one.
* `Lexer.Scans.stops`: a run stops at the end of the text or of a line.
* `Lexer.Scans.emitAll_fault`: making the tokens of a run fails only if a hook does.
* `Lexer.tokenize_types`: the type of a token is the name of a rule.
-/

namespace PatternLexer

namespace Lexer

/-- The steps from `pos` on, the last of which finds nothing at `stop`. -/
inductive Scans (lx : Lexer) (text : Subject) : Nat → List Probe → Nat → Prop where
  | stop {pos : Nat} : (lx.probe text pos).found = none → Scans lx text pos [lx.probe text pos] pos
  | step {pos stop : Nat} {m : RuleMatch} {ps : List Probe} :
      (lx.probe text pos).found = some m → Scans lx text m.stop ps stop →
      Scans lx text pos (lx.probe text pos :: ps) stop

variable {lx : Lexer} {text : Subject} {pos stop : Nat} {ps : List Probe}

/-- With more steps allowed than there are characters left, the last step finds nothing. -/
theorem traceFrom_scans : ∀ (fuel pos : Nat), pos ≤ text.size → text.size - pos < fuel →
    ∃ stop, lx.Scans text pos (lx.traceFrom text fuel pos) stop := by
  intro fuel
  induction fuel with
  | zero =>
    intro pos _ hfuel
    exact absurd hfuel (Nat.not_lt_zero _)
  | succ fuel ih =>
    intro pos hpos hfuel
    rw [traceFrom]
    cases hfound : (lx.probe text pos).found with
    | none => exact ⟨pos, .stop hfound⟩
    | some m =>
      -- A match takes a character at least, so one step less is enough for what is left.
      have hmove := probe_moves hpos hfound
      have hleft : text.size - m.stop < fuel := by
        have := hmove.moves
        have := hmove.inside
        omega
      rcases ih m.stop hmove.inside hleft with ⟨stop, hrest⟩
      exact ⟨stop, .step hfound hrest⟩

/-- The steps of a scan are a run from the start of the text. -/
theorem trace_scans (lx : Lexer) (text : Subject) : ∃ stop, lx.Scans text 0 (lx.trace text) stop :=
  traceFrom_scans (text.size + 1) 0 (Nat.zero_le _) (by omega)

namespace Scans

/-- Where a step finds a match, the run goes on at its end. -/
theorem of_found {m : RuleMatch} (h : lx.Scans text pos ps stop) (hfound : (lx.probe text pos).found = some m) :
    ∃ qs, ps = lx.probe text pos :: qs ∧ lx.Scans text m.stop qs stop := by
  cases h with
  | stop hnone => cases hnone.symm.trans hfound
  | step hother hrest =>
    cases hother.symm.trans hfound
    exact ⟨_, rfl, hrest⟩

/-- Each step but the last takes at least one character. -/
theorem length_le (h : lx.Scans text pos ps stop) (hpos : pos ≤ text.size) :
    pos + ps.length ≤ text.size + 1 := by
  induction h with
  | stop _ =>
    rw [List.length_singleton]
    omega
  | step hfound _ ih =>
    have hmove := probe_moves hpos hfound
    have := hmove.moves
    have := ih hmove.inside
    rw [List.length_cons]
    omega

/-- A run stops at the end of the text or of a line. -/
theorem stops (h : lx.Scans text pos ps stop) (hpos : pos ≤ text.size) :
    stop = text.size ∨ text.EndsLineAt stop := by
  induction h with
  | stop hfound => exact probe_stops hpos hfound
  | step hfound _ ih => exact ih (probe_moves hpos hfound).inside

end Scans

end Lexer

/-! ## The token of a match -/

/-- The value that the rule makes from a text. -/
def Rule.valueOf (r : Rule) (text : String) : Except Fault Value :=
  match r.hook with
  | some hook => hook text
  | none => .ok (.str text)

namespace Lexer

variable {lx : Lexer}

/-- The rule of the match does not skip. -/
def emits (lx : Lexer) (m : RuleMatch) : Bool := (lx.rules[m.index]?).any fun r => !r.skips

/-- The token with the value `v` for a match of the rule `r`, at the place `p` after the match. -/
def tokenOf (lx : Lexer) (r : Rule) (p : Place) (m : RuleMatch) (v : Value) : Token :=
  ⟨.str (if m.index = lx.fallbackIndex then errorName else r.name), v, p.line, .int (p.column m.start),
    .int m.text.length⟩

/-- A rule that skips makes no token. -/
theorem emit_skipped {p : Place} {m : RuleMatch} (h : lx.emits m = false) : lx.emit p m = .ok none := by
  unfold emits at h
  unfold emit
  cases hr : lx.rules[m.index]? with
  | none => rfl
  | some r =>
    have hskips : r.skips = true := by simpa [hr] using h
    simp [hskips]

/-- A rule that does not skip makes a token of the value, unless its hook fails. -/
theorem emit_emitted {p : Place} {m : RuleMatch} {r : Rule} (hr : lx.rules[m.index]? = some r)
    (hskips : r.skips = false) :
    lx.emit p m = (r.valueOf m.text).map fun v => some (lx.tokenOf r p m v) := by
  unfold emit Rule.valueOf
  simp only [hr, hskips]
  cases r.hook with
  | none => rfl
  | some hook =>
    cases hv : hook m.text with
    | ok v => simp only [hv]; rfl
    | error e => simp only [hv]; rfl

/-- A match that makes a token is of a rule that does not skip. -/
theorem emits_true {m : RuleMatch} (h : lx.emits m = true) :
    ∃ r, lx.rules[m.index]? = some r ∧ r.skips = false := by
  unfold emits at h
  rcases (Option.any_eq_true _ _).1 h with ⟨r, hr, hskips⟩
  exact ⟨r, hr, by simpa using hskips⟩

/-- Whether a match makes a token is up to its rule. -/
theorem emits_eq {m : RuleMatch} {r : Rule} (hr : lx.rules[m.index]? = some r) : lx.emits m = !r.skips := by
  rw [emits, hr]
  rfl

/-! ## Tokens of a run -/

/-- The hook that makes the value of the match's token, if there is one, does not raise. -/
def HookReturns (lx : Lexer) (m : RuleMatch) : Prop :=
  ∀ r hook, lx.rules[m.index]? = some r → r.skips = false → r.hook = some hook →
    ∃ v, hook m.text = .ok v

/-- Rules without hooks make values without fail. -/
theorem hookReturns_of_unhooked (h : ∀ r ∈ lx.given, r.hook = none) (m : RuleMatch) : lx.HookReturns m := by
  intro r hook hr _ hhook
  have hnone : r.hook = none := forall_rules h rfl r (List.mem_of_getElem? hr)
  rw [hnone] at hhook
  cases hhook

/-- Making a token does not fail if the hook does not. -/
theorem emit_ok {p : Place} {m : RuleMatch} (h : lx.HookReturns m) : ∃ token, lx.emit p m = .ok token := by
  cases hemits : lx.emits m with
  | false => exact ⟨none, emit_skipped hemits⟩
  | true =>
    rcases emits_true hemits with ⟨r, hr, hskips⟩
    rw [emit_emitted hr hskips]
    unfold Rule.valueOf
    cases hhook : r.hook with
    | none => exact ⟨_, rfl⟩
    | some hook =>
      rcases h r hook hr hskips hhook with ⟨v, hv⟩
      exact ⟨some (lx.tokenOf r p m v), by simp only [hv]; rfl⟩

end Lexer

/-- A line that is an integer stays one. -/
theorem Place.after_int {p : Place} {n : Int} (hline : p.line = .int n) (m : RuleMatch) :
    ∃ q k, p.after m = .ok q ∧ q.line = .int k := by
  rw [Place.after, hline]
  split
  · exact ⟨⟨.int (n + 1), m.stop⟩, n + 1, rfl, rfl⟩
  · exact ⟨p, n, rfl, hline⟩

namespace Lexer.Scans

variable {lx : Lexer} {text : Subject} {pos stop : Nat} {ps : List Probe}

/-- Making the tokens of a run does not fail if the hooks do not and lines are integers. -/
theorem emitAll_fault (h : lx.Scans text pos ps stop)
    (hhooks : ∀ m ∈ ps.filterMap Probe.found, lx.HookReturns m) :
    ∀ {place : Place} {n : Int}, place.line = .int n → (lx.emitAll place pos ps).fault = none := by
  induction h with
  | stop hfound =>
    intro place n _
    simp only [emitAll, hfound]
  | @step pos stop m ps hfound _ ih =>
    intro place n hline
    rw [List.filterMap_cons_some hfound] at hhooks
    -- A line that is an integer can be counted on from, and the next one is an integer too.
    rcases Place.after_int hline m with ⟨next, k, hnext, hline'⟩
    rcases emit_ok (p := next) (hhooks m List.mem_cons_self) with ⟨token, htoken⟩
    simp only [emitAll, hfound, hnext, htoken]
    exact ih (fun m hm => hhooks m (List.mem_cons_of_mem _ hm)) hline'

end Lexer.Scans

/-! ## Types of tokens -/

namespace Lexer

variable {lx : Lexer}

/-- A token is that of a match of a rule that does not skip. -/
theorem emit_some {p : Place} {m : RuleMatch} {t : Token} (h : lx.emit p m = .ok (some t)) :
    ∃ r v, lx.rules[m.index]? = some r ∧ r.skips = false ∧ r.valueOf m.text = .ok v ∧
      t = lx.tokenOf r p m v := by
  cases hemits : lx.emits m with
  | false =>
    rw [emit_skipped hemits] at h
    cases h
  | true =>
    rcases emits_true hemits with ⟨r, hr, hskips⟩
    rw [emit_emitted hr hskips] at h
    cases hv : r.valueOf m.text with
    | error e =>
      rw [hv] at h
      cases h
    | ok v =>
      rw [hv] at h
      cases h
      exact ⟨r, v, hr, hskips, hv, rfl⟩

theorem emit_type {p : Place} {m : RuleMatch} {t : Token} (h : lx.emit p m = .ok (some t)) :
    ∃ name ∈ lx.names, t.type = .str name := by
  rcases emit_some h with ⟨r, v, hr, -, -, rfl⟩
  unfold tokenOf
  split
  · exact ⟨errorName, List.mem_map.2 ⟨Rule.fallback, List.mem_of_getElem? rules_last, rfl⟩, rfl⟩
  · exact ⟨r.name, List.mem_map.2 ⟨r, List.mem_of_getElem? hr, rfl⟩, rfl⟩

/-- Whatever the steps, the tokens that come of them bear names of rules. -/
theorem emitAll_types (ps : List Probe) : ∀ (place : Place) (pos : Nat),
    ∀ t ∈ (lx.emitAll place pos ps).tokens, ∃ name ∈ lx.names, t.type = .str name := by
  induction ps with
  | nil =>
    intro place pos t ht
    cases ht
  | cons p ps ih =>
    intro place pos t ht
    cases hfound : p.found with
    | none =>
      simp only [emitAll, hfound] at ht
      cases ht
    | some m =>
      cases hnext : place.after m with
      | error e =>
        simp only [emitAll, hfound, hnext] at ht
        cases ht
      | ok next =>
        cases htoken : lx.emit next m with
        | error e =>
          simp only [emitAll, hfound, hnext, htoken] at ht
          cases ht
        | ok token =>
          simp only [emitAll, hfound, hnext, htoken, List.mem_append, Option.mem_toList] at ht
          rcases ht with rfl | ht
          · exact emit_type htoken
          · exact ih next m.stop t ht

/-- The tokens of a scan are kept if there is no fault. -/
theorem tokenize_ok {text line : Value} {tokens : List Token} :
    (lx.tokenize text line).result = .ok tokens ↔
      (lx.scanValue text line).fault = none ∧ (lx.scanValue text line).tokens = tokens := by
  rw [tokenize]
  cases (lx.scanValue text line).fault with
  | none => simp
  | some e => simp

/-- The type of a token is the name of a rule. -/
theorem tokenize_types {text line : Value} {tokens : List Token}
    (h : (lx.tokenize text line).result = .ok tokens) :
    ∀ t ∈ tokens, ∃ name ∈ lx.names, t.type = .str name := by
  rcases tokenize_ok.1 h with ⟨-, rfl⟩
  rw [scanValue]
  cases text.subject with
  | ok subject => exact emitAll_types (lx.trace subject) ⟨line, 0⟩ 0
  | error e =>
    intro t ht
    cases ht

end Lexer

end PatternLexer
