import PatternLexer.Scanner
import PatternLexer.Proofs.Run

/-!
# Pulling a scan token by token

A pull takes the steps of a run up to the first that makes a token, and the pulls after it take the rest.
So a generator that is alone with its scanner yields what a scan makes at once, its fault included.

* `Scanner.pullFrom_spec` is about one pull; `Scanner.pullAll_spec` about all of them.
* `Scanner.pullAll_new`: pulling a new scanner to its end is a scan.
-/

namespace PatternLexer

namespace Lexer.ScanOutcome

/-- The outcome when tokens and records come first. -/
def after (o : ScanOutcome) (tokens : List Token) (log : List Record) : ScanOutcome :=
  { o with tokens := tokens ++ o.tokens, log := log ++ o.log }

/-- How a generator ends that pulls all of an outcome. -/
def ending (o : ScanOutcome) : Pulled :=
  match o.fault with
  | none => .stopped
  | some e => .failed e

end Lexer.ScanOutcome

open Lexer (ScanOutcome)

namespace Scanner

variable {lx : Lexer} {text : Subject} {pos stop : Nat} {ps : List Probe}

/-- What a pull yields when the outcome of the rest of the scan is `o`. After a token, what remains is a
shorter run to the same end, from where the generator waits. -/
def Yields (lx : Lexer) (text : Subject) (ps : List Probe) (stop : Nat) (r : PullResult)
    (o : ScanOutcome) : Prop :=
  match r.pulled with
  | .stopped => o = { log := r.log }
  | .failed e => o = { fault := some e, log := r.log }
  | .token t => ∃ next qs, r.generator = .waiting next ∧ r.scanner.lexer = lx ∧
      r.scanner.text = .ok text ∧ lx.Scans text next qs stop ∧ qs.length < ps.length ∧
      o = (lx.emitAll r.scanner.place next qs).after [t] r.log

/-- A step that makes no token puts its records before those of the pull that goes on. -/
theorem Yields.after_log {p : Probe} {r : PullResult} {o : ScanOutcome} (h : Yields lx text ps stop r o)
    (log : List Record) :
    Yields lx text (p :: ps) stop { r with log := log ++ r.log } (o.after [] log) := by
  rcases r with ⟨pulled, scanner, generator, records⟩
  cases pulled with
  | stopped =>
    have ho : o = { log := records } := h
    subst ho
    rfl
  | failed e =>
    have ho : o = { fault := some e, log := records } := h
    subst ho
    rfl
  | token t =>
    rcases h with ⟨next, qs, hgenerator, hlexer, htext, hrest, hlt, rfl⟩
    refine ⟨next, qs, hgenerator, hlexer, htext, hrest, Nat.lt_succ_of_lt hlt, ?_⟩
    simp only [ScanOutcome.after, List.nil_append, List.append_assoc]

/-- One pull takes the first steps of a run. -/
theorem pullFrom_spec (h : lx.Scans text pos ps stop) : ∀ {fuel : Nat} {s : Scanner},
    s.lexer = lx → s.text = .ok text → s.pos = pos → ps.length ≤ fuel →
      Yields lx text ps stop (pullFrom text fuel s) (lx.emitAll s.place pos ps) := by
  induction h with
  | @stop pos hfound =>
    rintro fuel s rfl htext rfl hfuel
    cases fuel with
    | zero => exact absurd hfuel (Nat.not_succ_le_zero _)
    | succ fuel =>
      simp only [pullFrom, hfound, Yields, Lexer.emitAll]
  | @step pos stop m ps hfound hrest ih =>
    rintro fuel s rfl htext rfl hfuel
    cases fuel with
    | zero => exact absurd hfuel (Nat.not_succ_le_zero _)
    | succ fuel =>
      simp only [pullFrom, hfound, Lexer.emitAll]
      cases hplace : s.place.after m with
      | error e => simp only [Yields]
      | ok place =>
        cases hemit : s.lexer.emit place m with
        | error e => simp only [hemit, Yields]
        | ok token =>
          cases token with
          | some t =>
            simp only [hemit]
            exact ⟨m.stop, ps, rfl, rfl, htext, hrest, Nat.lt_succ_self _, rfl⟩
          | none =>
            have hpulled := ih (s := { s with place, pos := m.stop }) rfl htext rfl
              (Nat.le_of_succ_le_succ hfuel)
            -- A skipped match makes no token, and the pull goes on behind it.
            simp only [hemit]
            exact hpulled.after_log _

/-- A generator that goes on at `pos`. -/
def GoesOnAt (s : Scanner) (g : Generator) (pos : Nat) : Prop :=
  g = .fresh ∧ s.pos = pos ∨ g = .waiting pos

theorem pull_spec (h : lx.Scans text pos ps stop) {s : Scanner} {g : Generator} (hlexer : s.lexer = lx)
    (htext : s.text = .ok text) (hg : s.GoesOnAt g pos) (hlength : ps.length ≤ text.size + 1) :
    Yields lx text ps stop (s.pull g) (lx.emitAll s.place pos ps) := by
  rcases hg with ⟨rfl, hpos⟩ | rfl
  · rw [pull, pullHere, htext]
    exact pullFrom_spec h hlexer htext hpos hlength
  · have hpull : s.pull (.waiting pos) = pullFrom text (text.size + 1) { s with pos } := by
      simp only [pull, pullHere, htext]
    rw [hpull]
    exact pullFrom_spec h (s := { s with pos }) hlexer htext rfl hlength

/-- Pulling all takes the whole run. -/
theorem pullAll_spec : ∀ (fuel : Nat) {pos stop : Nat} {ps : List Probe} {s : Scanner} {g : Generator},
    lx.Scans text pos ps stop → s.lexer = lx → s.text = .ok text → s.GoesOnAt g pos →
      ps.length ≤ fuel → ps.length ≤ text.size + 1 →
      (s.pullAll fuel g).1 = (lx.emitAll s.place pos ps).tokens ∧
        (s.pullAll fuel g).2.pulled = (lx.emitAll s.place pos ps).ending ∧
        (s.pullAll fuel g).2.log = (lx.emitAll s.place pos ps).log := by
  intro fuel
  induction fuel with
  | zero =>
    intro pos stop ps s g h
    cases h <;> exact fun _ _ _ hfuel => absurd hfuel (Nat.not_succ_le_zero _)
  | succ fuel ih =>
    intro pos stop ps s g h hlexer htext hg hfuel hlength
    have hyields := pull_spec h hlexer htext hg hlength
    rw [pullAll]
    generalize s.pull g = r at hyields ⊢
    generalize lx.emitAll s.place pos ps = o at hyields ⊢
    rw [Yields] at hyields
    cases hpulled : r.pulled with
    | stopped =>
      rw [hpulled] at hyields
      subst hyields
      exact ⟨rfl, hpulled, rfl⟩
    | failed e =>
      rw [hpulled] at hyields
      subst hyields
      exact ⟨rfl, hpulled, rfl⟩
    | token t =>
      rw [hpulled] at hyields
      -- The pulls after this one take the shorter run that is left.
      rcases hyields with ⟨next, qs, hgenerator, hlexer', htext', hrest, hlt, rfl⟩
      obtain ⟨htokens, hending, hlog⟩ := ih (s := r.scanner) (g := r.generator) hrest hlexer' htext'
        (.inr hgenerator) (by omega) (by omega)
      simp only [ScanOutcome.after, htokens, hlog, List.singleton_append]
      exact ⟨trivial, hending, trivial⟩

/-- Pulling a new scanner to its end is a scan: the same tokens, fault and records. -/
theorem pullAll_new (lx : Lexer) (text line : Value) :
    let s := new lx text line
    let r := s.pullAll (s.bound + 1) .fresh
    let o := lx.scanValue text line
    r.1 = o.tokens ∧ r.2.pulled = o.ending ∧ r.2.log = o.log := by
  intro s r o
  cases htext : text.subject with
  | error e =>
    have ho : o = { fault := some e } := by simp only [o, Lexer.scanValue, htext]
    have hr : r = ([], ⟨.failed e, s, .finished, []⟩) := by
      simp only [r, s, new, htext, pullAll, pull, pullHere]
    rw [ho, hr]
    exact ⟨rfl, rfl, rfl⟩
  | ok subject =>
    have hbound : s.bound = subject.size + 1 := by simp only [s, new, bound, htext]
    have ho : o = lx.emitAll ⟨line, 0⟩ 0 (lx.trace subject) := by
      simp only [o, Lexer.scanValue, htext, Lexer.scanText]
    rcases lx.trace_scans subject with ⟨stop, hscans⟩
    have hlength := hscans.length_le (Nat.zero_le _)
    rw [ho]
    exact pullAll_spec (s.bound + 1) hscans rfl htext (.inl ⟨rfl, rfl⟩) (by omega) (by omega)

end Scanner

end PatternLexer
