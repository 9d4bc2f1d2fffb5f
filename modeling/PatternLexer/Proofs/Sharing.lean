import Mathlib.Logic.Function.Basic
import PatternLexer.Proofs.Place

/-!
# Generators that share a scanner

Generators that pull from one scanner share its offset, its line and its column base, and each pull may find
them changed by the others. It matters less than it seems: a generator looks at the shared offset in its first
pull only, and the line and the column base are in no type, no value and no length of a token.

* `Crowd` is a scanner with its generators, and `Crowd.run` lets these take turns in any order.
* `Scanner.Steps` is what the steps of a pull come to, case by case; what a pull keeps is shown by induction on it.
* `Scanner.pull_congr`: what a pull finds does not depend on the line and the column base.
* `Crowd.turnsOf_run`: so each generator takes the turns that it would take alone.
* `Scanner.pulls_answers` and `Scanner.pulls_found` say which these are.
* `Crowd.run_shared` puts them together, and counts the lines.
-/

namespace PatternLexer

/-! ## Scans from an offset -/

namespace Lexer

/-- What comes of a scan that begins at `pos`, on the line `line`. -/
def scanFrom (lx : Lexer) (text : Subject) (line : Value) (pos : Nat) : ScanOutcome :=
  lx.emitAll ⟨line, pos⟩ pos (lx.traceFrom text (text.size + 1) pos)

/-- The matches of a scan that begins at `pos`. -/
def matchesFrom (lx : Lexer) (text : Subject) (pos : Nat) : List RuleMatch :=
  (lx.traceFrom text (text.size + 1) pos).filterMap Probe.found

/-- What pull number `k` yields if the outcome is pulled piece by piece: first its tokens, then its fault if
there is one, and then nothing. -/
def ScanOutcome.answer (o : ScanOutcome) (k : Nat) : Pulled :=
  match o.tokens[k]? with
  | some t => .token t
  | none => if k = o.tokens.length then o.ending else .stopped

/-- The first `n` answers of an outcome. -/
def ScanOutcome.answers (o : ScanOutcome) (n : Nat) : List Pulled := (List.range n).map o.answer

theorem ScanOutcome.answers_succ (o : ScanOutcome) (n : Nat) :
    o.answers (n + 1) = o.answer 0 :: (List.range n).map fun k => o.answer (k + 1) := by
  unfold answers
  rw [List.range_succ_eq_map, List.map_cons, List.map_map]
  rfl

/-- After its first token an outcome answers as what is left of it. -/
theorem ScanOutcome.answers_after (o : ScanOutcome) (t : Token) (log : List Record) (n : Nat) :
    (o.after [t] log).answers (n + 1) = .token t :: o.answers n := by
  rw [answers_succ]
  refine congrArg (Pulled.token t :: ·) (List.map_congr_left fun k _ => ?_)
  unfold answer after ending
  simp only [List.singleton_append, List.getElem?_cons_succ, List.length_cons, Nat.add_right_cancel_iff]

/-- Without tokens an outcome answers with its end, and then with nothing. -/
theorem ScanOutcome.answers_nil {o : ScanOutcome} (h : o.tokens = []) (n : Nat) :
    o.answers (n + 1) = o.ending :: List.replicate n .stopped := by
  have hfirst : o.answer 0 = o.ending := by simp [answer, h]
  have hothers : (fun k => o.answer (k + 1)) = fun _ => .stopped := by
    funext k
    simp [answer, h]
  rw [answers_succ, hfirst, hothers, List.map_const', List.length_range]

end Lexer

/-- What a pull yields, but for the place of the token: its type, value and length. -/
def Pulled.outline : Pulled → Except Fault (Option (Value × Value × Value))
  | token t => .ok (some (t.type, t.value, t.length))
  | stopped => .ok none
  | failed e => .error e

/-! ## Pulls -/

namespace Scanner

/-- The matches found by the steps that `pullFrom` takes. -/
def foundFrom (text : Subject) : (fuel : Nat) → Scanner → List RuleMatch
  | 0, _ => []
  | fuel + 1, s =>
    match (s.lexer.probe text s.pos).found with
    | none => []
    | some m =>
      match s.place.after m with
      | .error _ => [m]
      | .ok place =>
        match s.lexer.emit place m with
        | .ok none => m :: foundFrom text fuel { s with place, pos := m.stop }
        | _ => [m]

/-- The matches found by `pullHere`. -/
def foundHere (s : Scanner) : List RuleMatch :=
  match s.text with
  | .ok text => foundFrom text (text.size + 1) s
  | .error _ => []

/-- The matches found by a pull. -/
def found (s : Scanner) : Generator → List RuleMatch
  | .fresh => s.foundHere
  | .waiting resume => { s with pos := resume }.foundHere
  | .finished => []

/-- What `n` pulls of a generator find and yield, with no other pulls in between. -/
def pulls (s : Scanner) (g : Generator) : (n : Nat) → List (List RuleMatch × Pulled)
  | 0 => []
  | n + 1 => (s.found g, (s.pull g).pulled) :: pulls (s.pull g).scanner (s.pull g).generator n

/-- The offset at which a generator goes on. -/
def resumeAt (s : Scanner) : Generator → Nat
  | .waiting resume => resume
  | _ => s.pos

/-- The scanner scans the text, and stands on the given line. -/
structure Scanning (lx : Lexer) (text : Subject) (line : Int) (s : Scanner) : Prop where
  ofLexer : s.lexer = lx
  ofText : s.text = .ok text
  onLine : s.place.line = .int line

variable {lx : Lexer} {text : Subject} {s s' : Scanner} {g : Generator} {line line' : Int}

theorem Scanning.moved (h : s.Scanning lx text line) (pos : Nat) :
    ({ s with pos } : Scanner).Scanning lx text line :=
  ⟨h.ofLexer, h.ofText, h.onLine⟩

theorem pullHere_eq (htext : s.text = .ok text) :
    s.pullHere = pullFrom text (text.size + 1) s ∧ s.foundHere = foundFrom text (text.size + 1) s := by
  unfold pullHere foundHere
  rw [htext]
  exact ⟨rfl, rfl⟩

/-- Unless its generator is finished, a pull takes steps from where it goes on. -/
theorem pull_eq (htext : s.text = .ok text) (hg : g ≠ .finished) :
    s.pull g = pullFrom text (text.size + 1) { s with pos := s.resumeAt g } ∧
      s.found g = foundFrom text (text.size + 1) { s with pos := s.resumeAt g } := by
  cases g with
  | fresh => exact pullHere_eq htext
  | waiting resume => exact pullHere_eq (s := { s with pos := resume }) htext
  | finished => exact absurd rfl hg

/-- The line after a match, where lines are integers. -/
theorem after_line {p : Place} (hline : p.line = .int line) (m : RuleMatch) :
    ∃ q, p.after m = .ok q ∧ q.line = .int (line + lineBreaks [m]) := by
  unfold Place.after lineBreaks
  rw [List.countP_singleton, hline]
  by_cases hbreak : m.breaksLine = true
  · have hcontains : m.text.contains '\n' = true := hbreak
    rw [if_pos hcontains, if_pos hbreak]
    exact ⟨⟨.int (line + 1), m.stop⟩, rfl, rfl⟩
  · have hcontains : ¬ m.text.contains '\n' = true := hbreak
    rw [if_neg hcontains, if_neg hbreak]
    refine ⟨p, rfl, ?_⟩
    rw [hline, Int.natCast_zero, Int.add_zero]

/-- The steps of a pull from a scanner: the matches that they find, and what the pull comes to. -/
inductive Steps (text : Subject) : (fuel : Nat) → Scanner → List RuleMatch → PullResult → Prop where
  | spent {s : Scanner} : Steps text 0 s [] ⟨.stopped, s, .finished, []⟩
  | stopped {fuel : Nat} {s : Scanner} {log : List Record} (hfound : (s.lexer.probe text s.pos).found = none) :
      Steps text (fuel + 1) s [] ⟨.stopped, s, .finished, log⟩
  /-- The lines cannot be counted. -/
  | unplaced {fuel : Nat} {s : Scanner} {log : List Record} {m : RuleMatch} {e : Fault}
      (hfound : (s.lexer.probe text s.pos).found = some m) (hplace : s.place.after m = .error e) :
      Steps text (fuel + 1) s [m] ⟨.failed e, s, .finished, log⟩
  /-- The hook of the rule fails. -/
  | failed {fuel : Nat} {s : Scanner} {log : List Record} {m : RuleMatch} {place : Place} {e : Fault}
      (hfound : (s.lexer.probe text s.pos).found = some m) (hplace : s.place.after m = .ok place)
      (hemit : s.lexer.emit place m = .error e) :
      Steps text (fuel + 1) s [m] ⟨.failed e, { s with place }, .finished, log⟩
  | token {fuel : Nat} {s : Scanner} {log : List Record} {m : RuleMatch} {place : Place} {t : Token}
      (hfound : (s.lexer.probe text s.pos).found = some m) (hplace : s.place.after m = .ok place)
      (hemit : s.lexer.emit place m = .ok (some t)) :
      Steps text (fuel + 1) s [m] ⟨.token t, { s with place }, .waiting m.stop, log⟩
  | skipped {fuel : Nat} {s : Scanner} {log : List Record} {m : RuleMatch} {place : Place} {ms : List RuleMatch}
      {r : PullResult} (hfound : (s.lexer.probe text s.pos).found = some m) (hplace : s.place.after m = .ok place)
      (hemit : s.lexer.emit place m = .ok none) (hrest : Steps text fuel { s with place, pos := m.stop } ms r) :
      Steps text (fuel + 1) s (m :: ms) { r with log }

/-- A pull takes such steps. -/
theorem pullFrom_steps (text : Subject) : ∀ (fuel : Nat) (s : Scanner),
    Steps text fuel s (foundFrom text fuel s) (pullFrom text fuel s) := by
  intro fuel
  induction fuel with
  | zero => exact fun s => .spent
  | succ fuel ih =>
    intro s
    cases hfound : (s.lexer.probe text s.pos).found with
    | none =>
      simp only [foundFrom, pullFrom, hfound]
      exact .stopped hfound
    | some m =>
      cases hplace : s.place.after m with
      | error e =>
        simp only [foundFrom, pullFrom, hfound, hplace]
        exact .unplaced hfound hplace
      | ok place =>
        cases hemit : s.lexer.emit place m with
        | error e =>
          simp only [foundFrom, pullFrom, hfound, hplace, hemit]
          exact .failed hfound hplace hemit
        | ok token =>
          simp only [foundFrom, pullFrom, hfound, hplace, hemit]
          cases token with
          | none => exact .skipped hfound hplace hemit (ih _)
          | some t => exact .token hfound hplace hemit

/-- The steps of a pull count the lines that they find. -/
theorem Steps.scanning {fuel : Nat} {ms : List RuleMatch} {r : PullResult} (h : Steps text fuel s ms r) :
    ∀ {line : Int}, s.Scanning lx text line →
      r.scanner.Scanning lx text (line + lineBreaks ms) ∧ r.generator ≠ .fresh := by
  induction h with
  | spent | stopped =>
    intro line hs
    refine ⟨?_, by rintro ⟨⟩⟩
    simpa [lineBreaks] using hs
  | unplaced _ hplace =>
    intro line hs
    obtain ⟨place, hok, -⟩ := after_line hs.onLine _
    cases hok.symm.trans hplace
  | failed _ hplace | token _ hplace =>
    intro line hs
    obtain ⟨place, hok, hline⟩ := after_line hs.onLine _
    cases hok.symm.trans hplace
    exact ⟨⟨hs.ofLexer, hs.ofText, hline⟩, by rintro ⟨⟩⟩
  | skipped _ hplace _ _ ih =>
    intro line hs
    obtain ⟨place, hok, hline⟩ := after_line hs.onLine _
    cases hok.symm.trans hplace
    have hrest := ih ⟨hs.ofLexer, hs.ofText, hline⟩
    rw [Int.add_assoc, ← Int.natCast_add, ← lineBreaks_append] at hrest
    exact hrest

theorem Scanning.after_pull (h : s.Scanning lx text line) (g : Generator) :
    (s.pull g).scanner.Scanning lx text (line + lineBreaks (s.found g)) ∧ (s.pull g).generator ≠ .fresh := by
  by_cases hg : g = .finished
  · subst hg
    refine ⟨?_, by rintro ⟨⟩⟩
    simpa [found, Scanner.pull, lineBreaks] using h
  · obtain ⟨hpull, hfound⟩ := pull_eq h.ofText hg
    rw [hpull, hfound]
    exact (pullFrom_steps text _ _).scanning (h.moved _)

/-- A pull ends within the text. After a token its generator waits there, and otherwise it is finished. -/
def Settles (text : Subject) (r : PullResult) : Prop :=
  r.scanner.pos ≤ text.size ∧
    match r.pulled with
    | .token _ => ∃ resume, r.generator = .waiting resume ∧ resume ≤ text.size
    | _ => r.generator = .finished

theorem Steps.settles {fuel : Nat} {ms : List RuleMatch} {r : PullResult} (h : Steps text fuel s ms r)
    (hpos : s.pos ≤ text.size) : Settles text r := by
  induction h with
  | spent | stopped | unplaced | failed => exact ⟨hpos, rfl⟩
  | token hfound => exact ⟨hpos, _, rfl, (Lexer.probe_moves hpos hfound).inside⟩
  | skipped hfound _ _ _ ih => exact ih (Lexer.probe_moves hpos hfound).inside

/-- So does a pull, if its generator goes on within the text. -/
theorem pull_settles (htext : s.text = .ok text) (hpos : s.resumeAt g ≤ text.size) :
    Settles text (s.pull g) := by
  by_cases hg : g = .finished
  · subst hg
    exact ⟨hpos, rfl⟩
  · rw [(pull_eq htext hg).1]
    exact (pullFrom_steps text _ _).settles hpos

theorem Settles.finished {r : PullResult} (h : Settles text r) (hno : ∀ t, r.pulled ≠ .token t) :
    r.generator = .finished := by
  rcases h with ⟨-, h⟩
  cases hpulled : r.pulled with
  | token t => exact absurd hpulled (hno t)
  | stopped | failed =>
    rw [hpulled] at h
    exact h

theorem Settles.resume_le {r : PullResult} {resume : Nat} (h : Settles text r)
    (hr : r.generator = .waiting resume) : resume ≤ text.size := by
  by_cases htoken : ∃ t, r.pulled = .token t
  · obtain ⟨t, hpulled⟩ := htoken
    rcases h with ⟨-, h⟩
    rw [hpulled] at h
    rcases h with ⟨_, hgenerator, hle⟩
    cases hr.symm.trans hgenerator
    exact hle
  · cases hr.symm.trans (h.finished fun t ht => htoken ⟨t, ht⟩)

/-- The steps of a pull find the first matches of a run. If it yields a token, its generator waits for the
others. -/
theorem Steps.found_prefix {fuel : Nat} {ms : List RuleMatch} {r : PullResult} (h : Steps text fuel s ms r) :
    ∀ {ps : List Probe} {stop : Nat}, s.lexer.Scans text s.pos ps stop →
      ∃ rest, ps.filterMap Probe.found = ms ++ rest ∧
        ∀ t, r.pulled = .token t → ∃ next qs, r.generator = .waiting next ∧ s.lexer.Scans text next qs stop ∧
          rest = qs.filterMap Probe.found := by
  induction h with
  | spent | stopped => exact fun _ => ⟨_, rfl, nofun⟩
  | unplaced hfound | failed hfound =>
    intro ps stop hscans
    obtain ⟨qs, rfl, -⟩ := hscans.of_found hfound
    exact ⟨_, List.filterMap_cons_some hfound, nofun⟩
  | token hfound =>
    intro ps stop hscans
    obtain ⟨qs, rfl, hrest⟩ := hscans.of_found hfound
    exact ⟨_, List.filterMap_cons_some hfound, fun _ _ => ⟨_, qs, rfl, hrest, rfl⟩⟩
  | skipped hfound _ _ _ ih =>
    -- The match of this step comes first, and the others are found as the pull goes on.
    intro ps stop hscans
    obtain ⟨qs, rfl, hrest⟩ := hscans.of_found hfound
    obtain ⟨rest, hsplit, hwaits⟩ := ih hrest
    refine ⟨rest, ?_, hwaits⟩
    rw [List.filterMap_cons_some hfound, hsplit, List.cons_append]

/-- The steps of a pull from one offset find the same, whatever the line and the column base are. -/
theorem pullFrom_congr : ∀ (fuel : Nat) {s s' : Scanner} {line line' : Int}, s.Scanning lx text line →
    s'.Scanning lx text line' → s'.pos = s.pos → foundFrom text fuel s' = foundFrom text fuel s ∧
      (pullFrom text fuel s').pulled.outline = (pullFrom text fuel s).pulled.outline ∧
      (pullFrom text fuel s').generator = (pullFrom text fuel s).generator := by
  intro fuel
  induction fuel with
  | zero => exact fun _ _ _ => ⟨rfl, rfl, rfl⟩
  | succ fuel ih =>
    intro s s' line line' h h' hpos
    simp only [foundFrom, pullFrom, hpos, h.ofLexer, h'.ofLexer]
    cases (lx.probe text s.pos).found with
    | none => exact ⟨rfl, rfl, rfl⟩
    | some m =>
      rcases after_line h.onLine m with ⟨place, hplace, hline⟩
      rcases after_line h'.onLine m with ⟨place', hplace', hline'⟩
      simp only [hplace, hplace']
      cases hemits : lx.emits m with
      | false =>
        -- A skipped match makes no token in either, and both go on at its end.
        simp only [Lexer.emit_skipped hemits]
        have hafter : ({ s with lexer := lx, place, pos := m.stop } : Scanner).Scanning lx text _ :=
          ⟨rfl, h.ofText, hline⟩
        have hafter' : ({ s' with lexer := lx, place := place', pos := m.stop } : Scanner).Scanning lx text _ :=
          ⟨rfl, h'.ofText, hline'⟩
        obtain ⟨hfound, hpulled, hgenerator⟩ := ih hafter hafter' rfl
        exact ⟨congrArg (m :: ·) hfound, hpulled, hgenerator⟩
      | true =>
        rcases Lexer.emits_true hemits with ⟨r, hr, hskips⟩
        simp only [Lexer.emit_emitted hr hskips]
        cases r.valueOf m.text with
        | error e => exact ⟨rfl, rfl, rfl⟩
        | ok v => exact ⟨rfl, rfl, rfl⟩

/-- Pulls that go on at one offset find the same. -/
theorem pull_congr (h : s.Scanning lx text line) (h' : s'.Scanning lx text line')
    (hpos : g = .fresh → s'.pos = s.pos) :
    s'.found g = s.found g ∧ (s'.pull g).pulled.outline = (s.pull g).pulled.outline ∧
      (s'.pull g).generator = (s.pull g).generator := by
  by_cases hg : g = .finished
  · subst hg
    exact ⟨rfl, rfl, rfl⟩
  · obtain ⟨hpull, hfound⟩ := pull_eq h.ofText hg
    obtain ⟨hpull', hfound'⟩ := pull_eq h'.ofText hg
    rw [hpull, hpull', hfound, hfound']
    refine pullFrom_congr _ (h.moved _) (h'.moved _) ?_
    cases g with
    | fresh => exact hpos rfl
    | waiting resume => rfl
    | finished => exact absurd rfl hg

end Scanner

/-! ## Crowds -/

/-- A scanner and its generators. -/
structure Crowd where
  scanner : Scanner
  generators : Nat → Generator

/-- A pull of one generator: where the scanner stood before it, the matches that it found, and what it
yielded. -/
structure Turn where
  generator : Nat
  offset : Nat
  found : List RuleMatch
  pulled : Pulled

namespace Crowd

/-- A scanner, and generators that have not been pulled from. -/
def new (s : Scanner) : Crowd := ⟨s, fun _ => .fresh⟩

/-- Pulls from the generator `i`. -/
def turn (c : Crowd) (i : Nat) : Turn × Crowd :=
  let g := c.generators i
  let r := c.scanner.pull g
  (⟨i, c.scanner.pos, c.scanner.found g, r.pulled⟩, ⟨r.scanner, Function.update c.generators i r.generator⟩)

/-- Pulls from generators in the order given. -/
def run (c : Crowd) : List Nat → List Turn × Crowd
  | [] => ([], c)
  | i :: schedule => ((c.turn i).1 :: (run (c.turn i).2 schedule).1, (run (c.turn i).2 schedule).2)

/-- The turns of the generator `i`. -/
def turnsOf (i : Nat) (turns : List Turn) : List Turn := turns.filter fun t => t.generator == i

theorem turn_self (c : Crowd) (i : Nat) :
    (c.turn i).2.generators i = (c.scanner.pull (c.generators i)).generator := Function.update_self ..

/-- A turn leaves the other generators as they are. -/
theorem turn_of_ne (c : Crowd) {i j : Nat} (hij : j ≠ i) : (c.turn i).2.generators j = c.generators j :=
  Function.update_of_ne hij ..

theorem turnsOf_run_self (c : Crowd) (i : Nat) (schedule : List Nat) :
    turnsOf i (c.run (i :: schedule)).1 = (c.turn i).1 :: turnsOf i ((c.turn i).2.run schedule).1 :=
  List.filter_cons_of_pos (beq_self_eq_true i)

theorem turnsOf_run_of_ne (c : Crowd) {i j : Nat} (hij : j ≠ i) (schedule : List Nat) :
    turnsOf j (c.run (i :: schedule)).1 = turnsOf j ((c.turn i).2.run schedule).1 :=
  List.filter_cons_of_neg (by simpa [turn] using hij.symm)

/-! ### What all share -/

section Shared

variable {lx : Lexer} {text : Subject} {line : Int}

/-- The line counts the matches with line feeds, whoever finds them. -/
theorem run_scanning (schedule : List Nat) : ∀ {c : Crowd} {line : Int}, c.scanner.Scanning lx text line →
    (c.run schedule).2.scanner.Scanning lx text (line + lineBreaks ((c.run schedule).1.flatMap Turn.found)) := by
  induction schedule with
  | nil =>
    intro c line h
    simpa [run, lineBreaks] using h
  | cons i schedule ih =>
    intro c line h
    have hrest := ih (c := (c.turn i).2) (h.after_pull (c.generators i)).1
    rw [Int.add_assoc, ← Int.natCast_add, ← lineBreaks_append] at hrest
    exact hrest

/-- The scanner and its generators go on within the text. -/
structure Inside (text : Subject) (c : Crowd) : Prop where
  pos : c.scanner.pos ≤ text.size
  resumes : ∀ i resume, c.generators i = .waiting resume → resume ≤ text.size

theorem Inside.resumeAt_le {c : Crowd} (h : c.Inside text) (i : Nat) :
    c.scanner.resumeAt (c.generators i) ≤ text.size := by
  cases hg : c.generators i with
  | fresh => exact h.pos
  | waiting resume => exact h.resumes i resume hg
  | finished => exact h.pos

theorem Inside.turn {c : Crowd} (h : c.Inside text) (hs : c.scanner.Scanning lx text line) (i : Nat) :
    (c.turn i).2.Inside text := by
  have hsettles := Scanner.pull_settles hs.ofText (h.resumeAt_le i)
  refine ⟨hsettles.1, fun j resume hj => ?_⟩
  by_cases hij : j = i
  · subst hij
    rw [turn_self] at hj
    exact hsettles.resume_le hj
  · rw [turn_of_ne c hij] at hj
    exact h.resumes j resume hj

end Shared

/-! ### Each generator for itself -/

section Alone

variable {lx : Lexer} {text : Subject}

/-- Unless it is fresh, a generator finds and yields what it would find and yield alone. -/
theorem turnsOf_run (schedule : List Nat) (i : Nat) : ∀ {c : Crowd} {s : Scanner} {line line' : Int},
    c.scanner.Scanning lx text line → s.Scanning lx text line' → c.generators i ≠ .fresh →
      (turnsOf i (c.run schedule).1).map (fun t => (t.found, t.pulled.outline)) =
        (s.pulls (c.generators i) (turnsOf i (c.run schedule).1).length).map
          (fun x => (x.1, x.2.outline)) := by
  -- Turns of others may move the crowd's scanner and its line, but neither counts for a generator that waits.
  induction schedule with
  | nil => exact fun _ _ _ => rfl
  | cons j schedule ih =>
    intro c s line line' h hs hfresh
    by_cases hij : j = i
    · subst hij
      obtain ⟨hfound, hpulled, hgenerator⟩ := Scanner.pull_congr h hs fun hg => absurd hg hfresh
      obtain ⟨hcrowd, hfresh'⟩ := h.after_pull (c.generators j)
      rw [turnsOf_run_self, List.length_cons, Scanner.pulls, List.map_cons, List.map_cons, hfound, hpulled,
        hgenerator, ← turn_self]
      rw [← turn_self] at hfresh'
      exact congrArg _ (ih hcrowd (hs.after_pull _).1 hfresh')
    · rw [turnsOf_run_of_ne c (Ne.symm hij), ← turn_of_ne c (Ne.symm hij)]
      rw [← turn_of_ne c (Ne.symm hij)] at hfresh
      exact ih (h.after_pull _).1 hs hfresh

/-- A generator that is fresh finds and yields what it would find and yield alone, from where the scanner stands
when it is pulled first. -/
theorem turnsOf_run_fresh (schedule : List Nat) (i : Nat) : ∀ {c : Crowd} {line : Int} {first : Turn}
    {others : List Turn}, c.scanner.Scanning lx text line → c.Inside text → c.generators i = .fresh →
      turnsOf i (c.run schedule).1 = first :: others → first.offset ≤ text.size ∧
        ∀ {s : Scanner} {line' : Int}, s.Scanning lx text line' → s.pos = first.offset →
          (first :: others).map (fun t => (t.found, t.pulled.outline)) =
            (s.pulls .fresh (others.length + 1)).map (fun x => (x.1, x.2.outline)) := by
  induction schedule with
  | nil => exact fun _ _ _ h => (by cases h)
  | cons j schedule ih =>
    intro c line first others h hinside hfresh hturns
    by_cases hij : j = i
    · -- This is its first turn, after which it is no longer fresh.
      subst hij
      rw [turnsOf_run_self] at hturns
      cases hturns
      refine ⟨hinside.pos, fun {s line'} hs hpos => ?_⟩
      obtain ⟨hfound, hpulled, hgenerator⟩ := Scanner.pull_congr h hs fun _ => hpos
      obtain ⟨hcrowd, hfresh'⟩ := h.after_pull (c.generators j)
      rw [← turn_self] at hfresh' hgenerator
      have hrest := turnsOf_run schedule j (c := (c.turn j).2) hcrowd (hs.after_pull (c.generators j)).1 hfresh'
      rw [List.map_cons, hrest, ← hgenerator, ← hfresh, Scanner.pulls, List.map_cons, hfound, hpulled]
      rfl
    · rw [turnsOf_run_of_ne c (Ne.symm hij)] at hturns
      rw [← turn_of_ne c (Ne.symm hij)] at hfresh
      exact ih (h.after_pull _).1 (hinside.turn h j) hfresh hturns

end Alone

end Crowd

/-! ## A generator alone -/

namespace Scanner

variable {lx : Lexer} {text : Subject}

theorem GoesOnAt.resumeAt {s : Scanner} {g : Generator} {pos : Nat} (h : s.GoesOnAt g pos) :
    s.resumeAt g = pos := by
  rcases h with ⟨rfl, hpos⟩ | rfl
  · exact hpos
  · rfl

theorem pulls_finished (s : Scanner) : ∀ n, s.pulls .finished n = List.replicate n ([], .stopped) := by
  intro n
  induction n with
  | zero => rfl
  | succ n ih =>
    rw [pulls, List.replicate_succ, ← ih]
    rfl

theorem pulls_finished_found (s : Scanner) (n : Nat) : (s.pulls .finished n).flatMap Prod.fst = [] := by
  rw [pulls_finished, List.flatMap_eq_nil_iff]
  intro x hx
  rw [List.eq_of_mem_replicate hx]

/-- Pulls one after the other yield the outcome of a run piece by piece. -/
theorem pulls_answers : ∀ (n : Nat) {pos stop : Nat} {ps : List Probe} {s : Scanner} {g : Generator},
    lx.Scans text pos ps stop → s.lexer = lx → s.text = .ok text → s.GoesOnAt g pos → pos ≤ text.size →
      (s.pulls g n).map Prod.snd = (lx.emitAll s.place pos ps).answers n := by
  intro n
  induction n with
  | zero => exact fun _ _ _ _ _ => rfl
  | succ n ih =>
    intro pos stop ps s g h hlexer htext hg hpos
    have hlength := h.length_le hpos
    have hyields := pull_spec h hlexer htext hg (by omega)
    have hsettles := pull_settles htext (hg.resumeAt.trans_le hpos)
    rw [pulls, List.map_cons]
    generalize s.pull g = r at hyields hsettles ⊢
    generalize lx.emitAll s.place pos ps = o at hyields ⊢
    rw [Yields] at hyields
    cases hpulled : r.pulled with
    | stopped | failed =>
      -- No token: the generator is finished, and further pulls find it so.
      have hfinished := hsettles.finished (by simp [hpulled])
      rw [hpulled] at hyields
      subst hyields
      rw [Lexer.ScanOutcome.answers_nil rfl, hfinished, pulls_finished, List.map_replicate]
      rfl
    | token t =>
      rw [hpulled] at hyields
      rcases hyields with ⟨next, qs, hgenerator, hlexer', htext', hrest, -, rfl⟩
      rw [Lexer.ScanOutcome.answers_after,
        ih hrest hlexer' htext' (.inr hgenerator) (hsettles.resume_le hgenerator)]

/-- The matches that they find are the first of the run. -/
theorem pulls_found : ∀ (n : Nat) {pos stop : Nat} {ps : List Probe} {s : Scanner} {g : Generator} {line : Int},
    lx.Scans text pos ps stop → s.Scanning lx text line → s.GoesOnAt g pos → pos ≤ text.size →
      (s.pulls g n).flatMap Prod.fst <+: ps.filterMap Probe.found := by
  intro n
  induction n with
  | zero => exact fun _ _ _ _ => List.nil_prefix
  | succ n ih =>
    intro pos stop ps s g line h hs hg hpos
    have hsettles := pull_settles hs.ofText (hg.resumeAt.trans_le hpos)
    have hgoes : g ≠ .finished := by
      rcases hg with ⟨rfl, -⟩ | rfl
      · nofun
      · nofun
    obtain ⟨hpull, hfound⟩ := pull_eq hs.ofText hgoes
    have hsteps := pullFrom_steps text (text.size + 1) { s with pos := s.resumeAt g }
    rw [← hpull, ← hfound] at hsteps
    rw [← hg.resumeAt, ← hs.ofLexer] at h
    obtain ⟨rest, hsplit, hwaits⟩ := hsteps.found_prefix h
    rw [hs.ofLexer] at hwaits
    rw [pulls, List.flatMap_cons, hsplit, List.prefix_append_right_inj]
    by_cases htoken : ∃ t, (s.pull g).pulled = .token t
    · obtain ⟨t, hpulled⟩ := htoken
      rcases hwaits t hpulled with ⟨next, qs, hgenerator, hrest, rfl⟩
      exact ih hrest (hs.after_pull g).1 (.inr hgenerator) (hsettles.resume_le hgenerator)
    · rw [hsettles.finished fun t ht => htoken ⟨t, ht⟩, pulls_finished_found]
      exact List.nil_prefix

end Scanner

/-! ## All together -/

namespace Crowd

/-- If one generator alone is pulled, its turns are its pulls. -/
theorem run_replicate (i n : Nat) : ∀ (c : Crowd),
    (c.run (List.replicate n i)).1.map (fun t => (t.found, t.pulled)) = c.scanner.pulls (c.generators i) n := by
  induction n with
  | zero => exact fun _ => rfl
  | succ n ih =>
    intro c
    rw [List.replicate_succ, run, Scanner.pulls, List.map_cons, ih, turn_self]
    rfl

/-- The turns of a generator make up the beginning of a scan from where the scanner stood at the first of them. -/
theorem turnsOf_scanFrom {lx : Lexer} {text : Subject} {c : Crowd} {line : Int} {i : Nat} {first : Turn}
    {others : List Turn} (schedule : List Nat) (h : c.scanner.Scanning lx text line) (hinside : c.Inside text)
    (hfresh : c.generators i = .fresh) (hturns : turnsOf i (c.run schedule).1 = first :: others) :
    ∃ stop, Tiles text first.offset ((first :: others).flatMap Turn.found) stop ∧
      (first :: others).flatMap Turn.found <+: lx.matchesFrom text first.offset ∧
      (first :: others).map (fun t => t.pulled.outline) =
        ((lx.scanFrom text (.int line) first.offset).answers (first :: others).length).map Pulled.outline := by
  obtain ⟨hoffset, halone⟩ := turnsOf_run_fresh schedule i h hinside hfresh hturns
  obtain ⟨stop, hscans⟩ :
      ∃ stop, lx.Scans text first.offset (lx.traceFrom text (text.size + 1) first.offset) stop :=
    Lexer.traceFrom_scans _ _ hoffset (by omega)
  -- The generator alone with a scanner that stands where it began.
  let s : Scanner := ⟨lx, .ok text, first.offset, ⟨.int line, first.offset⟩⟩
  have hs : s.Scanning lx text line := ⟨rfl, rfl, rfl⟩
  have hsame := halone hs rfl
  have hprefix : (first :: others).flatMap Turn.found <+: lx.matchesFrom text first.offset := by
    have hfound := congrArg (List.flatMap Prod.fst) hsame
    rw [List.flatMap_map, List.flatMap_map] at hfound
    change (first :: others).flatMap Turn.found = (s.pulls .fresh _).flatMap Prod.fst at hfound
    rw [hfound]
    exact Scanner.pulls_found _ hscans hs (.inl ⟨rfl, rfl⟩) hoffset
  have hyields : (first :: others).map (fun t => t.pulled.outline) =
      ((lx.scanFrom text (.int line) first.offset).answers (others.length + 1)).map Pulled.outline := by
    have hanswers := Scanner.pulls_answers (others.length + 1) hscans (s := s) (g := .fresh) rfl rfl
      (.inl ⟨rfl, rfl⟩) hoffset
    have houtlines := congrArg (List.map Prod.snd) hsame
    rw [List.map_map, List.map_map] at houtlines
    change _ = ((lx.emitAll s.place first.offset _).answers _).map _
    rw [← hanswers, List.map_map]
    exact houtlines
  have htiles : Tiles text first.offset (lx.matchesFrom text first.offset) stop := hscans.tiles hoffset
  rcases hprefix with ⟨rest, hsplit⟩
  rw [← hsplit] at htiles
  rcases htiles.of_append with ⟨middle, hmiddle, -⟩
  exact ⟨middle, hmiddle, ⟨rest, hsplit⟩, hyields⟩

/-- Any number of generators take turns with a new scanner, in any order. The line counts the matches with line
feeds that have been found, whoever found them. The matches that a generator finds lie side by side from where
the scanner stood at its first turn; they and what it yields, places apart, are those of a scan from there, which
nothing disturbs: tokens, a fault if a hook fails, and then nothing. A generator that is alone yields a scan of the
text, places included. -/
theorem run_shared (lx : Lexer) (s : String) (line : Int) (schedule : List Nat) :
    ∃ (text : Subject) (scanner : Scanner) (o : Lexer.ScanOutcome) (turns : List Turn) (c : Crowd),
      text = s.toList.toArray ∧ scanner = Scanner.new lx (.str s) (.int line) ∧
      o = lx.scanValue (.str s) (.int line) ∧
      (lx.tokenize (.str s) (.int line)).result = (match o.fault with
        | none => .ok o.tokens
        | some e => .error e) ∧
      (new scanner).run schedule = (turns, c) ∧
      c.scanner.place.line = .int (line + lineBreaks (turns.flatMap Turn.found)) ∧
      (∀ i first others, turnsOf i turns = first :: others → ∃ stop,
        Tiles text first.offset ((first :: others).flatMap Turn.found) stop ∧
        (first :: others).flatMap Turn.found <+: lx.matchesFrom text first.offset ∧
        (first :: others).map (fun t => t.pulled.outline) =
          ((lx.scanFrom text (.int line) first.offset).answers (first :: others).length).map Pulled.outline) ∧
      ∀ i n, ((new scanner).run (List.replicate n i)).1.map Turn.pulled = o.answers n := by
  let text : Subject := s.toList.toArray
  let scanner := Scanner.new lx (.str s) (.int line)
  have hscanning : (new scanner).scanner.Scanning lx text line := ⟨rfl, rfl, rfl⟩
  have hinside : (new scanner).Inside text := ⟨Nat.zero_le _, nofun⟩
  refine ⟨text, scanner, _, _, _, rfl, rfl, rfl, rfl, rfl, (run_scanning schedule hscanning).onLine,
    fun i first others hturns => turnsOf_scanFrom schedule hscanning hinside rfl hturns, fun i n => ?_⟩
  rcases lx.trace_scans text with ⟨stop, hscans⟩
  have hpulls := congrArg (List.map Prod.snd) (run_replicate i n (new scanner))
  have hanswers := Scanner.pulls_answers n hscans (s := scanner) (g := .fresh) rfl rfl (.inl ⟨rfl, rfl⟩)
    (Nat.zero_le _)
  rw [List.map_map] at hpulls
  exact hpulls.trans hanswers

end Crowd

end PatternLexer
