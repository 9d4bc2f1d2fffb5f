import Mathlib.Data.List.Forall2
import PatternLexer.Proofs.Tiling

/-!
# Where tokens stand

The line of a token counts the matches with line feeds up to its own, and its column counts from the end of the
last of them. Matches that make no token are counted like the others.

* `Place.afterAll` is the place after a list of matches; `Place.after_afterAll` adds one match to the list.
* `Lexer.Scans.emitAll_made`: the tokens of a run are made of its matches, in order.
* `Lexer.Scans.emitAll_placed`: in a run each token stands at the place after the matches up to its own.
* `Lexer.Scans.emitAll_later`: a scan that begins some lines later makes the same tokens, so much later.
* `Lexer.scan_placed` puts them together.
-/

namespace PatternLexer

open List (Forall₂)

/-! ## Lines that matches end -/

/-- There are line feeds in the match, so that it ends a line. -/
def RuleMatch.breaksLine (m : RuleMatch) : Bool := m.text.contains '\n'

/-- How many of the matches end a line. -/
def lineBreaks (ms : List RuleMatch) : Nat := ms.countP RuleMatch.breaksLine

/-- Where columns count from after the matches: the end of the last one that ends a line, or the start of the
text. -/
def columnBase (ms : List RuleMatch) : Nat :=
  ((ms.filter RuleMatch.breaksLine).getLast?.map RuleMatch.stop).getD 0

section Breaks

variable (ms : List RuleMatch) (m : RuleMatch)

theorem lineBreaks_concat :
    lineBreaks (ms ++ [m]) = lineBreaks ms + if m.breaksLine then 1 else 0 := by
  unfold lineBreaks
  rw [List.countP_append, List.countP_singleton]

/-- The lines ended by matches one after the other are counted together. -/
theorem lineBreaks_append (ms' : List RuleMatch) : lineBreaks (ms ++ ms') = lineBreaks ms + lineBreaks ms' :=
  List.countP_append

theorem columnBase_append (ms' : List RuleMatch) :
    columnBase (ms ++ ms') = if ms'.any RuleMatch.breaksLine then columnBase ms' else columnBase ms := by
  unfold columnBase
  rw [List.filter_append, List.getLast?_append]
  -- The last match that ends a line is in the second part if there is one.
  cases hany : ms'.any RuleMatch.breaksLine with
  | false =>
    have hnone : ms'.filter RuleMatch.breaksLine = [] := by
      rw [List.filter_eq_nil_iff]
      exact fun m hm => List.any_eq_false.1 hany m hm
    rw [hnone]
    rfl
  | true =>
    rcases List.any_eq_true.1 hany with ⟨m, hm, hbreak⟩
    have hne : ms'.filter RuleMatch.breaksLine ≠ [] := List.ne_nil_of_mem (List.mem_filter.2 ⟨hm, hbreak⟩)
    rw [List.getLast?_eq_some_getLast hne]
    rfl

theorem columnBase_concat :
    columnBase (ms ++ [m]) = if m.breaksLine then m.stop else columnBase ms := by
  rw [columnBase_append, List.any_cons, List.any_nil, Bool.or_false]
  cases hbreak : m.breaksLine with
  | false => rfl
  | true => simp [columnBase, hbreak]

/-- The matches up to number `k` are those before it, and itself. -/
theorem take_number {ms : List RuleMatch} {k : Nat} {m : RuleMatch} (hm : ms[k]? = some m) :
    ms.take (k + 1) = ms.take k ++ [m] := by
  rw [List.take_add_one, hm]
  rfl

end Breaks

namespace Tiles

variable {text : Subject} {pos stop : Nat} {ms : List RuleMatch}

/-- Two lists of matches that tile the text one after the other meet at some offset. -/
theorem of_append {ms' : List RuleMatch} (h : Tiles text pos (ms ++ ms') stop) :
    ∃ middle, Tiles text pos ms middle ∧ Tiles text middle ms' stop := by
  induction ms generalizing pos with
  | nil =>
    have hle := h.length_le
    have hsize := h.le_size
    exact ⟨pos, .nil (by omega), h⟩
  | cons m ms ih =>
    cases h with
    | cons hstart hlt htext hrest =>
      obtain ⟨middle, hfront, hback⟩ := ih hrest
      exact ⟨middle, .cons hstart hlt htext hfront, hback⟩

/-- The matches before one of a tiling tile the text up to it. -/
theorem before {m : RuleMatch} {ms' : List RuleMatch} (h : Tiles text pos (ms ++ m :: ms') stop) :
    Tiles text pos ms m.start ∧ m.start < m.stop ∧ m.text = text.slice m.start m.stop ∧
      m.stop ≤ text.size := by
  obtain ⟨middle, hfront, hback⟩ := h.of_append
  cases hback with
  | cons hstart hlt htext hrest =>
    subst hstart
    have hstop := hrest.length_le
    have hsize := hrest.le_size
    exact ⟨hfront, hlt, htext, by omega⟩

/-- The same for the match number `k`. -/
theorem before_number (h : Tiles text pos ms stop) {k : Nat} {m : RuleMatch} (hm : ms[k]? = some m) :
    Tiles text pos (ms.take k) m.start ∧ m.start < m.stop ∧ m.text = text.slice m.start m.stop ∧
      m.stop ≤ text.size := by
  obtain ⟨hk, rfl⟩ := List.getElem?_eq_some_iff.1 hm
  have hsplit : ms = ms.take k ++ ms[k] :: ms.drop (k + 1) := by
    rw [← List.drop_eq_getElem_cons hk, List.take_append_drop]
  rw [hsplit] at h
  exact h.before

/-- Each of the matches ends where the tiling does or before. -/
theorem stop_le (h : Tiles text pos ms stop) : ∀ m ∈ ms, m.stop ≤ stop := by
  induction h with
  | nil _ =>
    intro m hm
    cases hm
  | cons _ _ _ hrest ih =>
    have hle := hrest.length_le
    intro m hm
    rcases List.mem_cons.1 hm with rfl | hm
    · omega
    · exact ih m hm

/-- Columns count from an offset that the matches have passed. -/
theorem columnBase_le (h : Tiles text pos ms stop) : columnBase ms ≤ stop := by
  unfold columnBase
  cases hlast : (ms.filter RuleMatch.breaksLine).getLast? with
  | none => exact Nat.zero_le _
  | some m =>
    have hmem : m ∈ ms := (List.mem_filter.1 (List.mem_of_getLast? hlast)).1
    exact h.stop_le m hmem

/-- Columns count from behind a match that ends a line, and from before any other. -/
theorem column (h : Tiles text 0 ms stop) {k : Nat} {m : RuleMatch} (hm : ms[k]? = some m) :
    (1 ≤ (m.start : Int) - columnBase (ms.take (k + 1)) + 1 ↔ m.breaksLine = false) ∧
      (m.breaksLine = true →
        (m.start : Int) - columnBase (ms.take (k + 1)) + 1 = 1 - (m.stop - m.start)) := by
  obtain ⟨hbefore, hlt, -⟩ := h.before_number hm
  -- The column base is the end of this match if it ends a line, and lies before it otherwise.
  have hbase := hbefore.columnBase_le
  rw [take_number hm, columnBase_concat]
  cases hbreak : m.breaksLine with
  | true =>
    rw [if_pos rfl]
    refine ⟨⟨fun hcol => ?_, fun hfalse => ?_⟩, fun _ => ?_⟩
    · omega
    · cases hfalse
    · omega
  | false =>
    rw [if_neg Bool.false_ne_true]
    refine ⟨⟨fun _ => rfl, fun _ => ?_⟩, fun hfalse => ?_⟩
    · omega
    · cases hfalse

end Tiles

/-! ## The place after matches -/

namespace Place

/-- The place after matches of a scan whose first line is `line`. -/
def afterAll (line : Int) (ms : List RuleMatch) : Place := ⟨.int (line + lineBreaks ms), columnBase ms⟩

/-- One match more. -/
theorem after_afterAll (line : Int) (ms : List RuleMatch) (m : RuleMatch) :
    (afterAll line ms).after m = .ok (afterAll line (ms ++ [m])) := by
  unfold after afterAll
  rw [lineBreaks_concat, columnBase_concat]
  by_cases hbreak : m.breaksLine = true
  · have hcontains : m.text.contains '\n' = true := hbreak
    have hline : line + lineBreaks ms + 1 = line + ((lineBreaks ms + 1 : Nat) : Int) := by omega
    simp only [hcontains, hbreak, if_true, Value.increment, hline]
    rfl
  · have hcontains : ¬ m.text.contains '\n' = true := hbreak
    simp only [hcontains, hbreak]
    rfl

end Place

/-! ## Tokens of a run -/

/-- The other list of two related ones has an element at each place of the first. -/
theorem exists_related {α β : Type} {R : α → β → Prop} {as : List α} {bs : List β} (h : Forall₂ R as bs) {i : Nat}
    {a : α} (ha : as[i]? = some a) : ∃ b, bs[i]? = some b ∧ R a b := by
  rcases List.getElem?_eq_some_iff.1 ha with ⟨hi, rfl⟩
  have hi' : i < bs.length := h.length_eq ▸ hi
  exact ⟨bs[i], List.getElem?_eq_getElem hi', h.get hi hi'⟩

theorem map_eq_of_related {α β γ : Type} {R : α → β → Prop} {as : List α} {bs : List β} {f : α → γ} {g : β → γ}
    (h : Forall₂ R as bs) (hsame : ∀ a b, R a b → f a = g b) : as.map f = bs.map g := by
  rw [← List.forall₂_eq_eq_eq, List.forall₂_map_left_iff, List.forall₂_map_right_iff]
  exact h.imp hsame

/-- The token tells where the match `m` stands, which is number `k` of the matches of a scan from `line`. -/
structure Token.StandsAt (t : Token) (line : Int) (ms : List RuleMatch) (k : Nat) (m : RuleMatch) : Prop where
  number : ms[k]? = some m
  length : t.length = .int (m.stop - m.start)
  line : t.line = .int (line + lineBreaks (ms.take (k + 1)))
  col : t.col = .int (m.start - columnBase (ms.take (k + 1)) + 1)

namespace Lexer

/-- The matches that make tokens, with their numbers, that of the first one being `k`. -/
def emittedFrom (lx : Lexer) (k : Nat) (ms : List RuleMatch) : List (RuleMatch × Nat) :=
  (ms.zipIdx k).filter fun x => lx.emits x.1

variable {lx : Lexer} {text : Subject} {pos stop : Nat} {ps : List Probe}

theorem emittedFrom_cons (k : Nat) (m : RuleMatch) (ms : List RuleMatch) :
    lx.emittedFrom k (m :: ms) =
      if lx.emits m then (m, k) :: lx.emittedFrom (k + 1) ms else lx.emittedFrom (k + 1) ms := by
  unfold emittedFrom
  rw [List.zipIdx_cons, List.filter_cons]

/-- The token `t` is made of the match `m`, which is number `k` of the matches of a scan from `line`. -/
structure Makes (lx : Lexer) (line : Int) (ms : List RuleMatch) (k : Nat) (m : RuleMatch) (t : Token) : Prop where
  number : ms[k]? = some m
  length : (m.text.length : Int) = m.stop - m.start
  emits : lx.emit (.afterAll line (ms.take (k + 1))) m = .ok (some t)

/-- The token of a match stands at the place after it. -/
theorem Makes.standsAt {line : Int} {ms : List RuleMatch} {k : Nat} {m : RuleMatch} {t : Token}
    (h : lx.Makes line ms k m t) : t.StandsAt line ms k m := by
  rcases emit_some h.emits with ⟨r, v, -, -, -, rfl⟩
  exact ⟨h.number, congrArg Value.int h.length, rfl, rfl⟩

/-- The token of a step is made of its match. -/
theorem IsMove.makes {m : RuleMatch} (hm : lx.IsMove text pos m) {line : Int} {before : List RuleMatch} {t : Token}
    (ht : lx.emit (.afterAll line (before ++ [m])) m = .ok (some t)) (after : List RuleMatch) :
    lx.Makes line (before ++ m :: after) before.length m t where
  number := by simp
  length := by
    have hslice : (text.slice pos m.stop).length = m.stop - pos := text.length_slice hm.inside
    have := hm.moves
    rw [hm.spells, hslice, hm.starts]
    omega
  emits := by
    have htake : (before ++ m :: after).take (before.length + 1) = before ++ [m] := by
      rw [List.take_append, List.take_of_length_le (Nat.le_succ _), Nat.add_sub_cancel_left]
      rfl
    rw [htake]
    exact ht

/-- The tokens of a run are made of its matches that make one, in order, up to a fault. -/
theorem Scans.emitAll_made (line : Int) (h : lx.Scans text pos ps stop) (hpos : pos ≤ text.size) :
    ∀ before : List RuleMatch, ∃ made,
      made <+: lx.emittedFrom before.length (ps.filterMap Probe.found) ∧
      ((lx.emitAll (.afterAll line before) pos ps).fault = none →
        made = lx.emittedFrom before.length (ps.filterMap Probe.found)) ∧
      Forall₂ (fun x t => lx.Makes line (before ++ ps.filterMap Probe.found) x.2 x.1 t) made
        (lx.emitAll (.afterAll line before) pos ps).tokens := by
  induction h with
  | stop hfound =>
    intro before
    refine ⟨[], List.nil_prefix, fun _ => ?_, ?_⟩
    · rw [List.filterMap_cons_none hfound]
      rfl
    · simp only [emitAll, hfound]
      exact .nil
  | @step pos stop m ps hfound _ ih =>
    intro before
    have hmove := probe_moves hpos hfound
    rw [List.filterMap_cons_some hfound, emittedFrom_cons]
    simp only [emitAll, hfound, Place.after_afterAll]
    -- The matches up to this one are those before the rest of the run.
    obtain ⟨made, hprefix, hall, hmade⟩ := ih hmove.inside (before ++ [m])
    rw [List.length_append, List.length_singleton] at hprefix hall
    rw [List.append_assoc] at hmade
    cases hemits : lx.emits m with
    | false =>
      simp only [emit_skipped hemits]
      exact ⟨made, hprefix, hall, hmade⟩
    | true =>
      rcases emits_true hemits with ⟨r, hr, hskips⟩
      have hemit := emit_emitted (p := .afterAll line (before ++ [m])) hr hskips
      cases hv : r.valueOf m.text with
      | error e =>
        simp only [hemit, hv, Except.map]
        refine ⟨[], List.nil_prefix, fun hfault => ?_, .nil⟩
        cases hfault
      | ok v =>
        rw [hv] at hemit
        simp only [hemit, Except.map]
        refine ⟨(m, before.length) :: made, ?_, fun hfault => ?_, ?_⟩
        · exact List.cons_prefix_cons.2 ⟨rfl, hprefix⟩
        · exact congrArg _ (hall hfault)
        · exact .cons (hmove.makes hemit _) hmade

/-- The tokens of a run are those of its matches that make one, up to a fault, and each stands where the matches
up to its own lead to. -/
theorem Scans.emitAll_placed (line : Int) (h : lx.Scans text pos ps stop) (hpos : pos ≤ text.size)
    (before : List RuleMatch) : ∃ placed,
      placed <+: lx.emittedFrom before.length (ps.filterMap Probe.found) ∧
      ((lx.emitAll (.afterAll line before) pos ps).fault = none →
        placed = lx.emittedFrom before.length (ps.filterMap Probe.found)) ∧
      Forall₂ (fun x t => t.StandsAt line (before ++ ps.filterMap Probe.found) x.2 x.1) placed
        (lx.emitAll (.afterAll line before) pos ps).tokens := by
  obtain ⟨made, hprefix, hall, hmade⟩ := h.emitAll_made line hpos before
  exact ⟨made, hprefix, hall, hmade.imp fun _ _ ht => ht.standsAt⟩

end Lexer

/-! ## Scans that begin later -/

/-- The token, `d` lines later. -/
def Token.later (d : Int) (t : Token) : Token :=
  { t with
    line :=
      match t.line with
      | .int n => .int (n + d)
      | v => v }

namespace Lexer

/-- The outcome with all tokens `d` lines later. -/
def ScanOutcome.later (d : Int) (o : ScanOutcome) : ScanOutcome := { o with tokens := o.tokens.map (Token.later d) }

variable {lx : Lexer}

theorem tokenOf_later (line d : Int) (ms : List RuleMatch) (r : Rule) (m : RuleMatch) (v : Value) :
    lx.tokenOf r (.afterAll (line + d) ms) m v = (lx.tokenOf r (.afterAll line ms) m v).later d := by
  have hline : line + d + (lineBreaks ms : Int) = line + lineBreaks ms + d := by omega
  simp only [tokenOf, Token.later, Place.afterAll, Place.column, hline]

/-- Steps make the same tokens, the same fault and the same records from any line on. -/
theorem emitAll_later (line d : Int) (ps : List Probe) : ∀ (before : List RuleMatch) (pos : Nat),
    lx.emitAll (.afterAll (line + d) before) pos ps = (lx.emitAll (.afterAll line before) pos ps).later d := by
  induction ps with
  | nil =>
    intro before pos
    rfl
  | cons p ps ih =>
    intro before pos
    cases hfound : p.found with
    | none =>
      simp only [emitAll, hfound]
      rfl
    | some m =>
      simp only [emitAll, hfound, Place.after_afterAll]
      -- Neither the matches nor what a hook returns depends on the line.
      cases hemits : lx.emits m with
      | false =>
        simp only [emit_skipped hemits, ih]
        rfl
      | true =>
        rcases emits_true hemits with ⟨r, hr, hskips⟩
        simp only [emit_emitted hr hskips]
        cases hv : r.valueOf m.text with
        | error e =>
          simp only [Except.map]
          rfl
        | ok v =>
          simp only [Except.map, ih, tokenOf_later]
          rfl

/-! ## Scans -/

/-- A scan makes the tokens of its steps, at a place that no match has passed yet. -/
theorem scanValue_eq (lx : Lexer) (s : String) (line : Int) :
    lx.scanValue (.str s) (.int line) = lx.emitAll (.afterAll line []) 0 (lx.trace s.toList.toArray) := by
  simp only [Place.afterAll, lineBreaks, columnBase, List.countP_nil, Int.natCast_zero, Int.add_zero]
  rfl

/-- The tokens of a scan are made of its matches that make one, in order, up to a fault. -/
theorem scan_made (lx : Lexer) (s : String) (line : Int) : ∃ made,
    made <+: lx.emittedFrom 0 (lx.matchesOf s.toList.toArray) ∧
    ((lx.scanValue (.str s) (.int line)).fault = none →
      made = lx.emittedFrom 0 (lx.matchesOf s.toList.toArray)) ∧
    Forall₂ (fun x t => lx.Makes line (lx.matchesOf s.toList.toArray) x.2 x.1 t) made
      (lx.scanValue (.str s) (.int line)).tokens := by
  rcases lx.trace_scans s.toList.toArray with ⟨stop, hscans⟩
  rw [scanValue_eq]
  exact hscans.emitAll_made line (Nat.zero_le _) []

/-- A scan has no fault if its hooks do not raise. -/
theorem scan_fault {s : String} (hhooks : ∀ m ∈ lx.matchesOf s.toList.toArray, lx.HookReturns m) (line : Int) :
    (lx.scanValue (.str s) (.int line)).fault = none := by
  rcases lx.trace_scans s.toList.toArray with ⟨stop, hscans⟩
  exact hscans.emitAll_fault hhooks rfl

/-- The tokens of a scan that are kept are those of all its matches that make one. -/
theorem tokenize_made {s : String} {line : Int} {tokens : List Token}
    (h : (lx.tokenize (.str s) (.int line)).result = .ok tokens) :
    Forall₂ (fun x t => lx.Makes line (lx.matchesOf s.toList.toArray) x.2 x.1 t)
      (lx.emittedFrom 0 (lx.matchesOf s.toList.toArray)) tokens := by
  obtain ⟨hfault, rfl⟩ := tokenize_ok.1 h
  obtain ⟨made, -, hall, hmade⟩ := lx.scan_made s line
  rwa [hall hfault] at hmade

/-- Each token of a scan tells where its match stands, whether the tokens are made at once or pulled one by one,
and up to a fault there is one for each match whose rule does not skip. Its line counts the matches with line
feeds up to its own, and its column counts from the end of the last of them, so that it is positive just if there
are none in the match itself. From another line on the scan is the same, but for the lines. -/
theorem scan_placed (lx : Lexer) (s : String) (line : Int) :
    ∃ (text : Subject) (ms : List RuleMatch) (o : ScanOutcome) (placed : List (RuleMatch × Nat)),
      text = s.toList.toArray ∧ ms = lx.matchesOf text ∧ o = lx.scanValue (.str s) (.int line) ∧
      ((Scanner.new lx (.str s) (.int line)).pullAll (text.size + 2) .fresh).1 = o.tokens ∧
      placed <+: lx.emittedFrom 0 ms ∧ (o.fault = none → placed = lx.emittedFrom 0 ms) ∧
      Forall₂ (fun x t => t.StandsAt line ms x.2 x.1 ∧
        ∃ length col : Int, t.length = .int length ∧ t.col = .int col ∧
          (1 ≤ col ↔ x.1.breaksLine = false) ∧ (x.1.breaksLine = true → col = 1 - length)) placed o.tokens ∧
      ∀ d, lx.scanValue (.str s) (.int (line + d)) = o.later d := by
  let text : Subject := s.toList.toArray
  let ms := lx.matchesOf text
  have hstart : ∀ n : Int, (⟨.int n, 0⟩ : Place) = .afterAll n [] := by
    intro n
    simp [Place.afterAll, lineBreaks, columnBase]
  have hscan : ∀ n : Int, lx.scanValue (.str s) (.int n) = lx.emitAll (.afterAll n []) 0 (lx.trace text) := by
    intro n
    rw [← hstart]
    rfl
  rcases lx.trace_scans text with ⟨stop, hscans⟩
  have htiles : Tiles text 0 ms stop := hscans.tiles (Nat.zero_le _)
  obtain ⟨placed, hprefix, hall, hplaced⟩ := hscans.emitAll_placed line (Nat.zero_le _) []
  rw [← hscan] at hall hplaced
  refine ⟨text, ms, _, placed, rfl, rfl, rfl, ?_, hprefix, hall, ?_, fun d => ?_⟩
  · exact (Scanner.pullAll_new lx (.str s) (.int line)).1
  · refine hplaced.imp fun x t hat => ⟨hat, _, _, hat.length, hat.col, ?_⟩
    exact htiles.column hat.number
  · rw [hscan, hscan, emitAll_later]

end Lexer

end PatternLexer
