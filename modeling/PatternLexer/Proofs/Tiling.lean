import Mathlib.Algebra.GroupWithZero.Nat
import PatternLexer.Proofs.Pulling

/-!
# Scans tile the text

The matches of a scan lie side by side from the start of the text to where the scan stops.

* `Tiles` says so of a list of matches, and gives what they spell.
* `Lexer.Scans.tiles`: the matches of a run tile the text.
* `Lexer.scan_tiles` adds that a scan ends, where it stops and what its tokens spell.
-/

namespace PatternLexer

/-! ## Parts of a text -/

namespace Subject

variable (text : Subject)

theorem slice_self (pos : Nat) : text.slice pos pos = "" := by
  simp [slice]

theorem slice_append {start middle stop : Nat} (hstart : start ≤ middle) (hstop : middle ≤ stop) :
    text.slice start middle ++ text.slice middle stop = text.slice start stop := by
  rw [slice, slice, slice, ← String.ofList_append, ← Array.toList_append, Array.extract_append_extract,
    Nat.min_eq_left hstart, Nat.max_eq_right hstop]

theorem length_slice {start stop : Nat} (hstop : stop ≤ text.size) :
    (text.slice start stop).length = stop - start := by
  rw [slice, String.length_ofList, Array.length_toList, Array.size_extract, Nat.min_eq_left hstop]

end Subject

/-! ## Tilings -/

/-- The matches lie side by side in the text from `pos` to `stop`, and none of them is empty. -/
inductive Tiles (text : Subject) : Nat → List RuleMatch → Nat → Prop where
  | nil {pos : Nat} : pos ≤ text.size → Tiles text pos [] pos
  | cons {pos stop : Nat} {m : RuleMatch} {ms : List RuleMatch} :
      m.start = pos → pos < m.stop → m.text = text.slice pos m.stop → Tiles text m.stop ms stop →
      Tiles text pos (m :: ms) stop

namespace Tiles

variable {text : Subject} {pos stop : Nat} {ms : List RuleMatch}

theorem le_size (h : Tiles text pos ms stop) : stop ≤ text.size := by
  induction h with
  | nil hle => exact hle
  | cons _ _ _ _ ih => exact ih

/-- Each match takes at least one character. -/
theorem length_le (h : Tiles text pos ms stop) : pos + ms.length ≤ stop := by
  induction h with
  | nil _ => exact Nat.le_refl _
  | cons _ hlt _ _ ih =>
    rw [List.length_cons]
    omega

/-- The matches spell the text between their ends. -/
theorem spells (h : Tiles text pos ms stop) :
    String.join (ms.map RuleMatch.text) = text.slice pos stop := by
  induction h with
  | nil _ => rw [text.slice_self]; rfl
  | cons _ hlt hspells hrest ih =>
    have hle := hrest.length_le
    rw [List.map_cons, String.join_cons, ih, hspells, text.slice_append (by omega) (by omega)]

/-- The lengths of the matches make up the distance of their ends. -/
theorem sum_length (h : Tiles text pos ms stop) :
    pos + (ms.map fun m => m.text.length).sum = stop := by
  induction h with
  | nil _ => rfl
  | cons _ hlt hspells hrest ih =>
    have hle := hrest.length_le
    have hsize := hrest.le_size
    rw [List.map_cons, List.sum_cons, hspells, text.length_slice (by omega)]
    omega

end Tiles

/-! ## Matches and tokens of a scan -/

namespace Lexer

variable {lx : Lexer} {text : Subject} {pos stop : Nat} {ps : List Probe}

/-- The matches of a run tile the text. -/
theorem Scans.tiles (h : lx.Scans text pos ps stop) (hpos : pos ≤ text.size) :
    Tiles text pos (ps.filterMap Probe.found) stop := by
  induction h with
  | stop hfound =>
    rw [List.filterMap_cons_none hfound]
    exact .nil hpos
  | step hfound _ ih =>
    have hmove := probe_moves hpos hfound
    rw [List.filterMap_cons_some hfound]
    exact .cons hmove.starts hmove.moves hmove.spells (ih hmove.inside)

theorem exists_tiles (lx : Lexer) (text : Subject) : ∃ stop, Tiles text 0 (lx.matchesOf text) stop := by
  rcases lx.trace_scans text with ⟨stop, hscans⟩
  exact ⟨stop, hscans.tiles (Nat.zero_le _)⟩

/-- Every match makes a token, whose value is the text matched. -/
def IsPlain (lx : Lexer) : Prop := ∀ r ∈ lx.given, r.skips = false ∧ r.hook = none

theorem emit_plain (hplain : lx.IsPlain) {p : Place} {m : RuleMatch} (hm : m.index < lx.rules.length) :
    ∃ t, lx.emit p m = .ok (some t) ∧ t.value = .str m.text ∧ t.length = .int m.text.length := by
  have hr := List.getElem?_eq_getElem hm
  rcases forall_rules hplain ⟨rfl, rfl⟩ _ (List.getElem_mem hm) with ⟨hskips, hhook⟩
  refine ⟨_, by rw [emit, hr]; simp [hskips, hhook]; rfl, rfl, rfl⟩

/-- Rules that are plain make one token for each match of a run. -/
theorem Scans.emitAll_plain (h : lx.Scans text pos ps stop) (hpos : pos ≤ text.size)
    (hplain : lx.IsPlain) : ∀ {place : Place} {n : Int}, place.line = .int n →
      (lx.emitAll place pos ps).tokens.map (fun t => (t.value, t.length)) =
        (ps.filterMap Probe.found).map fun m => (.str m.text, .int m.text.length) := by
  induction h with
  | stop hfound =>
    intro place n _
    simp only [emitAll, hfound, List.filterMap_cons_none hfound, List.filterMap_nil, List.map_nil]
  | @step pos stop m ps hfound _ ih =>
    intro place n hline
    have hmove := probe_moves hpos hfound
    rcases Place.after_int hline m with ⟨next, k, hnext, hline'⟩
    rcases emit_plain hplain (p := next) hmove.ofRule with ⟨t, ht, hvalue, hlength⟩
    simp only [emitAll, hfound, hnext, ht, List.filterMap_cons_some hfound, List.map_cons,
      Option.toList_some, List.singleton_append, hvalue, hlength, ih hmove.inside hline']

/-- A scan of a text from a line that is an integer ends without a fault if the hooks do, whether its tokens
are made at once or pulled one by one. Its matches, those of skipped text included, are not more than the
characters and tile the text up to where the scan stops, which is at the end of the text or of a line. If all
matches make plain tokens, these spell the text up to there. -/
theorem scan_tiles (lx : Lexer) (s : String) (line : Int)
    (hhooks : ∀ m ∈ lx.matchesOf s.toList.toArray, lx.HookReturns m) :
    ∃ (text : Subject) (tokens : List Token) (stop : Nat), text = s.toList.toArray ∧
      (∀ pos ≤ text.size, ∃ found, lx.composite.matchAt text pos = .ok found) ∧
      (lx.tokenize (.str s) (.int line)).result = .ok tokens ∧
      (∃ last, (Scanner.new lx (.str s) (.int line)).pullAll (text.size + 2) .fresh = (tokens, last) ∧
        last.pulled = .stopped) ∧
      lx.Scans text 0 (lx.trace text) stop ∧
      Tiles text 0 (lx.matchesOf text) stop ∧ (lx.matchesOf text).length ≤ text.size ∧
      (stop = text.size ∨ text.EndsLineAt stop) ∧
      (lx.IsPlain → ∃ values : List String, tokens.map Token.value = values.map Value.str ∧
        tokens.map Token.length = values.map (fun v => Value.int v.length) ∧
        String.join values = text.slice 0 stop ∧ (values.map String.length).sum = stop) := by
  let text : Subject := s.toList.toArray
  let o := lx.emitAll ⟨.int line, 0⟩ 0 (lx.trace text)
  rcases lx.trace_scans text with ⟨stop, hscans⟩
  have htiles : Tiles text 0 (lx.matchesOf text) stop := hscans.tiles (Nat.zero_le _)
  have hfault : o.fault = none := hscans.emitAll_fault hhooks rfl
  refine ⟨text, o.tokens, stop, rfl, ?_, ?_, ?_, hscans, htiles, ?_, hscans.stops (Nat.zero_le _), ?_⟩
  · exact fun pos hpos => ⟨_, Composite.matchAt_eq parts_ne_nil hpos⟩
  · exact tokenize_ok.2 ⟨hfault, rfl⟩
  · rcases Scanner.pullAll_new lx (.str s) (.int line) with ⟨htokens, hpulled, -⟩
    refine ⟨_, Prod.ext htokens rfl, hpulled.trans ?_⟩
    change o.ending = .stopped
    rw [ScanOutcome.ending, hfault]
  · have := htiles.length_le
    have := htiles.le_size
    omega
  · intro hplain
    have hmap : o.tokens.map (fun t => (t.value, t.length)) =
        (lx.matchesOf text).map fun m => (.str m.text, .int m.text.length) :=
      hscans.emitAll_plain (Nat.zero_le _) hplain rfl
    refine ⟨(lx.matchesOf text).map RuleMatch.text, ?_, ?_, htiles.spells, ?_⟩
    · have h := congrArg (List.map Prod.fst) hmap
      simpa [Function.comp_def] using h
    · have h := congrArg (List.map Prod.snd) hmap
      simpa [Function.comp_def] using h
    · have h := htiles.sum_length
      simpa [Function.comp_def] using h

/-- The scan of a quoted word with blanks in front stops at the line feed behind it. -/
theorem scan_tiles_line :
    ∃ lx, (compile quotedRules).result = .ok lx ∧
      (∀ m ∈ lx.matchesOf "  'ab'\n".toList.toArray, lx.HookReturns m) ∧
      ∃ (tokens : List Token) (values : List String),
        (lx.tokenize (.str "  'ab'\n") (.int 1)).result = .ok tokens ∧
        tokens.map Token.value = values.map Value.str ∧ String.join values = "  'ab'" := by
  obtain ⟨lx, hlx, hcheck⟩ := Logged.exists_ok (compile quotedRules)
    (fun lx => lx.given.all (fun r => !r.skips && r.hook.isNone) &&
      (((lx.matchesOf "  'ab'\n".toList.toArray).map fun m => m.text.length).sum == 6))
    (by decide +kernel)
  rw [Bool.and_eq_true, List.all_eq_true, beq_iff_eq] at hcheck
  rcases hcheck with ⟨hall, hsum⟩
  have hplain : lx.IsPlain := fun r hr => by simpa using hall r hr
  have hhooks : ∀ m ∈ lx.matchesOf "  'ab'\n".toList.toArray, lx.HookReturns m := by
    intro m _ r hook hr _ hhook
    rcases forall_rules hplain ⟨rfl, rfl⟩ r (List.mem_of_getElem? hr) with ⟨-, hnone⟩
    rw [hnone] at hhook
    cases hhook
  refine ⟨lx, hlx, hhooks, ?_⟩
  obtain ⟨_, tokens, stop, rfl, -, htokens, -, -, htiles, -, -, hspells⟩ :=
    scan_tiles lx "  'ab'\n" 1 hhooks
  rcases hspells hplain with ⟨values, hvalues, -, hjoin, -⟩
  have hstop : stop = 6 := by
    rw [← htiles.sum_length, hsum]
  refine ⟨tokens, values, htokens, hvalues, ?_⟩
  rw [hjoin, hstop]
  decide +kernel

end Lexer

end PatternLexer
