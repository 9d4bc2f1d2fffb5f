import PatternLexer.Proofs.CursorStream
import PatternLexer.Proofs.Place
import PatternLexer.Proofs.Remainder

/-!
# Rewinding to a token

A token that was kept tells a cursor the line to go on at. Reset with the text from the start of its match on, the
cursor hands out the same tokens again, unless a pattern looks back. Lines and columns are not quite the same:

* The line of a token is taken after its match. A token whose match has a line feed in it stands on the next line, and
  what is read again from there stands a line too far down.
* Columns count from the start of the text that is left, up to the first match with a line feed in it.

The results are these:

* `Cursor.reset_made`: the tokens of a reset are made of the matches in its text, in order.
* `Lexer.Makes.reread`: a token of the rest of a text against the token of the same match in the whole text.
* `Cursor.reset_rewinds` puts them together.
-/

namespace PatternLexer

open List (Forall₂)

/-! ## Matches further on -/

section Moved

variable (d : Nat) (ms : List RuleMatch)

theorem any_breaksLine_moved :
    (ms.map (RuleMatch.moved d)).any RuleMatch.breaksLine = ms.any RuleMatch.breaksLine := List.any_map

theorem lineBreaks_moved : lineBreaks (ms.map (RuleMatch.moved d)) = lineBreaks ms := List.countP_map

theorem columnBase_of_unbroken {ms : List RuleMatch} (h : ms.any RuleMatch.breaksLine = false) : columnBase ms = 0 := by
  have hbase := columnBase_append [] ms
  rw [h] at hbase
  exact hbase

theorem columnBase_moved {ms : List RuleMatch} (h : ms.any RuleMatch.breaksLine = true) :
    columnBase (ms.map (RuleMatch.moved d)) = columnBase ms + d := by
  rcases List.any_eq_true.1 h with ⟨m, hm, hbreak⟩
  have hne : ms.filter RuleMatch.breaksLine ≠ [] := List.ne_nil_of_mem (List.mem_filter.2 ⟨hm, hbreak⟩)
  have hfilter : (ms.map (RuleMatch.moved d)).filter RuleMatch.breaksLine =
      (ms.filter RuleMatch.breaksLine).map (RuleMatch.moved d) := List.filter_map
  rw [columnBase, columnBase, hfilter, List.getLast?_map, List.getLast?_eq_some_getLast hne]
  rfl

end Moved

namespace Lexer

variable {lx : Lexer}

/-! ## Matches that make tokens -/

theorem emittedFrom_append (k : Nat) (ms ms' : List RuleMatch) :
    lx.emittedFrom k (ms ++ ms') = lx.emittedFrom k ms ++ lx.emittedFrom (k + ms.length) ms' := by
  rw [emittedFrom, List.zipIdx_append, List.filter_append]
  rfl

theorem emittedFrom_eq_map (k : Nat) (ms : List RuleMatch) :
    lx.emittedFrom k ms = (lx.emittedFrom 0 ms).map fun x => (x.1, k + x.2) := by
  rw [emittedFrom, List.zipIdx_eq_map_add, List.filter_map]
  rfl

theorem emittedFrom_moved (d k : Nat) (ms : List RuleMatch) :
    lx.emittedFrom k (ms.map (RuleMatch.moved d)) = (lx.emittedFrom k ms).map (Prod.map (RuleMatch.moved d) id) := by
  rw [emittedFrom, List.zipIdx_map, List.filter_map]
  rfl

theorem map_fst_emittedFrom (k : Nat) (ms : List RuleMatch) :
    (lx.emittedFrom k ms).map Prod.fst = ms.filter lx.emits := by
  conv_rhs => rw [← List.zipIdx_map_fst k ms, List.filter_map]
  rfl

theorem length_emittedFrom (k : Nat) (ms : List RuleMatch) :
    (lx.emittedFrom k ms).length = ms.countP lx.emits := by
  rw [List.countP_eq_length_filter, ← map_fst_emittedFrom k, List.length_map]

/-- A match that makes a token, between the matches before it and those after it. -/
theorem emittedFrom_split {ms : List RuleMatch} {m : RuleMatch} : ∀ {k n i : Nat},
    (lx.emittedFrom k ms)[i]? = some (m, n) → ∃ before after, ms = before ++ m :: after ∧
      n = k + before.length ∧ (lx.emittedFrom k before).length = i ∧ lx.emits m = true := by
  induction ms with
  | nil =>
    intro k n i h
    cases h
  | cons m' ms ih =>
    intro k n i h
    rw [emittedFrom_cons] at h
    -- The match is the first one, or one of the others; then the first one counts if it makes a token.
    have hrest : ∀ {j}, (lx.emittedFrom (k + 1) ms)[j]? = some (m, n) → ∃ before after,
        m' :: ms = before ++ m :: after ∧ n = k + before.length ∧
          (lx.emittedFrom k before).length = j + (if lx.emits m' then 1 else 0) ∧ lx.emits m = true := by
      intro j hj
      rcases ih hj with ⟨before, after, rfl, rfl, rfl, hemits⟩
      refine ⟨m' :: before, after, rfl, by rw [List.length_cons]; omega, ?_, hemits⟩
      rw [emittedFrom_cons]
      cases lx.emits m' <;> rfl
    cases hemits : lx.emits m' with
    | false =>
      rw [hemits] at h hrest
      exact hrest h
    | true =>
      rw [hemits, if_pos rfl] at h
      rw [hemits] at hrest
      cases i with
      | zero =>
        cases h
        exact ⟨[], ms, rfl, rfl, rfl, hemits⟩
      | succ i => exact hrest h

/-! ## The text from a match on -/

/-- The text from the start of one of its matches on has the matches from this one on. -/
theorem matchesOf_drop (hback : lx.NeverLooksBack) {s : String} {before after : List RuleMatch} {m : RuleMatch}
    (hms : lx.matchesOf s.toList.toArray = before ++ m :: after) :
    (lx.matchesOf (String.ofList (s.toList.drop m.start)).toList.toArray).map (RuleMatch.moved m.start) =
      m :: after := by
  have hstart : m.start ≤ s.toList.length := by
    obtain ⟨stop, htiles⟩ := lx.exists_tiles s.toList.toArray
    rw [hms] at htiles
    obtain ⟨-, hlt, -, hsize⟩ := htiles.before
    rw [List.size_toArray] at hsize
    omega
  refine matchesOf_rest hback hms ?_
  rw [String.toList_ofList]
  exact Subject.isRest_drop hstart

/-- Whether a hook returns depends on the rule and the text of a match, not on where it is. -/
theorem hooksReturn_rest {d : Nat} {ms ms' : List RuleMatch} (hrest : ms'.map (RuleMatch.moved d) = ms)
    (hhooks : ∀ m ∈ ms, lx.HookReturns m) : ∀ m ∈ ms', lx.HookReturns m := by
  intro m hm
  have hmem := List.mem_map_of_mem (f := RuleMatch.moved d) hm
  rw [hrest] at hmem
  exact hhooks (m.moved d) hmem

end Lexer

/-! ## Tokens read again -/

/-- `t'` is what a rewind to the token `saved` of the match `m` makes of the token `t`, `passed` being the matches from
`m` up to the token's own. -/
structure Token.Reread (saved : Token) (m : RuleMatch) (passed : List RuleMatch) (t t' : Token) : Prop where
  type : t'.type = t.type
  value : t'.value = t.value
  length : t'.length = t.length
  line : ∃ n : Int, t.line = .int n ∧ t'.line = .int (if m.breaksLine then n + 1 else n)
  col : ∃ n margin : Int, t.col = .int n ∧ saved.col = .int margin ∧
    t'.col = .int (if passed.any RuleMatch.breaksLine then n else n - (margin - 1))

namespace Lexer

variable {lx : Lexer}

/-- The token of a match in the rest of a text, against the token of the same match in the whole text. The rest
begins with the match `m`, and its first line is that of the token of `m`. -/
theorem Makes.reread {line line' : Int} {before after ms' : List RuleMatch} {m x : RuleMatch} {j : Nat}
    {saved t t' : Token} (hrest : ms'.map (RuleMatch.moved m.start) = m :: after)
    (hsaved : saved.StandsAt line (before ++ m :: after) before.length m) (hline : saved.line = .int line')
    (ht : lx.Makes line (before ++ m :: after) (before.length + j) (x.moved m.start) t)
    (ht' : lx.Makes line' ms' j x t') : saved.Reread m ((m :: after).take (j + 1)) t t' := by
  rcases emit_some ht.emits with ⟨r, v, hr, -, hv, rfl⟩
  rcases emit_some ht'.emits with ⟨r', v', hr', -, hv', rfl⟩
  -- The rule and the value are those of the same match.
  obtain rfl : r' = r := Option.some.inj (hr'.symm.trans hr)
  obtain rfl : v' = v := Except.ok.inj (hv'.symm.trans hv)
  have hpassed : (ms'.take (j + 1)).map (RuleMatch.moved m.start) = (m :: after).take (j + 1) := by
    rw [List.map_take, hrest]
  have htake : (before ++ m :: after).take (before.length + j + 1) = before ++ (m :: after).take (j + 1) := by
    rw [Nat.add_assoc, List.take_length_add_append]
  have hfirst : (before ++ m :: after).take (before.length + 1) = before ++ [m] := List.take_length_add_append 1
  refine ⟨rfl, rfl, rfl, ⟨_, rfl, ?_⟩, ⟨_, _, rfl, hsaved.col, ?_⟩⟩
  · have hline' : line' = line + lineBreaks (before ++ [m]) := by
      rw [← hfirst]
      exact Value.int.inj (hline.symm.trans hsaved.line)
    have hpassed' : lineBreaks ((m :: after).take (j + 1)) = lineBreaks (ms'.take (j + 1)) := by
      rw [← hpassed, lineBreaks_moved]
    rw [htake, lineBreaks_append, hpassed', hline', lineBreaks_concat]
    refine congrArg Value.int ?_
    split <;> push_cast <;> omega
  · have hbreaks : ((m :: after).take (j + 1)).any RuleMatch.breaksLine =
        (ms'.take (j + 1)).any RuleMatch.breaksLine := by
      rw [← hpassed, any_breaksLine_moved]
    cases hany : ((m :: after).take (j + 1)).any RuleMatch.breaksLine with
    | true =>
      -- Columns count from the last line feed in either text.
      have hbase : columnBase ((before ++ m :: after).take (before.length + j + 1)) =
          columnBase (ms'.take (j + 1)) + m.start := by
        rw [htake, columnBase_append, hany, if_pos rfl, ← hpassed, columnBase_moved _ (hbreaks ▸ hany)]
      refine congrArg Value.int ?_
      show (x.start : Int) - columnBase (ms'.take (j + 1)) + 1 = ((x.start + m.start : Nat) : Int) - columnBase _ + 1
      rw [hbase]
      push_cast
      omega
    | false =>
      -- They count from the start of the rest, and from the last line feed before it.
      have hbase : columnBase ((before ++ m :: after).take (before.length + j + 1)) = columnBase before := by
        rw [htake, columnBase_append, hany, if_neg Bool.false_ne_true]
      have hsavedBase : columnBase ((before ++ m :: after).take (before.length + 1)) = columnBase before := by
        rw [List.take_succ_cons, List.any_cons, Bool.or_eq_false_iff] at hany
        rw [hfirst, columnBase_concat, hany.1, if_neg Bool.false_ne_true]
      refine congrArg Value.int ?_
      show (x.start : Int) - columnBase (ms'.take (j + 1)) + 1 =
        ((x.start + m.start : Nat) : Int) - columnBase _ + 1 - ((m.start : Int) - columnBase _ + 1 - 1)
      rw [hbase, hsavedBase, columnBase_of_unbroken (hbreaks ▸ hany)]
      push_cast
      omega

end Lexer

/-! ## Cursors -/

namespace Cursor

variable {c : Cursor}

/-- A reset goes well if no hook raises, and its tokens are made of the matches in its text, in order. -/
theorem reset_made {s : String} {info : Value} {line : Int} (hplain : c.config.transforms = some [])
    (hline : c.config.lineFrom info = .int line)
    (hhooks : ∀ m ∈ c.lexer.matchesOf s.toList.toArray, c.lexer.HookReturns m) :
    ∃ tokens, (c.reset (.str s) info).2.result = .ok () ∧
      (c.reset (.str s) info).1 = { c with buffer := .str s, startLine := .int line, tokens, position := 0 } ∧
      Forall₂ (fun x t => c.lexer.Makes line (c.lexer.matchesOf s.toList.toArray) x.2 x.1 t)
        (c.lexer.emittedFrom 0 (c.lexer.matchesOf s.toList.toArray)) tokens := by
  have hkept := Lexer.tokenize_ok.2 ⟨Lexer.scan_fault hhooks line, rfl⟩
  have htokens : (c.tokensOf (.str s) (.int line)).result = .ok (c.lexer.scanValue (.str s) (.int line)).tokens := by
    rw [tokensOf_plain hplain, hkept]
  -- The empty text is false, and is replaced by itself.
  have hbuffer : (if (Value.str s).truthy then .str s else .str "") = Value.str s := by
    by_cases hempty : s = ""
    · simp [hempty]
    · simp [Value.truthy, hempty]
  refine ⟨_, ?_, ?_, Lexer.tokenize_made hkept⟩
  · simp only [reset, hbuffer, hline, htokens]
  · simp only [reset, hbuffer, hline, htokens]

/-- A cursor that is reset with a token it handed out, and with the text from the start of the token's match on, hands
out that token and those after it again, of the same types, values and lengths. The lines are the same, or one greater
if there is a line feed in the match of the token kept. The columns are the same from the first match with a line feed
on, and are smaller before, as much as the token kept stood to the right of the first column. This holds of patterns
that do not look back, whatever was done with the cursor in between. -/
theorem reset_rewinds (c : Cursor) (s : String) (info : Value) (line : Int)
    (hplain : c.config.transforms = some []) (hline : c.config.lineFrom info = .int line)
    (hback : c.lexer.NeverLooksBack)
    (hhooks : ∀ m ∈ c.lexer.matchesOf s.toList.toArray, c.lexer.HookReturns m) :
    ∃ (ms : List RuleMatch) (c₁ : Cursor), ms = c.lexer.matchesOf s.toList.toArray ∧
      c₁ = (c.reset (.str s) info).1 ∧ (c.reset (.str s) info).2.result = .ok () ∧
      c₁.tokens.length = ms.countP c.lexer.emits ∧
      ∀ k saved, c₁.tokens[k]? = some saved → ∃ before m after, ms = before ++ m :: after ∧
        before.countP c.lexer.emits = k ∧ c.lexer.emits m = true ∧ saved.StandsAt line ms before.length m ∧
        ∀ c' : Cursor, c'.lexer = c.lexer → c'.config = c.config → ∃ (rest : String) (c₂ : Cursor),
          rest = String.ofList (s.toList.drop m.start) ∧ c₂ = (c'.reset (.str rest) saved.toValue).1 ∧
          (c'.reset (.str rest) saved.toValue).2.result = .ok () ∧
          k + c₂.tokens.length = c₁.tokens.length ∧ c₂.tokens.length = (m :: after).countP c.lexer.emits ∧
          ∀ i x j, (c.lexer.emittedFrom 0 (m :: after))[i]? = some (x, j) → ∃ t t',
            c₁.tokens[k + i]? = some t ∧ c₂.tokens[i]? = some t' ∧ t.StandsAt line ms (before.length + j) x ∧
            saved.Reread m ((m :: after).take (j + 1)) t t' := by
  obtain ⟨tokens, hok, hreset, hmade⟩ := reset_made hplain hline hhooks
  rw [hreset]
  generalize hms : c.lexer.matchesOf s.toList.toArray = ms at hmade hhooks ⊢
  have hcounts : tokens.length = ms.countP c.lexer.emits := by
    rw [← hmade.length_eq, Lexer.length_emittedFrom]
  refine ⟨_, _, rfl, rfl, hok, hcounts, fun k saved hsaved => ?_⟩
  -- The match of the token kept, and the matches before and after it.
  rcases exists_related hmade.flip hsaved with ⟨⟨m, n⟩, hm, hmakes⟩
  rcases Lexer.emittedFrom_split hm with ⟨before, after, rfl, hn, hcount, hemits⟩
  obtain rfl : n = before.length := hn.trans (Nat.zero_add _)
  have hstands := hmakes.standsAt
  rw [Lexer.length_emittedFrom] at hcount
  refine ⟨before, m, after, rfl, hcount, hemits, hstands, fun c' hlexer hconfig => ?_⟩
  -- The rest of the text is scanned with the matches from `m` on, and hooks return for them too.
  have hrest := Lexer.matchesOf_drop hback hms
  have hhooks' : ∀ x ∈ c'.lexer.matchesOf (String.ofList (s.toList.drop m.start)).toList.toArray,
      c'.lexer.HookReturns x := by
    rw [hlexer]
    exact Lexer.hooksReturn_rest hrest fun x hx => hhooks x (List.mem_append_right _ hx)
  have hline' : c'.config.lineFrom saved.toValue = .int _ := hstands.line
  obtain ⟨tokens', hok', hreset', hmade'⟩ := reset_made (hconfig ▸ hplain) hline' hhooks'
  rw [hlexer] at hmade'
  have hlength : tokens'.length = (m :: after).countP c.lexer.emits := by
    rw [← hmade'.length_eq, Lexer.length_emittedFrom, ← hrest, List.countP_map]
    rfl
  refine ⟨_, _, rfl, rfl, hok', ?_, ?_, fun i x j hx => ?_⟩
  · rw [hreset', hcounts, List.countP_append, hcount, hlength]
  · rw [hreset', hlength]
  · have hwhole : (c.lexer.emittedFrom 0 (before ++ m :: after))[k + i]? = some (x, before.length + j) := by
      rw [Lexer.emittedFrom_append, ← hcount, ← Lexer.length_emittedFrom 0 before,
        List.getElem?_append_right (Nat.le_add_right _ _), Nat.add_sub_cancel_left, Lexer.emittedFrom_eq_map,
        List.getElem?_map, hx, Nat.zero_add]
      rfl
    rw [← hrest, Lexer.emittedFrom_moved, List.getElem?_map] at hx
    rcases Option.map_eq_some_iff.1 hx with ⟨⟨x', j'⟩, hx', heq⟩
    obtain ⟨rfl, rfl⟩ := Prod.mk.inj heq
    rcases exists_related hmade hwhole with ⟨t, ht, hmakes⟩
    rcases exists_related hmade' hx' with ⟨t', ht', hmakes'⟩
    refine ⟨t, t', ht, hreset' ▸ ht', hmakes.standsAt, ?_⟩
    exact hmakes.reread hrest hstands hstands.line hmakes'

/-- Rules for line feeds and for words. -/
def lineRules : List Entry := [.bare (.source "(?P<NL>\\n)"), .bare (.source "(?P<WORD>[a-z]+)")]

/-- Rewound to the line feed in front of it, the second word stands on the third line. -/
theorem reset_rewinds_lineFeed :
    ∃ lx c c₁ saved, (Lexer.compile lineRules).result = .ok lx ∧ c = new lx .standard ∧
      c.config.transforms = some [] ∧ c.config.lineFrom .null = .int 1 ∧ c.lexer.NeverLooksBack ∧
      (∀ m ∈ c.lexer.matchesOf "a\nb".toList.toArray, c.lexer.HookReturns m) ∧
      c₁ = (c.reset (.str "a\nb") .null).1 ∧ c₁.tokens[1]? = some saved ∧
      ∃ t t', c₁.tokens[2]? = some t ∧ t.line = .int 2 ∧
        (c₁.reset (.str "\nb") saved.toValue).1.tokens[1]? = some t' ∧ t'.value = t.value ∧ t'.line = .int 3 := by
  let ms : List RuleMatch := [⟨1, "a", 0, 1⟩, ⟨0, "\n", 1, 2⟩, ⟨1, "b", 2, 3⟩]
  obtain ⟨lx, hlx, hcheck⟩ := Logged.exists_ok (Lexer.compile lineRules)
    (fun lx => lx.given.all (fun r => !r.pattern.tree.looksBack && r.hook.isNone) &&
      (lx.matchesOf "a\nb".toList.toArray == ms && ms.all lx.emits))
    (by decide +kernel)
  simp only [Bool.and_eq_true, List.all_eq_true, beq_iff_eq] at hcheck
  obtain ⟨hgiven, hms, hemits⟩ := hcheck
  have hback : lx.NeverLooksBack := fun r hr => by simpa using (hgiven r hr).1
  have hhooks : ∀ m ∈ lx.matchesOf "a\nb".toList.toArray, lx.HookReturns m := by
    intro m _ r hook hr _ hhook
    have hnone := Lexer.forall_rules (P := fun r => r.hook.isNone = true) (fun r hr => (hgiven r hr).2) rfl r
      (List.mem_of_getElem? hr)
    rw [hhook] at hnone
    cases hnone
  obtain ⟨_, c₁, hms₁, hc₁, -, hlength, hrewinds⟩ :=
    reset_rewinds (new lx .standard) "a\nb" .null 1 rfl rfl hback hhooks
  obtain rfl := hms₁.trans hms
  have hcount : ∀ l : List RuleMatch, l ⊆ ms → l.countP lx.emits = l.length := fun l hl =>
    List.countP_eq_length.2 fun m hm => hemits m (hl hm)
  have hthree : c₁.tokens.length = 3 := hlength.trans (hcount ms (List.Subset.refl ms))
  obtain ⟨saved, hsaved⟩ : ∃ saved, c₁.tokens[1]? = some saved := ⟨_, List.getElem?_eq_getElem (by omega)⟩
  obtain ⟨before, m, after, hsplit, hbefore, -, -, hresets⟩ := hrewinds 1 saved hsaved
  -- One match stands before that of the token kept, so the latter is the line feed.
  rw [show (new lx .standard).lexer.emits = lx.emits from rfl, hcount before (by rw [hsplit]; simp)] at hbefore
  obtain ⟨b, rfl⟩ := List.length_eq_one_iff.1 hbefore
  obtain ⟨rfl, rfl, rfl⟩ : b = ⟨1, "a", 0, 1⟩ ∧ m = ⟨0, "\n", 1, 2⟩ ∧ after = [⟨1, "b", 2, 3⟩] := by
    simpa [ms, eq_comm] using hsplit
  have hkeeps := (new lx .standard).reset_keeps (.str "a\nb") .null
  rw [← hc₁] at hkeeps
  obtain ⟨rest, c₂, rfl, rfl, -, -, -, htokens⟩ := hresets c₁ hkeeps.1 hkeeps.2
  have hsecond : (lx.emittedFrom 0 [⟨0, "\n", 1, 2⟩, ⟨1, "b", 2, 3⟩])[1]? = some (⟨1, "b", 2, 3⟩, 1) := by
    rw [Lexer.emittedFrom_cons, hemits _ (by simp [ms]), Lexer.emittedFrom_cons, hemits _ (by simp [ms])]
    rfl
  obtain ⟨t, t', ht, ht', hstands, hreread⟩ := htokens 1 _ 1 hsecond
  have hbreak : RuleMatch.breaksLine ⟨0, "\n", 1, 2⟩ = true := by
    simp [RuleMatch.breaksLine, String.contains_char_eq]
  have hline : t.line = .int 2 := by
    have hbreaks : lineBreaks ms = 1 := by
      simp [ms, lineBreaks, RuleMatch.breaksLine, String.contains_char_eq]
    have hlines := hstands.line
    rw [show ms.take ([(⟨1, "a", 0, 1⟩ : RuleMatch)].length + 1 + 1) = ms from rfl, hbreaks] at hlines
    exact hlines
  obtain ⟨n, hn, hn'⟩ := hreread.line
  rw [hbreak, if_pos rfl] at hn'
  obtain rfl : (2 : Int) = n := Value.int.inj (hline.symm.trans hn)
  exact ⟨lx, _, c₁, saved, hlx, rfl, rfl, rfl, hback, hhooks, hc₁, hsaved, t, t', ht, hline, ht', hreread.value, hn'⟩

end Cursor

end PatternLexer
