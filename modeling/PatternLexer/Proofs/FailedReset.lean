import PatternLexer.Proofs.CursorStream

/-!
# Resets that fail

A reset puts the new text and the new start line in place before it scans, and the tokens and the position
only at its end. One that fails leaves the one half new and the other half old.

* `Cursor.Alike` ties cursors that differ in nothing that is looked at; `Cursor.Alike.perform` says that every
  operation keeps it, and `Cursor.Alike.replies` is about operations one after the other.
* `Cursor.reset_failed` says what a failed reset leaves, and when that can be told from what was there before.
-/

namespace PatternLexer

namespace Cursor

/-! ## Operations one after the other -/

/-- The operation looks at the text of the last reset. -/
def Operation.readsBuffer : Operation → Bool
  | buffer => true
  | _ => false

/-- The answers to operations done one after the other. -/
def replies (c : Cursor) : List Operation → List Reply
  | [] => []
  | op :: ops => (c.perform op).2 :: replies (c.perform op).1 ops

/-! ## Cursors that are alike -/

/-- The next pull hands out the `EOF` token of a stream without tokens, the only one that tells the start
line. -/
def ShowsLine (c : Cursor) : Prop := c.tokens = [] ∧ c.position = 0

/-- The cursors differ at most in texts, if these are not looked at, and in start lines that no token tells. -/
structure Alike (readsBuffer : Bool) (c c' : Cursor) : Prop where
  lexer : c'.lexer = c.lexer
  config : c'.config = c.config
  buffer : readsBuffer = true → c'.buffer = c.buffer
  tokens : c'.tokens = c.tokens
  position : c'.position = c.position
  line : c.ShowsLine → c'.startLine = c.startLine

namespace Alike

variable {readsBuffer : Bool} {c c' : Cursor}

/-- Cursors that are alike make the same tokens of a text. -/
theorem tokensOf (h : Alike readsBuffer c c') (buffer line : Value) :
    c'.tokensOf buffer line = c.tokensOf buffer line := by
  unfold Cursor.tokensOf
  rw [h.lexer, h.config]

/-- A reset does not ask for the text and the line of the one before. -/
theorem reset (h : Alike readsBuffer c c') (data info : Value) :
    Alike readsBuffer (c.reset data info).1 (c'.reset data info).1 ∧
      (c'.reset data info).2 = (c.reset data info).2 := by
  simp only [Cursor.reset, h.config, h.tokensOf]
  cases (c.tokensOf (if data.truthy then data else .str "") (c.config.lineFrom info)).result with
  | ok tokens => exact ⟨⟨h.lexer, rfl, fun _ => rfl, rfl, rfl, fun _ => rfl⟩, rfl⟩
  | error e => exact ⟨⟨h.lexer, rfl, fun _ => rfl, h.tokens, h.position, fun _ => rfl⟩, rfl⟩

/-- They have the same current token. -/
theorem current (h : Alike readsBuffer c c') : c'.current = c.current := by
  unfold Cursor.current
  rw [h.tokens, h.position]
  by_cases hend : c.position = c.tokens.length
  · rw [if_pos hend, if_pos hend]
    unfold eofToken
    rw [h.tokens]
    cases hlast : c.tokens.getLast? with
    | some t => rfl
    | none =>
      -- Without tokens the end is the start, where the lines are known to be the same.
      have hnil : c.tokens = [] := List.getLast?_eq_none_iff.1 hlast
      have hzero : c.position = 0 := by rw [hend, hnil, List.length_nil]
      simp only [h.line ⟨hnil, hzero⟩]
  · rw [if_neg hend, if_neg hend]

/-- A pull hands out the same token, and no pull goes back to the start. -/
theorem next (h : Alike readsBuffer c c') :
    Alike readsBuffer c.next.2 c'.next.2 ∧ c'.next.1 = c.next.1 := by
  unfold Cursor.next
  rw [h.current]
  cases c.current with
  | some t =>
    refine ⟨⟨h.lexer, h.config, h.buffer, h.tokens, congrArg (· + 1) h.position, fun hshows => ?_⟩, rfl⟩
    exact absurd hshows.2 (Nat.succ_ne_zero _)
  | none => exact ⟨h, rfl⟩

/-- They answer alike to an operation, unless it looks at texts in which they differ, and stay alike. -/
theorem perform (h : Alike readsBuffer c c') (op : Operation)
    (hop : op.readsBuffer = true → readsBuffer = true) :
    Alike readsBuffer (c.perform op).1 (c'.perform op).1 ∧ (c'.perform op).2 = (c.perform op).2 := by
  cases op with
  | reset data info =>
    obtain ⟨halike, houtcome⟩ := h.reset data info
    refine ⟨halike, ?_⟩
    simp only [Cursor.perform, houtcome]
  | next =>
    obtain ⟨halike, htoken⟩ := h.next
    exact ⟨halike, congrArg Reply.token htoken⟩
  | pull =>
    obtain ⟨halike, htoken⟩ := h.next
    simp only [Cursor.perform, pull_eq, htoken]
    exact ⟨halike, trivial⟩
  | save =>
    have hsave : c'.save = c.save := by
      unfold Cursor.save
      rw [h.tokens, h.position]
    exact ⟨h, congrArg Reply.token hsave⟩
  | has type =>
    have hhas : c'.has type = c.has type := by
      unfold Cursor.has
      rw [h.lexer]
    exact ⟨h, congrArg (Reply.ofExcept .flag) hhas⟩
  | complaint => exact ⟨h, rfl⟩
  | tokens => exact ⟨h, congrArg Reply.tokens h.tokens⟩
  | position => exact ⟨h, congrArg Reply.position h.position⟩
  | buffer => exact ⟨h, congrArg Reply.buffer (h.buffer (hop rfl))⟩

/-- Whatever is done with cursors that are alike is answered alike. -/
theorem replies (h : Alike readsBuffer c c') (ops : List Operation)
    (hops : ∀ op ∈ ops, op.readsBuffer = true → readsBuffer = true) : c'.replies ops = c.replies ops := by
  induction ops generalizing c c' with
  | nil => rfl
  | cons op ops ih =>
    obtain ⟨halike, hreply⟩ := h.perform op (hops op List.mem_cons_self)
    unfold Cursor.replies
    rw [hreply, ih halike fun op' hop' => hops op' (List.mem_cons_of_mem _ hop')]

end Alike

/-! ## Failed resets -/

/-- A cursor that shows its line tells it with the next token. -/
theorem ShowsLine.next {c : Cursor} (h : c.ShowsLine) :
    (c.perform .next).2 = .token (some (.eofAt c.startLine)) := by
  have hcurrent : c.current = some (.eofAt c.startLine) := by
    unfold Cursor.current eofToken
    rw [h.1, h.2]
    rfl
  unfold perform Cursor.next
  rw [hcurrent]

/-- A reset goes well if the tokens of its text can be made. -/
theorem reset_result (c : Cursor) (data info : Value) :
    (c.reset data info).2.result =
      (c.tokensOf (if data.truthy then data else .str "") (c.config.lineFrom info)).result.map fun _ => () := by
  unfold reset
  cases hresult : (c.tokensOf (if data.truthy then data else .str "") (c.config.lineFrom info)).result with
  | ok tokens => simp only [hresult, Except.map]
  | error e => simp only [hresult, Except.map]

/-- A reset that fails keeps the tokens and the position with the new text and start line. -/
theorem reset_of_error {c : Cursor} {data info : Value} {e : Fault}
    (h : (c.reset data info).2.result = .error e) :
    (c.reset data info).1 =
      { c with buffer := if data.truthy then data else .str "", startLine := c.config.lineFrom info } := by
  unfold reset at h ⊢
  cases hresult : (c.tokensOf (if data.truthy then data else .str "") (c.config.lineFrom info)).result with
  | ok tokens =>
    simp only [hresult] at h
    cases h
  | error e => simp only [hresult]

/-- After a reset that fails, whatever is done, further resets included, is answered as if it had not been
tried, as long as nobody looks at the text, and the line, if the next pull tells it, is that of before. Text and
line are those of the reset that failed, so that nothing at all tells of it just if they are those of before, or
no pull tells the line. -/
theorem reset_failed (c : Cursor) (data info : Value) {e : Fault}
    (h : (c.reset data info).2.result = .error e) :
    ∃ (c' : Cursor) (buffer line : Value), c' = (c.reset data info).1 ∧
      buffer = (if data.truthy then data else .str "") ∧ line = c.config.lineFrom info ∧
      c' = { c with buffer, startLine := line } ∧
      ((c.ShowsLine → line = c.startLine) → ∀ ops : List Operation,
        (∀ op ∈ ops, op.readsBuffer = false) → c'.replies ops = c.replies ops) ∧
      (c.ShowsLine → (c.perform .next).2 = .token (some (.eofAt c.startLine)) ∧
        (c'.perform .next).2 = .token (some (.eofAt line))) ∧
      ((∀ ops : List Operation, c'.replies ops = c.replies ops) ↔
        buffer = c.buffer ∧ (c.ShowsLine → line = c.startLine)) := by
  let buffer : Value := if data.truthy then data else .str ""
  let line : Value := c.config.lineFrom info
  let c' : Cursor := { c with buffer, startLine := line }
  refine ⟨c', buffer, line, (reset_of_error h).symm, rfl, rfl, rfl, fun hline ops hops => ?_,
    fun hshows => ?_, ?_, ?_⟩
  · have halike : Alike false c c' := ⟨rfl, rfl, fun h => (by cases h), rfl, rfl, hline⟩
    refine halike.replies ops fun op hop hreads => ?_
    rw [hops op hop] at hreads
    exact hreads
  · exact ⟨hshows.next, ShowsLine.next (c := c') hshows⟩
  · intro hreplies
    constructor
    · -- A look at the text tells the texts apart.
      have hbuffer : [Reply.buffer buffer] = [Reply.buffer c.buffer] := hreplies [.buffer]
      exact Reply.buffer.inj (List.singleton_inj.1 hbuffer)
    · -- A pull tells the lines apart.
      intro hshows
      have hnext : [(c'.perform .next).2] = [(c.perform .next).2] := hreplies [.next]
      have htoken := List.singleton_inj.1 hnext
      rw [hshows.next, ShowsLine.next (c := c') hshows] at htoken
      exact congrArg Token.line (Option.some.inj (Reply.token.inj htoken))
  · rintro ⟨hbuffer, hline⟩ ops
    have halike : Alike true c c' := ⟨rfl, rfl, fun _ => hbuffer, rfl, rfl, hline⟩
    exact halike.replies ops fun _ _ _ => rfl

/-- A rule whose hook always fails. -/
def brokenRules : List Entry := [.pair (.source "(?P<A>a)") false (some fun s => HookName.fail.apply s)]

/-- The reset of a new cursor fails with the hook. -/
theorem reset_brokenRules : ∃ lx, (Lexer.compile brokenRules).result = .ok lx ∧
    ((new lx .standard).reset (.str "a") (.dict [("line", .int 5)])).2.result = .error (.hookFailed "a") := by
  obtain ⟨lx, hlx, hcheck⟩ := Logged.exists_ok (Lexer.compile brokenRules)
    (fun lx => (lx.trace "a".toList.toArray).head?.bind Probe.found == some ⟨0, "a", 0, 1⟩ &&
      (lx.emit ⟨.int 5, 0⟩ ⟨0, "a", 0, 1⟩).map (fun _ => ()) == .error (.hookFailed "a"))
    (by decide +kernel)
  refine ⟨lx, hlx, ?_⟩
  rw [Bool.and_eq_true, beq_iff_eq, beq_iff_eq] at hcheck
  rcases hcheck with ⟨hfirst, hhook⟩
  have hfault : (lx.scanValue (.str "a") (.int 5)).fault = some (.hookFailed "a") := by
    change (lx.emitAll ⟨.int 5, 0⟩ 0 (lx.trace "a".toList.toArray)).fault = _
    generalize lx.trace "a".toList.toArray = ps at hfirst
    cases ps with
    | nil => cases hfirst
    | cons p ps =>
      have hfound : p.found = some ⟨0, "a", 0, 1⟩ := hfirst
      have hplace : (⟨.int 5, 0⟩ : Place).after ⟨0, "a", 0, 1⟩ = .ok ⟨.int 5, 0⟩ := by
        unfold Place.after
        rw [String.contains_char_eq]
        rfl
      cases hemit : lx.emit ⟨.int 5, 0⟩ ⟨0, "a", 0, 1⟩ with
      | ok token =>
        rw [hemit] at hhook
        cases hhook
      | error e =>
        rw [hemit] at hhook
        cases hhook
        simp only [Lexer.emitAll, hfound, hplace, hemit]
  have htokens : ((new lx .standard).tokensOf (.str "a") (.int 5)).result = .error (.hookFailed "a") := by
    refine Logged.bind_eq_error.2 (.inl ?_)
    change (lx.tokenize (.str "a") (.int 5)).result = _
    unfold Lexer.tokenize
    simp only [hfault]
  rw [reset_result]
  exact congrArg (Except.map fun _ => ()) htokens

theorem reset_failed_brokenRules :
    ∃ lx c, (Lexer.compile brokenRules).result = .ok lx ∧ c = new lx .standard ∧
      (c.reset (.str "a") (.dict [("line", .int 5)])).2.result = .error (.hookFailed "a") ∧
      (c.reset (.str "a") (.dict [("line", .int 5)])).1 = { c with buffer := .str "a", startLine := .int 5 } := by
  obtain ⟨lx, hlx, herror⟩ := reset_brokenRules
  obtain ⟨c', _, _, hreset, rfl, rfl, hc', -⟩ := reset_failed (new lx .standard) _ _ herror
  exact ⟨lx, _, hlx, rfl, herror, hreset.symm.trans hc'⟩

/-- The text and the line of the reset that failed can be seen. -/
theorem reset_brokenRules_seen :
    ∃ lx c c', (Lexer.compile brokenRules).result = .ok lx ∧ c = new lx .standard ∧
      c' = (c.reset (.str "a") (.dict [("line", .int 5)])).1 ∧
      (c.reset (.str "a") (.dict [("line", .int 5)])).2.result = .error (.hookFailed "a") ∧
      c.replies [.buffer, .next] = [.buffer (.str ""), .token (some (.eofAt (.int 1)))] ∧
      c'.replies [.buffer, .next] = [.buffer (.str "a"), .token (some (.eofAt (.int 5)))] := by
  obtain ⟨lx, hlx, herror⟩ := reset_brokenRules
  refine ⟨lx, _, _, hlx, rfl, rfl, herror, rfl, ?_⟩
  rw [reset_of_error herror]
  rfl

end Cursor

end PatternLexer
