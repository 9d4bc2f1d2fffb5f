import PatternLexer.Cursor
import PatternLexer.Proofs.Run

/-!
# The stream that a cursor hands out

Whatever is done with a cursor, in whatever order, what it hands out is told by three things: the tokens of
the last reset that went well, the number of pulls since then, and the line that the last reset started at.

* `Stream` keeps these three, and `Stream.upcoming` is the token that the next pull hands out.
* `Cursor.Follows` is the invariant that ties a cursor to its stream; `Cursor.Follows.perform` says that every
  operation keeps it.
* `Cursor.remaining` lists the tokens that are left, the `EOF` token included.
* `Cursor.run_stream` is about whole runs from a new cursor.
-/

namespace PatternLexer

/-! ## Operations -/

namespace Cursor

/-- What is done with a cursor. -/
inductive Operation where
  | reset (data info : Value)
  | next
  /-- Like `next`, but the end is a fault. -/
  | pull
  | save
  | has (type : Value)
  | complaint (token : Value)
  | tokens
  | position
  | buffer

/-- What an operation answers. -/
inductive Reply where
  | done
  | failed (e : Fault)
  | token (t : Option Token)
  | flag (b : Bool)
  | text (s : String)
  | tokens (ts : List Token)
  | position (n : Nat)
  | buffer (v : Value)

/-- The answer of an operation that may fail. -/
def Reply.ofExcept {α : Type} (answer : α → Reply) : Except Fault α → Reply
  | .ok a => answer a
  | .error e => .failed e

/-- Does an operation: the cursor after it, and the answer. -/
def perform (c : Cursor) : Operation → Cursor × Reply
  | .reset data info => ((c.reset data info).1, .ofExcept (fun _ => .done) (c.reset data info).2.result)
  | .next => (c.next.2, .token c.next.1)
  | .pull => (c.pull.2, .ofExcept (fun t => .token (some t)) c.pull.1)
  | .save => (c, .token c.save)
  | .has type => (c, .ofExcept .flag (c.has type))
  | .complaint token => (c, .ofExcept .text (complaint token))
  | .tokens => (c, .tokens c.tokens)
  | .position => (c, .position c.position)
  | .buffer => (c, .buffer c.buffer)

/-- The operation hands out a token. -/
def Operation.pulls : Operation → Bool
  | next | pull => true
  | _ => false

/-- The operation is a reset. -/
def Operation.resets : Operation → Bool
  | reset .. => true
  | _ => false

end Cursor

/-! ## Streams -/

/-- What tells the tokens that a cursor hands out. -/
structure Stream where
  /-- The tokens of the last reset that went well. -/
  tokens : List Token := []
  /-- The number of pulls since that reset. -/
  pulls : Nat := 0
  /-- The line that the last reset started at, be it that it failed. -/
  line : Value

namespace Stream

/-- The token that the next pull hands out: after the last one comes an `EOF` token, and then nothing. -/
def upcoming (s : Stream) : Option Token :=
  if s.pulls < s.tokens.length then s.tokens[s.pulls]?
  else if s.pulls = s.tokens.length then
    some (match s.tokens.getLast? with
      | some t => { t with type := .str eofName }
      | none => ⟨.str eofName, .str "", s.line, .int 1, .int 0⟩)
  else none

/-- The stream after an operation on the cursor. -/
def after (s : Stream) (c : Cursor) : Cursor.Operation → Stream
  | .reset data info =>
    match (c.reset data info).2.result with
    | .ok _ => ⟨(c.reset data info).1.tokens, 0, c.config.lineFrom info⟩
    | .error _ => { s with line := c.config.lineFrom info }
  | .next | .pull => { s with pulls := s.pulls + 1 }
  | _ => s

end Stream

namespace Cursor

/-- Does operations one after the other: the cursor and the stream after them. -/
def run (c : Cursor) (s : Stream) : List Operation → Cursor × Stream
  | [] => (c, s)
  | op :: ops => run (c.perform op).1 (s.after c op) ops

/-! ## The invariant -/

/-- The cursor stands where its stream says. -/
structure Follows (lx : Lexer) (config : Config) (c : Cursor) (s : Stream) : Prop where
  ofLexer : c.lexer = lx
  ofConfig : c.config = config
  tokens : c.tokens = s.tokens
  position : c.position = min s.pulls (s.tokens.length + 1)
  line : c.startLine = s.line
  /-- Without transforms the types of tokens are names of rules. -/
  types : config.transforms = some [] → ∀ t ∈ s.tokens, ∃ name ∈ lx.names, t.type = .str name

variable {lx : Lexer} {config : Config} {c : Cursor} {s : Stream}

theorem new_follows (lx : Lexer) (config : Config) :
    Follows lx config (new lx config) { line := config.startLine } where
  ofLexer := rfl
  ofConfig := rfl
  tokens := rfl
  position := rfl
  line := rfl
  types _ t ht := by cases ht

namespace Follows

/-- The current token is the next one of the stream. -/
theorem current (h : Follows lx config c s) : c.current = s.upcoming := by
  rw [Cursor.current, Stream.upcoming, h.tokens, h.position]
  -- Before the last token, at the `EOF` token, and past it.
  rcases Nat.lt_trichotomy s.pulls s.tokens.length with hlt | heq | hgt
  · rw [Nat.min_eq_left (by omega), if_neg (by omega), if_pos hlt]
  · rw [Nat.min_eq_left (by omega), if_pos heq, if_neg (by omega), if_pos heq, eofToken, h.tokens,
      h.line]
    rfl
  · rw [Nat.min_eq_right (by omega), if_neg (by omega), if_neg (by omega), if_neg (by omega),
      List.getElem?_eq_none (by omega)]

/-- The next pull hands out what the stream says. -/
theorem next (h : Follows lx config c s) :
    c.next.1 = s.upcoming ∧
      c.next.2 = if s.pulls ≤ s.tokens.length then { c with position := c.position + 1 } else c := by
  rw [Cursor.next, h.current]
  cases hupcoming : s.upcoming with
  | some t =>
    have hle : s.pulls ≤ s.tokens.length := by
      by_contra hgt
      rw [Stream.upcoming, if_neg (by omega), if_neg (by omega)] at hupcoming
      cases hupcoming
    rw [if_pos hle]
    exact ⟨rfl, rfl⟩
  | none =>
    -- With fewer pulls than tokens a token comes up, and with as many the `EOF` token does.
    have hgt : ¬ s.pulls ≤ s.tokens.length := by
      intro hle
      rw [Stream.upcoming] at hupcoming
      by_cases hlt : s.pulls < s.tokens.length
      · rw [if_pos hlt, List.getElem?_eq_getElem hlt] at hupcoming
        cases hupcoming
      · rw [if_neg hlt, if_pos (by omega)] at hupcoming
        cases hupcoming
    rw [if_neg hgt]
    exact ⟨rfl, rfl⟩

/-- A pull moves on, unless the end has been handed out. -/
theorem after_pull (h : Follows lx config c s) :
    Follows lx config c.next.2 { s with pulls := s.pulls + 1 } := by
  have hposition := h.position
  rw [h.next.2]
  split
  · refine ⟨h.ofLexer, h.ofConfig, h.tokens, ?_, h.line, h.types⟩
    change c.position + 1 = min (s.pulls + 1) (s.tokens.length + 1)
    omega
  · refine ⟨h.ofLexer, h.ofConfig, h.tokens, ?_, h.line, h.types⟩
    change c.position = min (s.pulls + 1) (s.tokens.length + 1)
    omega

end Follows

/-- A pull hands out the next token, and fails where there is none. -/
theorem pull_eq (c : Cursor) :
    c.pull = ((match c.next.1 with
      | some t => .ok t
      | none => .error .exhausted), c.next.2) := by
  rw [pull]
  generalize c.next = r
  rcases r with ⟨_ | t, c'⟩
  · rfl
  · rfl

/-- Without transforms the tokens of a text are those of its scan. -/
theorem tokensOf_plain (hplain : c.config.transforms = some []) (buffer line : Value) :
    (c.tokensOf buffer line).result = (c.lexer.tokenize buffer line).result := by
  unfold tokensOf
  rw [hplain, Logged.result_bind]
  cases (c.lexer.tokenize buffer line).result with
  | ok tokens => rfl
  | error e => rfl

theorem tokensOf_types {buffer line : Value} {tokens : List Token} (hplain : c.config.transforms = some [])
    (h : (c.tokensOf buffer line).result = .ok tokens) :
    ∀ t ∈ tokens, ∃ name ∈ c.lexer.names, t.type = .str name := by
  rw [tokensOf_plain hplain] at h
  exact Lexer.tokenize_types h

/-- A reset changes neither the lexer nor the configuration. -/
theorem reset_keeps (c : Cursor) (data info : Value) :
    (c.reset data info).1.lexer = c.lexer ∧ (c.reset data info).1.config = c.config := by
  cases hresult : (c.tokensOf (if data.truthy then data else .str "") (c.config.lineFrom info)).result with
  | ok tokens => simp only [reset, hresult, and_self]
  | error e => simp only [reset, hresult, and_self]

/-- A reset that goes well depends on the lexer and the configuration of the cursor alone. -/
theorem reset_congr {c' : Cursor} (hlexer : c'.lexer = c.lexer) (hconfig : c'.config = c.config) {data info : Value}
    (hok : (c.reset data info).2.result = .ok ()) : c'.reset data info = c.reset data info := by
  have htokens : c'.tokensOf = c.tokensOf := by
    unfold tokensOf
    rw [hlexer, hconfig]
  unfold reset at hok ⊢
  rw [hconfig, htokens]
  cases hresult : (c.tokensOf (if data.truthy then data else .str "") (c.config.lineFrom info)).result with
  | ok tokens => simp only [hresult, hlexer]
  | error e =>
    simp only [hresult] at hok
    cases hok

/-- A reset starts a stream, or fails and leaves all but the text and the line as they are. -/
theorem Follows.reset (h : Follows lx config c s) (data info : Value) :
    Follows lx config (c.reset data info).1 (s.after c (.reset data info)) := by
  rw [Stream.after, Cursor.reset]
  cases hresult : (c.tokensOf (if data.truthy then data else .str "") (c.config.lineFrom info)).result with
  | ok tokens =>
    refine ⟨h.ofLexer, h.ofConfig, rfl, (Nat.zero_min _).symm, rfl, fun hplain => ?_⟩
    rw [← h.ofConfig] at hplain
    rw [← h.ofLexer]
    exact tokensOf_types hplain hresult
  | error e =>
    -- The line is that of the reset that failed, and all else is as before.
    exact ⟨h.ofLexer, h.ofConfig, h.tokens, h.position, rfl, h.types⟩

/-- A cursor that follows a stream still does after an operation. -/
theorem Follows.perform (h : Follows lx config c s) (op : Operation) :
    Follows lx config (c.perform op).1 (s.after c op) := by
  cases op with
  | reset data info => exact h.reset data info
  | next => exact h.after_pull
  | pull =>
    have hpull : (c.perform .pull).1 = c.next.2 := by rw [Cursor.perform, pull_eq]
    rw [hpull]
    exact h.after_pull
  | save | has | complaint | tokens | position | buffer => exact h

/-- So it does after any operations, by induction on them. -/
theorem Follows.run : ∀ (ops : List Operation) {c : Cursor} {s : Stream}, Follows lx config c s →
    Follows lx config (c.run s ops).1 (c.run s ops).2 := by
  intro ops
  induction ops with
  | nil => exact fun h => h
  | cons op ops ih => exact fun h => ih (h.perform op)

/-! ## What is left to hand out -/

section Remaining

variable {t : Token} {ts : List Token}

/-- The tokens that the cursor is still to hand out. -/
def remaining (c : Cursor) : List Token := (c.tokens ++ [c.eofToken]).drop c.position

/-- The cursor, `k` pulls further. -/
def skip (c : Cursor) (k : Nat) : Cursor := { c with position := c.position + k }

/-- Moving on twice is moving on by the sum. -/
theorem skip_skip (c : Cursor) (j k : Nat) : (c.skip j).skip k = c.skip (j + k) := by
  simp only [skip, Nat.add_assoc]

/-- What remains after moving on is what is behind those tokens. -/
theorem remaining_skip (c : Cursor) (k : Nat) : (c.skip k).remaining = c.remaining.drop k := by
  rw [remaining, remaining, List.drop_drop]
  rfl

theorem current_eq_head? (c : Cursor) : c.current = c.remaining.head? := by
  rw [remaining, List.head?_drop, current]
  rcases Nat.lt_trichotomy c.position c.tokens.length with hlt | heq | hgt
  · rw [if_neg (by omega), List.getElem?_append_left hlt]
  · rw [if_pos heq, heq, List.getElem?_concat_length]
  · rw [if_neg (by omega), List.getElem?_eq_none (by omega), List.getElem?_eq_none (by simp; omega)]

/-- A pull hands out the first of these tokens. -/
theorem next_remaining (h : c.remaining = t :: ts) : c.next = (some t, c.skip 1) := by
  rw [next, current_eq_head?, h]
  rfl

theorem next_moves (c : Cursor) : ∃ k, c.next.2 = c.skip k := by
  rw [next]
  cases c.current with
  | none => exact ⟨0, rfl⟩
  | some t => exact ⟨1, rfl⟩

theorem eofToken_type (c : Cursor) : c.eofToken.type = .str eofName := by
  rw [eofToken]
  cases c.tokens.getLast? with
  | none => rfl
  | some t => rfl

/-- The `EOF` token has the value and the line of the last token, or no text and the first line. -/
theorem forall_mem_eofToken {P : Value → Value → Prop} (h : ∀ t ∈ c.tokens, P t.value t.line)
    (hstart : P (.str "") c.startLine) : ∀ t ∈ c.tokens ++ [c.eofToken], P t.value t.line := by
  refine List.forall_mem_append.2 ⟨h, List.forall_mem_singleton.2 ?_⟩
  rw [eofToken]
  cases hlast : c.tokens.getLast? with
  | none => exact hstart
  | some t => exact h t (List.mem_of_getLast? hlast)

end Remaining

/-! ## Whole runs -/

/-- What is no pull leaves the stream as it is, unless it is a reset: one that goes well starts a new stream,
and one that fails changes nothing but the text and the line. -/
theorem perform_eq (c : Cursor) (op : Operation) (hpull : op.pulls = false) :
    (op.resets = false → (c.perform op).1 = c) ∧
      ((c.perform op).2 ≠ .done → ∃ buffer startLine, (c.perform op).1 = { c with buffer, startLine }) := by
  cases op with
  | reset data info =>
    refine ⟨fun h => (by cases h), fun hdone => ?_⟩
    rw [perform, Cursor.reset] at hdone ⊢
    cases hresult : (c.tokensOf (if data.truthy then data else .str "") (c.config.lineFrom info)).result with
    | ok tokens =>
      simp only [hresult] at hdone
      exact absurd rfl hdone
    | error e => exact ⟨_, _, rfl⟩
  | next | pull => cases hpull
  | save | has | complaint | tokens | position | buffer => exact ⟨fun _ => rfl, fun _ => ⟨c.buffer, c.startLine, rfl⟩⟩

/-- Looking at the current token is looking into the stream. -/
theorem Follows.save (h : Follows lx config c s) : c.save = s.tokens[s.pulls]? := by
  rw [Cursor.save, h.tokens, h.position]
  by_cases hle : s.pulls ≤ s.tokens.length
  · rw [Nat.min_eq_left (by omega)]
  · rw [Nat.min_eq_right (by omega), List.getElem?_eq_none (by omega), List.getElem?_eq_none (by omega)]

/-- Without transforms the types that a stream hands out are known to the lexer. -/
theorem Follows.has_type (h : Follows lx config c s) (hplain : config.transforms = some []) {t : Token}
    (ht : s.upcoming = some t) : c.has t.type = .ok true := by
  -- What comes up is one of the tokens of the last reset, or the `EOF` token behind them.
  have hname : ∃ name, (name = eofName ∨ name ∈ lx.names) ∧ t.type = .str name := by
    rw [Stream.upcoming] at ht
    split at ht
    · rcases h.types hplain t (List.mem_of_getElem? ht) with ⟨name, hname, htype⟩
      exact ⟨name, .inr hname, htype⟩
    · split at ht
      · refine ⟨eofName, .inl rfl, ?_⟩
        rw [← Option.some.inj ht]
        split <;> rfl
      · cases ht
  rcases hname with ⟨name, hname, htype⟩
  have hknown : (name == eofName || c.lexer.names.contains name) = true := by
    rw [h.ofLexer, Bool.or_eq_true, beq_iff_eq, List.contains_iff_mem]
    exact hname
  rw [htype]
  exact congrArg Except.ok hknown

/-- Whatever is done with a new cursor, it hands out its stream. With `n` tokens since the last reset that went
well and `k` pulls since then, it stands at `k`, or at `n + 1` if that is less; pulls beyond the `EOF` token
find nothing and change nothing; what is no pull and no reset that goes well changes nothing of the stream but
the line. Without transforms every type that is handed out is known. -/
theorem run_stream (lx : Lexer) (config : Config) (ops : List Operation) :
    ∃ c s, (new lx config).run { line := config.startLine } ops = (c, s) ∧
      c.tokens = s.tokens ∧ c.position = min s.pulls (s.tokens.length + 1) ∧
      (c.perform .next).2 = .token s.upcoming ∧
      (c.perform .pull).2 = (match s.upcoming with
        | some t => .token (some t)
        | none => .failed .exhausted) ∧
      (∀ op : Operation, op.pulls = true → s.tokens.length < s.pulls → (c.perform op).1 = c) ∧
      (c.perform .save).2 = .token s.tokens[s.pulls]? ∧
      (∀ op : Operation, op.pulls = false →
        (op.resets = false → (c.perform op).1 = c) ∧
          ((c.perform op).2 ≠ .done →
            ∃ buffer startLine, (c.perform op).1 = { c with buffer, startLine })) ∧
      (config.transforms = some [] → ∀ t, s.upcoming = some t → c.has t.type = .ok true) := by
  have h := (new_follows lx config).run ops
  generalize hrun : (new lx config).run { line := config.startLine } ops = r at h ⊢
  rcases r with ⟨c, s⟩
  have hpull : c.pull.2 = c.next.2 := by rw [pull_eq]
  refine ⟨c, s, rfl, h.tokens, h.position, ?_, ?_, ?_, ?_, c.perform_eq, fun hplain t => h.has_type hplain⟩
  · rw [perform, h.next.1]
  · rw [perform, pull_eq, h.next.1]
    cases s.upcoming with
    | some t => rfl
    | none => rfl
  · intro op hop hend
    have hnext : c.next.2 = c := by rw [h.next.2, if_neg (Nat.not_le_of_lt hend)]
    cases op with
    | next => exact hnext
    | pull => exact hpull.trans hnext
    | reset | save | has | complaint | tokens | position | buffer => cases hop
  · rw [perform, h.save]

end Cursor

end PatternLexer
