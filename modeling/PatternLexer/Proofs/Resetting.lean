import PatternLexer.Proofs.FailedReset
import PatternLexer.Proofs.Scoping
import PatternLexer.Proofs.Validation

/-!
# What a reset makes of a text

A reset scans its text from the line that its caller tells, and hands the tokens from one transform to the next, each
time in a list of their own. Nothing that was done with the cursor before comes into it.

* `Transform.Passes` says that tokens get through transforms, `Transform.Fails` that one of the transforms fails. By
  `Transform.applyAll_ok` and `Transform.applyAll_error` nothing else happens; `Transform.callAll` notes the calls made.
* `Config.StartsAt` says which line a caller tells.
* `Session.lexCursor_ok` is about cursors that are made together with their lexer.
* `Cursor.reset_delivers` puts them together, for every cursor and whatever was done with it.
-/

namespace PatternLexer

/-! ## Transforms one after the other -/

namespace Transform

variable {f : Transform} {fs before after : List Transform} {tokens input made : List Token} {e : Fault}

/-- The tokens get through the transforms: each makes a list of the one that the transform before it made, and the
last one makes `made`. -/
inductive Passes : List Transform → List Token → List Token → Prop where
  | nil (tokens : List Token) : Passes [] tokens tokens
  | cons {f : Transform} {fs : List Transform} {tokens changed made : List Token} (hrun : f.run tokens = .ok changed)
      (hrest : Passes fs changed made) : Passes (f :: fs) tokens made

/-- Tokens get through transforms if they get through the first and what it makes through the others. -/
theorem passes_cons :
    Passes (f :: fs) tokens made ↔ ∃ changed, f.run tokens = .ok changed ∧ Passes fs changed made := by
  constructor
  · rintro ⟨⟩
    exact ⟨_, ‹_›, ‹_›⟩
  · rintro ⟨changed, hrun, hrest⟩
    exact .cons hrun hrest

theorem applyAll_cons (f : Transform) (fs : List Transform) (tokens : List Token) :
    applyAll (f :: fs) tokens = f.run tokens >>= applyAll fs := by
  rw [applyAll]
  cases f.run tokens <;> rfl

/-- Transforms yield what tokens that get through them become. -/
theorem applyAll_ok : applyAll fs tokens = .ok made ↔ Passes fs tokens made := by
  induction fs generalizing tokens with
  | nil =>
    constructor
    · rintro ⟨⟩
      exact .nil _
    · rintro ⟨⟩
      rfl
  | cons f fs ih =>
    rw [applyAll_cons, Except.bind_eq_ok, passes_cons]
    simp only [ih]

/-- One of the transforms fails, on what those before it made. -/
def Fails (fs : List Transform) (tokens : List Token) (e : Fault) : Prop :=
  ∃ before f after input, fs = before ++ f :: after ∧ Passes before tokens input ∧ f.run input = .error e

theorem fails_nil : ¬Fails [] tokens e := by
  rintro ⟨before, f, after, input, hsplit, -⟩
  exact absurd hsplit.symm (List.append_ne_nil_of_right_ne_nil _ (List.cons_ne_nil _ _))

/-- One of the transforms fails if the first does or one of the others on what that makes. -/
theorem fails_cons : Fails (f :: fs) tokens e ↔
    f.run tokens = .error e ∨ ∃ changed, f.run tokens = .ok changed ∧ Fails fs changed e := by
  constructor
  · rintro ⟨before, g, after, input, hsplit, hpasses, hfails⟩
    cases before with
    | nil =>
      cases hsplit
      cases hpasses
      exact .inl hfails
    | cons g' before =>
      cases hsplit
      obtain ⟨changed, hrun, hpasses⟩ := passes_cons.1 hpasses
      exact .inr ⟨changed, hrun, before, g, after, input, rfl, hpasses, hfails⟩
  · rintro (hfails | ⟨changed, hrun, before, g, after, input, rfl, hpasses, hfails⟩)
    · exact ⟨[], f, fs, tokens, rfl, .nil tokens, hfails⟩
    · exact ⟨f :: before, g, after, input, rfl, .cons hrun hpasses, hfails⟩

/-- Transforms fail if one of them does. -/
theorem applyAll_error : applyAll fs tokens = .error e ↔ Fails fs tokens e := by
  induction fs generalizing tokens with
  | nil =>
    constructor
    · rintro ⟨⟩
    · exact fun h => absurd h fails_nil
  | cons f fs ih =>
    rw [applyAll_cons, Except.bind_eq_error, fails_cons]
    simp only [ih]

/-! ### The calls that are made -/

/-- Calls the transform, and notes that it was called. -/
def call (f : Transform) (tokens : List Token) : ExceptT Fault (StateM (List Transform)) (List Token) := fun called =>
  (f.run tokens, called ++ [f])

/-- Calls transforms in order, each with what the one before made. -/
def callAll (fs : List Transform) (tokens : List Token) : ExceptT Fault (StateM (List Transform)) (List Token) :=
  fs.foldlM (fun tokens f => f.call tokens) tokens

theorem callAll_cons (f : Transform) (fs : List Transform) (tokens : List Token) (called : List Transform) :
    callAll (f :: fs) tokens called = (match f.run tokens with
      | .ok changed => callAll fs changed (called ++ [f])
      | .error e => (.error e, called ++ [f])) := by
  change ExceptT.bindCont (callAll fs) (f.run tokens) (called ++ [f]) = _
  cases f.run tokens <;> rfl

/-- The notes aside, calling transforms is applying them. -/
theorem callAll_outcome (fs : List Transform) (tokens : List Token) (called : List Transform) :
    (callAll fs tokens called).1 = applyAll fs tokens := by
  induction fs generalizing tokens called with
  | nil => rfl
  | cons f fs ih =>
    rw [callAll_cons, applyAll_cons]
    cases f.run tokens with
    | error e => rfl
    | ok changed => exact ih changed _

/-- After transforms that go well the others are called on what those make. -/
theorem callAll_append (h : Passes before tokens input) (fs called : List Transform) :
    callAll (before ++ fs) tokens called = callAll fs input (called ++ before) := by
  induction h generalizing called with
  | nil tokens => rw [List.nil_append, List.append_nil]
  | cons hrun _ ih =>
    rw [List.cons_append, callAll_cons, hrun]
    exact (ih _).trans (by rw [List.append_assoc, List.singleton_append])

/-- If the tokens get through, each transform was called once. -/
theorem callAll_passes (h : Passes fs tokens made) : (callAll fs tokens []).2 = fs := by
  have hcalls := callAll_append h [] []
  rw [List.append_nil] at hcalls
  rw [hcalls]
  rfl

/-- If a transform fails, those after it were not called. -/
theorem callAll_fails (h : Passes before tokens input) (hrun : f.run input = .error e) :
    (callAll (before ++ f :: after) tokens []).2 = before ++ [f] := by
  rw [callAll_append h, callAll_cons, hrun]
  rfl

/-- The last token is taken from no token. -/
example (f g : Transform) (hf : f = .ofValue (.transform "pop" [])) :
    callAll [f, g] [] [] = (.error .popFromEmpty, [f]) := by
  subst hf
  rfl

end Transform

/-! ## The line that a caller tells -/

namespace Config

variable {config : Config} {info line : Value}

/-- A reset that is told `info` starts at the line: the entry of a dictionary or the attribute of anything else, or,
where there is neither, the line of the configuration. -/
inductive StartsAt (config : Config) : (info line : Value) → Prop where
  | nothing : StartsAt config .null config.startLine
  | entry {entries : List (String × Value)} {line : Value} (h : entries.lookup "line" = some line) :
      StartsAt config (.dict entries) line
  | noEntry {entries : List (String × Value)} (h : entries.lookup "line" = none) :
      StartsAt config (.dict entries) config.startLine
  | field {info line : Value} (hinfo : ∀ entries, info ≠ .dict entries) (h : info.field? "line" = some line) :
      StartsAt config info line
  | noField {info : Value} (hinfo : ∀ entries, info ≠ .dict entries) (h : info.field? "line" = none) :
      StartsAt config info config.startLine

theorem lineFrom_of_ne_dict (hinfo : ∀ entries, info ≠ .dict entries) :
    config.lineFrom info = (info.field? "line").getD config.startLine := by
  unfold lineFrom
  split
  · exact absurd rfl (hinfo _)
  · rfl

/-- There is one line to start at. -/
theorem startsAt_iff : config.StartsAt info line ↔ line = config.lineFrom info := by
  constructor
  · rintro (_ | h | h | ⟨hinfo, h⟩ | ⟨hinfo, h⟩)
    · rfl
    · simp only [lineFrom, h, Option.getD]
    · simp only [lineFrom, h, Option.getD]
    · rw [lineFrom_of_ne_dict hinfo, h, Option.getD]
    · rw [lineFrom_of_ne_dict hinfo, h, Option.getD]
  · rintro rfl
    -- A dictionary is asked for an entry, and anything else for a field.
    by_cases hinfo : ∃ entries, info = .dict entries
    · obtain ⟨entries, rfl⟩ := hinfo
      change config.StartsAt _ ((entries.lookup "line").getD config.startLine)
      cases h : entries.lookup "line" with
      | some line => exact .entry h
      | none => exact .noEntry h
    · have hinfo : ∀ entries, info ≠ .dict entries := fun entries h => hinfo ⟨entries, h⟩
      rw [lineFrom_of_ne_dict hinfo]
      cases h : info.field? "line" with
      | some line => exact .field hinfo h
      | none => exact .noField hinfo h

end Config

/-! ## Cursors that are made with their lexer -/

namespace Session

variable {rules transform : Value} {explicit : Option Config} {ctx : Context Session} {c : Cursor}

theorem run_ok {α : Type} {operation : Logged α} (ctx : Context Session) {a : α} :
    (run operation ctx).1 = .ok a ↔ operation.result = .ok a := by
  change (lift operation.result _).1 = .ok a ↔ _
  cases operation.result with
  | ok b => exact Iff.rfl
  | error e => exact Iff.rfl

/-- Makes a cursor over a lexer that is compiled for it. -/
def cursorOver (rules : Value) (config : Config) : SessionM Cursor := do
  return .new (← run (Lexer.compileValue rules)) config

theorem cursorOver_ok {config : Config} : (cursorOver rules config ctx).1 = .ok c ↔
    ∃ lx, (Lexer.compileValue rules).result = .ok lx ∧ c = .new lx config := by
  rw [cursorOver, Contextual.bind_apply]
  simp only [← run_ok ctx]
  rcases run (Lexer.compileValue rules) ctx with ⟨e | lx, after⟩
  · constructor
    · rintro ⟨⟩
    · rintro ⟨lx, ⟨⟩, -⟩
  · constructor
    · rintro ⟨⟩
      exact ⟨lx, rfl, rfl⟩
    · rintro ⟨lx, ⟨⟩, rfl⟩
      rfl

theorem lexCursor_null : lexCursor rules .null explicit ctx = cursorOver rules (explicit.getD ctx.config) ctx := by
  rw [lexCursor, Contextual.bind_apply, Action.choose_apply]
  rfl

/-- Transforms that are given override those of the configuration. -/
theorem lexCursor_given (h : transform ≠ .null) : lexCursor rules transform explicit ctx =
    (match Transform.normalize transform with
      | .ok fs => cursorOver rules ⟨(explicit.getD ctx.config).startLine, some fs⟩ ctx
      | .error e => (.error e, ctx)) := by
  rw [lexCursor, Contextual.bind_apply, Action.choose_apply]
  cases transform with
  | null => exact absurd rfl h
  | _ =>
    simp only [Contextual.bind_apply]
    cases Transform.normalize _ with
    | ok fs => exact (Contextual.bind_apply (run (Lexer.compileValue rules)) _ ctx).symm
    | error e => rfl

/-- A cursor that is made with its lexer has the line of the configuration: the explicit one, or else that of the
context. Its transforms are those of the argument, or else of this configuration. -/
theorem lexCursor_ok : (lexCursor rules transform explicit ctx).1 = .ok c ↔
    ∃ lx transforms, (Lexer.compileValue rules).result = .ok lx ∧
      c = .new lx ⟨(explicit.getD ctx.config).startLine, transforms⟩ ∧
      (transform = .null → transforms = (explicit.getD ctx.config).transforms) ∧
      (transform ≠ .null → ∃ fs, Transform.normalize transform = .ok fs ∧ transforms = some fs) := by
  by_cases hnull : transform = .null
  · rw [hnull, lexCursor_null, cursorOver_ok]
    constructor
    · rintro ⟨lx, hlx, rfl⟩
      exact ⟨lx, _, hlx, rfl, fun _ => rfl, fun h => absurd rfl h⟩
    · rintro ⟨lx, transforms, hlx, rfl, htransforms, -⟩
      rw [htransforms rfl]
      exact ⟨lx, hlx, rfl⟩
  · rw [lexCursor_given hnull]
    cases Transform.normalize transform with
    | error e =>
      constructor
      · rintro ⟨⟩
      · rintro ⟨lx, transforms, -, -, -, hgiven⟩
        obtain ⟨fs, ⟨⟩, -⟩ := hgiven hnull
    | ok fs =>
      refine cursorOver_ok.trans ⟨?_, ?_⟩
      · rintro ⟨lx, hlx, rfl⟩
        exact ⟨lx, _, hlx, rfl, fun h => absurd h hnull, fun _ => ⟨fs, rfl, rfl⟩⟩
      · rintro ⟨lx, transforms, hlx, rfl, -, hgiven⟩
        obtain ⟨fs', ⟨⟩, rfl⟩ := hgiven hnull
        exact ⟨lx, hlx, rfl⟩

end Session

/-! ## Resets -/

/-- There is nothing in the empty text. -/
theorem Lexer.tokenize_empty (lx : Lexer) (line : Value) : (lx.tokenize (.str "") line).result = .ok [] := by
  -- A match takes a character, and there is none.
  have hfound : (lx.probe #[] 0).found = none := by
    by_contra hsome
    obtain ⟨m, hm⟩ := Option.ne_none_iff_exists'.1 hsome
    have hmoves := probe_moves (Nat.zero_le _) hm
    exact absurd (Nat.lt_of_lt_of_le hmoves.moves hmoves.inside) (Nat.lt_irrefl _)
  have htrace : lx.trace "".toList.toArray = [lx.probe #[] 0] := by
    change lx.trace #[] = _
    simp only [trace, traceFrom, hfound]
  have hscan : lx.scanValue (.str "") line = { log := lx.bypassRecords 0 (lx.probe #[] 0) } := by
    change lx.emitAll ⟨line, 0⟩ 0 (lx.trace "".toList.toArray) = _
    rw [htrace]
    simp only [emitAll, hfound]
  unfold tokenize
  rw [hscan]

/-- A text, or nothing. -/
def Value.ofText? : Option String → Value
  | some s => .str s
  | none => .null

namespace Cursor

variable {c c' : Cursor}

/-- Does operations one after the other. -/
def performAll (c : Cursor) (ops : List Operation) : Cursor := ops.foldl (fun c op => (c.perform op).1) c

/-- No operation changes the lexer of a cursor. -/
theorem perform_lexer (c : Cursor) (op : Operation) : (c.perform op).1.lexer = c.lexer := by
  have hnext : c.next.2.lexer = c.lexer := by
    obtain ⟨k, hk⟩ := c.next_moves
    rw [hk]
    rfl
  cases op with
  | reset data info => exact (c.reset_keeps data info).1
  | next => exact hnext
  | pull =>
    change c.pull.2.lexer = c.lexer
    rw [pull_eq]
    exact hnext
  | save | has | complaint | tokens | position | buffer => rfl

/-- No operation changes the lexer and the configuration of a cursor. -/
theorem performAll_keeps (c : Cursor) (ops : List Operation) :
    (c.performAll ops).lexer = c.lexer ∧ (c.performAll ops).config = c.config := by
  induction ops generalizing c with
  | nil => exact ⟨rfl, rfl⟩
  | cons op ops ih =>
    obtain ⟨hlexer, hconfig⟩ := ih (c.perform op).1
    exact ⟨hlexer.trans (c.perform_lexer op), hconfig.trans (c.perform_config op)⟩

/-- The tokens of a text are what its scan becomes by the transforms of the configuration. -/
theorem tokensOf_result (c : Cursor) (buffer line : Value) :
    (c.tokensOf buffer line).result = (c.lexer.tokenize buffer line).result >>= fun scanned =>
      match c.config.transforms with
      | some fs => Transform.applyAll fs scanned
      | none => .error (.notIterable "NoneType") := by
  unfold tokensOf
  rw [Logged.result_bind]
  refine congrArg _ (funext fun scanned => ?_)
  rw [Logged.result_bind, Logged.result_ofExcept]
  cases c.config.transforms with
  | none => rfl
  | some fs =>
    change Transform.applyAll fs scanned >>= _ = Transform.applyAll fs scanned
    cases Transform.applyAll fs scanned with
    | ok tokens => rfl
    | error e => rfl

/-- Nothing stands for the empty text. -/
theorem buffer_of_text (data : Option String) :
    (if (Value.ofText? data).truthy then Value.ofText? data else .str "") = .str (data.getD "") := by
  cases data with
  | none => rfl
  | some s =>
    by_cases hs : s = ""
    · subst hs
      rfl
    · have htruthy : (Value.str s).truthy = true := bne_iff_ne.2 hs
      exact if_pos htruthy

/-- What a reset to a text leaves behind if the tokens can be made. -/
theorem reset_of_ok {data : Option String} {info : Value} {made : List Token}
    (h : (c.tokensOf (.str (data.getD "")) (c.config.lineFrom info)).result = .ok made) :
    (c.reset (.ofText? data) info).1 =
        ⟨c.lexer, c.config, .str (data.getD ""), made, 0, c.config.lineFrom info⟩ ∧
      (c.reset (.ofText? data) info).2.result = .ok () := by
  simp only [reset, buffer_of_text, h, and_self]

/-- A reset goes as its scan does, and then as the transforms do. -/
theorem reset_outcome (c : Cursor) (data info : Value) : (c.reset data info).2.result =
    (c.lexer.tokenize (if data.truthy then data else .str "") (c.config.lineFrom info)).result >>= fun scanned =>
      (match c.config.transforms with
        | some fs => Transform.applyAll fs scanned
        | none => .error (.notIterable "NoneType")).map fun _ => () := by
  rw [reset_result, tokensOf_result]
  cases (c.lexer.tokenize (if data.truthy then data else .str "") (c.config.lineFrom info)).result with
  | ok scanned => rfl
  | error e => rfl

/-- A reset makes the same of a text on every cursor with the same lexer and configuration, whatever was done with it
before.

* If the scan from the line that the caller tells goes well, and its tokens get through the transforms, the cursor is
  that of a new one after the same reset: it has the new tokens, at the first of them, with the text and the line.
  Each transform was called once, in order.
* If the scan fails, or a transform does, the reset fails with it. No transform after that one was called.
* A configuration without a list of transforms fails as soon as the text is scanned.
* A cursor that was made with its lexer has the line of the explicit configuration, or else of that of the context, and
  the transforms of the argument, or else of the same configuration. -/
theorem reset_delivers (c₀ : Cursor) (ops : List Operation) (data : Option String) (info : Value) :
    ∃ (c : Cursor) (text line : Value) (outcome : Cursor × Logged Unit), c = c₀.performAll ops ∧
      text = .str (data.getD "") ∧ (∀ line', c₀.config.StartsAt info line' ↔ line' = line) ∧
      outcome = c.reset (.ofText? data) info ∧
      (∀ fs scanned made, c₀.config.transforms = some fs → (c₀.lexer.tokenize text line).result = .ok scanned →
        Transform.Passes fs scanned made →
          outcome = (new c₀.lexer c₀.config).reset (.ofText? data) info ∧
          outcome.1 = ⟨c₀.lexer, c₀.config, text, made, 0, line⟩ ∧ outcome.2.result = .ok () ∧
          Transform.callAll fs scanned [] = (.ok made, fs)) ∧
      (∀ e, (c₀.lexer.tokenize text line).result = .error e → outcome.2.result = .error e) ∧
      (∀ before f after scanned input e, c₀.config.transforms = some (before ++ f :: after) →
        (c₀.lexer.tokenize text line).result = .ok scanned → Transform.Passes before scanned input →
        f.run input = .error e → outcome.2.result = .error e ∧
          Transform.callAll (before ++ f :: after) scanned [] = (.error e, before ++ [f])) ∧
      (∀ scanned, c₀.config.transforms = none → (c₀.lexer.tokenize text line).result = .ok scanned →
        outcome.2.result = .error (.notIterable "NoneType")) ∧
      (∀ rules transform explicit ctx, (Session.lexCursor rules transform explicit ctx).1 = .ok c₀ ↔
        ∃ lx transforms, (Lexer.compileValue rules).result = .ok lx ∧
          c₀ = new lx ⟨(explicit.getD ctx.config).startLine, transforms⟩ ∧
          (transform = .null → transforms = (explicit.getD ctx.config).transforms) ∧
          (transform ≠ .null → ∃ fs, Transform.normalize transform = .ok fs ∧ transforms = some fs)) := by
  obtain ⟨hlexer, hconfig⟩ := c₀.performAll_keeps ops
  have houtcome := (c₀.performAll ops).reset_outcome (.ofText? data) info
  rw [buffer_of_text, hlexer, hconfig] at houtcome
  refine ⟨_, _, _, _, rfl, rfl, fun _ => Config.startsAt_iff, rfl, ?_, ?_, ?_, ?_, ?_⟩
  · -- The tokens get through.
    intro fs scanned made hfs hscan hpasses
    have happlied := Transform.applyAll_ok.2 hpasses
    have hmade : ((c₀.performAll ops).tokensOf (.str (data.getD ""))
        ((c₀.performAll ops).config.lineFrom info)).result = .ok made := by
      rw [tokensOf_result, hlexer, hconfig, hscan]
      simp only [hfs]
      exact happlied
    obtain ⟨hstate, hok⟩ := reset_of_ok hmade
    have hfresh : (new c₀.lexer c₀.config).reset (.ofText? data) info =
        (c₀.performAll ops).reset (.ofText? data) info :=
      reset_congr (show (new c₀.lexer c₀.config).lexer = _ from hlexer.symm) hconfig.symm hok
    refine ⟨hfresh.symm, ?_, hok, ?_⟩
    · rw [hstate, hlexer, hconfig]
    · refine Prod.ext ?_ (Transform.callAll_passes hpasses)
      rw [Transform.callAll_outcome, happlied]
  · -- The scan fails.
    intro e hscan
    rw [houtcome, hscan]
    rfl
  · -- A transform fails.
    intro before f after scanned input e hfs hscan hpasses hfails
    have hfailed := Transform.applyAll_error.2 ⟨before, f, after, input, rfl, hpasses, hfails⟩
    refine ⟨?_, Prod.ext ?_ (Transform.callAll_fails hpasses hfails)⟩
    · rw [houtcome, hscan]
      simp only [hfs]
      exact congrArg (Except.map fun _ => ()) hfailed
    · rw [Transform.callAll_outcome, hfailed]
  · -- There are no transforms to go through.
    intro scanned hfs hscan
    rw [houtcome, hscan]
    simp only [hfs]
    rfl
  · exact fun rules transform explicit ctx => Session.lexCursor_ok

/-! ### Two resets one after the other -/

/-- A rule for a letter. -/
def letterRules : List Entry := [.bare (.source "(?P<A>a)")]

/-- The letter in line 7. -/
def letterAt (col : Int) : Token := ⟨.str "A", .str "a", .int 7, .int col, .int 1⟩

/-- Three letters are three tokens. -/
theorem tokenize_letters : ∃ lx, (Lexer.compile letterRules).result = .ok lx ∧
    (lx.tokenize (.str "aaa") (.int 7)).result = .ok [letterAt 1, letterAt 2, letterAt 3] := by
  obtain ⟨lx, hlx, hcheck⟩ := Logged.exists_ok (Lexer.compile letterRules)
    (fun lx => lx.fallbackIndex == 1 && (lx.rules[0]?.any fun r => r.name == "A" && !r.skips && r.hook.isNone) &&
      lx.trace "aaa".toList.toArray ==
        [⟨some ⟨0, "a", 0, 1⟩, none⟩, ⟨some ⟨0, "a", 1, 2⟩, none⟩, ⟨some ⟨0, "a", 2, 3⟩, none⟩, ⟨none, none⟩])
    (by decide +kernel)
  simp only [Bool.and_eq_true, beq_iff_eq, Option.any_eq_true, Bool.not_eq_true', Option.isNone_iff_eq_none] at hcheck
  obtain ⟨⟨hfallback, r, hr, ⟨hname, hskips⟩, hhook⟩, htrace⟩ := hcheck
  have hafter : ∀ i, (⟨.int 7, 0⟩ : Place).after ⟨0, "a", i, i + 1⟩ = .ok ⟨.int 7, 0⟩ := by
    intro i
    simp [Place.after, String.contains_char_eq]
  have hemit : ∀ i : Nat, lx.emit ⟨.int 7, 0⟩ ⟨0, "a", i, i + 1⟩ = .ok (some (letterAt (i + 1))) := by
    intro i
    rw [Lexer.emit_emitted hr hskips, Rule.valueOf, hhook]
    simp [Except.map, Lexer.tokenOf, letterAt, Place.column, hfallback, hname]
    rfl
  refine ⟨lx, hlx, ?_⟩
  have hscan : lx.scanValue (.str "aaa") (.int 7) = ⟨[letterAt 1, letterAt 2, letterAt 3], none, []⟩ := by
    change lx.emitAll ⟨.int 7, 0⟩ 0 (lx.trace "aaa".toList.toArray) = _
    rw [htrace]
    simp [Lexer.emitAll, Lexer.bypassRecords, hafter 0, hafter 1, hafter 2, hemit 0, hemit 1, hemit 2]
  exact Lexer.tokenize_ok.2 (by rw [hscan]; exact ⟨rfl, rfl⟩)

/-- In the empty text there is no token to take away, so that the second of three transforms fails, and the third is
not called. The same cursor is then reset to a text: the last token is taken away and the others change places, and the
cursor is the one that a fresh cursor becomes. -/
theorem reset_delivers_pop : ∃ lx identity pop reverse fresh failed passed,
    (Lexer.compile letterRules).result = .ok lx ∧
      identity = Transform.ofValue (.transform "identity" []) ∧ pop = Transform.ofValue (.transform "pop" []) ∧
      reverse = Transform.ofValue (.transform "reverse" []) ∧
      fresh = new lx ⟨.int 1, some [identity, pop, reverse]⟩ ∧
      failed = fresh.reset .null .null ∧
      failed.2.result = .error .popFromEmpty ∧
      Transform.callAll [identity, pop, reverse] [] [] = (.error .popFromEmpty, [identity, pop]) ∧
      passed = failed.1.reset (.str "aaa") (.dict [("line", .int 7)]) ∧
      passed = fresh.reset (.str "aaa") (.dict [("line", .int 7)]) ∧
      passed.1 = ⟨lx, fresh.config, .str "aaa", [letterAt 2, letterAt 1], 0, .int 7⟩ ∧
      passed.2.result = .ok () ∧
      Transform.callAll [identity, pop, reverse] [letterAt 1, letterAt 2, letterAt 3] [] =
        (.ok [letterAt 2, letterAt 1], [identity, pop, reverse]) := by
  obtain ⟨lx, hlx, hletters⟩ := tokenize_letters
  let fresh : Cursor := new lx ⟨.int 1, some [.ofValue (.transform "identity" []), .ofValue (.transform "pop" []),
    .ofValue (.transform "reverse" [])]⟩
  let failed : Cursor × Logged Unit := fresh.reset .null .null
  refine ⟨lx, _, _, _, fresh, failed, failed.1.reset (.str "aaa") (.dict [("line", .int 7)]), hlx, rfl, rfl, rfl, rfl,
    rfl, ?_⟩
  obtain ⟨c, text, line, outcome, rfl, rfl, -, rfl, -, -, hfails, -⟩ := reset_delivers fresh [] none .null
  obtain ⟨hfault, hcalled⟩ :=
    hfails [_] _ [_] [] [] .popFromEmpty rfl (lx.tokenize_empty _) (.cons rfl (.nil _)) rfl
  refine ⟨hfault, hcalled, rfl, ?_⟩
  -- The reset that failed is an operation done before.
  obtain ⟨c, text, line, outcome, rfl, rfl, hline, rfl, hpasses, -⟩ :=
    reset_delivers fresh [.reset .null .null] (some "aaa") (.dict [("line", .int 7)])
  obtain rfl := (hline (.int 7)).1 (.entry rfl)
  exact hpasses [_, _, _] _ [letterAt 2, letterAt 1] rfl hletters (.cons rfl (.cons rfl (.cons rfl (.nil _))))

end Cursor

end PatternLexer
