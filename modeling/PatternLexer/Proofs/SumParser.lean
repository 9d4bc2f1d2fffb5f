import PatternLexer.Proofs.SumGrammar

/-!
# The parser of sums

The parser of sums accepts its grammar, whatever its cursor was used for before.

* `readSum_number` is one round of the parser. `readSum_ok` and `readSum_rejects` follow from it, by induction on the
  words that are left.
* `newCursor_eq`: the lexer of the parser is one of numbers, blanks and plus signs.
* `IsLexer.reset_spells`: so the tokens of a text are those of its words.
* `IsLexer.parseSum_ok` and `IsLexer.parseSum_rejects` are about whole texts, and `parseSum_afterSums` says that it
  does not matter what was read before.
* `parseSum_accepts` puts them together.
-/

namespace PatternLexer.Examples.Sum

open List (Forall₂)
open Text

/-! ## Tokens of words -/

/-- The type of the token of a word. -/
def typeOf : Kind → String
  | .number => "NUM"
  | .operator => "PLUS"
  | .error => errorName

theorem typeOf_eq_number {kind : Kind} : typeOf kind = "NUM" ↔ kind = .number := by
  cases kind <;> decide

theorem typeOf_eq_plus {kind : Kind} : typeOf kind = "PLUS" ↔ kind = .operator := by
  cases kind <;> decide

theorem typeOf_ne_eof (kind : Kind) : typeOf kind ≠ eofName := by
  cases kind <;> decide

/-- The types of the tokens of words, and of the `EOF` token behind them. -/
def typesOf (words : List Word) : List String := words.map (fun w => typeOf w.kind) ++ [eofName]

/-- The tokens are those of the words, with the `EOF` token behind them. -/
inductive Spells : List Word → List Token → Prop where
  | nil {t : Token} : t.type = .str eofName → Spells [] [t]
  | cons {w : Word} {words : List Word} {t : Token} {ts : List Token} : t.type = .str (typeOf w.kind) →
      t.value = .str (String.ofList w.chars) → Spells words ts → Spells (w :: words) (t :: ts)

theorem Spells.types {words : List Word} {ts : List Token} (h : Spells words ts) :
    ts.map Token.type = (typesOf words).map Value.str := by
  induction h with
  | nil htype => rw [List.map_singleton, htype]; rfl
  | cons htype _ _ ih => rw [List.map_cons, htype, ih]; rfl

theorem Spells.length_eq {words : List Word} {ts : List Token} (h : Spells words ts) : ts.length = words.length + 1 := by
  induction h with
  | nil _ => rfl
  | cons _ _ _ ih => rw [List.length_cons, ih, List.length_cons]

/-- A parser that may read as many numbers as there are tokens can read all words. -/
theorem Spells.length_lt {words : List Word} {c : Cursor} (h : Spells words c.remaining) :
    words.length < c.tokens.length + 1 := by
  have hlength := h.length_eq
  rw [Cursor.remaining, List.length_drop, List.length_append, List.length_singleton] at hlength
  omega

/-- The tokens of words and a token of the type `EOF` behind them. -/
theorem spells_of_made {words : List Word} {tokens : List Token} {last : Token}
    (h : Forall₂ (fun w t => t.type = .str (typeOf w.kind) ∧ t.value = .str (String.ofList w.chars)) words tokens)
    (hlast : last.type = .str eofName) : Spells words (tokens ++ [last]) := by
  induction h with
  | nil => exact .nil hlast
  | cons hword _ ih => exact .cons hword.1 hword.2 ih

/-- The words that are numerals can be read. -/
def Readable (words : List Word) : Prop :=
  ∀ w ∈ words, w.kind = .number → parseInteger (String.ofList w.chars) = .ok (numeralValue w.chars)

theorem Readable.behind_plus {w w' : Word} {words : List Word} (h : Readable (w :: w' :: words)) : Readable words :=
  fun v hv => h v (List.mem_cons_of_mem _ (List.mem_cons_of_mem _ hv))

theorem isType_str {t : Token} {name : String} (h : t.type = .str name) (other : String) :
    isType t other = (name == other) := by
  rw [isType, h, Value.same]

theorem numberOf_str {t : Token} {s : String} (h : t.value = .str s) : numberOf t = parseInteger s := by
  rw [numberOf, h]
  rfl

/-! ## Reading -/

section Reading

variable {fuel : Nat} {total n : Int} {c : Cursor} {t t' : Token} {ts : List Token}

/-- A token that is no number is rejected where a number has to be. -/
theorem readSum_other (hc : c.remaining = t :: ts) (ht : isType t "NUM" = false) :
    readSum (fuel + 1) total c = (reject t, c.skip 1) := by
  simp only [readSum, Cursor.next_remaining hc, ht, Bool.not_false, if_true]

/-- One round: a number, and the token behind it. -/
theorem readSum_number (hc : c.remaining = t :: t' :: ts) (ht : isType t "NUM" = true) (hn : numberOf t = .ok n) :
    readSum (fuel + 1) total c =
      if isType t' eofName then (.ok (total + n), c.skip 2)
      else if isType t' "PLUS" then readSum fuel (total + n) (c.skip 2)
      else (reject t', c.skip 2) := by
  have hc' : (c.skip 1).remaining = t' :: ts := by rw [Cursor.remaining_skip, hc, List.drop_succ_cons, List.drop_zero]
  simp only [readSum, Cursor.next_remaining hc, ht, hn, Cursor.next_remaining hc', Cursor.skip_skip, Bool.not_true,
    if_false, Bool.false_eq_true]

end Reading

variable {words : List Word} {fuel : Nat} {c : Cursor}

/-- The round of a number with a plus sign behind it. -/
theorem readSum_plus (fuel : Nat) (total : Int) {ds ps : List Char}
    (hspells : Spells (⟨.number, ds⟩ :: ⟨.operator, ps⟩ :: words) c.remaining)
    (hread : parseInteger (String.ofList ds) = .ok (numeralValue ds)) :
    Spells words (c.skip 2).remaining ∧
      readSum (fuel + 1) total c = readSum fuel (total + numeralValue ds) (c.skip 2) := by
  rw [Cursor.remaining_skip]
  generalize hc : c.remaining = ts at hspells
  cases hspells with
  | cons htype hvalue hspells =>
    cases hspells with
    | cons htype' _ hrest =>
      refine ⟨hrest, ?_⟩
      rw [readSum_number hc (isType_str htype _) ((numberOf_str hvalue).trans hread), isType_str htype',
        isType_str htype']
      rfl

/-- A sum is read to its end. -/
theorem readSum_ok {n : Int} (h : SumOf words n) : ∀ {fuel : Nat} {total : Int} {c : Cursor},
    words.length < fuel → Spells words c.remaining → Readable words →
      readSum fuel total c = (.ok (total + n), c.skip (words.length + 1)) := by
  induction h with
  | @number ds =>
    intro fuel total c hfuel hspells hreadable
    obtain ⟨fuel, rfl⟩ := Nat.exists_eq_succ_of_ne_zero (Nat.ne_zero_of_lt hfuel)
    generalize hc : c.remaining = ts at hspells
    cases hspells with
    | cons htype hvalue hrest =>
      cases hrest with
      | nil heof =>
        have hn := (numberOf_str hvalue).trans (hreadable ⟨.number, ds⟩ List.mem_cons_self rfl)
        rw [readSum_number hc (isType_str htype _) hn, isType_str heof]
        rfl
  | @plus ds ps words n _ ih =>
    intro fuel total c hfuel hspells hreadable
    obtain ⟨fuel, rfl⟩ := Nat.exists_eq_succ_of_ne_zero (Nat.ne_zero_of_lt hfuel)
    obtain ⟨hrest, hround⟩ := readSum_plus fuel total hspells (hreadable ⟨.number, ds⟩ List.mem_cons_self rfl)
    have hfuel' : words.length < fuel := by
      simp only [List.length_cons] at hfuel
      omega
    have hpulls : 2 + (words.length + 1) = words.length + 1 + 1 + 1 := by omega
    rw [hround, ih hfuel' hrest hreadable.behind_plus, Cursor.skip_skip, Int.add_assoc, hpulls, List.length_cons, List.length_cons]

/-- Where a number has to be, another token is rejected. -/
theorem readSum_first (fuel : Nat) (total : Int) (hspells : Spells words c.remaining)
    (hw : ∀ w ∈ words.head?, w.kind ≠ .number) : ∃ t, FailsFirstAt (typesOf words) 0 ∧ c.remaining[0]? = some t ∧
      readSum (fuel + 1) total c = (reject t, c.skip 1) := by
  generalize hc : c.remaining = ts at hspells
  cases hspells with
  | @nil t htype => exact ⟨t, .at_zero (by decide), rfl, readSum_other hc (isType_str htype _)⟩
  | @cons w _ t _ htype =>
    have hother : typeOf w.kind ≠ "NUM" := fun h => hw w rfl (typeOf_eq_number.1 h)
    exact ⟨t, .at_zero hother, rfl, readSum_other hc ((isType_str htype _).trans (beq_false_of_ne hother))⟩

/-- Behind a number, a token that is neither a plus sign nor the last one is rejected. -/
theorem readSum_second (fuel : Nat) (total : Int) {ds : List Char} {w : Word}
    (hspells : Spells (⟨.number, ds⟩ :: w :: words) c.remaining)
    (hread : parseInteger (String.ofList ds) = .ok (numeralValue ds)) (hw : w.kind ≠ .operator) :
    ∃ t, FailsFirstAt (typesOf (⟨.number, ds⟩ :: w :: words)) 1 ∧ c.remaining[1]? = some t ∧
      readSum (fuel + 1) total c = (reject t, c.skip 2) := by
  generalize hc : c.remaining = ts at hspells
  cases hspells with
  | cons htype hvalue hspells =>
    cases hspells with
    | @cons _ _ t _ htype' =>
      -- The word is a number, or has no type of its own.
      have hother : typeOf w.kind ≠ "PLUS" := fun h => hw (typeOf_eq_plus.1 h)
      refine ⟨t, .at_one hother (typeOf_ne_eof _), rfl, ?_⟩
      rw [readSum_number hc (isType_str htype _) ((numberOf_str hvalue).trans hread), isType_str htype',
        isType_str htype', beq_false_of_ne hother, beq_false_of_ne (typeOf_ne_eof _)]
      rfl

/-- What is no sum is rejected at the first token with which it cannot be one. -/
theorem readSum_rejects : ∀ {fuel : Nat} {words : List Word} {total : Int} {c : Cursor}, (∀ n, ¬ SumOf words n) →
    words.length < fuel → Spells words c.remaining → Readable words → ∃ k t, FailsFirstAt (typesOf words) k ∧
      c.remaining[k]? = some t ∧ readSum fuel total c = (reject t, c.skip (k + 1)) := by
  intro fuel
  induction fuel with
  | zero =>
    intro words total c _ hfuel
    exact absurd hfuel (Nat.not_lt_zero _)
  | succ fuel ih =>
    intro words total c hsum hfuel hspells hreadable
    -- The first word is no number, or it is one and the word behind it decides.
    cases words with
    | nil => exact ⟨0, readSum_first fuel total hspells nofun⟩
    | cons w words =>
      by_cases hnumber : w.kind = .number
      case neg =>
        refine ⟨0, readSum_first fuel total hspells fun w' hw' => ?_⟩
        rwa [← Option.some.inj hw']
      obtain ⟨kind, ds⟩ := w
      obtain rfl : kind = .number := hnumber
      have hread := hreadable ⟨.number, ds⟩ List.mem_cons_self rfl
      cases words with
      | nil => exact absurd .number (hsum _)
      | cons w' words =>
        by_cases hplus : w'.kind = .operator
        case neg => exact ⟨1, readSum_second fuel total hspells hread hplus⟩
        obtain ⟨kind', ps⟩ := w'
        obtain rfl : kind' = .operator := hplus
        obtain ⟨hrest, hround⟩ := readSum_plus fuel total hspells hread
        have hfuel' : words.length < fuel := by
          simp only [List.length_cons] at hfuel
          omega
        obtain ⟨k, t, hfails, ht, hreject⟩ := ih (fun n hn => hsum _ (.plus hn)) hfuel' hrest hreadable.behind_plus
        rw [Cursor.remaining_skip, List.getElem?_drop, Nat.add_comm] at ht
        rw [Cursor.skip_skip, Nat.add_comm 2, Nat.add_right_comm] at hreject
        exact ⟨k + 2, t, hfails.behind_plus, ht, hround.trans hreject⟩

/-! ## One cursor for all texts -/

/-- Reading changes nothing of a cursor but its position. -/
theorem readSum_moves : ∀ (fuel : Nat) (total : Int) (c : Cursor), ∃ k, (readSum fuel total c).2 = c.skip k := by
  intro fuel
  induction fuel with
  | zero => exact fun total c => ⟨0, rfl⟩
  | succ fuel ih =>
    intro total c
    -- A round pulls one token or two, and each branch returns the cursor of its last pull.
    obtain ⟨i, hi⟩ := c.next_moves
    obtain ⟨j, hj⟩ := (c.skip i).next_moves
    rw [readSum]
    generalize c.next = first at hi ⊢
    obtain ⟨t, c'⟩ := first
    obtain rfl : c' = c.skip i := hi
    cases t with
    | none => exact ⟨i, rfl⟩
    | some t =>
      dsimp only
      split
      · exact ⟨i, rfl⟩
      · split
        · exact ⟨i, rfl⟩
        · generalize (c.skip i).next = second at hj ⊢
          obtain ⟨t', c''⟩ := second
          obtain rfl : c'' = c.skip (i + j) := hj.trans (c.skip_skip i j)
          cases t' with
          | none => exact ⟨i + j, rfl⟩
          | some t' =>
            dsimp only
            split
            · exact ⟨i + j, rfl⟩
            · split
              · obtain ⟨k, hk⟩ := ih _ (c.skip (i + j))
                exact ⟨i + j + k, hk.trans (c.skip_skip _ k)⟩
              · exact ⟨i + j, rfl⟩

/-- The cursor after texts were read with it. -/
def afterSums (c : Cursor) (texts : List String) : Cursor := texts.foldl (fun c text => (parseSum c text).2) c

/-- A text is read from the start of its tokens, if it can be scanned. -/
theorem parseSum_eq {c : Cursor} {s : String} (hok : (c.reset (.str s) .null).2.result = .ok ()) :
    parseSum c s = readSum ((c.reset (.str s) .null).1.tokens.length + 1) 0 (c.reset (.str s) .null).1 := by
  simp only [parseSum, hok]

theorem parseSum_keeps (c : Cursor) (text : String) :
    (parseSum c text).2.lexer = c.lexer ∧ (parseSum c text).2.config = c.config := by
  have hkeeps := c.reset_keeps (.str text) .null
  rw [parseSum]
  cases hresult : (c.reset (.str text) .null).2.result with
  | error e => simpa only [hresult] using hkeeps
  | ok _ =>
    simp only [hresult]
    obtain ⟨k, hk⟩ := readSum_moves ((c.reset (.str text) .null).1.tokens.length + 1) 0 (c.reset (.str text) .null).1
    rw [hk]
    exact hkeeps

theorem afterSums_keeps (texts : List String) : ∀ c : Cursor,
    (afterSums c texts).lexer = c.lexer ∧ (afterSums c texts).config = c.config := by
  induction texts with
  | nil => exact fun c => ⟨rfl, rfl⟩
  | cons text texts ih =>
    intro c
    obtain ⟨hlexer, hconfig⟩ := ih (parseSum c text).2
    obtain ⟨hlexer', hconfig'⟩ := parseSum_keeps c text
    exact ⟨hlexer.trans hlexer', hconfig.trans hconfig'⟩

theorem parseSums_append (s : String) (earlier : List String) : ∀ c : Cursor,
    parseSums c (earlier ++ [s]) = parseSums c earlier ++ [(parseSum (afterSums c earlier) s).1] := by
  induction earlier with
  | nil => exact fun c => rfl
  | cons text earlier ih => exact fun c => congrArg _ (ih (parseSum c text).2)

theorem results_eq {start : Cursor} (h : newCursor = .ok start) (texts : List String) :
    results texts = parseSums start texts := by
  unfold results
  rw [h]

/-! ## The lexer -/

theorem takes_plus : (Single.code 43).takes { unicode := true } = isPlus := by
  funext c
  show (c.toNat == 43) = (c == '+')
  rw [Bool.eq_iff_iff, beq_iff_eq, beq_iff_eq]
  exact Char.toNat_inj (c := c) (d := '+')

/-- The lexer of sums is one of numbers, blanks and plus signs, and its rules leave texts as they are. -/
structure IsLexer (lx : Lexer) : Prop where
  calculator : ∃ number blank plus, IsCalculator lx isPlus number blank plus ∧ number.name = "NUM" ∧ plus.name = "PLUS"
  unhooked : ∀ r ∈ lx.rules, r.hook = none

theorem newCursor_eq : ∃ start, newCursor = .ok start ∧ IsLexer start.lexer ∧ start.config = .standard := by
  obtain ⟨lx, hlx, hcheck⟩ := Logged.exists_ok (Lexer.compile entries)
    (fun lx =>
      lx.given.map (fun r => (r.name, r.pattern.tree, r.pattern.flags)) == calculatorPatterns "PLUS" (.code 43) &&
      lx.given.map Rule.skips == [false, true, false] &&
      lx.given.all fun r => r.pattern.byNumber == false && r.hook.isNone)
    (by decide +kernel)
  simp only [Bool.and_eq_true, beq_iff_eq, List.all_eq_true] at hcheck
  obtain ⟨⟨hpatterns, hskips⟩, hgiven⟩ := hcheck
  have hapart : ∀ c, isPlus c = true → isDigitChar c = false ∧ isBlankChar c = false := by
    intro c hc
    obtain rfl : c = '+' := eq_of_beq hc
    decide +kernel
  refine ⟨.new lx .standard, ?_,
    ⟨exists_isCalculator hpatterns hskips (fun r hr => (hgiven r hr).1) takes_plus hapart, ?_⟩, rfl⟩
  · rw [newCursor, hlx]
    rfl
  · exact Lexer.forall_rules (fun r hr => Option.isNone_iff_eq_none.1 (hgiven r hr).2) rfl

namespace IsLexer

variable {lx : Lexer} (h : IsLexer lx)
include h

theorem valueOf_eq {r : Rule} {i : Nat} (hr : lx.rules[i]? = some r) (s : String) : r.valueOf s = .ok (.str s) := by
  rw [Rule.valueOf, h.unhooked r (List.mem_of_getElem? hr)]

theorem hookReturns (m : RuleMatch) : lx.HookReturns m :=
  Lexer.hookReturns_of_unhooked (fun r hr => h.unhooked r (List.mem_append_left _ hr)) m

/-- A token has the type for its word, and its characters as its value. -/
theorem token_eq {w : Word} {t : Token} (ht : w.Makes lx t) :
    t.type = .str (typeOf w.kind) ∧ t.value = .str (String.ofList w.chars) := by
  obtain ⟨number, blank, plus, hcalculator, hnumber, hplus⟩ := h.calculator
  obtain ⟨htype, hvalue⟩ := hcalculator.makes_iff.1 ht
  rw [h.valueOf_eq (hcalculator.getElem?_rules w.kind)] at hvalue
  refine ⟨htype.trans (congrArg _ ?_), (Except.ok.inj hvalue).symm⟩
  cases w.kind with
  | number => exact hnumber
  | operator => exact hplus
  | error => rfl

end IsLexer

/-! ## Texts -/

/-- No run of digits in the text is too long to be read. -/
def ShortNumerals (s : String) : Prop :=
  ∀ ds, ds <:+: s.toList → (∀ d ∈ ds, isDigitChar d = true) → ds.length ≤ maxDigits

theorem ShortNumerals.readable {s : String} (h : ShortNumerals s) {words : List Word}
    (hwords : Lexes isPlus s.toList words) : Readable words := by
  intro w hw hnumber
  obtain ⟨hpart, rest, hleads⟩ := hwords.infix_of_mem w hw
  cases hleads with
  | @number ds hfront =>
    rw [parseInteger, readInteger_digits hfront.ne_nil hfront.inside (h ds hpart hfront.inside)]
  | operator _ | error _ _ _ _ => cases hnumber

/-- A complaint can quote such a value and such a line. -/
def Quotable (s : String) (value line : Value) : Prop :=
  ∃ (v : String) (n : Nat), value = .str v ∧ line = .int n ∧ n ≤ s.length + 1

/-- The tokens of a text are those of its words, and complaints can quote them. -/
theorem IsLexer.reset_spells {c : Cursor} (h : IsLexer c.lexer) (hconfig : c.config = .standard) (s : String) :
    (c.reset (.str s) .null).2.result = .ok () ∧ (c.reset (.str s) .null).1.position = 0 ∧
      (∀ words, Lexes isPlus s.toList words → Spells words (c.reset (.str s) .null).1.remaining) ∧
      ∀ t ∈ (c.reset (.str s) .null).1.remaining, Quotable s t.value t.line := by
  have hplain : c.config.transforms = some [] := by rw [hconfig]; rfl
  have hline : c.config.lineFrom .null = .int 1 := by rw [hconfig]; rfl
  obtain ⟨tokens, hok, hreset, hmade⟩ := Cursor.reset_made hplain hline fun m _ => h.hookReturns m
  obtain ⟨number, blank, plus, hcalculator, -⟩ := h.calculator
  have hwords : ∀ words, Lexes isPlus s.toList words →
      Forall₂ (fun w t => t.type = .str (typeOf w.kind) ∧ t.value = .str (String.ofList w.chars)) words tokens := by
    intro words hlexes
    exact (Lexer.words_made hmade (hcalculator.lexemes_eq hlexes)).imp fun w t ht => h.token_eq ht
  have hquotable : ∀ t ∈ tokens, Quotable s t.value t.line := by
    intro t ht
    obtain ⟨words, hlexes⟩ := Lexes.exists_words isPlus s.toList
    obtain ⟨i, hi⟩ := List.getElem?_of_mem ht
    obtain ⟨w, -, -, hvalue⟩ := exists_related (hwords words hlexes).flip hi
    obtain ⟨n, hn, hle⟩ := Lexer.lines_made hmade t ht
    exact ⟨_, 1 + n, hvalue, by rw [hn]; push_cast; rfl, by omega⟩
  refine ⟨hok, by rw [hreset], fun words hlexes => ?_, ?_⟩
  · rw [hreset]
    exact spells_of_made (hwords words hlexes) (Cursor.eofToken_type _)
  · rw [hreset]
    exact Cursor.forall_mem_eofToken hquotable ⟨"", 1, rfl, rfl, by omega⟩

/-- The wording of a complaint. -/
theorem reject_eq {t : Token} {value : String} {line : Nat} (hvalue : t.value = .str value) (hline : t.line = .int line)
    (hwritable : line < 10 ^ maxDigits) :
    reject t =
      (.error (.ungrammatical ("Error near \"" ++ value ++ "\" in line " ++ toString line)) : Except Fault Int) := by
  have hwritten : (Value.int line).text = .ok (toString line) := by
    rw [Value.text, Value.shown, writeInteger?_natCast hwritable]
    intro v hv
    cases hv
  have hcomplaint : Cursor.complaint t.toValue =
      .ok ("Error near \"" ++ value ++ "\" in line " ++ toString line) := by
    show (do
      let v ← t.value.text
      let l ← t.line.text
      .ok ("Error near \"" ++ v ++ "\" in line " ++ l)) = _
    rw [hvalue, hline, hwritten]
    rfl
  rw [reject, hcomplaint]
  rfl

theorem reject_ne_ok (t : Token) (n : Int) : reject t ≠ .ok n := by
  rw [reject]
  cases Cursor.complaint t.toValue with
  | ok wording => exact nofun
  | error e => exact nofun

namespace IsLexer

variable {start : Cursor} {s : String} (h : IsLexer start.lexer) (hconfig : start.config = .standard)
variable (hshort : ShortNumerals s)
include h hconfig hshort

/-- A sum is read to the end of its tokens. -/
theorem parseSum_ok {n : Int} (hn : IsSum s.toList n) :
    parseSum start s =
      (.ok n, (start.reset (.str s) .null).1.skip (start.reset (.str s) .null).1.remaining.length) := by
  obtain ⟨hok, -, hspells, -⟩ := h.reset_spells hconfig s
  obtain ⟨words, hlexes, hsum⟩ := isSum_iff.1 hn
  have hwords := hspells words hlexes
  rw [parseSum_eq hok, readSum_ok hsum hwords.length_lt hwords (hshort.readable hlexes), Int.zero_add,
    hwords.length_eq]

/-- What is no sum is rejected at the first token with which it cannot be one. -/
theorem parseSum_rejects {words : List Word} (hlexes : Lexes isPlus s.toList words) (hnone : ∀ n, ¬ IsSum s.toList n) :
    ∃ k t, FailsFirstAt (typesOf words) k ∧ (start.reset (.str s) .null).1.remaining[k]? = some t ∧
      parseSum start s = (reject t, (start.reset (.str s) .null).1.skip (k + 1)) := by
  obtain ⟨hok, -, hspells, -⟩ := h.reset_spells hconfig s
  have hwords := hspells words hlexes
  rw [parseSum_eq hok]
  exact readSum_rejects (fun n hn => hnone n (isSum_iff.2 ⟨words, hlexes, hn⟩)) hwords.length_lt hwords
    (hshort.readable hlexes)

/-- What is read is a sum. -/
theorem isSum_of_parseSum {n : Int} (hn : (parseSum start s).1 = .ok n) : IsSum s.toList n := by
  by_contra hno
  have hnone : ∀ n', ¬ IsSum s.toList n' := by
    intro n' hn'
    rw [h.parseSum_ok hconfig hshort hn'] at hn
    cases hn
    exact hno hn'
  obtain ⟨words, hlexes⟩ := Lexes.exists_words isPlus s.toList
  obtain ⟨k, t, -, -, hreject⟩ := h.parseSum_rejects hconfig hshort hlexes hnone
  rw [hreject] at hn
  exact reject_ne_ok t n hn

end IsLexer

/-- It does not matter which texts were read before. -/
theorem parseSum_afterSums {start : Cursor} {s : String} (hok : (start.reset (.str s) .null).2.result = .ok ())
    (earlier : List String) : parseSum (afterSums start earlier) s = parseSum start s := by
  obtain ⟨hlexer, hconfig⟩ := afterSums_keeps earlier start
  have hreset := Cursor.reset_congr hlexer hconfig hok
  rw [parseSum_eq hok, parseSum_eq (hreset ▸ hok), hreset]

/-- The parser of sums reads a text as if it were the first one. It accepts just the sums, and the result is their
value; then all tokens have been pulled, the `EOF` token being the last. What is no sum is rejected with a complaint
about the first token with which it cannot be one, be it the `EOF` token, and no token behind that is pulled. The
complaint quotes the token's value and its line, a number that is written if it has no more digits than numerals may
have. -/
theorem parseSum_accepts (earlier : List String) (s : String) (hshort : ShortNumerals s) :
    ∃ (start c : Cursor) (stream : List Token) (types : List String),
      newCursor = .ok start ∧ parseSum (afterSums start earlier) s = parseSum start s ∧
      results (earlier ++ [s]) = results earlier ++ [(parseSum start s).1] ∧
      c = (start.reset (.str s) .null).1 ∧ c.position = 0 ∧ stream = c.tokens ++ [c.eofToken] ∧
      stream.map Token.type = types.map Value.str ∧
      (∀ n, (parseSum start s).1 = .ok n ↔ IsSum s.toList n) ∧
      (∀ n, IsSum s.toList n → parseSum start s = (.ok n, c.skip stream.length)) ∧
      ((∀ n, ¬ IsSum s.toList n) → ∃ k t, FailsFirstAt types k ∧ stream[k]? = some t ∧
        parseSum start s = (reject t, c.skip (k + 1)) ∧ ∃ (value : String) (line : Nat),
          t.value = .str value ∧ t.line = .int line ∧ line ≤ s.length + 1 ∧ (line < 10 ^ maxDigits →
            (parseSum start s).1 =
              .error (.ungrammatical ("Error near \"" ++ value ++ "\" in line " ++ toString line)))) := by
  obtain ⟨start, hstart, hlexer, hconfig⟩ := newCursor_eq
  let c : Cursor := (start.reset (.str s) .null).1
  obtain ⟨hok, hposition, hspells, hquotable⟩ := hlexer.reset_spells hconfig s
  obtain ⟨words, hlexes⟩ := Lexes.exists_words isPlus s.toList
  have hstream : c.remaining = c.tokens ++ [c.eofToken] := by
    rw [Cursor.remaining, hposition, List.drop_zero]
  have hsame := parseSum_afterSums hok earlier
  have haccepts : ∀ n, IsSum s.toList n → parseSum start s = (.ok n, c.skip c.remaining.length) :=
    fun n hn => hlexer.parseSum_ok hconfig hshort hn
  refine ⟨start, c, c.remaining, typesOf words, hstart, hsame, ?_, rfl, hposition, hstream, (hspells words hlexes).types,
    fun n => ⟨fun hn => hlexer.isSum_of_parseSum hconfig hshort hn, fun hn => ?_⟩, haccepts, fun hnone => ?_⟩
  · rw [results_eq hstart, results_eq hstart, parseSums_append, hsame]
  · rw [haccepts n hn]
  · obtain ⟨k, t, hfails, ht, hreject⟩ := hlexer.parseSum_rejects hconfig hshort hlexes hnone
    obtain ⟨value, line, hvalue, hline, hle⟩ := hquotable t (List.mem_of_getElem? ht)
    refine ⟨k, t, hfails, ht, hreject, value, line, hvalue, hline, hle, fun hwritable => ?_⟩
    rw [hreject, reject_eq hvalue hline hwritable]

/-- After a text that is no sum was read, a sum over two lines is read. -/
theorem parseSum_accepts_lines :
    ShortNumerals "1 + 2 +\n 39" ∧ results ["1 + ?", "1 + 2 +\n 39"] = results ["1 + ?"] ++ [.ok 42] := by
  have hshort : ShortNumerals "1 + 2 +\n 39" := by
    intro ds hds _
    have hlength := hds.length_le
    have hlimit : "1 + 2 +\n 39".toList.length ≤ maxDigits := by decide
    omega
  obtain ⟨_, _, _, _, -, -, hresults, -, -, -, -, -, haccepts, -⟩ := parseSum_accepts ["1 + ?"] "1 + 2 +\n 39" hshort
  have hterm : ∀ front ds back, front.all isBlankChar = true → ds.isEmpty = false → ds.all isDigitChar = true →
      back.all isBlankChar = true → IsTerm (front ++ (ds ++ back)) ds := by
    intro front ds back hfront hne hdigits hback
    exact ⟨front, back, rfl, List.all_eq_true.1 hfront, List.isEmpty_eq_false_iff.1 hne, List.all_eq_true.1 hdigits,
      List.all_eq_true.1 hback⟩
  have hsum : IsSum "1 + 2 +\n 39".toList 42 := by
    refine .plus (hterm [] ['1'] [' '] ?_ ?_ ?_ ?_) (.plus (hterm [' '] ['2'] [' '] ?_ ?_ ?_ ?_)
      (.number (hterm ['\n', ' '] ['3', '9'] [] ?_ ?_ ?_ ?_)))
    all_goals decide +kernel
  rw [haccepts 42 hsum] at hresults
  exact ⟨hshort, hresults⟩

end PatternLexer.Examples.Sum
