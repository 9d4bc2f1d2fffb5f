import PatternLexer.Examples.Arithmetic
import PatternLexer.Proofs.Words

/-!
# Normal forms of arithmetic texts

The values of the tokens of an arithmetic text, joined by line feeds, are a text with the same tokens.

* `normalWord` is the word that the value of a token is: a number is written in its shortest form, other words stay as
  they are. It is a word of the same kind, and its own normal form.
* `normalForm_digits`: the hook of numbers fails just if there are too many digits, so a word makes a token if it is
  readable (`IsLexer.makes_iff`), and a text has tokens if its words are (`IsLexer.exists_tokens`).
* `Lexes.joined` cuts the joined values into words: no value has a line feed in it, and none runs into the next one.
* `tokensOf_joined` puts them together.
-/

namespace PatternLexer.Examples.Arithmetic

open List (Forall₂)
open Text

/-! ## Words in normal form -/

/-- The character is an operator. -/
def isOperator (c : Char) : Bool := ['-', '+', '*', '/'].contains c

theorem isOperator_apart (c : Char) (h : isOperator c = true) : isDigitChar c = false ∧ isBlankChar c = false := by
  have hall : (['-', '+', '*', '/'].all fun c => !isDigitChar c && !isBlankChar c) = true := by decide +kernel
  simpa using List.all_eq_true.1 hall c (List.contains_iff_mem.1 h)

/-- The type of the token of a word. -/
def typeOf : Kind → String
  | .number => "NUM"
  | .operator => "OP"
  | .error => errorName

theorem typeOf_eq_number {kind : Kind} (h : typeOf kind = "NUM") : kind = .number := by
  revert h
  cases kind <;> decide

/-- The word with its number in the digits `0` to `9`, without zeros in front. -/
def normalWord : Word → Word
  | ⟨.number, ds⟩ => ⟨.number, Nat.toDigits 10 (numeralValue ds)⟩
  | w => w

/-- What the token of the word has for its value. -/
def normalValue (w : Word) : String := String.ofList (normalWord w).chars

/-- The word is no number, or one that is not too long to be read. -/
def IsReadable (w : Word) : Prop := w.kind = .number → w.chars.length ≤ maxDigits

theorem normalWord_kind (w : Word) : (normalWord w).kind = w.kind := by
  obtain ⟨kind, chars⟩ := w
  cases kind <;> rfl

theorem normalWord_normalWord (w : Word) : normalWord (normalWord w) = normalWord w := by
  obtain ⟨kind, chars⟩ := w
  cases kind with
  | number => rw [normalWord, normalWord, numeralValue_toDigits]
  | operator | error => rfl

/-- A word in normal form leads a text as well, if nothing is behind it. -/
theorem normalWord_leads {w : Word} {rest : List Char} (h : w.Leads isOperator rest) :
    (normalWord w).Leads isOperator [] := by
  have hlast : w.Leads isOperator [] := h.change nofun
  cases h with
  | @number ds _ =>
    refine .number ⟨Nat.toDigits_ne_nil, fun d hd => ?_, nofun⟩
    exact (isDigit_ascii (Nat.isDigit_of_mem_toDigits (by decide) (by decide) hd)).1
  | operator _ | error _ _ _ _ => exact hlast

/-- The normal form of a number that can be read is not longer than it may be either. -/
theorem IsReadable.normalWord {w : Word} (h : IsReadable w) : IsReadable (normalWord w) := by
  obtain ⟨kind, chars⟩ := w
  cases kind with
  | number =>
    intro _
    exact (Nat.length_toDigits_le_iff (by decide) (by decide)).2 (numeralValue_lt_limit (h rfl))
  | operator | error => exact h

/-! ## The lexer -/

/-- The hook of numbers fails if there are too many digits, and else writes their number. -/
theorem normalForm_digits {ds : List Char} (hne : ds ≠ []) (hdigits : ∀ d ∈ ds, isDigitChar d = true) :
    normalForm (String.ofList ds) =
      if maxDigits < ds.length then .error (.numeralTooLong ds.length)
      else .ok (.str (toString (numeralValue ds))) := by
  rw [normalForm, parseInteger, readInteger_eq hne hdigits]
  by_cases hlong : maxDigits < ds.length
  · rw [if_pos hlong, if_pos hlong]
    rfl
  · rw [if_neg hlong, if_neg hlong]
    show (do .ok (Value.str (← printInteger (numeralValue ds)))) = _
    rw [printInteger, writeInteger?_natCast (numeralValue_lt_limit (Nat.not_lt.1 hlong))]
    rfl

theorem takes_operator :
    (Single.oneOf false [.code 45, .code 43, .code 42, .code 47]).takes { unicode := true } = isOperator := by
  funext c
  rw [Bool.eq_iff_iff]
  simp [Single.takes, Single.accepts, ClassItem.holds, isOperator, ← Char.toNat_inj]

/-- The lexer of arithmetic texts is one of numbers, blanks and operators, with the hook for numbers and no other. -/
structure IsLexer (lx : Lexer) : Prop where
  compiled : (Lexer.compile entries).result = .ok lx
  calculator : ∃ number blank operator, IsCalculator lx isOperator number blank operator ∧
    number.name = "NUM" ∧ operator.name = "OP" ∧ number.hook = some normalForm ∧ operator.hook = none

theorem exists_isLexer : ∃ lx, IsLexer lx := by
  obtain ⟨lx, hlx, hcheck⟩ := Logged.exists_ok (Lexer.compile entries)
    (fun lx => lx.given.map (fun r => (r.name, r.pattern.tree, r.pattern.flags)) ==
        calculatorPatterns "OP" (.oneOf false [.code 45, .code 43, .code 42, .code 47]) &&
      lx.given.map Rule.skips == [false, true, false] && lx.given.all fun r => r.pattern.byNumber == false)
    (by decide +kernel)
  simp only [Bool.and_eq_true, beq_iff_eq, List.all_eq_true] at hcheck
  obtain ⟨⟨hpatterns, hskips⟩, hgiven⟩ := hcheck
  obtain ⟨number, blank, operator, hcalculator, hnumber, hoperator⟩ :=
    exists_isCalculator hpatterns hskips hgiven takes_operator isOperator_apart
  -- Hooks are functions, which the check above cannot compare.
  have hrules := Lexer.checkFrom_rules (Lexer.compile_ok hlx).1
  rw [hcalculator.given] at hrules
  simp only [entries, List.map_cons, List.map_nil, List.cons.injEq, and_true] at hrules
  obtain ⟨hnumberRule, -, hoperatorRule⟩ := hrules
  exact ⟨lx, hlx, number, blank, operator, hcalculator, hnumber, hoperator, Entry.rule?_hook hnumberRule,
    Entry.rule?_hook hoperatorRule⟩

theorem tokensOf_eq {lx : Lexer} (h : IsLexer lx) (s : String) :
    tokensOf s = (lx.tokenize (.str s) (.int 1)).result := by
  rw [tokensOf, h.compiled]
  rfl

namespace IsLexer

variable {lx : Lexer} (h : IsLexer lx)
include h

/-- A word makes a token if it can be read, of the type for its kind and with its normal form as the value. -/
theorem makes_iff {w : Word} {rest : List Char} {t : Token} (hw : w.Leads isOperator rest) :
    w.Makes lx t ↔ IsReadable w ∧ t.type = .str (typeOf w.kind) ∧ t.value = .str (normalValue w) := by
  obtain ⟨number, blank, operator, hcalculator, hnumber, hoperator, hhook, hnone⟩ := h.calculator
  have hname : (w.kind.rule number operator).name = typeOf w.kind := by
    cases w.kind with
    | number => exact hnumber
    | operator => exact hoperator
    | error => rfl
  have hvalue : (w.kind.rule number operator).valueOf (String.ofList w.chars) = .ok t.value ↔
      IsReadable w ∧ t.value = .str (normalValue w) := by
    cases hw with
    | @number ds hfront =>
      simp only [Kind.rule, Rule.valueOf, hhook, normalForm_digits hfront.ne_nil hfront.inside]
      -- A numeral that is too long is no number to the hook.
      by_cases hlong : maxDigits < ds.length
      · rw [if_pos hlong]
        exact iff_of_false (by simp) fun hreadable => Nat.not_le.2 hlong (hreadable.1 rfl)
      · rw [if_neg hlong, Nat.toString_eq_ofList_toDigits, Except.ok.injEq, eq_comm]
        exact (and_iff_right fun _ => Nat.not_lt.1 hlong).symm
    | operator _ =>
      simp only [Kind.rule, Rule.valueOf, hnone, Except.ok.injEq, eq_comm]
      exact (and_iff_right fun hkind => by cases hkind).symm
    | error _ _ _ _ =>
      simp only [Kind.rule, Rule.valueOf, Rule.fallback, Except.ok.injEq, eq_comm]
      exact (and_iff_right fun hkind => by cases hkind).symm
  rw [hcalculator.makes_iff, hname, hvalue]
  exact and_left_comm

/-- The tokens of a text are those of its words, which can all be read. -/
theorem tokens_made {s : String} {words : List Word} {tokens : List Token} (hlexes : Lexes isOperator s.toList words)
    (htokens : tokensOf s = .ok tokens) :
    (∀ w ∈ words, IsReadable w) ∧ tokens.map Token.type = words.map (fun w => .str (typeOf w.kind)) ∧
      tokens.map Token.value = words.map fun w => .str (normalValue w) := by
  obtain ⟨number, blank, operator, hcalculator, -⟩ := h.calculator
  rw [tokensOf_eq h] at htokens
  have hmade := Lexer.words_made (Lexer.tokenize_made htokens) (hcalculator.lexemes_eq hlexes)
  have hleads : ∀ w ∈ words, ∃ rest, w.Leads isOperator rest := fun w hw => (hlexes.infix_of_mem w hw).2
  have hwords : Forall₂ (fun w t => IsReadable w ∧ t.type = .str (typeOf w.kind) ∧ t.value = .str (normalValue w))
      words tokens := by
    refine ((List.forall₂_and_left _ _).2 ⟨hleads, hmade⟩).imp fun w t ht => ?_
    obtain ⟨⟨rest, hw⟩, ht⟩ := ht
    exact (h.makes_iff hw).1 ht
  obtain ⟨hreadable, hsame⟩ := (List.forall₂_and_left _ _).1 hwords
  exact ⟨hreadable, (map_eq_of_related hsame fun _ _ ht => ht.1.symm).symm,
    (map_eq_of_related hsame fun _ _ ht => ht.2.symm).symm⟩

/-- A text whose words can all be read has tokens. -/
theorem exists_tokens {s : String} {words : List Word} (hlexes : Lexes isOperator s.toList words)
    (hreadable : ∀ w ∈ words, IsReadable w) : ∃ tokens, tokensOf s = .ok tokens := by
  obtain ⟨number, blank, operator, hcalculator, -⟩ := h.calculator
  have hmakes : ∀ w ∈ words, ∃ t, w.Makes lx t := by
    intro w hw
    obtain ⟨-, rest, hleads⟩ := hlexes.infix_of_mem w hw
    exact ⟨⟨.str (typeOf w.kind), .str (normalValue w), .null, .null, .null⟩,
      (h.makes_iff hleads).2 ⟨hreadable w hw, rfl, rfl⟩⟩
  have hfault := Lexer.scan_fault (Lexer.hookReturns_of_words (hcalculator.lexemes_eq hlexes) hmakes) 1
  exact ⟨_, (tokensOf_eq h s).trans (Lexer.tokenize_ok.2 ⟨hfault, rfl⟩)⟩

end IsLexer

/-- A text has tokens just if none of its numbers is too long. Digits in errors do not count. -/
theorem tokensOf_returns (s : String) : (∃ tokens, tokensOf s = .ok tokens) ↔
    ∃ words, Lexes isOperator s.toList words ∧ ∀ w ∈ words, IsReadable w := by
  obtain ⟨lx, hlx⟩ := exists_isLexer
  constructor
  · rintro ⟨tokens, htokens⟩
    obtain ⟨words, hlexes⟩ := Lexes.exists_words isOperator s.toList
    exact ⟨words, hlexes, (hlx.tokens_made hlexes htokens).1⟩
  · rintro ⟨words, hlexes, hreadable⟩
    exact hlx.exists_tokens hlexes hreadable

/-! ## Joined values -/

/-- The values of words, joined by line feeds, are cut into the words in normal form. -/
theorem lexes_normalValues {cs : List Char} {words : List Word} (h : Lexes isOperator cs words) :
    Lexes isOperator ("\n".intercalate (words.map normalValue)).toList (words.map normalWord) := by
  have hleads : ∀ w ∈ words.map normalWord, ∃ rest, w.Leads isOperator rest := by
    refine List.forall_mem_map.2 fun w hw => ?_
    obtain ⟨-, rest, hw⟩ := h.infix_of_mem w hw
    exact ⟨[], normalWord_leads hw⟩
  have hchars : (words.map normalValue).map String.toList = (words.map normalWord).map Word.chars := by
    rw [List.map_map, List.map_map]
    exact List.map_congr_left fun w _ => String.toList_ofList
  rw [String.toList_intercalate, hchars]
  exact Lexes.joined isOperator_apart hleads

/-- A number token is made of digits, and its value writes the number that they stand for. -/
theorem IsLexer.value_number {lx : Lexer} (h : IsLexer lx) {s : String} {k : Nat} {m : RuleMatch} {t : Token}
    (ht : lx.Makes 1 (lx.matchesOf s.toList.toArray) k m t) (htype : t.type = .str "NUM") :
    ∃ (v : String) (ds : List Char), m.text = String.ofList ds ∧ ds ≠ [] ∧ (∀ d ∈ ds, isDigitChar d = true) ∧
      t.value = .str v ∧ IsDecimal v (numeralValue ds) := by
  obtain ⟨number, blank, operator, hcalculator, -⟩ := h.calculator
  obtain ⟨words, hlexes⟩ := Lexes.exists_words isOperator s.toList
  obtain ⟨w, hw, htext, hmakes⟩ := ht.exists_word (hcalculator.lexemes_eq hlexes)
  obtain ⟨-, rest, hleads⟩ := hlexes.infix_of_mem w hw
  obtain ⟨-, htype', hvalue⟩ := (h.makes_iff hleads).1 hmakes
  have hkind : w.kind = .number := typeOf_eq_number (Value.str.inj (htype'.symm.trans htype))
  cases hleads with
  | @number ds hfront =>
    refine ⟨toString (numeralValue ds), ds, htext.symm, hfront.ne_nil, hfront.inside, ?_, isDecimal_toString _⟩
    rw [hvalue, Nat.toString_eq_ofList_toDigits]
    rfl
  | operator _ | error _ _ _ _ => cases hkind

/-- The values of the tokens of a text, joined by line feeds, have tokens of the same types and values in the same
order, errors included. The tokens of a text are those of its matches that make one, and the value of a number token
is a decimal numeral, in the digits `0` to `9` and without zeros in front, for the number that the digits in its match
stand for, of whatever scripts they are. -/
theorem tokensOf_joined (s : String) (tokens : List Token) (h : tokensOf s = .ok tokens) :
    ∃ (values : List String) (tokens' : List Token) (lx : Lexer) (ms : List RuleMatch),
      tokens.map Token.value = values.map Value.str ∧
      tokensOf ("\n".intercalate values) = .ok tokens' ∧
      tokens'.map Token.type = tokens.map Token.type ∧ tokens'.map Token.value = tokens.map Token.value ∧
      (Lexer.compile entries).result = .ok lx ∧ ms = lx.matchesOf s.toList.toArray ∧
      Forall₂ (fun x t => lx.Makes 1 ms x.2 x.1 t ∧ (t.type = .str "NUM" → ∃ (v : String) (ds : List Char),
        x.1.text = String.ofList ds ∧ ds ≠ [] ∧ (∀ d ∈ ds, isDigitChar d = true) ∧ t.value = .str v ∧
        IsDecimal v (numeralValue ds))) (lx.emittedFrom 0 ms) tokens := by
  obtain ⟨lx, hlx⟩ := exists_isLexer
  obtain ⟨words, hlexes⟩ := Lexes.exists_words isOperator s.toList
  obtain ⟨hreadable, htypes, hvalues⟩ := hlx.tokens_made hlexes h
  have hnormal := lexes_normalValues hlexes
  have hreadable' : ∀ w ∈ words.map normalWord, IsReadable w :=
    List.forall_mem_map.2 fun w hw => (hreadable w hw).normalWord
  obtain ⟨tokens', h'⟩ := hlx.exists_tokens hnormal hreadable'
  obtain ⟨-, htypes', hvalues'⟩ := hlx.tokens_made hnormal h'
  refine ⟨words.map normalValue, tokens', lx, _, ?_, h', ?_, ?_, hlx.compiled, rfl, ?_⟩
  · rw [hvalues, List.map_map]
    rfl
  · rw [htypes', htypes, List.map_map]
    exact List.map_congr_left fun w _ => by rw [Function.comp_apply, normalWord_kind]
  · rw [hvalues', hvalues, List.map_map]
    exact List.map_congr_left fun w _ => by rw [Function.comp_apply, normalValue, normalWord_normalWord]; rfl
  · rw [tokensOf_eq hlx] at h
    exact (Lexer.tokenize_made h).imp fun x t ht => ⟨ht, hlx.value_number ht⟩

/-- Zeros in front and digits of other scripts are gone from the values. The error stays as it is, up to the end of its
line. -/
theorem tokensOf_joined_error : ∃ tokens tokens',
    tokensOf "007 +\u0663 ?x 012\n1" = .ok tokens ∧
    tokens.map Token.value = [.str "7", .str "+", .str "3", .str "?x 012", .str "1"] ∧
    tokensOf "7\n+\n3\n?x 012\n1" = .ok tokens' ∧
    tokens'.map Token.type = tokens.map Token.type ∧ tokens'.map Token.value = tokens.map Token.value := by
  let words : List Word :=
    [⟨.number, ['0', '0', '7']⟩, ⟨.operator, ['+']⟩, ⟨.number, ['\u0663']⟩, ⟨.error, ['?', 'x', ' ', '0', '1', '2']⟩,
      ⟨.number, ['1']⟩]
  have hchars : "007 +\u0663 ?x 012\n1".toList = ['0', '0', '7'] ++ ([' '] ++ (['+'] ++ (['\u0663'] ++
      ([' '] ++ (['?', 'x', ' ', '0', '1', '2'] ++ (['\n'] ++ (['1'] ++ []))))))) := by decide +kernel
  have hlexes : Lexes isOperator "007 +\u0663 ?x 012\n1".toList words := by
    rw [hchars]
    refine .word (.number ?_) (.blanks ?_ (.word (.operator ?_) (.word (.number ?_) (.blanks ?_
      (.word (.error ?_ ?_ ?_ ?_) (.blanks ?_ (.word (.number ?_) .nil)))))))
    all_goals decide +kernel
  have hreadable : ∀ w ∈ words, w.kind = .number → w.chars.length ≤ maxDigits := by decide
  have hnormal : words.map normalValue = ["7", "+", "3", "?x 012", "1"] := by decide +kernel
  obtain ⟨tokens, htokens⟩ := (tokensOf_returns _).2 ⟨words, hlexes, hreadable⟩
  obtain ⟨lx, hlx⟩ := exists_isLexer
  obtain ⟨-, -, hwords⟩ := hlx.tokens_made hlexes htokens
  obtain ⟨values, tokens', -, -, hvalues, htokens', htypes, hsame, -⟩ := tokensOf_joined _ tokens htokens
  obtain rfl : values = ["7", "+", "3", "?x 012", "1"] := by
    have hstr : values.map Value.str = (words.map normalValue).map Value.str := by
      rw [← hvalues, hwords, List.map_map]
      rfl
    rw [← hnormal]
    exact List.map_injective_iff.2 (fun _ _ => Value.str.inj) hstr
  exact ⟨tokens, tokens', htokens, hvalues, htokens', htypes, hsame⟩

end PatternLexer.Examples.Arithmetic
