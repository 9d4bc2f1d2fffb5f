import PatternLexer.Proofs.Numeral
import PatternLexer.Proofs.Options
import PatternLexer.Proofs.Rewinding

/-!
# Numbers, blanks and operators

A lexer with rules for numbers, for blanks, which it skips, and for operators of one character cuts every text into
words, up to its last character: each character is a digit, a blank, an operator or the start of an error, and as
every character that ends a line is a blank, a scan does not stop at one.

* `IsFront` is the longest stretch of characters of a class at the front of a text.
* `Lexes` cuts a text into its words, and `Lexes.exists_words` says that every text can be cut. `Lexes.joined`: words
  with line feeds between them are cut into these words again.
* `Lexer.lexemes_cons`: behind its first match a text is scanned as if it began there.
* `IsCalculator.lexemes_eq`: the matches that make tokens are the words of the text.
* `Lexer.words_made`: so the tokens are made of the words, and `Lexer.hookReturns_of_words` says that no hook raises if
  each word can be made into a token.
-/

namespace PatternLexer

open List (Forall₂)
open Text

/-! ## Longest stretches -/

/-- The text `front ++ rest` has as many characters of a class at its front as there are in `front`. -/
structure IsFront (isIn : Char → Bool) (front rest : List Char) : Prop where
  ne_nil : front ≠ []
  inside : ∀ c ∈ front, isIn c = true
  stops : ∀ c ∈ rest.head?, isIn c = false

namespace IsFront

variable {isIn : Char → Bool} {front rest : List Char}

instance : Decidable (IsFront isIn front rest) :=
  decidable_of_iff (front ≠ [] ∧ front.all isIn = true ∧ rest.head?.all (fun c => !isIn c) = true) <| by
    simp only [List.all_eq_true, Option.all_eq_true, Bool.not_eq_true']
    exact ⟨fun ⟨hne, hinside, hstops⟩ => ⟨hne, hinside, hstops⟩, fun h => ⟨h.ne_nil, h.inside, h.stops⟩⟩

theorem takeWhile_eq (h : IsFront isIn front rest) : (front ++ rest).takeWhile isIn = front := by
  rw [List.takeWhile_append_of_pos h.inside]
  cases rest with
  | nil => rw [List.takeWhile_nil, List.append_nil]
  | cons c rest => rw [List.takeWhile_cons_of_neg (by simp [h.stops c rfl]), List.append_nil]

/-- A text that begins with a character of the class has such a front. -/
theorem exists_of_head {c : Char} (hc : isIn c = true) (cs : List Char) :
    ∃ front rest, c :: cs = c :: front ++ rest ∧ IsFront isIn (c :: front) rest := by
  refine ⟨cs.takeWhile isIn, cs.dropWhile isIn, ?_, List.cons_ne_nil _ _, ?_, ?_⟩
  · rw [List.cons_append, List.takeWhile_append_dropWhile]
  · exact List.forall_mem_cons.2 ⟨hc, fun d hd => List.mem_takeWhile_imp hd⟩
  · intro d hd
    have hnot := List.head?_dropWhile_not isIn cs
    rwa [Option.mem_def.1 hd] at hnot

end IsFront

/-! ## Words -/

/-- The character is a digit of some script. -/
def isDigitChar (c : Char) : Bool := isDigit c.toNat

/-- The character is a blank. -/
def isBlankChar (c : Char) : Bool := isBlank c.toNat

/-- The character does not end a line. -/
def isLineChar (c : Char) : Bool := !lineEnds.contains c.toNat

theorem isBlankChar_of_isDigitChar {c : Char} (h : isDigitChar c = true) : isBlankChar c = false :=
  isBlank_of_isDigit h

theorem isDigitChar_of_isBlankChar {c : Char} (h : isBlankChar c = true) : isDigitChar c = false := by
  cases hdigit : isDigitChar c with
  | false => rfl
  | true => cases h.symm.trans (isBlankChar_of_isDigitChar hdigit)

theorem isLineChar_of_not_isBlankChar {c : Char} (h : isBlankChar c = false) : isLineChar c = true := by
  rw [isLineChar, Bool.not_eq_true', Bool.eq_false_iff, ne_eq, List.contains_iff_mem]
  intro hend
  exact Bool.false_ne_true (h.symm.trans (isBlank_of_mem_lineEnds _ hend))

/-- What a word is. -/
inductive Kind where
  | number
  | operator
  | error
deriving Repr, DecidableEq

/-- A part of a text that makes a token. -/
structure Word where
  kind : Kind
  chars : List Char

/-- The word is the first of the text that begins with its characters and has `rest` behind them. An error goes to the
end of its line, whatever it contains. -/
inductive Word.Leads (isOperator : Char → Bool) (rest : List Char) : Word → Prop where
  | number {ds : List Char} : IsFront isDigitChar ds rest → Leads isOperator rest ⟨.number, ds⟩
  | operator {c : Char} : isOperator c = true → Leads isOperator rest ⟨.operator, [c]⟩
  | error {c : Char} {cs : List Char} : isDigitChar c = false → isBlankChar c = false → isOperator c = false →
      IsFront isLineChar (c :: cs) rest → Leads isOperator rest ⟨.error, c :: cs⟩

/-- Cuts a text into its words, which may have blanks around them. -/
inductive Lexes (isOperator : Char → Bool) : List Char → List Word → Prop where
  | nil : Lexes isOperator [] []
  | blanks {bs rest : List Char} {words : List Word} :
      IsFront isBlankChar bs rest → Lexes isOperator rest words → Lexes isOperator (bs ++ rest) words
  | word {w : Word} {rest : List Char} {words : List Word} :
      w.Leads isOperator rest → Lexes isOperator rest words → Lexes isOperator (w.chars ++ rest) (w :: words)

variable {isOperator : Char → Bool}

/-- A text begins with a blank or with a word. -/
theorem Word.exists_leads (isOperator : Char → Bool) {c : Char} (hblank : isBlankChar c = false) (cs : List Char) :
    ∃ (w : Word) (front rest : List Char), w.chars = c :: front ∧ c :: cs = w.chars ++ rest ∧ w.Leads isOperator rest := by
  -- Digits and what nothing else takes go as far as they can; an operator is one character.
  cases hdigit : isDigitChar c with
  | true =>
    obtain ⟨front, rest, hsplit, hfront⟩ := IsFront.exists_of_head hdigit cs
    exact ⟨_, front, rest, rfl, hsplit, .number hfront⟩
  | false =>
    cases hoperator : isOperator c with
    | true => exact ⟨_, [], cs, rfl, rfl, .operator hoperator⟩
    | false =>
      obtain ⟨front, rest, hsplit, hfront⟩ := IsFront.exists_of_head (isLineChar_of_not_isBlankChar hblank) cs
      exact ⟨_, front, rest, rfl, hsplit, .error hdigit hblank hoperator hfront⟩

namespace Lexes

variable {cs : List Char} {w : Word} {words : List Word}

/-- Every text can be cut into words. -/
theorem exists_words (isOperator : Char → Bool) (cs : List Char) : ∃ words, Lexes isOperator cs words := by
  induction hlength : cs.length using Nat.strong_induction_on generalizing cs with
  | _ n ih =>
    cases cs with
    | nil => exact ⟨[], .nil⟩
    | cons c cs =>
      -- What is behind a blank or a word is shorter.
      have hrest : ∀ {front rest : List Char}, c :: cs = c :: front ++ rest →
          ∃ words, Lexes isOperator rest words := by
        intro front rest hsplit
        have hshorter := congrArg List.length hsplit
        rw [hlength, List.cons_append, List.length_cons, List.length_append] at hshorter
        exact ih rest.length (by omega) rest rfl
      cases hblank : isBlankChar c with
      | true =>
        obtain ⟨front, rest, hsplit, hfront⟩ := IsFront.exists_of_head hblank cs
        rcases hrest hsplit with ⟨words, hwords⟩
        rw [hsplit]
        exact ⟨words, .blanks hfront hwords⟩
      | false =>
        obtain ⟨w, front, rest, hchars, hsplit, hleads⟩ := Word.exists_leads isOperator hblank cs
        rcases hrest (hchars ▸ hsplit) with ⟨words, hwords⟩
        rw [hsplit]
        exact ⟨w :: words, .word hleads hwords⟩

/-- A word stands behind blanks, and the words behind it are those of the rest of the text. -/
theorem of_cons (h : Lexes isOperator cs (w :: words)) : ∃ bs rest, cs = bs ++ (w.chars ++ rest) ∧
    (∀ b ∈ bs, isBlankChar b = true) ∧ w.Leads isOperator rest ∧ Lexes isOperator rest words := by
  generalize hall : w :: words = all at h
  induction h with
  | nil => cases hall
  | @blanks bs rest _ hfront _ ih =>
    obtain ⟨bs', rest', rfl, hblank, hword⟩ := ih hall
    exact ⟨bs ++ bs', rest', (List.append_assoc ..).symm, List.forall_mem_append.2 ⟨hfront.inside, hblank⟩, hword⟩
  | @word w' rest _ hleads hrest _ =>
    cases hall
    exact ⟨[], rest, rfl, List.forall_mem_nil _, hleads, hrest⟩

/-- The words are parts of the text. -/
theorem infix_of_mem (h : Lexes isOperator cs words) :
    ∀ w ∈ words, w.chars <:+: cs ∧ ∃ rest, w.Leads isOperator rest := by
  induction h with
  | nil => exact List.forall_mem_nil _
  | @blanks bs rest _ _ _ ih =>
    intro w hw
    obtain ⟨hpart, hleads⟩ := ih w hw
    exact ⟨hpart.trans (List.suffix_append bs rest).isInfix, hleads⟩
  | @word w' rest _ hleads _ ih =>
    refine List.forall_mem_cons.2 ⟨⟨(List.prefix_append _ _).isInfix, rest, hleads⟩, fun w hw => ?_⟩
    obtain ⟨hpart, hleads⟩ := ih w hw
    exact ⟨hpart.trans (List.suffix_append w'.chars rest).isInfix, hleads⟩

/-- Blanks in front of a text make no word. -/
theorem behind_blanks {bs rest : List Char} (h : Lexes isOperator rest words) (hblank : ∀ b ∈ bs, isBlankChar b = true)
    (hstops : ∀ c ∈ rest.head?, isBlankChar c = false) : Lexes isOperator (bs ++ rest) words := by
  cases bs with
  | nil => exact h
  | cons b bs => exact .blanks ⟨List.cons_ne_nil _ _, hblank, hstops⟩ h

/-- A text without words has nothing but blanks. -/
theorem of_nil (h : Lexes isOperator cs []) : ∀ c ∈ cs, isBlankChar c = true := by
  generalize hnone : [] = words at h
  induction h with
  | nil => exact List.forall_mem_nil _
  | blanks hfront _ ih => exact List.forall_mem_append.2 ⟨hfront.inside, ih hnone⟩
  | word _ _ _ => cases hnone

end Lexes

/-! ## Words joined by line feeds -/

theorem isBlankChar_lineFeed : isBlankChar '\n' = true := by
  decide +kernel

theorem isLineChar_lineFeed : isLineChar '\n' = false := by
  decide

namespace Word.Leads

variable {w : Word} {rest rest' : List Char}

/-- A word that leads a text does so with a line feed behind it as well, or with nothing. -/
theorem change (h : w.Leads isOperator rest) (hrest : ∀ c ∈ rest'.head?, c = '\n') : w.Leads isOperator rest' := by
  cases h with
  | number hfront =>
    refine .number ⟨hfront.ne_nil, hfront.inside, fun c hc => ?_⟩
    rw [hrest c hc]
    exact isDigitChar_of_isBlankChar isBlankChar_lineFeed
  | operator hc => exact .operator hc
  | error hdigit hblank hoperator hfront =>
    refine .error hdigit hblank hoperator ⟨hfront.ne_nil, hfront.inside, fun c hc => ?_⟩
    rw [hrest c hc]
    exact isLineChar_lineFeed

/-- A word does not begin with a blank. -/
theorem head_unblank (hapart : ∀ c, isOperator c = true → isDigitChar c = false ∧ isBlankChar c = false)
    (h : w.Leads isOperator rest) : ∃ c cs, w.chars = c :: cs ∧ isBlankChar c = false := by
  cases h with
  | number hfront =>
    obtain ⟨d, ds, rfl⟩ := List.exists_cons_of_ne_nil hfront.ne_nil
    exact ⟨d, ds, rfl, isBlankChar_of_isDigitChar (hfront.inside d List.mem_cons_self)⟩
  | operator hc => exact ⟨_, [], rfl, (hapart _ hc).2⟩
  | error _ hblank _ _ => exact ⟨_, _, rfl, hblank⟩

end Word.Leads

/-- Words with line feeds between them are cut into these words. -/
theorem Lexes.joined (hapart : ∀ c, isOperator c = true → isDigitChar c = false ∧ isBlankChar c = false)
    {words : List Word} (h : ∀ w ∈ words, ∃ rest, w.Leads isOperator rest) :
    Lexes isOperator (['\n'].intercalate (words.map Word.chars)) words := by
  induction words with
  | nil => exact .nil
  | cons w words ih =>
    obtain ⟨⟨rest, hw⟩, hwords⟩ := List.forall_mem_cons.1 h
    have hbehind := ih hwords
    cases words with
    | nil =>
      have hlast : Lexes isOperator (w.chars ++ []) [w] := .word (hw.change nofun) .nil
      rw [List.map_singleton, List.intercalate_singleton]
      rwa [List.append_nil] at hlast
    | cons w' words =>
      rw [List.map_cons] at hbehind
      rw [List.map_cons, List.map_cons, List.intercalate_cons_cons, List.append_assoc]
      refine .word (hw.change fun c hc => (Option.some.inj hc).symm) (.blanks ⟨List.cons_ne_nil _ _, ?_, ?_⟩ hbehind)
      · exact List.forall_mem_singleton.2 isBlankChar_lineFeed
      · -- The word behind the line feed begins with a character that is no blank.
        obtain ⟨_, hw'⟩ := hwords w' List.mem_cons_self
        obtain ⟨c, cs, hchars, hblank⟩ := hw'.head_unblank hapart
        intro d hd
        have hfirst : ∃ behind, ['\n'].intercalate (w'.chars :: words.map Word.chars) = c :: behind := by
          rw [hchars]
          cases words with
          | nil => exact ⟨_, List.intercalate_singleton⟩
          | cons _ _ => exact ⟨_, by rw [List.map_cons, List.intercalate_cons_cons]; rfl⟩
        obtain ⟨behind, hfirst⟩ := hfirst
        rw [hfirst] at hd
        cases hd
        exact hblank

/-! ## Scans word by word -/

namespace Lexer

variable {lx : Lexer}

/-- The matches of a text that make tokens: their rules and what they match. -/
def lexemes (lx : Lexer) (cs : List Char) : List (Nat × String) :=
  ((lx.matchesOf cs.toArray).filter lx.emits).map fun m => (m.index, m.text)

theorem lexemes_nil (lx : Lexer) : lx.lexemes [] = [] := by
  obtain ⟨stop, htiles⟩ := lx.exists_tiles [].toArray
  have hlength := htiles.length_le
  have hsize := htiles.le_size
  rw [List.size_toArray, List.length_nil] at hsize
  rw [lexemes, List.length_eq_zero_iff.1 (show (lx.matchesOf [].toArray).length = 0 by omega)]
  rfl

/-- Behind its first match a text is scanned as if it began there. -/
theorem matchesOf_cons (hback : lx.NeverLooksBack) {cs : List Char} {m : RuleMatch}
    (hfound : (lx.probe cs.toArray 0).found = some m) :
    lx.matchesOf cs.toArray = m :: (lx.matchesOf (cs.drop m.stop).toArray).map (RuleMatch.moved m.stop) := by
  have hmove := probe_moves (Nat.zero_le _) hfound
  have hstop : m.stop ≤ cs.length := hmove.inside
  rcases lx.trace_scans cs.toArray with ⟨stop, hscans⟩
  rcases lx.trace_scans (cs.drop m.stop).toArray with ⟨stop', hrest⟩
  obtain ⟨qs, hqs, hmoved⟩ := hrest.rest hback (Subject.isRest_drop hstop) (Nat.zero_le _)
  rw [Nat.zero_add] at hqs
  obtain ⟨qs', htrace, hscans⟩ := hscans.of_found hfound
  -- The rest of the run is the run of the rest, by its steps.
  rw [matchesOf, matchesOf, htrace, List.filterMap_cons_some hfound, ← hmoved, hqs.unique hscans]

theorem lexemes_cons (hback : lx.NeverLooksBack) {cs : List Char} {m : RuleMatch}
    (hfound : (lx.probe cs.toArray 0).found = some m) :
    lx.lexemes cs =
      (if lx.emits m then [(m.index, m.text)] else []) ++ lx.lexemes (cs.drop m.stop) := by
  have hmoved : ∀ ms : List RuleMatch,
      ((ms.map (RuleMatch.moved m.stop)).filter lx.emits).map (fun m => (m.index, m.text)) =
        (ms.filter lx.emits).map fun m => (m.index, m.text) := by
    intro ms
    rw [List.filter_map, List.map_map]
    rfl
  rw [lexemes, lexemes, matchesOf_cons hback hfound, List.filter_cons]
  split
  · rw [List.map_cons, hmoved]
    rfl
  · rw [hmoved]
    rfl

end Lexer

/-! ## Rules for classes of characters -/

theorem takes_digit : (Single.oneOf false [.category .digit false]).takes { unicode := true } = isDigitChar := by
  funext c
  simp [Single.takes, Single.accepts, ClassItem.holds, Category.holds, isDigitChar]

theorem takes_space : (Single.oneOf false [.category .space false]).takes { unicode := true } = isBlankChar := by
  funext c
  simp [Single.takes, Single.accepts, ClassItem.holds, Category.holds, isBlankChar]

/-- The pattern matches characters of a class, one or more, as many as there are. -/
def Pattern.Repeats (p : Pattern) (isIn : Char → Bool) : Prop :=
  ∃ g u, p.tree = .group g (.many .greedy 1 none u) ∧ u.takes p.flags = isIn

/-- The pattern matches one character of a class. -/
def Pattern.TakesOne (p : Pattern) (isIn : Char → Bool) : Prop :=
  ∃ g u, p.tree = .group g (.single u) ∧ u.takes p.flags = isIn

namespace Rule

variable {r : Rule} {isIn : Char → Bool}

theorem moveEnd_repeats (h : r.pattern.Repeats isIn) (cs : List Char) :
    r.moveEnd cs.toArray 0 =
      if (cs.takeWhile isIn).length = 0 then none else some (cs.takeWhile isIn).length := by
  obtain ⟨g, u, htree, rfl⟩ := h
  have hstretch : u.stretch r.pattern.flags cs.toArray 0 = (cs.takeWhile (u.takes r.pattern.flags)).length :=
    u.stretch_eq r.pattern.flags cs.toArray 0
  rw [moveEnd_stretch htree, Pattern.endAt_stretch htree, hstretch, Nat.zero_add]

theorem moveEnd_front (h : r.pattern.Repeats isIn) {front rest : List Char} (hfront : IsFront isIn front rest) :
    r.moveEnd (front ++ rest).toArray 0 = some front.length := by
  rw [moveEnd_repeats h, hfront.takeWhile_eq, if_neg]
  exact fun hzero => hfront.ne_nil (List.length_eq_zero_iff.1 hzero)

theorem moveEnd_repeats_none (h : r.pattern.Repeats isIn) {c : Char} (hc : isIn c = false) (cs : List Char) :
    r.moveEnd (c :: cs).toArray 0 = none := by
  rw [moveEnd_repeats h, List.takeWhile_cons_of_neg (by simp [hc])]
  rfl

theorem repeats_fallback : fallback.pattern.Repeats isLineChar := by
  refine ⟨_, _, rfl, funext fun c => ?_⟩
  exact inLine_accepts c.toNat

theorem moveEnd_takesOne (h : r.pattern.TakesOne isIn) (cs : List Char) :
    r.moveEnd cs.toArray 0 = if cs.head?.any isIn then some 1 else none := by
  obtain ⟨g, u, htree, rfl⟩ := h
  have hend : r.pattern.endAt cs.toArray 0 = if cs.head?.any (u.takes r.pattern.flags) then some 1 else none := by
    rw [Pattern.endAt, Pattern.matchAt, htree]
    cases cs with
    | nil => rfl
    | cons c cs =>
      show Option.map _ (if u.takes r.pattern.flags c then _ else _) = if u.takes r.pattern.flags c then _ else _
      split <;> rfl
  rw [moveEnd, hend]
  split <;> rfl

end Rule

/-! ## Lexers of words -/

/-- Rules for numbers, for blanks, which are skipped, and for operators, which are neither digits nor blanks. -/
structure IsCalculator (lx : Lexer) (isOperator : Char → Bool) (number blank operator : Rule) : Prop where
  given : lx.given = [number, blank, operator]
  repeats_number : number.pattern.Repeats isDigitChar
  repeats_blank : blank.pattern.Repeats isBlankChar
  takes_operator : operator.pattern.TakesOne isOperator
  skips : number.skips = false ∧ blank.skips = true ∧ operator.skips = false
  unnumbered : ∀ r ∈ lx.given, r.pattern.byNumber = false
  apart : ∀ c, isOperator c = true → isDigitChar c = false ∧ isBlankChar c = false

/-- What the patterns of a lexer for numbers, blanks and operators are read as, the operators being what one given
item matches. -/
def calculatorPatterns (operatorName : String) (u : Single) : List (String × Tree × Flags) :=
  [("NUM", .group 1 (.many .greedy 1 none (.oneOf false [.category .digit false])), { unicode := true }),
    ("WS", .group 1 (.many .greedy 1 none (.oneOf false [.category .space false])), { unicode := true }),
    (operatorName, .group 1 (.single u), { unicode := true })]

/-- A lexer with such patterns is one of numbers, blanks and operators. -/
theorem exists_isCalculator {lx : Lexer} {operatorName : String} {u : Single}
    (hpatterns : lx.given.map (fun r => (r.name, r.pattern.tree, r.pattern.flags)) = calculatorPatterns operatorName u)
    (hskips : lx.given.map Rule.skips = [false, true, false]) (hnumber : ∀ r ∈ lx.given, r.pattern.byNumber = false)
    (htakes : u.takes { unicode := true } = isOperator)
    (hapart : ∀ c, isOperator c = true → isDigitChar c = false ∧ isBlankChar c = false) :
    ∃ number blank operator, IsCalculator lx isOperator number blank operator ∧
      number.name = "NUM" ∧ operator.name = operatorName := by
  obtain ⟨number, blank, operator, hrules⟩ : ∃ number blank operator, lx.given = [number, blank, operator] :=
    List.length_eq_three.1 (by simpa using congrArg List.length hskips)
  simp only [hrules, calculatorPatterns, List.map_cons, List.map_nil, List.cons.injEq, Prod.mk.injEq, and_true]
    at hpatterns hskips
  obtain ⟨⟨hname, hnumberTree, hnumberFlags⟩, ⟨-, hblankTree, hblankFlags⟩, hname', htree, hflags⟩ := hpatterns
  refine ⟨number, blank, operator, ⟨hrules, ?_, ?_, ?_, hskips, hnumber, hapart⟩, hname, hname'⟩
  · exact ⟨_, _, hnumberTree, hnumberFlags ▸ takes_digit⟩
  · exact ⟨_, _, hblankTree, hblankFlags ▸ takes_space⟩
  · exact ⟨_, _, htree, hflags ▸ htakes⟩

/-- The index of the rule for words of a kind. -/
def Kind.index : Kind → Nat
  | number => 0
  | operator => 2
  | error => 3

/-- The rule for words of a kind, if this is the one for numbers and that the one for operators. -/
def Kind.rule (number operator : Rule) : Kind → Rule
  | .number => number
  | .operator => operator
  | .error => Rule.fallback

namespace IsCalculator

variable {lx : Lexer} {number blank operator : Rule}

theorem rules (h : IsCalculator lx isOperator number blank operator) :
    lx.rules = [number, blank, operator, Rule.fallback] := by
  rw [Lexer.rules, h.given]
  rfl

theorem neverLooksBack (h : IsCalculator lx isOperator number blank operator) : lx.NeverLooksBack := by
  obtain ⟨_, _, hnumber, -⟩ := h.repeats_number
  obtain ⟨_, _, hblank, -⟩ := h.repeats_blank
  obtain ⟨_, _, hoperator, -⟩ := h.takes_operator
  rw [Lexer.NeverLooksBack, h.given]
  simp only [List.forall_mem_cons, hnumber, hblank, hoperator]
  exact ⟨rfl, rfl, rfl, List.forall_mem_nil _⟩

/-- The rule for words of a kind. -/
theorem getElem?_rules (h : IsCalculator lx isOperator number blank operator) (kind : Kind) :
    lx.rules[kind.index]? = some (kind.rule number operator) := by
  rw [h.rules]
  cases kind <;> rfl

/-- A text is scanned behind its front, if one of the rules matches just that and no rule before it moves on. -/
theorem lexemes_front (h : IsCalculator lx isOperator number blank operator) {front rest : List Char} {i : Nat} {r : Rule}
    (hr : lx.rules[i]? = some r) (hend : r.moveEnd (front ++ rest).toArray 0 = some front.length)
    (hfirst : ∀ q ∈ lx.rules.take i, q.moveEnd (front ++ rest).toArray 0 = none) :
    lx.lexemes (front ++ rest) = (if r.skips then [] else [(i, String.ofList front)]) ++ lx.lexemes rest := by
  have hfound : (lx.probe (front ++ rest).toArray 0).found = some ⟨i, String.ofList front, 0, front.length⟩ := by
    rw [Lexer.probe_eq_firstMatch (Nat.zero_le _) h.unnumbered, Lexer.firstMatch_map]
    refine ⟨⟨r, hr, hend⟩, fun j hj q hq => hfirst q ?_, rfl, ?_⟩
    · exact List.mem_of_getElem? (List.getElem?_take_of_lt hj ▸ hq)
    · simp [Subject.slice]
  have hemits : lx.emits ⟨i, String.ofList front, 0, front.length⟩ = !r.skips := Lexer.emits_eq hr
  rw [Lexer.lexemes_cons h.neverLooksBack hfound, hemits, List.drop_left]
  cases r.skips with
  | true => rfl
  | false => rfl

theorem lexemes_blanks (h : IsCalculator lx isOperator number blank operator) {bs rest : List Char}
    (hfront : IsFront isBlankChar bs rest) : lx.lexemes (bs ++ rest) = lx.lexemes rest := by
  obtain ⟨-, hskips, -⟩ := h.skips
  have hend := Rule.moveEnd_front h.repeats_blank hfront
  rw [h.lexemes_front (i := 1) (by rw [h.rules]; rfl) hend, hskips]
  · rfl
  · obtain ⟨b, bs, rfl⟩ := List.exists_cons_of_ne_nil hfront.ne_nil
    have hdigit := isDigitChar_of_isBlankChar (hfront.inside b List.mem_cons_self)
    rw [h.rules]
    exact List.forall_mem_singleton.2 (Rule.moveEnd_repeats_none h.repeats_number hdigit _)

theorem lexemes_word (h : IsCalculator lx isOperator number blank operator) {w : Word} {rest : List Char}
    (hw : w.Leads isOperator rest) :
    lx.lexemes (w.chars ++ rest) = (w.kind.index, String.ofList w.chars) :: lx.lexemes rest := by
  obtain ⟨hnumber, -, hoperator⟩ := h.skips
  -- For each kind of word, its own rule takes just the word, and no rule before that takes its first character.
  cases hw with
  | number hfront =>
    have hend := Rule.moveEnd_front h.repeats_number hfront
    rw [h.lexemes_front (i := 0) (by rw [h.rules]; rfl) hend (List.forall_mem_nil _), hnumber]
    rfl
  | @operator c hc =>
    obtain ⟨hdigit, hblank⟩ := h.apart c hc
    have hend : operator.moveEnd ([c] ++ rest).toArray 0 = some 1 := by
      rw [Rule.moveEnd_takesOne h.takes_operator]
      exact if_pos hc
    rw [h.lexemes_front (i := 2) (by rw [h.rules]; rfl) hend, hoperator]
    · rfl
    · rw [h.rules]
      simp only [List.take_succ_cons, List.take_zero, List.forall_mem_cons]
      exact ⟨Rule.moveEnd_repeats_none h.repeats_number hdigit _, Rule.moveEnd_repeats_none h.repeats_blank hblank _,
        List.forall_mem_nil _⟩
  | @error c cs hdigit hblank hc hfront =>
    have hend := Rule.moveEnd_front Rule.repeats_fallback hfront
    have hnone : operator.moveEnd (c :: cs ++ rest).toArray 0 = none := by
      rw [Rule.moveEnd_takesOne h.takes_operator]
      exact if_neg (by simp [hc])
    rw [h.lexemes_front (i := 3) (by rw [h.rules]; rfl) hend]
    · rfl
    · rw [h.rules]
      simp only [List.take_succ_cons, List.take_zero, List.forall_mem_cons]
      exact ⟨Rule.moveEnd_repeats_none h.repeats_number hdigit _, Rule.moveEnd_repeats_none h.repeats_blank hblank _,
        hnone, List.forall_mem_nil _⟩

/-- The matches that make tokens are the words of the text. -/
theorem lexemes_eq (h : IsCalculator lx isOperator number blank operator) {cs : List Char} {words : List Word}
    (hwords : Lexes isOperator cs words) : lx.lexemes cs = words.map fun w => (w.kind.index, String.ofList w.chars) := by
  induction hwords with
  | nil => exact lx.lexemes_nil
  | blanks hfront _ ih => rw [h.lexemes_blanks hfront, ih]
  | word hleads _ ih => rw [h.lexemes_word hleads, ih, List.map_cons]

end IsCalculator

/-! ## Tokens of words -/

/-- The token has the name of the rule for the word as its type, and what the rule makes of the word as its value. -/
def Word.Makes (lx : Lexer) (w : Word) (t : Token) : Prop :=
  ∃ r, lx.rules[w.kind.index]? = some r ∧ t.type = .str r.name ∧ r.valueOf (String.ofList w.chars) = .ok t.value

/-- What a word has to be like to make a token. -/
theorem IsCalculator.makes_iff {lx : Lexer} {number blank operator : Rule}
    (h : IsCalculator lx isOperator number blank operator) {w : Word} {t : Token} :
    w.Makes lx t ↔ t.type = .str (w.kind.rule number operator).name ∧
      (w.kind.rule number operator).valueOf (String.ofList w.chars) = .ok t.value := by
  constructor
  · rintro ⟨r, hr, hmakes⟩
    cases hr.symm.trans (h.getElem?_rules w.kind)
    exact hmakes
  · exact fun hmakes => ⟨_, h.getElem?_rules w.kind, hmakes⟩

namespace Lexer

variable {lx : Lexer}

section Matches

variable {cs : List Char} {words : List Word}
variable (hwords : lx.lexemes cs = words.map fun w => (w.kind.index, String.ofList w.chars))
include hwords

/-- A match that makes a token is a word of the text. -/
theorem exists_word {m : RuleMatch} (hm : m ∈ lx.matchesOf cs.toArray) (hemits : lx.emits m = true) :
    ∃ w ∈ words, w.kind.index = m.index ∧ String.ofList w.chars = m.text := by
  have hmem : (m.index, m.text) ∈ lx.lexemes cs := List.mem_map.2 ⟨m, List.mem_filter.2 ⟨hm, hemits⟩, rfl⟩
  rw [hwords] at hmem
  obtain ⟨w, hw, hsame⟩ := List.mem_map.1 hmem
  exact ⟨w, hw, congrArg Prod.fst hsame, congrArg Prod.snd hsame⟩

/-- No hook raises if a token can be made of each word. -/
theorem hookReturns_of_words (hmakes : ∀ w ∈ words, ∃ t, w.Makes lx t) :
    ∀ m ∈ lx.matchesOf cs.toArray, lx.HookReturns m := by
  intro m hm r hook hr hskips hhook
  obtain ⟨w, hw, hindex, htext⟩ := exists_word hwords hm (by rw [emits_eq hr, hskips]; rfl)
  obtain ⟨t, r', hr', -, hvalue⟩ := hmakes w hw
  rw [hindex] at hr'
  cases hr.symm.trans hr'
  rw [Rule.valueOf, hhook, htext] at hvalue
  exact ⟨t.value, hvalue⟩

/-- A token is made of a word. -/
theorem Makes.exists_word {line : Int} {k : Nat} {m : RuleMatch} {t : Token}
    (h : lx.Makes line (lx.matchesOf cs.toArray) k m t) :
    ∃ w ∈ words, String.ofList w.chars = m.text ∧ w.Makes lx t := by
  rcases emit_some h.emits with ⟨r, v, hr, hskips, hv, rfl⟩
  obtain ⟨w, hw, hindex, htext⟩ :=
    Lexer.exists_word hwords (List.mem_of_getElem? h.number) (by rw [emits_eq hr, hskips]; rfl)
  exact ⟨w, hw, htext, r, hindex ▸ hr, tokenOf_type hr _ _, htext ▸ hv⟩

end Matches

variable {line : Int} {s : String} {tokens : List Token}
variable (hmade : Forall₂ (fun x t => lx.Makes line (lx.matchesOf s.toList.toArray) x.2 x.1 t)
  (lx.emittedFrom 0 (lx.matchesOf s.toList.toArray)) tokens)
include hmade

/-- Tokens that are made of the matches of a text are made of its words. -/
theorem words_made {words : List Word}
    (hwords : lx.lexemes s.toList = words.map fun w => (w.kind.index, String.ofList w.chars)) :
    Forall₂ (Word.Makes lx) words tokens := by
  have hmatches : Forall₂ (fun (x : Nat × String) t => ∃ r, lx.rules[x.1]? = some r ∧ t.type = .str r.name ∧
      r.valueOf x.2 = .ok t.value) (lx.lexemes s.toList) tokens := by
    rw [lexemes, ← map_fst_emittedFrom 0, List.map_map, List.forall₂_map_left_iff]
    refine hmade.imp fun x t ht => ?_
    rcases emit_some ht.emits with ⟨r, v, hr, -, hv, rfl⟩
    exact ⟨r, hr, tokenOf_type hr _ _, hv⟩
  rwa [hwords, List.forall₂_map_left_iff] at hmatches

/-- The lines of tokens are at most as many as the characters behind the first line. -/
theorem lines_made : ∀ t ∈ tokens, ∃ n : Nat, t.line = .int (line + n) ∧ n ≤ s.length := by
  intro t ht
  rcases List.getElem?_of_mem ht with ⟨i, hi⟩
  rcases exists_related hmade.flip hi with ⟨x, -, hx⟩
  refine ⟨_, hx.standsAt.line, ?_⟩
  obtain ⟨stop, htiles⟩ := lx.exists_tiles s.toList.toArray
  have hlength := htiles.length_le
  have hsize : stop ≤ s.length := by
    rw [← String.length_toList]
    exact htiles.le_size
  have hbreaks : lineBreaks ((lx.matchesOf s.toList.toArray).take (x.2 + 1)) ≤ (lx.matchesOf s.toList.toArray).length :=
    List.countP_le_length.trans (List.length_take_le' _ _)
  omega

end Lexer

end PatternLexer
