import PatternLexer.Examples.Sum
import PatternLexer.Proofs.Words

/-!
# The grammar of sums

A text is a sum if it is made of numerals with blanks around them and plus signs between them.

* `IsSum` says so of the characters of a text, `SumOf` of its words, and `isSum_iff` says that the two go together.
* `FailsFirstAt` is about the types of the tokens: with the one given they cannot be those of a sum any more.
-/

namespace PatternLexer.Examples.Sum

open Text

/-! ## Characters and words -/

/-- The character is a plus sign. -/
def isPlus (c : Char) : Bool := c == '+'

/-- A numeral with blanks around it. -/
def IsTerm (cs ds : List Char) : Prop :=
  ∃ front back, cs = front ++ (ds ++ back) ∧ (∀ b ∈ front, isBlankChar b = true) ∧ ds ≠ [] ∧
    (∀ d ∈ ds, isDigitChar d = true) ∧ ∀ b ∈ back, isBlankChar b = true

/-- The text is a sum, of the form `ws* D (ws* + ws* D)* ws*` where `D` is a numeral and `ws` a blank, and this is its
value. -/
inductive IsSum : List Char → Int → Prop where
  | number {cs ds : List Char} : IsTerm cs ds → IsSum cs (numeralValue ds)
  | plus {cs ds rest : List Char} {n : Int} : IsTerm cs ds → IsSum rest n →
      IsSum (cs ++ '+' :: rest) (numeralValue ds + n)

/-- The words are those of a sum, and this is its value. -/
inductive SumOf : List Word → Int → Prop where
  | number {ds : List Char} : SumOf [⟨.number, ds⟩] (numeralValue ds)
  | plus {ds ps : List Char} {words : List Word} {n : Int} : SumOf words n →
      SumOf (⟨.number, ds⟩ :: ⟨.operator, ps⟩ :: words) (numeralValue ds + n)

/-- The numeral of a term is its word. -/
theorem IsTerm.lexes {cs ds rest : List Char} {words : List Word} (h : IsTerm cs ds)
    (hstops : ∀ c ∈ rest.head?, isDigitChar c = false ∧ isBlankChar c = false) (hrest : Lexes isPlus rest words) :
    Lexes isPlus (cs ++ rest) (⟨.number, ds⟩ :: words) := by
  obtain ⟨front, back, rfl, hfront, hne, hdigits, hback⟩ := h
  -- The character behind the numeral is a blank, or else the one behind the term.
  have hstopsBack : ∀ c ∈ (back ++ rest).head?, isDigitChar c = false := by
    cases back with
    | nil => exact fun c hc => (hstops c hc).1
    | cons b back =>
      intro c hc
      cases hc
      exact isDigitChar_of_isBlankChar (hback b List.mem_cons_self)
  have hstopsFront : ∀ c ∈ (ds ++ (back ++ rest)).head?, isBlankChar c = false := by
    obtain ⟨d, ds, rfl⟩ := List.exists_cons_of_ne_nil hne
    intro c hc
    cases hc
    exact isBlankChar_of_isDigitChar (hdigits d List.mem_cons_self)
  have hback' := hrest.behind_blanks hback fun c hc => (hstops c hc).2
  have hword : Lexes isPlus (ds ++ (back ++ rest)) (⟨.number, ds⟩ :: words) :=
    .word (.number ⟨hne, hdigits, hstopsBack⟩) hback'
  have hall := hword.behind_blanks hfront hstopsFront
  simpa only [List.append_assoc] using hall

/-- A text is a sum just if its words are those of one. -/
theorem isSum_iff {cs : List Char} {n : Int} : IsSum cs n ↔ ∃ words, Lexes isPlus cs words ∧ SumOf words n := by
  constructor
  · -- A sum is cut into words term by term.
    intro h
    induction h with
    | @number cs ds hterm =>
      have hlexes : Lexes isPlus (cs ++ []) _ := hterm.lexes nofun .nil
      rw [List.append_nil] at hlexes
      exact ⟨_, hlexes, .number⟩
    | @plus cs ds rest n hterm _ ih =>
      obtain ⟨words, hwords, hsum⟩ := ih
      have hplus : Lexes isPlus ('+' :: rest) (⟨.operator, ['+']⟩ :: words) := .word (.operator rfl) hwords
      refine ⟨_, hterm.lexes (fun c hc => ?_) hplus, .plus hsum⟩
      cases hc
      decide +kernel
  · -- Each number takes the blanks around it into its term.
    rintro ⟨words, hwords, hsum⟩
    induction hsum generalizing cs with
    | @number ds =>
      obtain ⟨bs, rest, rfl, hblank, hleads, hrest⟩ := hwords.of_cons
      cases hleads with
      | number hfront => exact .number ⟨bs, rest, rfl, hblank, hfront.ne_nil, hfront.inside, hrest.of_nil⟩
    | @plus ds ps words n _ ih =>
      obtain ⟨bs, rest, rfl, hblank, hleads, hrest⟩ := hwords.of_cons
      obtain ⟨bs', rest', rfl, hblank', hleads', hrest'⟩ := hrest.of_cons
      cases hleads with
      | number hfront =>
        cases hleads' with
        | @operator c hc =>
          obtain rfl : c = '+' := eq_of_beq hc
          have hterm : IsTerm (bs ++ (ds ++ bs')) ds :=
            ⟨bs, bs', rfl, hblank, hfront.ne_nil, hfront.inside, hblank'⟩
          have hsum := IsSum.plus hterm (ih hrest')
          simpa only [List.append_assoc, List.singleton_append] using hsum

/-! ## Types of tokens -/

/-- The types of the tokens of a sum of `n + 1` numbers. -/
def sumTypes : Nat → List String
  | 0 => ["NUM", eofName]
  | n + 1 => "NUM" :: "PLUS" :: sumTypes n

/-- The token number `k` is the first one with which the types cannot be those of a sum. -/
structure FailsFirstAt (types : List String) (k : Nat) : Prop where
  inside : k < types.length
  begins : ∃ n, types.take k <+: sumTypes n
  fails : ∀ n, ¬ types.take (k + 1) <+: sumTypes n

theorem sumTypes_cons (n : Nat) : ∃ types, sumTypes n = "NUM" :: types := by
  cases n <;> exact ⟨_, rfl⟩

namespace FailsFirstAt

variable {type : String} {types : List String}

theorem at_zero (h : type ≠ "NUM") : FailsFirstAt (type :: types) 0 where
  inside := Nat.succ_pos _
  begins := ⟨0, List.nil_prefix⟩
  fails n hfront := by
    obtain ⟨others, hsum⟩ := sumTypes_cons n
    rw [hsum] at hfront
    exact h (List.cons_prefix_cons.1 hfront).1

theorem at_one (hplus : type ≠ "PLUS") (heof : type ≠ eofName) : FailsFirstAt ("NUM" :: type :: types) 1 where
  inside := by simp
  begins := ⟨0, ⟨[eofName], rfl⟩⟩
  fails n hfront := by
    cases n with
    | zero => exact heof (List.cons_prefix_cons.1 (List.cons_prefix_cons.1 hfront).2).1
    | succ n => exact hplus (List.cons_prefix_cons.1 (List.cons_prefix_cons.1 hfront).2).1

theorem behind_plus {k : Nat} (h : FailsFirstAt types k) : FailsFirstAt ("NUM" :: "PLUS" :: types) (k + 2) where
  inside := by
    have := h.inside
    simp only [List.length_cons]
    omega
  begins := by
    obtain ⟨n, hn⟩ := h.begins
    exact ⟨n + 1, List.cons_prefix_cons.2 ⟨rfl, List.cons_prefix_cons.2 ⟨rfl, hn⟩⟩⟩
  fails n hfront := by
    rw [List.take_succ_cons, List.take_succ_cons] at hfront
    cases n with
    | zero =>
      have hplus := (List.cons_prefix_cons.1 (List.cons_prefix_cons.1 hfront).2).1
      exact absurd hplus (by decide)
    | succ n => exact h.fails n (List.cons_prefix_cons.1 (List.cons_prefix_cons.1 hfront).2).2

end FailsFirstAt

end PatternLexer.Examples.Sum
