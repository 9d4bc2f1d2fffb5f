import Mathlib.Algebra.GroupWithZero.Nat
import PatternLexer.Proofs.Probe
import PatternLexer.Text.Numeral

/-!
# Numerals

What `\d+` matches is a numeral: its digits, of any scripts, are read as a number in base ten. No digit is a blank,
and every character that ends a line is one.

* `Text.numeralValue` is the number that a list of digits stands for.
* `Text.readDigits_digits`: the digits are read from the front, the value and their number growing with each.
* `Text.readInteger_eq`: so a numeral that is not too long is read as its number.
* `Text.isDecimal_toString`: a number is written in the digits `0` to `9`, without zeros in front.
-/

namespace PatternLexer.Text

/-! ## Digits, blanks and ends of lines -/

/-- A digit stands less than ten places behind the zero of its script. -/
theorem digitValue?_eq_some {code value : Nat} (h : digitValue? code = some value) :
    value < 10 ∧ ∃ z ∈ Table.decimalZeros, code = z + value := by
  unfold digitValue? at h
  split at h
  · -- Below 128 the digits are those from `0` to `9`, without a look at the table.
    split at h
    · rename_i hascii
      simp only [Bool.and_eq_true, decide_eq_true_eq] at hascii
      cases h
      exact ⟨by omega, 48, by decide +kernel, by omega⟩
    · cases h
  · rcases Option.map_eq_some_iff.1 h with ⟨z, hz, rfl⟩
    have hrange := Array.find?_some hz
    simp only [Bool.and_eq_true, decide_eq_true_eq] at hrange
    exact ⟨by omega, z, Array.mem_of_find?_eq_some hz, by omega⟩

theorem isBlank_digits : ∀ z ∈ Table.decimalZeros, ∀ i < 10, isBlank (z + i) = false := by
  decide +kernel

/-- No digit is a blank. -/
theorem isBlank_of_isDigit {code : Nat} (h : isDigit code = true) : isBlank code = false := by
  rcases Option.isSome_iff_exists.1 h with ⟨value, hvalue⟩
  obtain ⟨hlt, z, hz, rfl⟩ := digitValue?_eq_some hvalue
  exact isBlank_digits z hz value hlt

/-- Every end of a line is a blank. -/
theorem isBlank_of_mem_lineEnds : ∀ code ∈ lineEnds, isBlank code = true := by
  decide +kernel

/-! ## Reading digits -/

/-- The value of a digit. -/
def digitValue (c : Char) : Nat := (digitValue? c.toNat).getD 0

/-- The number that digits stand for. -/
def numeralValue (ds : List Char) : Nat := ds.foldl (fun n d => n * 10 + digitValue d) 0

theorem ofChar_digit {c : Char} (h : isDigit c.toNat = true) : NumeralChar.ofChar c = .digit (digitValue c) := by
  rcases Option.isSome_iff_exists.1 h with ⟨value, hvalue⟩
  rw [NumeralChar.ofChar, digitValue, hvalue]
  rfl

/-- Digits are read up to the last one. -/
theorem readDigits_digits {ds : List Char} : ∀ {value count : Nat} {afterDigit : Bool},
    (∀ d ∈ ds, isDigit d.toNat = true) → (ds ≠ [] ∨ afterDigit = true) →
      readDigits value count afterDigit (ds.map NumeralChar.ofChar) =
        .ok (ds.foldl (fun n d => n * 10 + digitValue d) value, count + ds.length, []) := by
  induction ds with
  | nil =>
    intro value count afterDigit _ hafter
    obtain rfl : afterDigit = true := hafter.resolve_left fun hne => hne rfl
    rfl
  | cons d ds ih =>
    intro value count afterDigit hdigits _
    obtain ⟨hd, hds⟩ := List.forall_mem_cons.1 hdigits
    rw [List.map_cons, ofChar_digit hd, readDigits, ih hds (.inr rfl), List.foldl_cons, List.length_cons,
      Nat.add_assoc, Nat.add_comm 1]

/-- A numeral is read as its number, unless it is too long. -/
theorem readInteger_eq {ds : List Char} (hne : ds ≠ []) (hdigits : ∀ d ∈ ds, isDigit d.toNat = true) :
    readInteger (String.ofList ds) =
      if maxDigits < ds.length then .error (.tooLong ds.length) else .ok (numeralValue ds) := by
  have hread : readDigits 0 0 false (ds.map NumeralChar.ofChar) = .ok (numeralValue ds, 0 + ds.length, []) :=
    readDigits_digits hdigits (.inl hne)
  -- There are no blanks in front of the first digit, and no sign.
  have hfront : readSign ((ds.map NumeralChar.ofChar).dropWhile (· == .blank)) =
      (false, ds.map NumeralChar.ofChar) := by
    obtain ⟨d, ds, rfl⟩ := List.exists_cons_of_ne_nil hne
    rw [List.map_cons, ofChar_digit (hdigits d List.mem_cons_self)]
    rfl
  rw [Nat.zero_add] at hread
  simp only [readInteger, String.toList_ofList, hfront, hread]
  rfl

/-- A numeral that is not too long is read as its number. -/
theorem readInteger_digits {ds : List Char} (hne : ds ≠ []) (hdigits : ∀ d ∈ ds, isDigit d.toNat = true)
    (hlength : ds.length ≤ maxDigits) : readInteger (String.ofList ds) = .ok (numeralValue ds) := by
  rw [readInteger_eq hne hdigits, if_neg (Nat.not_lt.2 hlength)]

/-! ## Writing numbers -/

/-- A number that is not too large is written. -/
theorem writeInteger?_natCast {n : Nat} (h : n < 10 ^ maxDigits) : writeInteger? n = some (toString n) := by
  have hlength : (Nat.toDigits 10 n).length ≤ maxDigits :=
    (Nat.length_toDigits_le_iff (by decide) (by decide)).2 h
  have hsign : ¬ (n : Int) < 0 := by omega
  simp only [writeInteger?, Int.natAbs_natCast]
  rw [if_neg (Nat.not_lt.2 hlength), if_neg hsign]
  rfl

/-! ## Numbers of digits -/

theorem digitValue_lt (c : Char) : digitValue c < 10 := by
  unfold digitValue
  cases hvalue : digitValue? c.toNat with
  | none => exact Nat.succ_pos 9
  | some value => exact (digitValue?_eq_some hvalue).1

/-- A numeral stands for a number below the power of ten with as many zeros as it has digits. -/
theorem numeralValue_lt (ds : List Char) : numeralValue ds < 10 ^ ds.length := by
  -- The bound for the fold from any number on is what the induction carries.
  have hfold : ∀ (ds : List Char) (n : Nat),
      ds.foldl (fun n d => n * 10 + digitValue d) n < (n + 1) * 10 ^ ds.length := by
    intro ds
    induction ds with
    | nil =>
      intro n
      simp
    | cons d ds ih =>
      intro n
      have hd := digitValue_lt d
      calc ds.foldl (fun n d => n * 10 + digitValue d) (n * 10 + digitValue d)
          < (n * 10 + digitValue d + 1) * 10 ^ ds.length := ih _
        _ ≤ ((n + 1) * 10) * 10 ^ ds.length := Nat.mul_le_mul_right _ (by omega)
        _ = (n + 1) * 10 ^ (ds.length + 1) := by rw [Nat.mul_assoc, Nat.pow_succ']
  have hzero := hfold ds 0
  rwa [Nat.zero_add, Nat.one_mul] at hzero

/-- A numeral that can be read stands for a number that can be written. -/
theorem numeralValue_lt_limit {ds : List Char} (h : ds.length ≤ maxDigits) : numeralValue ds < 10 ^ maxDigits :=
  (numeralValue_lt ds).trans_le (Nat.pow_le_pow_right (by decide) h)

theorem isDigit_ascii {c : Char} (h : c.isDigit = true) : isDigit c.toNat = true ∧ digitValue c = c.toNat - 48 := by
  have hrange : 48 ≤ c.toNat ∧ c.toNat ≤ 57 := by
    rw [Char.isDigit, Bool.and_eq_true, decide_eq_true_iff, decide_eq_true_iff] at h
    exact h
  have hvalue : digitValue? c.toNat = some (c.toNat - 48) := by
    rw [digitValue?, if_pos (by omega), if_pos (by simpa using hrange)]
  exact ⟨by rw [isDigit, hvalue]; rfl, by rw [digitValue, hvalue]; rfl⟩

/-- The digits of a number stand for it. -/
theorem numeralValue_toDigits (n : Nat) : numeralValue (Nat.toDigits 10 n) = n := by
  have hfold : ∀ (ds : List Char) (m : Nat), (∀ d ∈ ds, d.isDigit = true) →
      ds.foldl (fun n d => n * 10 + digitValue d) m = Nat.ofDigitChars 10 ds m := by
    intro ds
    induction ds with
    | nil =>
      intro m _
      rfl
    | cons d ds ih =>
      intro m hdigits
      obtain ⟨hd, hds⟩ := List.forall_mem_cons.1 hdigits
      rw [List.foldl_cons, ih _ hds, (isDigit_ascii hd).2, Nat.mul_comm]
      rfl
  rw [numeralValue, hfold _ _ fun d hd => Nat.isDigit_of_mem_toDigits (by decide) (by decide) hd,
    Nat.ofDigitChars_ten_toDigits]

/-- A numeral in the digits `0` to `9` for the number, without zeros in front of other digits. -/
structure IsDecimal (v : String) (n : Nat) : Prop where
  ne_empty : v ≠ ""
  digits : ∀ c ∈ v.toList, c.isDigit = true
  noZeros : v.toList.head? = some '0' → v = "0"
  value : Nat.ofDigitChars 10 v.toList 0 = n

/-- No number but zero begins with the digit zero. -/
theorem head?_toDigits : ∀ (n : Nat), (Nat.toDigits 10 n).head? = some '0' → n = 0 := by
  intro n
  induction n using Nat.strong_induction_on with
  | _ n ih =>
    intro hhead
    by_cases hlt : n < 10
    · rw [Nat.toDigits_of_lt_base hlt, List.head?_cons, Option.some_inj] at hhead
      exact Nat.digitChar_eq_zero.1 hhead
    · -- The first digit is that of a smaller number, which is not zero.
      rw [Nat.toDigits_of_base_le (by decide) (by omega), List.head?_append_of_ne_nil _ Nat.toDigits_ne_nil] at hhead
      have hzero := ih (n / 10) (by omega) hhead
      omega

theorem isDecimal_toString (n : Nat) : IsDecimal (toString n) n where
  ne_empty hempty := by
    rw [Nat.toString_eq_ofList_toDigits, String.ofList_eq_empty_iff] at hempty
    exact Nat.toDigits_ne_nil hempty
  digits c hc := by
    rw [Nat.toString_eq_ofList_toDigits, String.toList_ofList] at hc
    exact Nat.isDigit_of_mem_toDigits (by decide) (by decide) hc
  noZeros hhead := by
    rw [Nat.toString_eq_ofList_toDigits, String.toList_ofList] at hhead
    rw [head?_toDigits n hhead]
    rfl
  value := by rw [Nat.toString_eq_ofList_toDigits, String.toList_ofList, Nat.ofDigitChars_ten_toDigits]

end PatternLexer.Text
