import PatternLexer.Proofs.Matching

/-!
# Stretches of characters

A pattern that repeats an element of one character takes the longest stretch of characters that the element accepts.

* `Single.stretch_eq`: the stretch is what `List.takeWhile` takes of the rest of the text.
* `Single.stretch_accepts` and `Single.stretch_stops`: all characters of it are accepted, and the next one is not.
* `Pattern.endAt_stretch`: a pattern of this form matches a stretch that is not empty.
-/

namespace PatternLexer

namespace Single

variable (u : Single) (fs : Flags) (text : Subject)

/-- The number of characters from `pos` on that the element accepts. -/
def stretch (pos : Nat) : Nat := u.runLength fs text (text.size - pos) pos

/-- The element accepts the character. -/
def takes (c : Char) : Bool := u.accepts fs c.toNat

theorem runLength_eq : ∀ limit pos, limit = text.size - pos →
    u.runLength fs text limit pos = ((text.toList.drop pos).takeWhile (u.takes fs)).length := by
  intro limit
  induction limit with
  | zero =>
    intro pos hlimit
    have hdrop : text.toList.drop pos = [] := by
      rw [List.drop_eq_nil_iff, Array.length_toList]
      omega
    rw [hdrop]
    rfl
  | succ limit ih =>
    intro pos hlimit
    have hpos : pos < text.toList.length := by
      rw [Array.length_toList]
      omega
    have hrest := ih (pos + 1) (by omega)
    -- The list has the character of this place in front.
    have hget : text[pos]? = some text.toList[pos] := by
      rw [← Array.getElem?_toList, List.getElem?_eq_getElem hpos]
    rw [List.drop_eq_getElem_cons hpos, List.takeWhile_cons, runLength, Subject.at?, hget, hrest]
    show (if u.takes fs text.toList[pos] then _ else _) = _
    cases u.takes fs text.toList[pos] with
    | true => rfl
    | false => rfl

/-- The stretch is the longest front of the rest of the text whose characters are all accepted. -/
theorem stretch_eq (pos : Nat) :
    u.stretch fs text pos = ((text.toList.drop pos).takeWhile (u.takes fs)).length :=
  u.runLength_eq fs text _ pos rfl

theorem stretch_le {pos : Nat} (hpos : pos ≤ text.size) : pos + u.stretch fs text pos ≤ text.size :=
  u.runLength_le_size fs text _ pos hpos

/-- All characters of the stretch are accepted. -/
theorem stretch_accepts {pos i : Nat} (hle : pos ≤ i) (hlt : i < pos + u.stretch fs text pos) :
    ∃ c, text[i]? = some c ∧ u.takes fs c = true := by
  rw [stretch_eq] at hlt
  have hi : i - pos < ((text.toList.drop pos).takeWhile (u.takes fs)).length := by omega
  have hget := List.prefix_iff_getElem?.1 (List.takeWhile_prefix (u.takes fs)) (i - pos) hi
  rw [List.getElem?_drop, Nat.add_sub_cancel' hle, Array.getElem?_toList] at hget
  exact ⟨_, hget, List.mem_takeWhile_imp (List.getElem_mem hi)⟩

/-- The character behind the stretch is not accepted. -/
theorem stretch_stops {pos : Nat} {c : Char} (h : text[pos + u.stretch fs text pos]? = some c) :
    u.takes fs c = false := by
  rw [stretch_eq, ← Array.getElem?_toList, ← List.getElem?_drop] at h
  have hsplit := List.takeWhile_append_dropWhile (p := u.takes fs) (l := text.toList.drop pos)
  have hhead : ((text.toList.drop pos).dropWhile (u.takes fs)).head? = some c := by
    rw [← h]
    conv_rhs => arg 1; rw [← hsplit]
    rw [List.getElem?_append_right (Nat.le_refl _), Nat.sub_self, List.head?_eq_getElem?]
  have hnot := List.head?_dropWhile_not (u.takes fs) (text.toList.drop pos)
  rw [hhead] at hnot
  simpa using hnot

end Single

/-- A pattern that repeats an element matches a stretch that is not empty. -/
theorem Pattern.endAt_stretch {p : Pattern} {g : Nat} {u : Single} (htree : p.tree = .group g (.many .greedy 1 none u))
    (text : Subject) (pos : Nat) :
    p.endAt text pos =
      if u.stretch p.flags text pos = 0 then none else some (pos + u.stretch p.flags text pos) := by
  have hsearch : p.matchAt text pos =
      if u.stretch p.flags text pos < 1 then none
      else ((Progress.start pos).opening g).fewer 1 (fun t => some (t.closing g)) (u.stretch p.flags text pos) := by
    rw [Pattern.matchAt, htree]
    rfl
  rw [Pattern.endAt, hsearch]
  cases u.stretch p.flags text pos with
  | zero => rfl
  | succ n =>
    simp [Progress.fewer]
    rfl

end PatternLexer
