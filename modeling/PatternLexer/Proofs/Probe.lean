import PatternLexer.Scan
import PatternLexer.Proofs.Stretch

/-!
# One step of a scan

A step asks the composite pattern first. Where that finds an empty match, the later rules are tried one by
one, so that a step never stands still.

* `Rule.fallback_moveEnd`: the rule of last resort takes what is left of a line, and `Rule.lineRest_inside` and
  `Rule.lineRest_stops` say what that is.
* `Lexer.probe_moves` and `Lexer.probe_stops` hold for all rules: a step moves on inside the text, and finds
  nothing only at the end of the text or of a line.
* `Lexer.probe_found`: without references by number a step finds what the rules find one by one.
-/

namespace PatternLexer

/-! ## What a rule matches alone -/

/-- Where the rule's own pattern matches up to from `pos` on, if that is not empty. -/
def Rule.moveEnd (r : Rule) (text : Subject) (pos : Nat) : Option Nat :=
  (r.pattern.endAt text pos).filter fun stop => pos < stop

namespace Rule

variable {r : Rule} {text : Subject} {pos stop : Nat}

theorem moveEnd_eq_some :
    r.moveEnd text pos = some stop ↔ r.pattern.endAt text pos = some stop ∧ pos < stop := by
  rw [moveEnd, Option.filter_eq_some_iff, decide_eq_true_iff]

theorem ownMatch?_eq (index : Nat) :
    r.ownMatch? index text pos =
      (r.moveEnd text pos).map fun stop => ⟨index, text.slice pos stop, pos, stop⟩ := by
  rw [ownMatch?, moveEnd, Pattern.endAt]
  cases r.pattern.matchAt text pos with
  | none => rfl
  | some s =>
    by_cases hs : pos < s.pos
    · simp [hs, Option.filter]
    · simp [hs, Option.filter]

/-- A stretch that is matched is not empty. -/
theorem moveEnd_stretch {g : Nat} {u : Single} (htree : r.pattern.tree = .group g (.many .greedy 1 none u))
    (text : Subject) (pos : Nat) : r.moveEnd text pos = r.pattern.endAt text pos := by
  rw [moveEnd, Pattern.endAt_stretch htree]
  split
  · rfl
  · rw [Option.filter_some, if_pos]
    rw [decide_eq_true_iff]
    omega

end Rule

/-! ## The rest of a line -/

/-- The code points that end a line. -/
def lineEnds : List Nat := [0x0A, 0x0D, 0x2028, 0x2029]

/-- The character at `pos` ends a line. -/
def Subject.EndsLineAt (text : Subject) (pos : Nat) : Prop :=
  ∃ c, text[pos]? = some c ∧ c.toNat ∈ lineEnds

namespace Rule

/-- What the rule of last resort repeats: a character that does not end a line. -/
def inLine : Single := .oneOf true (lineEnds.map ClassItem.code)

theorem inLine_accepts (code : Nat) : inLine.accepts { unicode := true } code = !lineEnds.contains code := by
  simp [inLine, Single.accepts, lineEnds, ClassItem.holds, Bool.beq_eq_decide_eq]

/-- The number of characters from `pos` to the end of the line. -/
def lineRest (text : Subject) (pos : Nat) : Nat :=
  inLine.runLength { unicode := true } text (text.size - pos) pos

/-- No character up to there ends the line. -/
theorem lineRest_inside {text : Subject} {pos i : Nat} (hle : pos ≤ i) (hlt : i < pos + lineRest text pos) :
    ¬ text.EndsLineAt i := by
  rintro ⟨c, hc, hend⟩
  rcases inLine.stretch_accepts { unicode := true } text hle hlt with ⟨d, hd, htaken⟩
  cases hc.symm.trans hd
  rw [Single.takes, inLine_accepts] at htaken
  simp [hend] at htaken

/-- The text or the line ends there. -/
theorem lineRest_stops {text : Subject} {pos : Nat} (hpos : pos ≤ text.size) :
    pos + lineRest text pos = text.size ∨ text.EndsLineAt (pos + lineRest text pos) := by
  by_cases hsize : pos + lineRest text pos = text.size
  · exact .inl hsize
  have hle : pos + lineRest text pos ≤ text.size := inLine.stretch_le { unicode := true } text hpos
  have hlt : pos + lineRest text pos < text.size := by omega
  have hget := Array.getElem?_eq_getElem hlt
  have hnot := inLine.stretch_stops { unicode := true } text hget
  rw [Single.takes, inLine_accepts] at hnot
  exact .inr ⟨_, hget, by simpa using hnot⟩

/-- The rule of last resort matches the rest of the line, if there is any. -/
theorem fallback_endAt (text : Subject) (pos : Nat) :
    fallback.pattern.endAt text pos =
      if lineRest text pos = 0 then none else some (pos + lineRest text pos) :=
  Pattern.endAt_stretch rfl text pos

theorem fallback_moveEnd (text : Subject) (pos : Nat) :
    fallback.moveEnd text pos = fallback.pattern.endAt text pos :=
  moveEnd_stretch rfl text pos

/-- It matches nothing only at the end of the text or of a line. -/
theorem fallback_stops {text : Subject} {pos : Nat} (hpos : pos ≤ text.size)
    (h : fallback.pattern.endAt text pos = none) : pos = text.size ∨ text.EndsLineAt pos := by
  rw [fallback_endAt] at h
  by_cases hzero : lineRest text pos = 0
  · have hstops := lineRest_stops hpos
    rwa [hzero] at hstops
  · rw [if_neg hzero] at h
    cases h

end Rule

/-! ## Steps -/

/-- Patterns without a match are passed over. -/
theorem Subject.firstMatch_drop {text : Subject} {pos : Nat} : ∀ (k index : Nat) {ends : List (Option Nat)},
    (∀ i < k, ends[i]? = some none) →
      text.firstMatch pos index ends = text.firstMatch pos (index + k) (ends.drop k) := by
  intro k
  induction k with
  | zero =>
    intro index ends _
    rfl
  | succ k ih =>
    intro index ends hnone
    cases ends with
    | nil => cases hnone 0 (Nat.succ_pos k)
    | cons x rest =>
      have hx : x = none := by simpa using hnone 0 (Nat.succ_pos k)
      have hrest : text.firstMatch pos (index + 1) rest =
          text.firstMatch pos (index + 1 + k) (rest.drop k) :=
        ih (index + 1) fun i hi => hnone (i + 1) (by omega)
      rw [hx, firstMatch, hrest, List.drop_succ_cons, Nat.add_assoc, Nat.add_comm 1 k]

namespace Lexer

variable {lx : Lexer} {text : Subject} {pos : Nat}

/-- A match of a rule that moves on from `pos` inside the text. -/
structure IsMove (lx : Lexer) (text : Subject) (pos : Nat) (m : RuleMatch) : Prop where
  ofRule : m.index < lx.rules.length
  starts : m.start = pos
  moves : pos < m.stop
  inside : m.stop ≤ text.size
  spells : m.text = text.slice pos m.stop

/-- The match of the first rule whose own match at `pos` is not empty. -/
structure IsFirstMove (lx : Lexer) (text : Subject) (pos : Nat) (m : RuleMatch) : Prop where
  own : ∃ r, lx.rules[m.index]? = some r ∧ r.moveEnd text pos = some m.stop
  first : ∀ j < m.index, ∀ q, lx.rules[j]? = some q → q.moveEnd text pos = none
  starts : m.start = pos
  spells : m.text = text.slice pos m.stop

/-- Trying rules one by one finds the first move among theirs. -/
theorem firstOwnMatch?_eq (rules : List Rule) : ∀ index,
    firstOwnMatch? text pos index rules =
      text.firstMatch pos index (rules.map fun r => r.moveEnd text pos) := by
  induction rules with
  | nil =>
    intro index
    rfl
  | cons r rest ih =>
    intro index
    rw [firstOwnMatch?, Rule.ownMatch?_eq, List.map_cons]
    cases hr : r.moveEnd text pos with
    | some stop => rfl
    | none => exact ih (index + 1)

/-- The first match among those that `f` gives for the rules. -/
theorem firstMatch_map {f : Rule → Option Nat} {m : RuleMatch} :
    text.firstMatch pos 0 (lx.rules.map f) = some m ↔
      (∃ r, lx.rules[m.index]? = some r ∧ f r = some m.stop) ∧
        (∀ j < m.index, ∀ q, lx.rules[j]? = some q → f q = none) ∧
        m.start = pos ∧ m.text = text.slice pos m.stop := by
  rw [Subject.firstMatch_some]
  constructor
  · rintro ⟨j, stop, hstop, hbefore, rfl⟩
    rw [Nat.zero_add]
    rw [List.getElem?_map, Option.map_eq_some_iff] at hstop
    refine ⟨hstop, fun i hi q hq => ?_, rfl, rfl⟩
    have hnone := hbefore i hi
    rw [List.getElem?_map, hq] at hnone
    exact Option.some.inj hnone
  · rintro ⟨⟨r, hr, hend⟩, hfirst, rfl, hspells⟩
    refine ⟨m.index, m.stop, ?_, fun i hi => ?_, ?_⟩
    · rw [List.getElem?_map, hr, Option.map_some, hend]
    · -- Each rule before the one that matches is there, and gives no match.
      rcases List.getElem?_eq_some_iff.1 hr with ⟨hlt, -⟩
      have hq := List.getElem?_eq_getElem (Nat.lt_trans hi hlt)
      rw [List.getElem?_map, hq, Option.map_some, hfirst i hi _ hq]
    · rw [Nat.zero_add, ← hspells]

/-- A step by the first match of the composite pattern. -/
theorem probe_eq (hpos : pos ≤ text.size) :
    (lx.probe text pos).found =
      match text.firstMatch pos 0 (lx.composite.ends text pos) with
      | some m =>
        if pos < m.stop then some m
        else text.firstMatch pos (m.index + 1)
          ((lx.rules.drop (m.index + 1)).map fun r => r.moveEnd text pos)
      | none => none := by
  rw [probe, Composite.matchAt_eq parts_ne_nil hpos]
  cases hfirst : text.firstMatch pos 0 (lx.composite.ends text pos) with
  | none => rfl
  | some m =>
    rcases (Subject.firstMatch_some 0).1 hfirst with ⟨j, stop, -, -, rfl⟩
    simp only [firstOwnMatch?_eq]
    split <;> rfl

/-- A step that finds something moves on. -/
theorem probe_moves (hpos : pos ≤ text.size) {m : RuleMatch} (h : (lx.probe text pos).found = some m) :
    lx.IsMove text pos m := by
  rw [probe_eq hpos] at h
  cases hfirst : text.firstMatch pos 0 (lx.composite.ends text pos) with
  | none =>
    rw [hfirst] at h
    cases h
  | some found =>
    rcases (Subject.firstMatch_some 0).1 hfirst with ⟨j, stop, hstop, -, rfl⟩
    simp only [hfirst, Nat.zero_add] at h
    split at h
    · rename_i hmoves
      cases h
      rcases List.getElem?_eq_some_iff.1 hstop with ⟨hj, -⟩
      rw [ends_length] at hj
      exact ⟨hj, rfl, hmoves, (Composite.ends_le hpos hstop).2, rfl⟩
    · -- The match is empty, and one of the later rules moves on.
      rcases (Subject.firstMatch_some _).1 h with ⟨i, stop', hstop', -, rfl⟩
      rw [List.getElem?_map, Option.map_eq_some_iff] at hstop'
      rcases hstop' with ⟨r, hr, hmove⟩
      rw [List.getElem?_drop] at hr
      rcases List.getElem?_eq_some_iff.1 hr with ⟨hi, -⟩
      rcases Rule.moveEnd_eq_some.1 hmove with ⟨hend, hmoves⟩
      exact ⟨hi, rfl, hmoves, (Pattern.endAt_le hpos hend).2, rfl⟩

theorem rules_last : lx.rules[lx.fallbackIndex]? = some Rule.fallback := by
  simp [fallbackIndex, rules, withFallback]

/-- A step finds nothing only where the rule of last resort does not match. -/
theorem probe_stops (hpos : pos ≤ text.size) (h : (lx.probe text pos).found = none) :
    pos = text.size ∨ text.EndsLineAt pos := by
  refine Rule.fallback_stops hpos ?_
  have hlast : (lx.composite.ends text pos)[lx.fallbackIndex]? =
      some (Rule.fallback.pattern.endAt text pos) := ends_getElem? rules_last rfl
  rw [probe_eq hpos] at h
  cases hfirst : text.firstMatch pos 0 (lx.composite.ends text pos) with
  | none => exact (Subject.firstMatch_none 0).1 hfirst _ (List.mem_of_getElem? hlast)
  | some found =>
    rcases (Subject.firstMatch_some 0).1 hfirst with ⟨j, stop, hstop, hbefore, rfl⟩
    simp only [hfirst, Nat.zero_add] at h
    split at h
    · cases h
    · rename_i hempty
      -- The rule found is not the last one, whose matches are not empty.
      have hlt : j < lx.fallbackIndex := by
        rcases List.getElem?_eq_some_iff.1 hstop with ⟨hj, -⟩
        rw [ends_length] at hj
        refine lt_of_le_of_ne (Nat.le_sub_one_of_lt hj) ?_
        rintro rfl
        have hend := Option.some.inj (hlast.symm.trans hstop)
        rw [← Rule.fallback_moveEnd, Rule.moveEnd_eq_some] at hend
        exact hempty hend.2
      have hmem : Rule.fallback ∈ lx.rules.drop (j + 1) := by
        refine List.mem_of_getElem? (i := lx.fallbackIndex - (j + 1)) ?_
        rw [List.getElem?_drop, Nat.add_sub_cancel' hlt, rules_last]
      rw [← Rule.fallback_moveEnd]
      exact (Subject.firstMatch_none _).1 h _ (List.mem_map_of_mem hmem)

/-- Without references by number a step finds the first move among those of the rules. -/
theorem probe_eq_firstMatch (hpos : pos ≤ text.size)
    (hnumber : ∀ r ∈ lx.given, r.pattern.byNumber = false) :
    (lx.probe text pos).found =
      text.firstMatch pos 0 (lx.rules.map fun r => r.moveEnd text pos) := by
  rw [probe_eq hpos, ends_eq hnumber]
  cases hfirst : text.firstMatch pos 0 (lx.rules.map fun r => r.pattern.endAt text pos) with
  | none =>
    symm
    rw [Subject.firstMatch_none, List.forall_mem_map] at hfirst ⊢
    intro r hr
    rw [Rule.moveEnd, hfirst r hr]
    rfl
  | some m =>
    rcases (Subject.firstMatch_some 0).1 hfirst with ⟨j, stop, hstop, hbefore, rfl⟩
    obtain ⟨r, hr, hend⟩ : ∃ r, lx.rules[j]? = some r ∧ r.pattern.endAt text pos = some stop := by
      rwa [List.getElem?_map, Option.map_eq_some_iff] at hstop
    -- The rules before the one found do not match at all, so they are passed over.
    have hpassed : ∀ i < j, (lx.rules.map fun r => r.moveEnd text pos)[i]? = some none := by
      intro i hi
      have hnone := hbefore i hi
      rw [List.getElem?_map, Option.map_eq_some_iff] at hnone ⊢
      rcases hnone with ⟨q, hq, hqend⟩
      exact ⟨q, hq, by rw [Rule.moveEnd, hqend]; rfl⟩
    have hdrop : lx.rules.drop j = r :: lx.rules.drop (j + 1) := by
      rcases List.getElem?_eq_some_iff.1 hr with ⟨hj, rfl⟩
      exact List.drop_eq_getElem_cons hj
    rw [Subject.firstMatch_drop j 0 hpassed, ← List.map_drop, hdrop, List.map_cons, Rule.moveEnd, hend,
      Nat.zero_add]
    -- The rule found moves on itself, or the rules after it decide.
    by_cases hmoves : pos < stop
    · simp [hmoves, Option.filter, Subject.firstMatch]
    · simp [hmoves, Option.filter, Subject.firstMatch]

/-- A step never fails. Without references by number it finds the match of the first rule whose own match
is not empty, and nothing exactly if no rule has such a match. -/
theorem probe_found (lx : Lexer) (text : Subject) (pos : Nat) (hpos : pos ≤ text.size)
    (hnumber : ∀ r ∈ lx.given, r.pattern.byNumber = false) :
    (∃ found, lx.composite.matchAt text pos = .ok found) ∧
      (∀ m, (lx.probe text pos).found = some m ↔ lx.IsFirstMove text pos m) ∧
      ((lx.probe text pos).found = none ↔ ∀ r ∈ lx.rules, r.moveEnd text pos = none) := by
  refine ⟨⟨_, Composite.matchAt_eq parts_ne_nil hpos⟩, fun m => ?_, ?_⟩
  · rw [probe_eq_firstMatch hpos hnumber, firstMatch_map]
    exact ⟨fun ⟨hown, hfirst, hstarts, hspells⟩ => ⟨hown, hfirst, hstarts, hspells⟩,
      fun ⟨hown, hfirst, hstarts, hspells⟩ => ⟨hown, hfirst, hstarts, hspells⟩⟩
  · rw [probe_eq_firstMatch hpos hnumber, Subject.firstMatch_none, List.forall_mem_map]

/-- Rules for numbers, which may be empty, and for words. -/
def looseRules : List Entry := [.bare (.source "(?P<NUM>\\d*)"), .bare (.source "(?P<WORD>[a-z]+)")]

/-- In front of a word the empty number is passed over. -/
theorem probe_found_word :
    ∃ lx, (compile looseRules).result = .ok lx ∧ 0 ≤ "ab1".toList.toArray.size ∧
      (∀ r ∈ lx.given, r.pattern.byNumber = false) ∧
      (lx.probe "ab1".toList.toArray 0).found = some ⟨1, "ab", 0, 2⟩ := by
  obtain ⟨lx, hlx, hcheck⟩ := Logged.exists_ok (compile looseRules)
    (fun lx => lx.given.all (fun r => r.pattern.byNumber == false) &&
      (lx.rules.map fun r => r.moveEnd "ab1".toList.toArray 0) == [none, some 2, some 3])
    (by decide +kernel)
  rw [Bool.and_eq_true, List.all_eq_true, beq_iff_eq] at hcheck
  rcases hcheck with ⟨hall, hends⟩
  have hnumber : ∀ r ∈ lx.given, r.pattern.byNumber = false := fun r hr => beq_iff_eq.1 (hall r hr)
  refine ⟨lx, hlx, Nat.zero_le _, hnumber, ?_⟩
  rcases probe_found lx "ab1".toList.toArray 0 (Nat.zero_le _) hnumber with ⟨-, hfound, -⟩
  refine (hfound ⟨1, "ab", 0, 2⟩).2 ⟨?_, ?_, rfl, by decide +kernel⟩
  · have h := congrArg (·[1]?) hends
    simpa using h
  · intro j hj q hq
    cases Nat.lt_one_iff.1 hj
    have h := congrArg (·[0]?) hends
    simpa [hq] using h

end Lexer

end PatternLexer
