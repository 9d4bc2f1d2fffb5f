import PatternLexer.Proofs.Composite
import PatternLexer.Proofs.Search
import PatternLexer.Lexer

/-!
# The first rule that matches

A composite pattern finds the first of its branches that matches, and a branch matches where its pattern does
alone, unless the pattern refers to groups by number.

* `Composite.matchAt_eq` holds for all patterns: a match of the composite is that of its first branch with one,
  and never a fault.
* `Composite.ends_getElem?` says where a branch matches up to if its pattern has no references by number.
* `Lexer.composite_matchValue` puts them together for the rules of a lexer.
-/

namespace PatternLexer

/-! ## First matches -/

/-- The first match at `pos`, given for each pattern where it matches up to; `index` is that of the first. -/
def Subject.firstMatch (text : Subject) (pos : Nat) : (index : Nat) → List (Option Nat) → Option RuleMatch
  | _, [] => none
  | index, some stop :: _ => some ⟨index, text.slice pos stop, pos, stop⟩
  | index, none :: rest => text.firstMatch pos (index + 1) rest

namespace Subject

variable {text : Subject} {pos : Nat} {ends : List (Option Nat)} {m : RuleMatch}

/-- There is no first match exactly if there is no match. -/
theorem firstMatch_none : ∀ index, text.firstMatch pos index ends = none ↔ ∀ x ∈ ends, x = none := by
  induction ends with
  | nil => intro index; simp [firstMatch]
  | cons x rest ih =>
    intro index
    cases x with
    | none => simp [firstMatch, ih]
    | some stop => simp [firstMatch]

/-- The first match is the one before which there are none. -/
theorem firstMatch_some : ∀ index, text.firstMatch pos index ends = some m ↔
    ∃ j stop, ends[j]? = some (some stop) ∧ (∀ i < j, ends[i]? = some none) ∧
      m = ⟨index + j, text.slice pos stop, pos, stop⟩ := by
  induction ends with
  | nil => intro index; simp [firstMatch]
  | cons x rest ih =>
    intro index
    -- The first pattern decides if it has a match; otherwise places count from the next one.
    cases x with
    | some stop =>
      constructor
      · intro h
        cases h
        exact ⟨0, stop, rfl, fun i hi => absurd hi (Nat.not_lt_zero i), rfl⟩
      · rintro ⟨j, stop', hstop, hbefore, rfl⟩
        cases j with
        | zero =>
          cases hstop
          rfl
        | succ j => cases hbefore 0 (Nat.succ_pos j)
    | none =>
      rw [firstMatch, ih]
      constructor
      · rintro ⟨j, stop, hstop, hbefore, rfl⟩
        refine ⟨j + 1, stop, hstop, fun i hi => ?_, by rw [Nat.add_assoc, Nat.add_comm 1 j]⟩
        cases i with
        | zero => rfl
        | succ i => exact hbefore i (by omega)
      · rintro ⟨j, stop, hstop, hbefore, rfl⟩
        cases j with
        | zero => cases hstop
        | succ j =>
          exact ⟨j, stop, hstop, fun i hi => hbefore (i + 1) (by omega), by
            rw [Nat.add_assoc, Nat.add_comm 1 j]⟩

end Subject

/-! ## Branches of a composite -/

/-- Where the pattern alone matches up to, from `pos` on. -/
def Pattern.endAt (p : Pattern) (text : Subject) (pos : Nat) : Option Nat :=
  (p.matchAt text pos).map Progress.pos

/-- Where a branch of a composite pattern matches up to, from `pos` on. -/
def Tree.endAt (t : Tree) (text : Subject) (pos : Nat) : Option Nat :=
  (t.search text { unicode := true } (.start pos) some).map Progress.pos

/-- Where the branches of the composite pattern match up to, from `pos` on. -/
def Composite.ends (c : Composite) (text : Subject) (pos : Nat) : List (Option Nat) :=
  c.branches.map fun t => t.endAt text pos

/-- A match ends between its start and the end of the text. -/
theorem Tree.search_some {text : Subject} {t : Tree} {fs : Flags} {s r : Progress}
    (hs : s.pos ≤ text.size) (h : t.search text fs s some = some r) :
    s.pos ≤ r.pos ∧ r.pos ≤ text.size := by
  rcases t.search_forward text fs s some r hs h with ⟨u, hsu, hu, heq⟩
  cases heq
  exact ⟨hsu, hu⟩

/-- A match does not end before its start, and ends in the text. -/
theorem Pattern.endAt_le {p : Pattern} {text : Subject} {pos stop : Nat} (hpos : pos ≤ text.size)
    (h : p.endAt text pos = some stop) : pos ≤ stop ∧ stop ≤ text.size := by
  rcases Option.map_eq_some_iff.1 h with ⟨r, hr, rfl⟩
  exact Tree.search_some (s := Progress.start pos) hpos hr

theorem Tree.endAt_le {t : Tree} {text : Subject} {pos stop : Nat} (hpos : pos ≤ text.size)
    (h : t.endAt text pos = some stop) : pos ≤ stop ∧ stop ≤ text.size := by
  rcases Option.map_eq_some_iff.1 h with ⟨r, hr, rfl⟩
  exact Tree.search_some (s := Progress.start pos) hpos hr

/-- The body of a branch matches up to where the pattern alone does. -/
theorem Pattern.IsBody.endAt {p : Pattern} {g : Nat} {body : Tree} (h : p.IsBody g body)
    (hnumber : p.byNumber = false) (text : Subject) (pos : Nat) :
    (Tree.group g body).endAt text pos = p.endAt text pos := by
  -- All that was passed before is the opening of the group around the body.
  let before : List Mark := [⟨g, false, pos⟩]
  have hrenumbers := h.renumbers hnumber text before (by simp [before])
    (fun u => (u.after g before).closing g) (.start pos) some (fun u => some (u.closing g)) fun u => rfl
  have hsearch : (Tree.group g body).search text { unicode := true } (.start pos) some =
      (p.matchAt text pos).map fun u => (u.after g before).closing g := hrenumbers
  rw [Tree.endAt, hsearch, Option.map_map]
  rfl

namespace Parted

variable {g : Nat} {ps : List Pattern} {ts : List Tree}

/-- The composite pattern has a part for every pattern. -/
theorem length (h : Parted g ps ts) : ts.length = ps.length := by
  induction h with
  | nil => rfl
  | cons _ _ ih => simp [ih]

/-- Each branch belongs to the pattern in its place. -/
theorem endAt (h : Parted g ps ts) (text : Subject) (pos : Nat) :
    ∀ {i : Nat} {p : Pattern}, ps[i]? = some p → p.byNumber = false →
      (ts.map fun t => t.endAt text pos)[i]? = some (p.endAt text pos) := by
  induction h with
  | nil =>
    intro i p hp
    cases hp
  | cons hbody _ ih =>
    intro i p hp hnumber
    cases i with
    | zero =>
      cases hp
      exact congrArg some (hbody.endAt hnumber text pos)
    | succ i => exact ih hp hnumber

/-- The ordered alternatives are tried in order. -/
theorem search_eq (h : Parted g ps ts) (hne : ps ≠ []) (text : Subject) (fs : Flags) (s : Progress)
    (next : Next) :
    (Tree.ofAlternatives (ts.map ([·]))).search text fs s next =
      ts.findSome? fun t => t.search text fs s next := by
  induction h with
  | nil => exact absurd rfl hne
  | cons hbody hrest ih =>
    cases hrest with
    | nil =>
      simp only [List.map_cons, List.map_nil, Tree.ofAlternatives, Tree.ofList, List.findSome?]
      split <;> simp_all
    | cons hbody' hrest' =>
      -- Two branches at least: the tree is an alternative of the first and the tree of the others.
      have hmore := ih (by simp)
      rw [List.map_cons] at hmore
      rw [List.map_cons, List.map_cons, Tree.ofAlternatives, Tree.ofList, Tree.search, hmore]
      · generalize hrest : List.findSome? _ (_ :: _) = found
        rw [List.findSome?_cons, hrest]
        split <;> simp_all only
      · simp

/-- The group that is closed last tells which branch matched. -/
theorem owner (h : Parted g ps ts) {text : Subject} {pos : Nat} (hpos : pos ≤ text.size)
    {r : Progress} : ∀ index,
    (ts.findSome? fun t => t.search text { unicode := true } (.start pos) some) = some r →
    ∃ last i, r.lastClosed? = some last ∧ g ≤ last ∧
      (Composite.ownersFrom g index ps).lookup last = some i ∧
      text.firstMatch pos index (ts.map fun t => t.endAt text pos) =
        some ⟨i, text.slice pos r.pos, pos, r.pos⟩ := by
  induction h with
  | nil =>
    intro index hr
    cases hr
  | @cons g p ps body ts hbody hrest ih =>
    intro index hr
    rw [List.findSome?_cons] at hr
    cases hfirst : (Tree.group g body).search text { unicode := true } (.start pos) some with
    | some s =>
      -- The first branch matches, and its group is the last to be closed.
      rw [hfirst] at hr
      cases hr
      have hclosed : ∃ u : Progress, r = u.closing g := by
        obtain ⟨u, -, -, hu⟩ := body.search_forward text { unicode := true }
          ((Progress.start pos).opening g) (fun t => some (t.closing g)) r hpos hfirst
        exact ⟨u, (Option.some.inj hu).symm⟩
      rcases hclosed with ⟨u, rfl⟩
      refine ⟨g, index, rfl, Nat.le_refl g, by simp [Composite.ownersFrom], ?_⟩
      simp only [List.map_cons, Tree.endAt, hfirst, Option.map_some, Subject.firstMatch]
    | none =>
      -- It does not, and the groups of the later branches have other numbers.
      rw [hfirst] at hr
      rcases ih (index + 1) hr with ⟨last, i, hlast, hle, hlookup, hmatch⟩
      have hne : (last == g) = false := by
        rw [beq_eq_false_iff_ne]
        omega
      refine ⟨last, i, hlast, by omega, ?_, ?_⟩
      · rw [Composite.ownersFrom, List.lookup_cons, hne]
        exact hlookup
      · rw [List.map_cons]
        simp only [Tree.endAt, hfirst, Option.map_none, Subject.firstMatch]
        exact hmatch

end Parted

namespace Composite

variable {c : Composite} {text : Subject} {pos : Nat}

/-- Matching a composite pattern never fails, and finds the match of its first branch that has one. -/
theorem matchAt_eq (hne : c.parts ≠ []) (hpos : pos ≤ text.size) :
    c.matchAt text pos = .ok (text.firstMatch pos 0 (c.ends text pos)) := by
  rcases c.parted hne with ⟨hparted, htree, hflags⟩
  have hsearch : c.pattern.matchAt text pos =
      c.branches.findSome? fun t => t.search text { unicode := true } (.start pos) some := by
    rw [Pattern.matchAt, hflags, htree, hparted.search_eq hne]
  unfold matchAt
  rw [hsearch]
  cases hr : c.branches.findSome? fun t => t.search text { unicode := true } (.start pos) some with
  | none =>
    have hnone : text.firstMatch pos 0 (c.ends text pos) = none := by
      rw [Subject.firstMatch_none, ends]
      intro x hx
      rcases List.mem_map.1 hx with ⟨t, ht, rfl⟩
      rw [Tree.endAt, List.findSome?_eq_none_iff.1 hr t ht]
      rfl
    rw [hnone]
  | some r =>
    rcases hparted.owner hpos 0 hr with ⟨last, i, hlast, -, hlookup, hmatch⟩
    simp only [hlast, owners, hlookup, ends, hmatch]

/-- There is an answer for every part. -/
theorem ends_length (hne : c.parts ≠ []) : (c.ends text pos).length = c.parts.length := by
  rw [ends, List.length_map, (c.parted hne).1.length]

/-- The branch of a pattern without references by number matches where the pattern does alone. -/
theorem ends_getElem? {i : Nat} {p : Pattern} (hp : c.parts[i]? = some p)
    (hnumber : p.byNumber = false) : (c.ends text pos)[i]? = some (p.endAt text pos) := by
  have hne : c.parts ≠ [] := by
    intro hnil
    rw [hnil] at hp
    cases hp
  exact (c.parted hne).1.endAt text pos hp hnumber

/-- A branch matches up to a place between its start and the end of the text. -/
theorem ends_le (hpos : pos ≤ text.size) {i stop : Nat} (h : (c.ends text pos)[i]? = some (some stop)) :
    pos ≤ stop ∧ stop ≤ text.size := by
  rcases List.mem_map.1 (List.mem_of_getElem? h) with ⟨t, -, ht⟩
  exact Tree.endAt_le hpos ht

end Composite

/-! ## Rules of a lexer -/

namespace Lexer

variable {lx : Lexer} {text : Subject} {pos : Nat}

/-- The match of the first rule whose own pattern matches at `pos`, be it empty. -/
structure IsFirstMatch (lx : Lexer) (text : Subject) (pos : Nat) (m : RuleMatch) : Prop where
  own : ∃ r, lx.rules[m.index]? = some r ∧ r.pattern.endAt text pos = some m.stop
  first : ∀ j < m.index, ∀ q, lx.rules[j]? = some q → q.pattern.endAt text pos = none
  starts : m.start = pos
  spells : m.text = text.slice pos m.stop

/-- No rule up to the one at `index` refers to groups by number. -/
def UnnumberedTo (lx : Lexer) (index : Nat) : Prop :=
  ∀ j ≤ index, ∀ q, lx.rules[j]? = some q → q.pattern.byNumber = false

/-- A lexer has a part at least for its fallback rule. -/
theorem parts_ne_nil : lx.composite.parts ≠ [] := by
  rw [lx.isOfRules]
  simp [withFallback]

theorem ends_length : (lx.composite.ends text pos).length = lx.rules.length := by
  rw [Composite.ends_length parts_ne_nil, lx.isOfRules, List.length_map, rules]

theorem ends_getElem? {i : Nat} {r : Rule} (hr : lx.rules[i]? = some r)
    (hnumber : r.pattern.byNumber = false) :
    (lx.composite.ends text pos)[i]? = some (r.pattern.endAt text pos) := by
  refine Composite.ends_getElem? ?_ hnumber
  rw [lx.isOfRules, List.getElem?_map]
  exact congrArg (Option.map Rule.pattern) hr

/-- Each branch is that of a rule. -/
theorem exists_rule {i : Nat} {x : Option Nat} (h : (lx.composite.ends text pos)[i]? = some x) :
    ∃ r, lx.rules[i]? = some r := by
  rcases List.getElem?_eq_some_iff.1 h with ⟨hi, -⟩
  rw [ends_length] at hi
  exact ⟨_, List.getElem?_eq_getElem hi⟩

/-- Without references by number the first branch that matches is that of the first rule that does. -/
theorem firstMatch_ends {m : RuleMatch} (hnumber : lx.UnnumberedTo m.index) :
    text.firstMatch pos 0 (lx.composite.ends text pos) = some m ↔ lx.IsFirstMatch text pos m := by
  rw [Subject.firstMatch_some]
  constructor
  · rintro ⟨j, stop, hstop, hbefore, rfl⟩
    rw [Nat.zero_add] at hnumber ⊢
    refine ⟨?_, fun i hi q hq => ?_, rfl, rfl⟩
    · rcases exists_rule hstop with ⟨r, hr⟩
      have hown : (lx.composite.ends text pos)[j]? = some (r.pattern.endAt text pos) :=
        ends_getElem? hr (hnumber j (Nat.le_refl j) r hr)
      exact ⟨r, hr, Option.some.inj (hown.symm.trans hstop)⟩
    · have hown : (lx.composite.ends text pos)[i]? = some (q.pattern.endAt text pos) :=
        ends_getElem? hq (hnumber i (Nat.le_of_lt hi) q hq)
      exact Option.some.inj (hown.symm.trans (hbefore i hi))
  · rintro ⟨⟨r, hr, hstop⟩, hfirst, rfl, hspells⟩
    refine ⟨m.index, m.stop, ?_, fun i hi => ?_, ?_⟩
    · rw [ends_getElem? hr (hnumber m.index (Nat.le_refl _) r hr), hstop]
    · have hlt : i < lx.rules.length := by
        rcases List.getElem?_eq_some_iff.1 hr with ⟨h, -⟩
        omega
      have hq := List.getElem?_eq_getElem hlt
      rw [ends_getElem? hq (hnumber i (Nat.le_of_lt hi) _ hq), hfirst i hi _ hq]
    · rw [Nat.zero_add, ← hspells]

/-- What holds of the rules given and of the rule of last resort holds of all rules. -/
theorem forall_rules {P : Rule → Prop} (hgiven : ∀ r ∈ lx.given, P r) (hlast : P Rule.fallback) :
    ∀ r ∈ lx.rules, P r := by
  intro r hr
  rw [rules, withFallback, List.mem_append, List.mem_singleton] at hr
  rcases hr with hr | rfl
  · exact hgiven r hr
  · exact hlast

/-- Without references by number the branches match up to where the rules do. -/
theorem ends_eq (hnumber : ∀ r ∈ lx.given, r.pattern.byNumber = false) :
    lx.composite.ends text pos = lx.rules.map fun r => r.pattern.endAt text pos := by
  refine List.ext_getElem? fun i => ?_
  rw [List.getElem?_map]
  cases hr : lx.rules[i]? with
  | some r => exact ends_getElem? hr (forall_rules hnumber rfl r (List.mem_of_getElem? hr))
  | none =>
    rw [List.getElem?_eq_none_iff] at hr
    rw [Option.map_none, List.getElem?_eq_none_iff, ends_length]
    exact hr

/-- Matching the composite pattern at an integer of machine size never fails, and a match lies at the
offset that the integer stands for. If no rule up to that of the match refers to groups by number, it is
the match of the first rule that has one; if no rule does, there is a match as soon as a rule has one. -/
theorem composite_matchValue (lx : Lexer) (s : String) (n : Int)
    (hn : -Value.machineLimit ≤ n ∧ n < Value.machineLimit) :
    ∃ (text : Subject) (pos : Nat) (found : Option RuleMatch),
      text = s.toList.toArray ∧ pos = min n.toNat text.size ∧
      lx.composite.matchValue (.str s) (.int n) = .ok found ∧
      (∀ m, found = some m → m.index < lx.rules.length ∧ m.start = pos ∧ pos ≤ m.stop ∧
        m.stop ≤ text.size ∧ m.text = text.slice pos m.stop) ∧
      (∀ m, lx.UnnumberedTo m.index → (found = some m ↔ lx.IsFirstMatch text pos m)) ∧
      ((∀ r ∈ lx.given, r.pattern.byNumber = false) →
        (found = none ↔ ∀ r ∈ lx.rules, r.pattern.endAt text pos = none)) := by
  let text : Subject := s.toList.toArray
  let pos := min n.toNat text.size
  have hpos : pos ≤ text.size := Nat.min_le_right _ _
  refine ⟨text, pos, text.firstMatch pos 0 (lx.composite.ends text pos), rfl, rfl, ?_, ?_, ?_, ?_⟩
  · have hmatch : lx.composite.matchValue (.str s) (.int n) = lx.composite.matchAt text pos := by
      rw [Composite.matchValue, Value.offset, if_pos hn]
      rfl
    rw [hmatch, Composite.matchAt_eq parts_ne_nil hpos]
  · intro m hm
    rcases (Subject.firstMatch_some 0).1 hm with ⟨j, stop, hstop, -, rfl⟩
    rcases List.getElem?_eq_some_iff.1 hstop with ⟨hj, -⟩
    rcases Composite.ends_le hpos hstop with ⟨hle, hsize⟩
    rw [ends_length] at hj
    exact ⟨by rwa [Nat.zero_add], rfl, hle, hsize, rfl⟩
  · exact fun m => firstMatch_ends
  · intro hnumber
    rw [Subject.firstMatch_none, ends_eq hnumber, List.forall_mem_map]

/-- Rules for blanks and for quoted words, the closing quote being the one that opened the word. -/
def quotedRules : List Entry :=
  [.bare (.source "(?P<WS> +)"), .bare (.source "(?P<STR>(['\"])[a-z]*\\2)")]

/-- Blanks in front of a quoted word are found, the rule for them being unnumbered. -/
theorem composite_matchValue_blanks :
    ∃ lx, (compile quotedRules).result = .ok lx ∧ (-Value.machineLimit ≤ -3 ∧ -3 < Value.machineLimit) ∧
      lx.composite.matchValue (.str "  'ab'") (.int (-3)) = .ok (some ⟨0, "  ", 0, 2⟩) := by
  obtain ⟨lx, hlx, hcheck⟩ := Logged.exists_ok (compile quotedRules)
    (fun lx => (lx.rules.map fun r => r.pattern.byNumber) == [false, true, false] &&
      (lx.rules.map fun r => r.pattern.endAt "  'ab'".toList.toArray 0) == [some 2, none, some 6])
    (by decide +kernel)
  rw [Bool.and_eq_true, beq_iff_eq, beq_iff_eq] at hcheck
  rcases hcheck with ⟨hnumber, hends⟩
  have hn : -Value.machineLimit ≤ -3 ∧ -3 < Value.machineLimit := by decide
  refine ⟨lx, hlx, hn, ?_⟩
  rcases composite_matchValue lx "  'ab'" (-3) hn with ⟨_, _, found, rfl, rfl, hfound, -, hfirst, -⟩
  have hunnumbered : lx.UnnumberedTo 0 := by
    intro j hj q hq
    cases Nat.le_zero.1 hj
    have h := congrArg (·[0]?) hnumber
    simpa [hq] using h
  have hown : ∃ r, lx.rules[0]? = some r ∧ r.pattern.endAt "  'ab'".toList.toArray 0 = some 2 := by
    have h := congrArg (·[0]?) hends
    simpa using h
  -- The rule for quoted words comes later, so its reference by number does not matter.
  have hmatch := (hfirst ⟨0, "  ", 0, 2⟩ hunnumbered).2
    ⟨hown, fun j hj => absurd hj (Nat.not_lt_zero j), rfl, by decide +kernel⟩
  rw [hfound, hmatch]

/-- In the composite pattern the rule for quoted words refers to a group of the rule for blanks, so that a word
which the rule matches alone is left to the rule of last resort. -/
theorem composite_misses_quotes :
    ∃ lx, (compile quotedRules).result = .ok lx ∧
      lx.IsFirstMatch "'ab'".toList.toArray 0 ⟨1, "'ab'", 0, 4⟩ ∧
      lx.composite.matchValue (.str "'ab'") (.int 0) = .ok (some ⟨2, "'ab'", 0, 4⟩) := by
  obtain ⟨lx, hlx, hcheck⟩ := Logged.exists_ok (compile quotedRules)
    (fun lx => (lx.composite.matchValue (.str "'ab'") (.int 0)).toOption ==
        some (some ⟨2, "'ab'", 0, 4⟩) &&
      (lx.rules.map fun r => r.pattern.endAt "'ab'".toList.toArray 0) == [none, some 4, some 4])
    (by decide +kernel)
  rw [Bool.and_eq_true, beq_iff_eq, beq_iff_eq] at hcheck
  rcases hcheck with ⟨hfound, hends⟩
  refine ⟨lx, hlx, ⟨?_, ?_, rfl, by decide +kernel⟩, ?_⟩
  · have h := congrArg (·[1]?) hends
    simpa using h
  · intro j hj q hq
    cases Nat.lt_one_iff.1 hj
    have h := congrArg (·[0]?) hends
    simpa [hq] using h
  · cases h : lx.composite.matchValue (.str "'ab'") (.int 0) with
    | ok found =>
      rw [h] at hfound
      rw [Option.some.inj hfound]
    | error e =>
      rw [h] at hfound
      cases hfound

end Lexer

end PatternLexer
