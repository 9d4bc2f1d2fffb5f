import Mathlib.Data.List.Forall2
import Mathlib.Data.List.Nodup
import PatternLexer.Lexer
import PatternLexer.Proofs.Refusal

/-!
# Which rule lists are refused

* `Entry.rule?` is the rule that an entry stands for, wherever it is in a list; `Lexer.checkFrom_rules` says that a
  list without bad entries comes to these rules, and `Lexer.checkFrom_ok` that it does if their names are new and
  differ.
* `Lexer.checkEntry_spec` is about one entry: it stands for a rule, or is bad and its check ends with the fault that
  tells why.
* `Lexer.checkFrom_spec` is about the entries of a list, one after the other.
* `Lexer.compile_validates`: a list is refused exactly if one of its entries is bad, and with the fault of the first
  such entry, an error about a rule unless the entry lets another one out.
-/

namespace PatternLexer

open List (Forall₂)

/-! ## Rules of entries -/

theorem PatternInput.toPattern_anywhere {input : PatternInput} {p : CompiledPattern} {i : Nat}
    (h : input.toPattern i = .ok p) (j : Nat) : input.toPattern j = .ok p := by
  cases input with
  | source _ | compiled _ | bytes _ => exact h
  | other t => cases h

namespace CompiledPattern

variable {p : CompiledPattern} {name : String} {place : Option Nat}

theorem names_eq (h : p.groupName place = .ok name) : ∃ g, p.names = [(name, g)] := by
  rcases Entry.names_cases p with ⟨name', g, hnames⟩ | hcount
  · cases (Entry.groupName_ok hnames place).symm.trans h
    exact ⟨g, hnames⟩
  · cases (Entry.groupName_error hcount place).symm.trans h

/-- The place of an entry only matters for the complaint about names. -/
theorem groupName_anywhere (h : p.groupName place = .ok name) (place' : Option Nat) :
    p.groupName place' = .ok name := by
  obtain ⟨g, hnames⟩ := names_eq h
  exact Entry.groupName_ok hnames place'

end CompiledPattern

/-- The name of a pattern with one named group is found at any place. -/
theorem Pattern.groupName_ok {p : Pattern} {name : String} {g : Nat} (h : p.names = [(name, g)])
    (place : Option Nat) : p.groupName place = .ok name :=
  Entry.groupName_ok (p := .text p) h place

/-- The draft of a rule. -/
def Rule.draft (r : Rule) : Draft := ⟨r.name, .text r.pattern, r.skip, r.hook⟩

/-- A draft comes to a rule if it is one of a rule. -/
theorem Draft.toRule_eq_ok {d : Draft} {r : Rule} : d.toRule = .ok r ↔ d = r.draft := by
  constructor
  · intro h
    rcases d with ⟨name, p | p, skip, hook⟩
    · cases h
      rfl
    · cases h
  · rintro rfl
    rfl

namespace Entry

variable {input : PatternInput} {hook : Option Hook} {r : Rule} {d : Draft} {i : Nat}

/-- An entry stands for the rule that it asks for. -/
theorem toRule_eq_ok {e : Entry} : e.toRule i = .ok r ↔ e.draft i = .ok r.draft := by
  rw [toRule, Except.bind_eq_ok]
  simp only [Draft.toRule_eq_ok, exists_eq_right]

/-- A pair asks for a rule with its options. -/
theorem draft_pair {skip : Bool} : (pair input skip hook).draft i = .ok d ↔
    ∃ p name, input.toPattern i = .ok p ∧ p.groupName (some i) = .ok name ∧
      d = ⟨name, p, .bool skip, hook⟩ := by
  constructor
  · intro h
    obtain ⟨p, hp, h⟩ := Except.bind_eq_ok.1 h
    obtain ⟨name, hname, h⟩ := Except.bind_eq_ok.1 h
    exact ⟨p, name, hp, hname, (Except.ok.inj h).symm⟩
  · rintro ⟨p, name, hp, hname, rfl⟩
    exact Except.bind_eq_ok.2 ⟨p, hp, Except.bind_eq_ok.2 ⟨name, hname, rfl⟩⟩

/-- An entry that was built as a rule has to bear the name of its pattern. -/
theorem draft_rule {given skip : Value} : (rule given input skip hook).draft i = .ok d ↔
    ∃ p name, input.compiled? = some p ∧ p.groupName (some i) = .ok name ∧ given = .str name ∧
      d = ⟨name, p, skip, hook⟩ := by
  constructor
  · intro h
    cases hp : input.compiled? with
    | none =>
      simp only [draft, hp] at h
      cases h
    | some p =>
      rcases names_cases p with ⟨name, g, hnames⟩ | hcount
      · by_cases hsame : given = .str name
        · subst hsame
          cases (draft_match hp hnames).symm.trans h
          exact ⟨p, name, rfl, groupName_ok hnames _, rfl, rfl⟩
        · rw [draft_mismatch hp hnames hsame] at h
          obtain ⟨_, -, ⟨⟩⟩ := Except.bind_eq_ok.1 h
      · cases (draft_unnamed hp hcount).symm.trans h
  · rintro ⟨p, name, hp, hname, rfl, rfl⟩
    obtain ⟨g, hnames⟩ := CompiledPattern.names_eq hname
    exact draft_match hp hnames

/-- A rule has to bear the name of its pattern. -/
theorem toRule_compiled {given skip : Value} {p : Pattern} :
    (rule given (.compiled p) skip hook).toRule i = .ok r ↔
      ∃ name, p.groupName (some i) = .ok name ∧ given = .str name ∧ r = ⟨name, p, skip, hook⟩ := by
  rw [toRule_eq_ok, draft_rule]
  constructor
  · rintro ⟨_, name, ⟨⟩, hname, hgiven, hdraft⟩
    injection hdraft with hrname hpattern hskip hhook
    rcases r with ⟨_, _, _, _⟩
    cases hrname
    cases hpattern
    cases hskip
    cases hhook
    exact ⟨_, hname, hgiven, rfl⟩
  · rintro ⟨name, hname, hgiven, rfl⟩
    exact ⟨_, name, rfl, hname, hgiven, rfl⟩

/-- The place of an entry only matters for complaints about it. -/
theorem draft_anywhere {e : Entry} (h : e.draft i = .ok d) (j : Nat) : e.draft j = .ok d := by
  have hpair : ∀ {input : PatternInput} {skip : Bool} {hook : Option Hook},
      (pair input skip hook).draft i = .ok d → (pair input skip hook).draft j = .ok d := by
    intro input skip hook h
    obtain ⟨p, name, hp, hname, rfl⟩ := draft_pair.1 h
    exact draft_pair.2 ⟨p, name, PatternInput.toPattern_anywhere hp j, CompiledPattern.groupName_anywhere hname _, rfl⟩
  cases e with
  | bare input => exact hpair h
  | pair input skip hook => exact hpair h
  | malformedPair => cases h
  | rule given input skip hook =>
    obtain ⟨p, name, hp, hname, hgiven, rfl⟩ := draft_rule.1 h
    exact draft_rule.2 ⟨p, name, hp, CompiledPattern.groupName_anywhere hname _, hgiven, rfl⟩

/-- The name that an entry asks for is that of the only named group of its pattern. -/
theorem draft_names {e : Entry} (h : e.draft i = .ok d) : ∃ g, d.pattern.names = [(d.name, g)] := by
  have hpair : ∀ {input : PatternInput} {skip : Bool} {hook : Option Hook},
      (pair input skip hook).draft i = .ok d → ∃ g, d.pattern.names = [(d.name, g)] := by
    intro input skip hook h
    obtain ⟨p, name, -, hname, rfl⟩ := draft_pair.1 h
    exact CompiledPattern.names_eq hname
  cases e with
  | bare input => exact hpair h
  | pair input skip hook => exact hpair h
  | malformedPair => cases h
  | rule given input skip hook =>
    obtain ⟨p, name, -, hname, -, rfl⟩ := draft_rule.1 h
    exact CompiledPattern.names_eq hname

theorem toRule_anywhere {e : Entry} (h : e.toRule i = .ok r) (j : Nat) : e.toRule j = .ok r :=
  toRule_eq_ok.2 (draft_anywhere (toRule_eq_ok.1 h) j)

/-- The name of a rule is that of the only named group of its pattern. -/
theorem toRule_names {e : Entry} (h : e.toRule i = .ok r) : ∃ g, r.pattern.names = [(r.name, g)] :=
  draft_names (toRule_eq_ok.1 h)

/-- The rule that an entry stands for, if it does. -/
def rule? (e : Entry) : Option Rule := (e.toRule 0).toOption

/-- Where an entry stands does not matter to the rule that is made of it. -/
theorem rule?_eq_some {e : Entry} : e.rule? = some r ↔ e.toRule i = .ok r := by
  have hfirst : e.rule? = some r ↔ e.toRule 0 = .ok r := by
    rw [rule?]
    cases e.toRule 0 <;> simp [Except.toOption]
  rw [hfirst]
  exact ⟨fun h => toRule_anywhere h i, fun h => toRule_anywhere h 0⟩

/-- The rule of a pair has its hook. -/
theorem rule?_hook {skip : Bool} (h : (pair input skip hook).rule? = some r) : r.hook = hook := by
  obtain ⟨p, name, -, -, hdraft⟩ := draft_pair.1 (toRule_eq_ok.1 (rule?_eq_some (i := 0).1 h))
  exact congrArg Draft.hook hdraft

end Entry

/-! ## Lists of entries -/

namespace Lexer

variable {before : List Value} {seen : List String} {index : Nat} {v : Value}

/-- The names seen are those of the entries before. -/
def Knows (seen : List String) (before : List Value) : Prop :=
  ∀ name, name ∈ seen ↔ ∃ u ∈ before, u.HasName name

/-- An entry against whose name nothing is said stands for a rule, or its pattern was compiled from bytes. -/
theorem toRule_spec {d : Draft} (hasks : v.AsksFor d) (hnamed : v.IsNamed d.name)
    (hsaid : ∀ c, ¬ v.SpeaksAgainst before c) :
    (∃ r, d.toRule = .ok r ∧ v.StandsFor r ∧ v.HasName r.name ∧ ¬ v.IsBad before) ∨
      ∃ e, d.toRule = .error e ∧ v.Escapes before e := by
  have hwritten : ∀ e, ¬ v.HidesName e := fun e he => he.not_isNamed _ hnamed
  rcases d with ⟨name, p | p, skip, hook⟩
  · left
    refine ⟨⟨name, p, skip, hook⟩, rfl, ?_, hnamed.hasName, ?_⟩
    · exact ⟨Value.entryCompiled?_eq_text.1 hasks.pattern, hasks.name, hasks.options⟩
    · rintro (⟨c, hc⟩ | ⟨e, he⟩ | ⟨q, hq⟩ | ⟨t, ht⟩)
      · exact hsaid c hc
      · exact hwritten e he
      · cases hasks.pattern.symm.trans hq
      · exact ht.not_hasName _ hnamed.hasName
  · exact .inr ⟨_, rfl, .bytes ⟨p, hasks.pattern⟩ hsaid hwritten⟩

/-- One entry stands for a rule, or its check ends with the fault that tells why not. -/
theorem checkEntry_spec (hv : v.IsProper) (hseen : Knows seen before) (index : Nat) :
    (∃ r, checkEntry seen index (.ofValue v) = .ok r ∧ v.StandsFor r ∧ v.HasName r.name ∧ ¬ v.IsBad before) ∨
      ∃ e, checkEntry seen index (.ofValue v) = .error e ∧ Entry.Stopped before index v e := by
  have hspec := Entry.draft_spec hv before index
  unfold checkEntry
  cases hd : (Entry.ofValue v).draft index with
  | error e =>
    rw [hd] at hspec
    exact .inr ⟨e, rfl, hspec⟩
  | ok d =>
    rw [hd] at hspec
    obtain ⟨hasks, hnamed⟩ := hspec
    show (∃ r', (if isReserved d.name then _ else _) = _ ∧ _) ∨ ∃ e, (if isReserved d.name then _ else _) = _ ∧ _
    have hwritten : ∀ e, ¬ v.HidesName e := fun e he => he.not_isNamed _ hnamed
    have hsource : v.entryCompiled?.map CompiledPattern.source = some d.pattern.source := by
      rw [hasks.pattern]
      rfl
    -- The entry asks for a rule, so only its name can still speak against it.
    by_cases hreserved : isReserved d.name = true
    · rw [if_pos hreserved]
      have hsaid : v.SpeaksAgainst before (.reservedName d.name) := ⟨hnamed.hasName, hreserved⟩
      refine .inr ⟨_, rfl, .inl ⟨_, ⟨⟨hsaid, fun c hc => hc.of_named hnamed⟩, hwritten⟩, ?_⟩⟩
      rw [hsource]
    · rw [if_neg hreserved]
      have hfree : isReserved d.name = false := by simpa using hreserved
      by_cases hknown : d.name ∈ seen
      · rw [if_pos (List.contains_iff_mem.2 hknown)]
        have hsaid : v.SpeaksAgainst before (.duplicateName d.name) :=
          ⟨hnamed.hasName, (hseen d.name).1 hknown⟩
        refine .inr ⟨_, rfl, .inl ⟨_, ⟨⟨hsaid, fun c hc => ?_⟩, hwritten⟩, ?_⟩⟩
        · exact Nat.le_of_eq (hc.of_unreserved hnamed hfree).1.symm
        · rw [hsource]
      · rw [if_neg fun h => hknown (List.contains_iff_mem.1 h)]
        have hsaid : ∀ c, ¬ v.SpeaksAgainst before c := fun c hc =>
          hknown ((hseen d.name).2 (hc.of_unreserved hnamed hfree).2)
        rcases toRule_spec hasks hnamed hsaid with hrule | ⟨e, he, hescapes⟩
        · exact .inl hrule
        · exact .inr ⟨e, he, .inr hescapes⟩

theorem Knows.concat (hseen : Knows seen before) {name : String} (hname : v.HasName name) :
    Knows (name :: seen) (before ++ [v]) := by
  intro other
  constructor
  · intro h
    rcases List.mem_cons.1 h with rfl | hold
    · exact ⟨v, List.mem_append_right _ (List.mem_singleton_self v), hname⟩
    · obtain ⟨u, hu, hother⟩ := (hseen other).1 hold
      exact ⟨u, List.mem_append_left _ hu, hother⟩
  · rintro ⟨u, hu, hother⟩
    rcases List.mem_append.1 hu with hold | hnew
    · exact List.mem_cons_of_mem _ ((hseen other).2 ⟨u, hold, hother⟩)
    · rw [List.mem_singleton.1 hnew] at hother
      rw [hother.unique hname]
      exact List.mem_cons_self

/-- What the check of a list comes to, records aside: its first entry, then the others. -/
theorem checkFrom_cons (seen : List String) (index : Nat) (e : Entry) (rest : List Entry) :
    (checkFrom seen index (e :: rest)).result = (do
      let r ← checkEntry seen index e
      let others ← (checkFrom (r.name :: seen) (index + 1) rest).result
      Except.ok (r :: others)) := by
  rw [checkFrom, Logged.result_bind, Logged.result_ofExcept]
  congr 1
  funext r
  -- The record about empty matches is made or not.
  cases r.pattern.matchesEmpty with
  | false => exact Logged.result_bind _ _
  | true => exact (Logged.result_bind _ _).trans (Logged.result_bind _ _)

/-- The entries are checked one after the other until the check of one ends with a fault. -/
theorem checkFrom_spec (vs : List Value) : ∀ (before : List Value) (seen : List String) (index : Nat),
    (∀ v ∈ vs, v.IsProper) → Knows seen before →
    (∃ given, (checkFrom seen index (vs.map Entry.ofValue)).result = .ok given ∧
        Forall₂ Value.StandsFor vs given ∧ Value.AllGood before vs) ∨
      ∃ e i v, (checkFrom seen index (vs.map Entry.ofValue)).result = .error e ∧ vs[i]? = some v ∧
        Value.AllGood before (vs.take i) ∧ Entry.Stopped (before ++ vs.take i) (index + i) v e := by
  -- `before` are the entries checked so far, and `seen` the names of their rules: what is said against an entry
  -- depends on both.
  induction vs with
  | nil => exact fun before seen index _ _ => .inl ⟨[], rfl, .nil, Value.allGood_nil before⟩
  | cons v rest ih =>
    intro before seen index hproper hseen
    have hv : v.IsProper := hproper v List.mem_cons_self
    have hrest : ∀ u ∈ rest, u.IsProper := fun u hu => hproper u (List.mem_cons_of_mem v hu)
    rw [List.map_cons, checkFrom_cons]
    rcases checkEntry_spec hv hseen index with ⟨r, hr, hstands, hname, hgood⟩ | ⟨e, he, hstopped⟩
    · rw [hr]
      rcases ih (before ++ [v]) (r.name :: seen) (index + 1) hrest (hseen.concat hname) with
        ⟨given, hgiven, hall, hclean⟩ | ⟨e, i, u, he, hu, hclean, hstopped⟩
      · refine .inl ⟨r :: given, ?_, .cons hstands hall, Value.allGood_cons.2 ⟨hgood, hclean⟩⟩
        show ((checkFrom _ _ _).result >>= _) = _
        rw [hgiven]
        rfl
      · rw [← List.append_cons, ← List.take_succ_cons, Nat.add_assoc, Nat.add_comm 1 i] at hstopped
        refine .inr ⟨e, i + 1, u, ?_, hu, Value.allGood_cons.2 ⟨hgood, hclean⟩, hstopped⟩
        show ((checkFrom _ _ _).result >>= _) = _
        rw [he]
        rfl
    · rw [← List.append_nil before] at hstopped
      refine .inr ⟨e, 0, v, ?_, rfl, Value.allGood_nil before, hstopped⟩
      rw [he]
      rfl

theorem checkFrom_cons_ok {e : Entry} {rest : List Entry} {given : List Rule}
    (h : (checkFrom seen index (e :: rest)).result = .ok given) :
    ∃ r others, checkEntry seen index e = .ok r ∧
      (checkFrom (r.name :: seen) (index + 1) rest).result = .ok others ∧ given = r :: others := by
  rw [checkFrom_cons] at h
  cases hr : checkEntry seen index e with
  | error fault =>
    rw [hr] at h
    cases h
  | ok r =>
    rw [hr] at h
    cases hothers : (checkFrom (r.name :: seen) (index + 1) rest).result with
    | error fault => simp [hothers, bind, Except.bind] at h
    | ok others =>
      refine ⟨r, others, rfl, hothers, ?_⟩
      simpa [hothers, bind, Except.bind, eq_comm] using h

/-- An entry passes if it stands for a rule with a new name. -/
theorem checkEntry_ok {e : Entry} {r : Rule} (h : checkEntry seen index e = .ok r) :
    e.toRule index = .ok r ∧ isReserved r.name = false ∧ r.name ∉ seen := by
  obtain ⟨d, hd, hchecked⟩ := Except.bind_eq_ok.1 h
  split at hchecked
  · cases hchecked
  · rename_i hreserved
    split at hchecked
    · cases hchecked
    · rename_i hseen
      obtain rfl := Draft.toRule_eq_ok.1 hchecked
      have hfree : isReserved r.name = false := Bool.eq_false_iff.2 hreserved
      exact ⟨Entry.toRule_eq_ok.2 hd, hfree, fun hmem => hseen (List.contains_iff_mem.2 hmem)⟩

/-- The names of checked rules are new, not reserved, and differ. -/
theorem checkFrom_names {entries : List Entry} : ∀ {seen : List String} {index : Nat} {given : List Rule},
    (checkFrom seen index entries).result = .ok given →
    (namesOf given).Nodup ∧ ∀ name ∈ namesOf given, isReserved name = false ∧ name ∉ seen := by
  induction entries with
  | nil =>
    intro seen index given h
    cases h
    exact ⟨List.nodup_nil, fun name hname => absurd hname List.not_mem_nil⟩
  | cons e rest ih =>
    intro seen index given h
    obtain ⟨r, others, hr, hothers, rfl⟩ := checkFrom_cons_ok h
    obtain ⟨hnodup, hnew⟩ := ih hothers
    obtain ⟨-, hfree, hunseen⟩ := checkEntry_ok hr
    refine ⟨List.nodup_cons.2 ⟨fun hmem => (hnew r.name hmem).2 List.mem_cons_self, hnodup⟩, ?_⟩
    rintro name hname
    rcases List.mem_cons.1 hname with rfl | hlater
    · exact ⟨hfree, hunseen⟩
    · exact ⟨(hnew name hlater).1, fun hmem => (hnew name hlater).2 (List.mem_cons_of_mem _ hmem)⟩

/-- A list that passes the checks comes to the rules that its entries stand for. -/
theorem checkFrom_rules {entries : List Entry} : ∀ {seen : List String} {index : Nat} {given : List Rule},
    (checkFrom seen index entries).result = .ok given → entries.map Entry.rule? = given.map some := by
  induction entries with
  | nil =>
    intro seen index given h
    cases h
    rfl
  | cons e rest ih =>
    intro seen index given h
    obtain ⟨r, others, hr, hothers, rfl⟩ := checkFrom_cons_ok h
    rw [List.map_cons, List.map_cons, ih hothers, Entry.rule?_eq_some.2 (checkEntry_ok hr).1]

/-- The rules of a list that passes the checks have one name each. -/
theorem checkFrom_named {entries : List Entry} {given : List Rule}
    (h : (checkFrom seen index entries).result = .ok given) : ∀ r ∈ given, ∃ g, r.pattern.names = [(r.name, g)] := by
  intro r hr
  have hmem : some r ∈ entries.map Entry.rule? := by
    rw [checkFrom_rules h]
    exact List.mem_map_of_mem hr
  obtain ⟨e, -, he⟩ := List.mem_map.1 hmem
  exact Entry.toRule_names (Entry.rule?_eq_some (i := 0).1 he)

/-- A list passes the checks if its entries stand for rules with new names, none of them reserved, that differ. -/
theorem checkFrom_ok {entries : List Entry} : ∀ {seen : List String} {index : Nat} {given : List Rule},
    entries.map Entry.rule? = given.map some → (namesOf given).Nodup →
    (∀ name ∈ namesOf given, isReserved name = false ∧ name ∉ seen) →
      (checkFrom seen index entries).result = .ok given := by
  induction entries with
  | nil =>
    intro seen index given hrules _ _
    obtain rfl : given = [] := List.map_eq_nil_iff.1 hrules.symm
    rfl
  | cons e rest ih =>
    intro seen index given hrules hnodup hnew
    obtain ⟨r, others, rfl, hr, hothers⟩ := List.map_eq_cons_iff.1 hrules.symm
    obtain ⟨hother, hnodup⟩ := List.nodup_cons.1 hnodup
    obtain ⟨⟨hfree, hunseen⟩, hnew⟩ := List.forall_mem_cons.1 hnew
    have hentry : checkEntry seen index e = .ok r := by
      refine Except.bind_eq_ok.2 ⟨r.draft, Entry.toRule_eq_ok.1 (Entry.rule?_eq_some.1 hr.symm), ?_⟩
      have hnew : seen.contains r.name = false := by simpa using hunseen
      simp only [Rule.draft, hfree, hnew, Bool.false_eq_true, if_false]
      rfl
    -- To the rest the name of this rule counts as taken, and it differs from theirs.
    have hrest : (checkFrom (r.name :: seen) (index + 1) rest).result = .ok others := by
      refine ih hothers.symm hnodup fun name hname => ⟨(hnew name hname).1, fun hmem => ?_⟩
      rcases List.mem_cons.1 hmem with rfl | hmem
      · exact hother hname
      · exact (hnew name hname).2 hmem
    rw [checkFrom_cons]
    exact Except.bind_eq_ok.2 ⟨r, hentry, Except.bind_eq_ok.2 ⟨others, hrest, rfl⟩⟩

/-! ## Rule lists -/

/-- Rules are refused together exactly if their patterns are, and with the same fault. -/
theorem ofRules_eq_error {given : List Rule} {fault : Fault} :
    ofRules given = .error fault ↔ Composite.build ((withFallback given).map Rule.pattern) = .error fault := by
  unfold ofRules
  split
  · rename_i composite hbuilt
    simp [hbuilt]
  · rename_i e he
    rw [he, Except.error.injEq, Except.error.injEq]

/-- Merging checked rules can only fail on their merged pattern. -/
theorem ofRules_cases (given : List Rule) :
    (∃ lx, ofRules given = .ok lx ∧ lx.given = given) ∨ ∃ failure, ofRules given = .error (.pattern failure) := by
  unfold ofRules
  split
  · exact .inl ⟨_, rfl, rfl⟩
  · rename_i e he
    unfold Composite.build at he
    split at he
    · cases he
    · cases he
      exact .inr ⟨_, rfl⟩

/-- A lexer comes from rules that passed the checks. -/
theorem compile_ok {entries : List Entry} {lx : Lexer} (h : (compile entries).result = .ok lx) :
    (checkFrom [] 0 entries).result = .ok lx.given ∧ ofRules lx.given = .ok lx := by
  obtain ⟨given, hgiven, h⟩ := Logged.bind_eq_ok.1 h
  obtain ⟨lx', hlx, h⟩ := Logged.bind_eq_ok.1 h
  obtain ⟨_, -, h⟩ := Logged.bind_eq_ok.1 h
  cases h
  have hbuilt : ofRules given = .ok lx := hlx
  rcases ofRules_cases given with ⟨lx', hlx', rfl⟩ | ⟨failure, hfailure⟩
  · cases hbuilt.symm.trans hlx'
    exact ⟨hgiven, hbuilt⟩
  · cases hbuilt.symm.trans hfailure

/-- A fault that is no error about a pattern comes from the checks. -/
theorem compile_error {entries : List Entry} {e : Fault} (he : ∀ failure, e ≠ .pattern failure) :
    (compile entries).result = .error e ↔ (checkFrom [] 0 entries).result = .error e := by
  constructor
  · intro h
    -- Behind the checks only the composite pattern can be refused.
    rcases Logged.bind_eq_error.1 h with hchecked | ⟨given, -, h⟩
    · exact hchecked
    · rcases Logged.bind_eq_error.1 h with hbuilt | ⟨lx, -, h⟩
      · rcases ofRules_cases given with ⟨lx, hlx, -⟩ | ⟨failure, hfailure⟩
        · cases hlx.symm.trans hbuilt
        · cases hfailure.symm.trans hbuilt
          exact absurd rfl (he failure)
      · rcases Logged.bind_eq_error.1 h with h | ⟨_, -, h⟩
        · cases h
        · cases h
  · exact fun h => Logged.bind_eq_error.2 (.inl h)

/-- A list is compiled as its entries are. -/
theorem compileValue_list (vs : List Value) :
    (compileValue (.list vs)).result = (compile (vs.map Entry.ofValue)).result :=
  Logged.result_bind _ _

/-- The names of checked rules differ from that of the rule of last resort too. -/
theorem checkFrom_withFallback {entries : List Entry} {given : List Rule}
    (h : (checkFrom [] 0 entries).result = .ok given) : (namesOf (withFallback given)).Nodup := by
  obtain ⟨hnodup, hnames⟩ := checkFrom_names h
  have hall : namesOf (withFallback given) = namesOf given ++ [errorName] := List.map_append
  rw [hall, ← List.concat_eq_append, List.nodup_concat]
  refine ⟨fun hmem => ?_, hnodup⟩
  have hfree := (hnames errorName hmem).1
  revert hfree
  decide

/-- The entry at `i` is bad, and no entry before it is. -/
def IsFirstBad (vs : List Value) (i : Nat) (v : Value) : Prop :=
  vs[i]? = some v ∧ v.IsBad (vs.take i) ∧ Value.AllGood [] (vs.take i)

/-- There is only one first bad entry. -/
theorem IsFirstBad.unique {vs : List Value} {i j : Nat} {u v : Value} (hv : IsFirstBad vs i v)
    (hu : IsFirstBad vs j u) : i = j ∧ v = u := by
  -- The earlier one would be among the good entries before the other.
  have hle : ∀ {i j : Nat} {u v : Value}, IsFirstBad vs i v → IsFirstBad vs j u → j ≤ i := by
    intro i j u v hv hu
    by_contra hlt
    have hlt : i < j := Nat.lt_of_not_le hlt
    have hmem : (vs.take j)[i]? = some v := by
      rw [List.getElem?_take_of_lt hlt]
      exact hv.1
    apply hu.2.2 i v hmem
    rw [List.take_take, Nat.min_eq_left (Nat.le_of_lt hlt), List.nil_append]
    exact hv.2.1
  have hij : i = j := Nat.le_antisymm (hle hu hv) (hle hv hu)
  subst hij
  exact ⟨rfl, Option.some.inj (hv.1.symm.trans hu.1)⟩

/-- What the checks come to: rules that the entries stand for, or the fault of the first bad entry. -/
theorem compile_cases {vs : List Value} (hproper : ∀ v ∈ vs, v.IsProper) :
    (Value.AllGood [] vs ∧ ∃ given, (checkFrom [] 0 (vs.map Entry.ofValue)).result = .ok given ∧
      Forall₂ Value.StandsFor vs given) ∨
      ∃ e i v, (checkFrom [] 0 (vs.map Entry.ofValue)).result = .error e ∧ IsFirstBad vs i v ∧
        Entry.Stopped (vs.take i) i v e := by
  have hseen : Knows [] [] := by
    intro name
    simp
  rcases checkFrom_spec vs [] [] 0 hproper hseen with
    ⟨given, hgiven, hstands, hgood⟩ | ⟨e, i, v, he, hv, hgood, hstopped⟩
  · exact .inl ⟨hgood, given, hgiven, hstands⟩
  · rw [List.nil_append, Nat.zero_add] at hstopped
    exact .inr ⟨e, i, v, he, ⟨hv, hstopped.isBad, hgood⟩, hstopped⟩

/-- A rule list is refused with the fault of its first bad entry, as far as the composite pattern is not at fault. -/
theorem compileValue_error {vs : List Value} (hproper : ∀ v ∈ vs, v.IsProper) {e : Fault}
    (he : ∀ failure, e ≠ .pattern failure) : (compileValue (.list vs)).result = .error e ↔
      ∃ i v, IsFirstBad vs i v ∧ Entry.Stopped (vs.take i) i v e := by
  rw [compileValue_list, compile_error he]
  rcases compile_cases hproper with ⟨hgood, given, hgiven, -⟩ | ⟨e', i, v, he', hbad, hstopped⟩
  · constructor
    · intro hfault
      cases hgiven.symm.trans hfault
    · rintro ⟨i, v, hbad, -⟩
      exact absurd hbad.2.1 (hgood i v hbad.1)
  · constructor
    · intro hfault
      cases he'.symm.trans hfault
      exact ⟨i, v, hbad, hstopped⟩
    · rintro ⟨j, u, hbad', hstopped'⟩
      obtain ⟨rfl, rfl⟩ := hbad.unique hbad'
      rw [he', hstopped.unique hstopped']

/-- With a bad entry in it a list is refused, and the composite pattern is not at fault. -/
theorem exists_compileValue_error {vs : List Value} (hproper : ∀ v ∈ vs, v.IsProper) :
    (∃ e, (compileValue (.list vs)).result = .error e ∧ ∀ failure, e ≠ .pattern failure) ↔
      ∃ i, ∃ v : Value, vs[i]? = some v ∧ v.IsBad (vs.take i) := by
  constructor
  · rintro ⟨e, hfault, he⟩
    obtain ⟨i, v, hbad, -⟩ := (compileValue_error hproper he).1 hfault
    exact ⟨i, v, hbad.1, hbad.2.1⟩
  · rintro ⟨i, v, hv, hbad⟩
    rcases compile_cases hproper with ⟨hgood, -⟩ | ⟨e, j, u, he, -, hstopped⟩
    · exact absurd hbad (hgood i v hv)
    · refine ⟨e, ?_, hstopped.ne_pattern⟩
      rw [compileValue_list]
      exact (compile_error hstopped.ne_pattern).2 he

/-- An entry is proper if its source compiles. -/
theorem isProper_source {v : Value} {s : String} (hv : v.patternPart = some (.str s))
    (h : (Pattern.compile s {}).toOption.isSome = true) : v.IsProper where
  compiles t ht := by
    cases hv.symm.trans ht
    cases hp : Pattern.compile s {} with
    | ok p => exact ⟨p, rfl⟩
    | error e =>
      rw [hp] at h
      cases h
  carries := by
    rintro name place skip value rfl
    -- A source does not count in a rule.
    rcases Value.patternPart_rule name place skip value with ⟨hplace, -⟩ | ⟨-, hnone⟩
    · exact .inl hplace
    · cases hnone.symm.trans hv

end Lexer

end PatternLexer
