import PatternLexer.Proofs.Options
import PatternLexer.Proofs.Part.Given

/-!
# Forms of a rule

A rule can be written as a pattern alone, as a pattern with options, or as a rule that was built before. The pattern may
be compiled, with flags given for it or not. All of this comes to the same rule, so that it does not matter which form
stands in a list.

* `Entry.IsForm` says that an entry is one of these forms; `Entry.IsForm.draft` tells what it asks for, of which only
  the wording of the skip depends on the form. `Rule.settled` is the rule with that put aside.
* `Lexer.checkFrom_congr` and `Lexer.compile_congr` are about lists whose entries stand for the same rules in this
  sense.
* `Lexer.compile_rules` says that compiled rules compile to themselves.
* `Lexer.compile_forms` puts them together.
-/

namespace PatternLexer

open List (Forall₂)

/-- Operations come to the same, up to a change of what they yield, if both fail alike or both go well. -/
theorem Except.map_eq_map {α β : Type} {f : α → β} {x y : Except Fault α} :
    x.map f = y.map f ↔ (∃ e, x = .error e ∧ y = .error e) ∨ ∃ a b, x = .ok a ∧ y = .ok b ∧ f a = f b := by
  cases x <;> cases y <;> simp [Except.map, eq_comm]

section Logged

variable {α β : Type} {x : Logged α} {f : α → Logged β}

theorem Logged.bind_of_error {e : Fault} (h : x.result = .error e) : x >>= f = ⟨x.log, .error e⟩ := by
  change x.bind f = _
  rw [Logged.bind, h]

theorem Logged.bind_of_ok {a : α} (h : x.result = .ok a) : x >>= f = ⟨x.log ++ (f a).log, (f a).result⟩ := by
  change x.bind f = _
  rw [Logged.bind, h]

end Logged

/-! ## Forms -/

/-- The pattern with this source and these flags stands here, be it by its source alone or compiled. -/
inductive PatternInput.Spells (source : String) (flags : Flags) : PatternInput → Prop where
  | source {p : Pattern} (h : compilePattern source {} = .ok p) (hflags : p.flags = flags) :
      Spells source flags (.source source)
  | compiled {p : Pattern} (hsource : p.source = source) (hflags : p.flags = flags) : Spells source flags (.compiled p)

/-- The entry is a form of the rule with this pattern, this skip and this hook. -/
inductive Entry.IsForm (source : String) (flags : Flags) (skips : Bool) (hook : Option Hook) : Entry → Prop where
  | bare {input : PatternInput} (hinput : input.Spells source flags) (hskips : skips = false) (hhook : hook = none) :
      IsForm source flags skips hook (.bare input)
  | pair {input : PatternInput} (hinput : input.Spells source flags) :
      IsForm source flags skips hook (.pair input skips hook)
  | built {p : Pattern} {name : String} {skip : Value} (hsource : p.source = source) (hflags : p.flags = flags)
      (hname : p.groupName none = .ok name) (hskip : skip.truthy = skips) :
      IsForm source flags skips hook (.rule (.str name) (.compiled p) skip hook)

/-- The rule, with it put aside how the skip is worded. -/
def Rule.settled (r : Rule) : Rule := { r with skip := .bool r.skips }

theorem Rule.settled_eq {r r' : Rule} (h : r.settled = r'.settled) :
    r.name = r'.name ∧ r.pattern = r'.pattern ∧ r.skips = r'.skips ∧ r.hook = r'.hook := by
  unfold settled at h
  injection h with hname hpattern hskip hhook
  exact ⟨hname, hpattern, Value.bool.inj hskip, hhook⟩

theorem Pattern.compilePattern_source {source : String} {flags : Flags} {p : Pattern}
    (h : compilePattern source flags = .ok p) : p.source = source := by
  unfold compilePattern Pattern.compile at h
  split at h
  · cases h
    rfl
  · cases h

/-- The draft, with it put aside how the skip is worded. -/
def Draft.settled (d : Draft) : Draft := { d with skip := .bool d.skip.truthy }

theorem Draft.settled_eq {d d' : Draft} (h : d.settled = d'.settled) :
    d.name = d'.name ∧ d.pattern = d'.pattern ∧ d.toRule.map Rule.settled = d'.toRule.map Rule.settled := by
  rcases d with ⟨name, p, skip, hook⟩
  rcases d' with ⟨name', p', skip', hook'⟩
  injection h with hname hpattern hskip hhook
  have hname : name = name' := hname
  have hpattern : p = p' := hpattern
  have hhook : hook = hook' := hhook
  subst hname hpattern hhook
  refine ⟨rfl, rfl, ?_⟩
  cases p with
  | text p => exact congrArg (fun b => (Except.ok ⟨name, p, b, hook⟩ : Except Fault Rule)) hskip
  | bytes p => rfl

/-- There is one pattern that can stand here. -/
theorem PatternInput.Spells.toPattern {source : String} {flags : Flags} {input : PatternInput} {p : Pattern}
    (h : input.Spells source flags) (hsource : p.source = source) (hflags : p.flags = flags) (index : Nat) :
    input.toPattern index = .ok (.text p) := by
  cases h with
  | @source q hq hqflags =>
    have hsame : q = p :=
      Pattern.eq_of_source ((Pattern.compilePattern_source hq).trans hsource.symm) (hqflags.trans hflags.symm)
    rw [← hsame]
    exact congrArg (Except.map CompiledPattern.text) hq
  | compiled hqsource hqflags =>
    have hsame := Pattern.eq_of_source (hqsource.trans hsource.symm) (hqflags.trans hflags.symm)
    exact congrArg (fun q => Except.ok (CompiledPattern.text q)) hsame

theorem PatternInput.Spells.exists_pattern {source : String} {flags : Flags} {input : PatternInput}
    (h : input.Spells source flags) : ∃ p : Pattern, p.source = source ∧ p.flags = flags := by
  cases h with
  | source hp hflags => exact ⟨_, Pattern.compilePattern_source hp, hflags⟩
  | compiled hsource hflags => exact ⟨_, hsource, hflags⟩

namespace Entry

variable {source : String} {flags : Flags} {skips : Bool} {hook : Option Hook} {e e' : Entry} {p : Pattern}

/-- Entries that ask for the same or are refused alike, wherever they are in a list. -/
def Alike (e e' : Entry) : Prop :=
  ∀ index, (e'.draft index).map Draft.settled = (e.draft index).map Draft.settled

theorem IsForm.exists_pattern (h : e.IsForm source flags skips hook) :
    ∃ p : Pattern, p.source = source ∧ p.flags = flags := by
  cases h with
  | bare hinput | pair hinput => exact hinput.exists_pattern
  | built hsource hflags => exact ⟨_, hsource, hflags⟩

/-- What becomes of a pair. -/
theorem draft_pair_eq {input : PatternInput} {index : Nat} (h : input.toPattern index = .ok (.text p)) (skip : Bool)
    (hook : Option Hook) : (pair input skip hook).draft index =
      (p.groupName (some index)).map fun name => ⟨name, .text p, .bool skip, hook⟩ := by
  rw [draft, h]
  change (p.groupName (some index) >>= fun name => (.ok ⟨name, .text p, .bool skip, hook⟩ : Except Fault Draft)) = _
  cases p.groupName (some index) <;> rfl

/-- What a form asks for, if its pattern has a name. Nothing but the wording of the skip tells which form it is. -/
theorem IsForm.draft (h : e.IsForm source flags skips hook) (hsource : p.source = source) (hflags : p.flags = flags)
    (index : Nat) : (e.draft index).map Draft.settled =
      (p.groupName (some index)).map fun name => ⟨name, .text p, .bool skips, hook⟩ := by
  have hpair : ∀ {input : PatternInput}, input.Spells source flags →
      ((Entry.pair input skips hook).draft index).map Draft.settled =
        (p.groupName (some index)).map fun name => ⟨name, .text p, .bool skips, hook⟩ := by
    intro input hinput
    rw [draft_pair_eq (hinput.toPattern hsource hflags index)]
    cases p.groupName (some index) <;> rfl
  cases h with
  | bare hinput hskips hhook =>
    subst hskips hhook
    exact hpair hinput
  | pair hinput => exact hpair hinput
  | @built q name skip hqsource hqflags hname hskip =>
    -- One source and one set of flags make one pattern.
    obtain rfl : q = p := Pattern.eq_of_source (hqsource.trans hsource.symm) (hqflags.trans hflags.symm)
    have hname : q.groupName (some index) = .ok name := CompiledPattern.groupName_anywhere hname (some index)
    rw [draft_rule.2 ⟨.text q, name, rfl, hname, rfl, rfl⟩, hname, ← hskip]
    rfl

/-- Forms of one rule are alike. -/
theorem IsForm.alike (h : e.IsForm source flags skips hook) (h' : e'.IsForm source flags skips hook) : e.Alike e' := by
  obtain ⟨p, hsource, hflags⟩ := h.exists_pattern
  intro index
  rw [h.draft hsource hflags, h'.draft hsource hflags]

end Entry

/-! ## Lists of entries for the same rules -/

namespace Lexer

section Checks

variable {seen : List String} {index : Nat} {e e' : Entry} {rest : List Entry} {r : Rule} {fault : Fault}

/-- The records about an entry that passes. -/
def emptyMatchRecords (index : Nat) (r : Rule) : List Record :=
  if r.pattern.matchesEmpty then [emptyMatchRecord index r] else []

/-- The check of a list ends with an entry that is refused. -/
theorem checkFrom_of_error (h : checkEntry seen index e = .error fault) :
    checkFrom seen index (e :: rest) = ⟨[], .error fault⟩ := by
  unfold checkFrom
  rw [h]
  rfl

/-- The check goes on behind an entry that passes. -/
theorem checkFrom_of_ok (h : checkEntry seen index e = .ok r) :
    checkFrom seen index (e :: rest) =
      ⟨emptyMatchRecords index r ++ (checkFrom (r.name :: seen) (index + 1) rest).log,
        (checkFrom (r.name :: seen) (index + 1) rest).result.map (r :: ·)⟩ := by
  have hothers : ∀ others : Logged (List Rule), (others >>= fun others => pure (r :: others)) =
      ⟨others.log, others.result.map (r :: ·)⟩ := by
    rintro ⟨log, _ | others⟩
    · rfl
    · exact congrArg (Logged.mk · _) (List.append_nil log)
  rw [checkFrom, h]
  change (if r.pattern.matchesEmpty then _ else _) = _
  unfold emptyMatchRecords
  split
  · exact congrArg (fun x => Logged.mk ([emptyMatchRecord index r] ++ x.log) x.result) (hothers _)
  · exact hothers _

end Checks

theorem checkEntry_congr (h : e.Alike e') (seen : List String) (index : Nat) :
    (checkEntry seen index e').map Rule.settled = (checkEntry seen index e).map Rule.settled := by
  unfold checkEntry
  rcases Except.map_eq_map.1 (h index) with ⟨fault, he', he⟩ | ⟨d', d, he', he, hsettled⟩
  · rw [he, he']
  · obtain ⟨hname, hpattern, hrule⟩ := Draft.settled_eq hsettled
    rw [he, he']
    change Except.map Rule.settled (if isReserved d'.name then _ else _) =
      Except.map Rule.settled (if isReserved d.name then _ else _)
    rw [hname, hpattern]
    split
    · rfl
    · split
      · rfl
      · exact hrule

/-- Entries that are alike are checked alike, with the same records. -/
theorem checkFrom_congr {es es' : List Entry} (h : Forall₂ Entry.Alike es es') : ∀ (seen : List String) (index : Nat),
    (checkFrom seen index es').log = (checkFrom seen index es).log ∧
      (checkFrom seen index es').result.map (List.map Rule.settled) =
        (checkFrom seen index es).result.map (List.map Rule.settled) := by
  induction h with
  | nil => exact fun seen index => ⟨rfl, rfl⟩
  | @cons e e' rest rest' halike _ ih =>
    intro seen index
    rcases Except.map_eq_map.1 (checkEntry_congr halike seen index) with ⟨fault, he', he⟩ | ⟨r', r, he', he, hsettled⟩
    · rw [checkFrom_of_error he, checkFrom_of_error he']
      exact ⟨rfl, rfl⟩
    · obtain ⟨hname, hpattern, -⟩ := Rule.settled_eq hsettled
      have hrecords : emptyMatchRecords index r' = emptyMatchRecords index r := by
        unfold emptyMatchRecords emptyMatchRecord
        rw [hname, hpattern]
      obtain ⟨hlog, hresult⟩ := ih (r.name :: seen) (index + 1)
      rw [checkFrom_of_ok he, checkFrom_of_ok he', hname, hrecords]
      refine ⟨congrArg (emptyMatchRecords index r ++ ·) hlog, ?_⟩
      rcases Except.map_eq_map.1 hresult with ⟨fault, hrest', hrest⟩ | ⟨others', others, hrest', hrest, hothers⟩
      · rw [hrest, hrest']
        rfl
      · rw [hrest, hrest']
        exact congrArg Except.ok (congrArg₂ List.cons hsettled hothers)

/-! ## Compiled lists -/

theorem patterns_settled (given : List Rule) :
    (withFallback (given.map Rule.settled)).map Rule.pattern = (withFallback given).map Rule.pattern := by
  simp [withFallback, Rule.settled, Function.comp_def]

/-- The lexer, with it put aside how the skips of its rules are worded. -/
def settled (lx : Lexer) : Lexer where
  given := lx.given.map Rule.settled
  composite := lx.composite
  isOfRules := lx.isOfRules.trans (patterns_settled lx.given).symm

theorem ofRules_settled (given : List Rule) : ofRules (given.map Rule.settled) = (ofRules given).map settled := by
  rcases ofRules_cases given with ⟨lx, hlx, rfl⟩ | ⟨failure, hfailure⟩
  · rw [hlx]
    exact ofRules_given lx.settled
  · have hbuilt := ofRules_eq_error.1 hfailure
    rw [← patterns_settled] at hbuilt
    rw [hfailure]
    exact ofRules_eq_error.2 hbuilt

/-- Makes a lexer of checked rules, with a record if that goes well. -/
def assemble (given : List Rule) : Logged Lexer := do
  let lx ← .ofExcept (ofRules given)
  .note (compiledRecord given)
  pure lx

theorem compile_eq (entries : List Entry) : compile entries = checkFrom [] 0 entries >>= assemble := rfl

theorem assemble_settled (given : List Rule) :
    assemble (given.map Rule.settled) = ⟨(assemble given).log, (assemble given).result.map settled⟩ := by
  have hrecord : compiledRecord (given.map Rule.settled) = compiledRecord given := by
    simp [compiledRecord, namesOf, withFallback, Rule.settled, Function.comp_def]
  unfold assemble
  rw [ofRules_settled, hrecord]
  cases ofRules given <;> rfl

/-- Lists whose entries are alike compile alike, with the same records. -/
theorem compile_congr {es es' : List Entry} (h : Forall₂ Entry.Alike es es') :
    (compile es').log = (compile es).log ∧
      (compile es').result.map settled = (compile es).result.map settled := by
  obtain ⟨hlog, hresult⟩ := checkFrom_congr h [] 0
  rw [compile_eq, compile_eq]
  rcases Except.map_eq_map.1 hresult with ⟨fault, hes', hes⟩ | ⟨given', given, hes', hes, hgiven⟩
  · rw [Logged.bind_of_error hes, Logged.bind_of_error hes']
    exact ⟨hlog, rfl⟩
  · have hsame := assemble_settled given'
    rw [hgiven, assemble_settled, Logged.mk.injEq] at hsame
    rw [Logged.bind_of_ok hes, Logged.bind_of_ok hes']
    exact ⟨congrArg₂ (· ++ ·) hlog hsame.1.symm, hsame.2.symm⟩

/-! ### What the wording of a skip does not matter for -/

theorem rules_settled (lx : Lexer) : lx.settled.rules = lx.rules.map Rule.settled := by
  change lx.given.map Rule.settled ++ [Rule.fallback] = (lx.given ++ [Rule.fallback]).map Rule.settled
  rw [List.map_append]
  rfl

theorem bypassRecords_settled (lx : Lexer) (pos : Nat) (p : Probe) :
    lx.settled.bypassRecords pos p = lx.bypassRecords pos p := by
  unfold bypassRecords
  simp only [rules_settled, List.getElem?_map, Option.map_map]
  rfl

theorem emit_settled (lx : Lexer) (place : Place) (m : RuleMatch) : lx.settled.emit place m = lx.emit place m := by
  refine emit_congr (rules_like ?_) place m
  change Forall₂ Rule.IsLike (lx.given.map Rule.settled) lx.given
  exact List.forall₂_map_left_iff.2 (List.forall₂_same.2 fun r _ => ⟨rfl, rfl, rfl, fun _ => rfl⟩)

theorem emitAll_settled (lx : Lexer) (ps : List Probe) : ∀ (place : Place) (pos : Nat),
    lx.settled.emitAll place pos ps = lx.emitAll place pos ps := by
  induction ps with
  | nil => exact fun _ _ => rfl
  | cons p ps ih =>
    intro place pos
    simp only [emitAll, bypassRecords_settled, emit_settled, ih]

theorem scanValue_settled (lx : Lexer) (text line : Value) :
    lx.settled.scanValue text line = lx.scanValue text line := by
  have htrace : ∀ subject, lx.settled.trace subject = lx.trace subject := trace_congr (by
    rw [rules_settled, List.map_map]
    rfl)
  unfold scanValue scanText
  simp only [htrace, emitAll_settled]

/-- Lexers that differ in nothing but the wording of skips. -/
structure Alike (lx lx' : Lexer) : Prop where
  names : lx'.names = lx.names
  patterns : lx'.rules.map Rule.pattern = lx.rules.map Rule.pattern
  composite : lx'.composite = lx.composite
  skips : lx'.rules.map Rule.skips = lx.rules.map Rule.skips
  hooks : lx'.rules.map Rule.hook = lx.rules.map Rule.hook
  scans : ∀ text line, lx'.scanValue text line = lx.scanValue text line

theorem alike_of_settled {lx lx' : Lexer} (h : lx'.settled = lx.settled) : Alike lx lx' := by
  have hrules : lx'.rules.map Rule.settled = lx.rules.map Rule.settled := by
    rw [← rules_settled, ← rules_settled, h]
  have hfield : ∀ {α : Type} (field : Rule → α), (∀ r, field r.settled = field r) →
      lx'.rules.map field = lx.rules.map field := by
    intro α field hfield
    have hmapped := congrArg (List.map field) hrules
    simpa only [List.map_map, Function.comp_def, hfield] using hmapped
  exact {
    names := hfield Rule.name fun _ => rfl
    patterns := hfield Rule.pattern fun _ => rfl
    composite := congrArg (·.composite) h
    skips := hfield Rule.skips fun _ => rfl
    hooks := hfield Rule.hook fun _ => rfl
    scans := fun text line => by rw [← scanValue_settled, h, scanValue_settled] }

end Lexer

/-! ## Compiled rules as entries -/

/-- A compiled rule as an entry of another list. -/
def Rule.toEntry (r : Rule) : Entry := .rule (.str r.name) (.compiled r.pattern) r.skip r.hook

/-- A rule that came from an entry stands for itself. -/
theorem Entry.toRule_toEntry {e : Entry} {r : Rule} (h : e.rule? = some r) (index : Nat) :
    r.toEntry.toRule index = .ok r := by
  have hrule : e.toRule index = .ok r := rule?_eq_some.1 h
  obtain ⟨g, hnames⟩ := toRule_names hrule
  exact toRule_compiled.2 ⟨r.name, Pattern.groupName_ok hnames _, rfl, rfl⟩

namespace Lexer

/-- All rules but the one of last resort were given. -/
theorem dropLast_rules (lx : Lexer) : lx.rules.dropLast = lx.given := List.dropLast_concat

/-- Compiled rules compile to themselves, with the same records. -/
theorem compile_rules {entries : List Entry} {lx : Lexer} (h : (compile entries).result = .ok lx) :
    compile (lx.given.map Rule.toEntry) = compile entries := by
  obtain ⟨hchecked, -⟩ := compile_ok h
  have hrules : Forall₂ (fun e r => Entry.rule? e = some r) entries lx.given := by
    have hmapped := checkFrom_rules hchecked
    rw [← List.forall₂_eq_eq_eq, List.forall₂_map_left_iff, List.forall₂_map_right_iff] at hmapped
    exact hmapped
  have halike : Forall₂ Entry.Alike entries (lx.given.map Rule.toEntry) := by
    refine List.forall₂_map_right_iff.2 (hrules.imp fun e r he index => ?_)
    rw [Entry.toRule_eq_ok.1 (Entry.toRule_toEntry he index), Entry.toRule_eq_ok.1 (Entry.rule?_eq_some.1 he)]
  have hagain : (checkFrom [] 0 (lx.given.map Rule.toEntry)).result = .ok lx.given := by
    obtain ⟨hnodup, hfree⟩ := checkFrom_names hchecked
    refine checkFrom_ok ?_ hnodup hfree
    rw [List.map_map, ← List.forall₂_eq_eq_eq, List.forall₂_map_left_iff, List.forall₂_map_right_iff, List.forall₂_same]
    intro r hr
    have hmem : some r ∈ entries.map Entry.rule? := by
      rw [checkFrom_rules hchecked]
      exact List.mem_map_of_mem hr
    obtain ⟨e, -, he⟩ := List.mem_map.1 hmem
    exact Entry.rule?_eq_some.2 (Entry.toRule_toEntry he 0)
  have hsame : checkFrom [] 0 (lx.given.map Rule.toEntry) = checkFrom [] 0 entries := by
    -- The records agree since the lists are alike, and the results since both lists pass.
    have hlog := (checkFrom_congr halike [] 0).1
    generalize checkFrom [] 0 (lx.given.map Rule.toEntry) = again at hlog hagain ⊢
    generalize checkFrom [] 0 entries = checked at hlog hchecked ⊢
    cases again
    cases checked
    cases hlog
    cases hagain
    cases hchecked
    rfl
  rw [compile_eq, compile_eq, hsame]

end Lexer

/-! ## Any form in any list -/

/-- The value is a form of the rule: a source or a compiled pattern, a pair of one and a dictionary with the options, or
what a caller has built of these. -/
inductive Value.IsForm (source : String) (flags : Flags) (skips : Bool) (hook : Option Hook) : Value → Prop where
  | bare {v : Value} (hv : (PatternInput.ofValue v).Spells source flags) (hskips : skips = false)
      (hhook : hook = none) : IsForm source flags skips hook v
  | pair {v : Value} {options : List (String × Value)} (hv : (PatternInput.ofValue v).Spells source flags)
      (hskips : ((options.lookup "skip").getD (.bool false)).truthy = skips)
      (hhook : Hook.ofValue ((options.lookup "value").getD .null) = hook) :
      IsForm source flags skips hook (.tuple [v, .dict options])
  | built {v skip value made : Value} (hv : (PatternInput.ofValue v).Spells source flags)
      (hmade : makeRule v skip value = .ok made) (hskips : skip.truthy = skips) (hhook : Hook.ofValue value = hook) :
      IsForm source flags skips hook made

/-- What callers write in one of these forms is an entry in this form. -/
theorem Value.IsForm.ofValue {source : String} {flags : Flags} {skips : Bool} {hook : Option Hook} {v : Value}
    (h : v.IsForm source flags skips hook) : (Entry.ofValue v).IsForm source flags skips hook := by
  cases h with
  | bare hv hskips hhook =>
    cases v with
    | str s => exact .bare hv hskips hhook
    | pattern p => exact .bare hv hskips hhook
    | _ => cases hv
  | @pair v options hv hskips hhook =>
    -- Options that are left out are those that mean nothing.
    have hentry : Entry.ofValue (.tuple [v, .dict options]) = .pair (.ofValue v) skips hook := by
      rw [← hskips, ← hhook]
      exact congrArg₂ (Entry.pair (.ofValue v)) (Option.getD_map Value.truthy (.bool false) _)
        (Option.getD_map Hook.ofValue .null _)
    rw [hentry]
    exact .pair hv
  | @built w skip value made hv hmade hskips hhook =>
    -- The rule was made of a pattern, or of a source that is compiled then.
    subst hhook
    cases w with
    | str s =>
      cases hv with
      | @source p hp hflags =>
        obtain ⟨q, hq, hmade⟩ := Except.bind_eq_ok.1 hmade
        obtain ⟨name, hname, hmade⟩ := Except.bind_eq_ok.1 hmade
        cases hq.symm.trans hp
        cases hmade
        exact .built (Pattern.compilePattern_source hp) hflags hname hskips
    | pattern p =>
      cases hv with
      | compiled hsource hflags =>
        obtain ⟨name, hname, hmade⟩ := Except.bind_eq_ok.1 hmade
        cases hmade
        exact .built hsource hflags hname hskips
    | _ => cases hv

namespace Lexer

/-- It does not matter in which form a rule stands in a list, whatever stands before and behind it: the list is refused
with the same fault, or it comes to rules with the same names, patterns, skips and hooks and with the same composite
pattern, which scan every text alike. The records are the same too. The rules of a lexer, without that of last resort,
are a list that comes to the same lexer again. -/
theorem compile_forms (source : String) (flags : Flags) (skips : Bool) (hook : Option Hook) :
    (∀ v : Value, v.IsForm source flags skips hook → (Entry.ofValue v).IsForm source flags skips hook) ∧
    (∀ (before after : List Entry) (e e' : Entry), e.IsForm source flags skips hook →
      e'.IsForm source flags skips hook →
        (compile (before ++ e' :: after)).log = (compile (before ++ e :: after)).log ∧
        ((∃ fault, (compile (before ++ e :: after)).result = .error fault ∧
            (compile (before ++ e' :: after)).result = .error fault) ∨
          ∃ lx lx', (compile (before ++ e :: after)).result = .ok lx ∧
            (compile (before ++ e' :: after)).result = .ok lx' ∧ Alike lx lx')) ∧
    ∀ (entries : List Entry) (lx : Lexer), (compile entries).result = .ok lx →
      compile (lx.rules.dropLast.map Rule.toEntry) = compile entries := by
  refine ⟨fun v hv => hv.ofValue, fun before after e e' he he' => ?_, fun entries lx hlx => ?_⟩
  · have hsame : ∀ es : List Entry, Forall₂ Entry.Alike es es := fun es => List.forall₂_same.2 fun _ _ _ => rfl
    obtain ⟨hlog, hresult⟩ := compile_congr (List.rel_append (hsame before) (.cons (he.alike he') (hsame after)))
    refine ⟨hlog, ?_⟩
    rcases Except.map_eq_map.1 hresult with ⟨fault, hfault', hfault⟩ | ⟨lx', lx, hlx', hlx, hsettled⟩
    · exact .inl ⟨fault, hfault, hfault'⟩
    · exact .inr ⟨lx, lx', hlx, hlx', alike_of_settled hsettled⟩
  · rw [dropLast_rules]
    exact compile_rules hlx

/-- A pattern that sets flags at its front. -/
def hexadecimal : String := "(?i)(?P<HEX>[0-9a-f]+)"

/-- Flags that are set at the front may be given once more when the pattern is compiled, and a skip that is zero is
none. -/
theorem compile_forms_hexadecimal : ∃ q lx lx', compilePattern hexadecimal { ignoreCase := true } = .ok q ∧
    (compile [.bare (.source hexadecimal)]).result = .ok lx ∧
    (compile [.rule (.str "HEX") (.compiled q) (.int 0) none]).result = .ok lx' ∧ Alike lx lx' := by
  have hcompiles : ∀ given : Flags, given = {} ∨ given = { ignoreCase := true } →
      ∃ p, compilePattern hexadecimal given = .ok p ∧ p.flags = { ignoreCase := true, unicode := true } ∧
        p.groupName none = .ok "HEX" := by
    intro given hgiven
    obtain ⟨p, hp, hcheck⟩ := Logged.exists_ok (.ofExcept (compilePattern hexadecimal given))
      (fun p => p.flags == { ignoreCase := true, unicode := true } && p.names.map Prod.fst == ["HEX"])
      (by rcases hgiven with rfl | rfl <;> decide +kernel)
    rw [Bool.and_eq_true, beq_iff_eq, beq_iff_eq] at hcheck
    obtain ⟨⟨name, g⟩, hnames, rfl⟩ := List.map_eq_singleton_iff.1 hcheck.2
    exact ⟨p, hp, hcheck.1, Pattern.groupName_ok hnames none⟩
  obtain ⟨p, hp, hpflags, -⟩ := hcompiles {} (.inl rfl)
  obtain ⟨q, hq, hqflags, hname⟩ := hcompiles { ignoreCase := true } (.inr rfl)
  obtain ⟨lx, hlx, -⟩ := Logged.exists_ok (compile [.bare (.source hexadecimal)]) (fun _ => true) (by decide +kernel)
  obtain ⟨-, ⟨fault, hfault, -⟩ | ⟨lx₁, lx', hlx₁, hlx', halike⟩⟩ :=
    (compile_forms hexadecimal { ignoreCase := true, unicode := true } false none).2.1 [] []
      (.bare (.source hexadecimal)) (.rule (.str "HEX") (.compiled q) (.int 0) none)
      (.bare (.source hp hpflags) rfl rfl) (.built (Pattern.compilePattern_source hq) hqflags hname rfl)
  · cases hfault.symm.trans hlx
  · exact ⟨q, lx₁, lx', hq, hlx₁, hlx', halike⟩

end Lexer

end PatternLexer
