import PatternLexer.Rule.Basic
import PatternLexer.Rule.Report

/-!
# Why an entry is refused

What can be said against an entry of a rule list, one reason at a time and without the order in which the entries
are checked.

* `Value.SpeaksAgainst` holds the reasons; `RuleCause.rank` is their order.
* `Value.IsFirstCause` is the reason to give; an entry leaves no choice in it.
* `Value.HidesName`, `Value.IsOfBytes` and `Value.LacksPattern` are what is wrong with an entry without being a reason:
  a name that has to be told and cannot be written, a pattern that was compiled from bytes, and a rule that was built
  around anything else than a compiled pattern. With one of them the check of the entry ends with a fault that is no
  error about a rule, unless a reason comes first.
* `Entry.draft_spec`: an entry asks for a rule with its own name, or its check ends with the fault that tells why not.
-/

namespace PatternLexer

/-! ## Causes -/

namespace RuleCause

/-- The order in which the causes count. -/
def rank : RuleCause → Nat
  | malformedPair => 0
  | notPattern _ => 1
  | nameCount _ => 2
  | nameMismatch _ _ => 3
  | reservedName _ => 4
  | duplicateName _ => 5

/-- The kind of error that the cause makes. -/
def kind : RuleCause → ReportKind
  | reservedName _ | duplicateName _ => .duplicateName
  | _ => .unnamedPattern

end RuleCause

/-! ## Values that cannot be written -/

/-- Operations one after the other go well if each does. -/
theorem Except.bind_eq_ok {α β : Type} {x : Except Fault α} {f : α → Except Fault β} {b : β} :
    (x >>= f) = .ok b ↔ ∃ a, x = .ok a ∧ f a = .ok b := by
  cases x with
  | ok a => simp [bind, Except.bind]
  | error e => simp [bind, Except.bind]

/-- They fail if one of them does. -/
theorem Except.bind_eq_error {α β : Type} {x : Except Fault α} {f : α → Except Fault β} {e : Fault} :
    (x >>= f) = .error e ↔ x = .error e ∨ ∃ a, x = .ok a ∧ f a = .error e := by
  cases x with
  | ok a => simp [bind, Except.bind]
  | error e => simp [bind, Except.bind]

/-- What goes wrong when a value is written: a number is too long, or a token holds a value that has no length or
cannot be cut. -/
inductive Fault.IsOfWriting : Fault → Prop where
  | integerTooLong : IsOfWriting .integerTooLong
  | noLength (typeName : String) : IsOfWriting (.noLength typeName)
  | notConcatenated (whole part : String) : IsOfWriting (.notConcatenated whole part)
  | notHashable (typeName : String) : IsOfWriting (.notHashable typeName)

namespace Value

theorem checkShownInToken_error {v : Value} {e : Fault} (h : v.checkShownInToken = .error e) : e.IsOfWriting := by
  unfold checkShownInToken at h
  split at h
  · cases h
  · split at h
    · cases h
      exact .notConcatenated _ _
    · cases h
  · split at h
    · cases h
      exact .notConcatenated _ _
    · cases h
  · split at h
    · cases h
      exact .notHashable _
    · cases h
  · cases h
    exact .noLength _

/-- A part of a token is written as it is if it is a text, and in full otherwise. -/
theorem part_error {v : Value} {e : Fault} {f : String → String} {k : String → Except Fault String}
    (hv : ∀ {e}, v.shown = .error e → e.IsOfWriting) (hk : ∀ t, k t = .error e → e.IsOfWriting)
    (h : (match v with
      | str s => (Except.ok (f s) : Except Fault String) >>= k
      | _ => v.shown >>= k) = .error e) : e.IsOfWriting := by
  split at h
  · exact hk _ h
  · rcases Except.bind_eq_error.1 h with h | ⟨t, -, h⟩
    · exact hv h
    · exact hk t h

mutual

/-- Nothing else goes wrong when a value is written in full. -/
theorem shown_error : ∀ {v : Value} {e : Fault}, v.shown = .error e → e.IsOfWriting
  | .int n, e, h => by
    rw [shown] at h
    split at h
    · cases h
    · cases h
      exact .integerTooLong
  | .list items, e, h => by
    rw [shown] at h
    rcases Except.bind_eq_error.1 h with h | ⟨_, _, ⟨⟩⟩
    exact shownItems_error h
  | .tuple items, e, h => by
    rw [shown] at h
    rcases Except.bind_eq_error.1 h with h | ⟨_, _, ⟨⟩⟩
    exact shownItems_error h
  | .dict entries, e, h => by
    rw [shown] at h
    rcases Except.bind_eq_error.1 h with h | ⟨_, _, ⟨⟩⟩
    exact shownEntries_error h
  | .token type value line col length, e, h => by
    rw [shown] at h
    rcases Except.bind_eq_error.1 h with h | ⟨_, _, h⟩
    · exact checkShownInToken_error h
    refine part_error (fun h => shown_error h) (fun typeText h => ?_) h
    refine part_error (fun h => shown_error h) (fun valueText h => ?_) h
    refine part_error (fun h => shown_error h) (fun lineText h => ?_) h
    refine part_error (fun h => shown_error h) (fun colText h => ?_) h
    cases h
  | .null, e, h | .bool _, e, h | .float _, e, h | .str _, e, h | .pattern _, e, h | .bytesPattern _, e, h
  | .rule .., e, h | .hook _, e, h | .transform .., e, h | .object _, e, h | .handle _, e, h => by
    cases h

theorem shownItems_error : ∀ {items : List Value} {e : Fault}, shownItems items = .error e → e.IsOfWriting
  | [], e, h => by cases h
  | v :: rest, e, h => by
    rw [shownItems] at h
    rcases Except.bind_eq_error.1 h with h | ⟨_, _, h⟩
    · exact shown_error h
    rcases Except.bind_eq_error.1 h with h | ⟨_, _, ⟨⟩⟩
    exact shownItems_error h

theorem shownEntries_error : ∀ {entries : List (String × Value)} {e : Fault},
    shownEntries entries = .error e → e.IsOfWriting
  | [], e, h => by cases h
  | (k, v) :: rest, e, h => by
    rw [shownEntries] at h
    rcases Except.bind_eq_error.1 h with h | ⟨_, _, h⟩
    · exact shown_error h
    rcases Except.bind_eq_error.1 h with h | ⟨_, _, ⟨⟩⟩
    exact shownEntries_error h

end

/-- A value that cannot be written as a text cannot be written in full. -/
theorem text_error {v : Value} {e : Fault} (h : v.text = .error e) : e.IsOfWriting := by
  unfold text at h
  split at h
  · cases h
  · exact shown_error h

end Value

/-! ## Entries -/

namespace Value

/-- What stands where an entry has its pattern. A tuple that is no pair with options has no such place, and in a rule
that was built by the caller nothing counts but a compiled pattern. -/
def patternPart : Value → Option Value
  | tuple [first, dict _] => some first
  | tuple _ => none
  | rule _ (pattern p) _ _ => some (pattern p)
  | rule _ (bytesPattern p) _ _ => some (bytesPattern p)
  | rule _ _ _ _ => none
  | v => some v

/-- The pattern that a value is or, if it is a source, is compiled to. -/
def asPattern? : Value → Option Pattern
  | str s => (Pattern.compile s {}).toOption
  | pattern p => some p
  | _ => none

/-- The pattern of an entry. -/
def entryPattern? (v : Value) : Option Pattern := v.patternPart.bind asPattern?

/-- The compiled pattern that a value is or, if it is a source, is compiled to. Patterns of bytes count. -/
def asCompiled? : Value → Option CompiledPattern
  | bytesPattern p => some (.bytes p)
  | v => v.asPattern?.map .text

/-- The compiled pattern of an entry. -/
def entryCompiled? (v : Value) : Option CompiledPattern := v.patternPart.bind asCompiled?

/-- The value is a compiled pattern. -/
def IsCompiled (v : Value) : Prop := (∃ p, v = .pattern p) ∨ ∃ p, v = .bytesPattern p

/-- The name that an entry was given beside its pattern. -/
def givenName? : Value → Option Value
  | rule name _ _ _ => some name
  | _ => none

/-- What an entry says of skipping and of the hook. -/
def entryOptions : Value → Value × Option Hook
  | tuple [_, dict options] =>
    (bool (((options.lookup "skip").map truthy).getD false),
      ((options.lookup "value").map Hook.ofValue).getD none)
  | rule _ _ skip value => (skip, Hook.ofValue value)
  | _ => (bool false, none)

/-- The sources in the entry can be compiled, and an entry that was built as a rule carries a compiled pattern, or
anything that does not imitate one by having groups. -/
structure IsProper (v : Value) : Prop where
  compiles : ∀ s, v.patternPart = some (.str s) → ∃ p, Pattern.compile s {} = .ok p
  carries : ∀ name place skip value, v = .rule name place skip value →
    place.IsCompiled ∨ place.field? "groupindex" = none

/-- The entry has one named group in its pattern, and this is the name. -/
def HasName (v : Value) (name : String) : Prop :=
  ∃ p g, v.entryCompiled? = some p ∧ p.names = [(name, g)]

/-- The entry stands for the rule. -/
structure StandsFor (v : Value) (r : Rule) : Prop where
  pattern : v.entryPattern? = some r.pattern
  name : ∃ g, r.pattern.names = [(r.name, g)]
  options : v.entryOptions = (r.skip, r.hook)

/-! ## Reasons against an entry -/

/-- The cause speaks against the entry `v`, which stands after the entries `before`. -/
def SpeaksAgainst (before : List Value) (v : Value) : RuleCause → Prop
  | .malformedPair => ∃ items, v = .tuple items ∧ ∀ first options, items ≠ [first, .dict options]
  | .notPattern typeName => ∃ w, v.patternPart = some w ∧ w.typeName = typeName ∧
      (∀ s, w ≠ .str s) ∧ ¬ w.IsCompiled
  | .nameCount n => ∃ p, v.entryCompiled? = some p ∧ p.names.length = n ∧ n ≠ 1
  | .nameMismatch given group => ∃ name, v.givenName? = some name ∧ name.text = .ok given ∧
      v.HasName group ∧ name ≠ .str group
  | .reservedName name => v.HasName name ∧ isReserved name = true
  | .duplicateName name => v.HasName name ∧ ∃ u ∈ before, u.HasName name

/-- The name that the entry was given is not that of its group, and cannot even be written. -/
def HidesName (v : Value) (e : Fault) : Prop :=
  ∃ given name, v.givenName? = some given ∧ v.HasName name ∧ given.text = .error e

/-- The pattern of the entry was compiled from bytes. No token can come of it. -/
def IsOfBytes (v : Value) : Prop := ∃ p, v.entryCompiled? = some (.bytes p)

/-- The entry was built as a rule around a value of the type, which is no compiled pattern. -/
def LacksPattern (v : Value) (typeName : String) : Prop :=
  ∃ name place skip value, v = .rule name place skip value ∧ ¬ place.IsCompiled ∧ place.typeName = typeName

/-- Something speaks against the entry, or it hides its name, or its pattern was compiled from bytes, or it has none. -/
def IsBad (before : List Value) (v : Value) : Prop :=
  (∃ c, v.SpeaksAgainst before c) ∨ (∃ e, v.HidesName e) ∨ v.IsOfBytes ∨ ∃ t, v.LacksPattern t

/-- No entry of the list is bad, which stands after the entries `before`. -/
def AllGood (before vs : List Value) : Prop :=
  ∀ i v, vs[i]? = some v → ¬ IsBad (before ++ vs.take i) v

/-- The first of the causes that speak against the entry. -/
def IsFirstCause (before : List Value) (v : Value) (c : RuleCause) : Prop :=
  v.SpeaksAgainst before c ∧ ∀ d, v.SpeaksAgainst before d → c.rank ≤ d.rank

/-- The cause is the one to give for the entry, whose name can be written. -/
structure IsRefusedFor (before : List Value) (v : Value) (c : RuleCause) : Prop where
  first : v.IsFirstCause before c
  written : ∀ e, ¬ v.HidesName e

/-- The fault, which is no error about a rule, gets out of the check of the entry: that of writing the name it was
given, that of asking something else than a pattern for its groups, or that of trying a pattern of bytes, which is not
done before nothing else is wrong. -/
inductive Escapes (before : List Value) (v : Value) : Fault → Prop where
  | unwritten {e : Fault} (h : v.HidesName e) : Escapes before v e
  | groupless {t : String} (h : v.LacksPattern t) : Escapes before v (.noAttribute t "groupindex")
  | bytes (hbytes : v.IsOfBytes) (hsaid : ∀ c, ¬ v.SpeaksAgainst before c) (hwritten : ∀ e, ¬ v.HidesName e) :
      Escapes before v (.notText .bytesPattern)

variable {before vs : List Value} {v w : Value} {p : CompiledPattern} {name : String} {c d : RuleCause}

/-- No entry of an empty list is bad. -/
theorem allGood_nil (before : List Value) : AllGood before [] := by
  intro i v h
  cases h

/-- The entries of a list are good one after the other, each of them standing behind those before. -/
theorem allGood_cons : AllGood before (v :: vs) ↔ ¬ v.IsBad before ∧ AllGood (before ++ [v]) vs := by
  constructor
  · intro h
    constructor
    · simpa using h 0 v rfl
    · intro i u hu
      simpa using h (i + 1) u hu
  · rintro ⟨hv, hvs⟩ i u hu
    cases i with
    | zero =>
      cases hu
      simpa using hv
    | succ i => simpa using hvs i u hu

/-- An entry has one name. -/
theorem HasName.unique {name' : String} (h : v.HasName name) (h' : v.HasName name') : name = name' := by
  rcases h with ⟨p, g, hp, hnames⟩
  rcases h' with ⟨p', g', hp', hnames'⟩
  cases hp.symm.trans hp'
  cases hnames.symm.trans hnames'
  rfl

/-- An entry leaves no choice in what a cause says. -/
theorem SpeaksAgainst.unique (hc : v.SpeaksAgainst before c) (hd : v.SpeaksAgainst before d)
    (hrank : c.rank = d.rank) : c = d := by
  -- Causes of one rank are of one kind, and each kind says something of the entry that is determined by it.
  cases c with
  | malformedPair =>
    cases d with
    | malformedPair => rfl
    | _ => cases hrank
  | notPattern t =>
    cases d with
    | notPattern t' =>
      rcases hc with ⟨w, hw, rfl, -⟩
      rcases hd with ⟨w', hw', rfl, -⟩
      cases hw.symm.trans hw'
      rfl
    | _ => cases hrank
  | nameCount n =>
    cases d with
    | nameCount n' =>
      rcases hc with ⟨p, hp, rfl, -⟩
      rcases hd with ⟨p', hp', rfl, -⟩
      cases hp.symm.trans hp'
      rfl
    | _ => cases hrank
  | nameMismatch given group =>
    cases d with
    | nameMismatch given' group' =>
      rcases hc with ⟨u, hu, htext, hname, -⟩
      rcases hd with ⟨u', hu', htext', hname', -⟩
      cases hu.symm.trans hu'
      cases htext.symm.trans htext'
      rw [hname.unique hname']
    | _ => cases hrank
  | reservedName name =>
    cases d with
    | reservedName name' => rw [hc.1.unique hd.1]
    | _ => cases hrank
  | duplicateName name =>
    cases d with
    | duplicateName name' => rw [hc.1.unique hd.1]
    | _ => cases hrank

/-- The first cause is one only. -/
theorem IsFirstCause.unique (hc : v.IsFirstCause before c) (hd : v.IsFirstCause before d) : c = d :=
  hc.1.unique hd.1 (Nat.le_antisymm (hc.2 d hd.1) (hd.2 c hc.1))

/-! ## Reasons that are ruled out -/

/-- Of the entries that were not built as rules, only a tuple that is no pair with options has no place for a
pattern. -/
theorem patternPart_eq_none (h : v.patternPart = none) (hgiven : v.givenName? = none) :
    ∃ items, v = .tuple items ∧ ∀ first options, items ≠ [first, .dict options] := by
  cases v with
  | tuple items =>
    refine ⟨items, rfl, ?_⟩
    rintro first options rfl
    cases h
  | rule name place skip value => cases hgiven
  | _ => cases h

theorem patternPart_malformed {items : List Value} (h : ∀ first options, items ≠ [first, .dict options]) :
    (tuple items).patternPart = none := by
  unfold patternPart
  split
  · rename_i hpair
    cases hpair
    exact absurd rfl (h _ _)
  · rfl
  · rename_i hrule
    cases hrule
  · rename_i hrule
    cases hrule
  · rfl
  · rename_i htuple _ _ _
    exact absurd rfl (htuple items)

/-- In a rule that was built by the caller a compiled pattern counts, and nothing else. -/
theorem patternPart_rule (name place skip value : Value) :
    (place.IsCompiled ∧ (rule name place skip value).patternPart = some place) ∨
      (¬ place.IsCompiled ∧ (rule name place skip value).patternPart = none) := by
  cases place with
  | pattern p => exact .inl ⟨.inl ⟨p, rfl⟩, rfl⟩
  | bytesPattern p => exact .inl ⟨.inr ⟨p, rfl⟩, rfl⟩
  | _ => exact .inr ⟨by rintro (⟨p, ⟨⟩⟩ | ⟨p, ⟨⟩⟩), rfl⟩

theorem SpeaksAgainst.of_part (hw : v.patternPart = some w) (h : v.SpeaksAgainst before c) : 1 ≤ c.rank := by
  cases c with
  | malformedPair =>
    rcases h with ⟨items, rfl, hno⟩
    cases (patternPart_malformed hno).symm.trans hw
  | _ => simp [RuleCause.rank]

theorem entryCompiled?_eq_some :
    v.entryCompiled? = some p ↔ ∃ w, v.patternPart = some w ∧ w.asCompiled? = some p := by
  unfold entryCompiled?
  exact Option.bind_eq_some_iff

/-- A value that stands for a pattern of texts is a source or a compiled one. -/
theorem asPattern?_eq_some {q : Pattern} (h : w.asPattern? = some q) :
    (∃ s, w = .str s ∧ Pattern.compile s {} = .ok q) ∨ w = .pattern q := by
  unfold asPattern? at h
  split at h
  · rename_i s
    cases hs : Pattern.compile s {} with
    | ok p =>
      rw [hs] at h
      cases h
      exact .inl ⟨s, rfl, hs⟩
    | error e =>
      rw [hs] at h
      cases h
  · cases h
    exact .inr rfl
  · cases h

/-- A value that stands for a compiled pattern is one of bytes, or stands for one of texts. -/
theorem asCompiled?_eq_some (h : w.asCompiled? = some p) :
    (∃ q, w = .bytesPattern q ∧ p = .bytes q) ∨ ∃ q, w.asPattern? = some q ∧ p = .text q := by
  unfold asCompiled? at h
  split at h
  · cases h
    exact .inl ⟨_, rfl, rfl⟩
  · obtain ⟨q, hq, rfl⟩ := Option.map_eq_some_iff.1 h
    exact .inr ⟨q, hq, rfl⟩

/-- The pattern of an entry is its compiled pattern, if that is one of texts. -/
theorem entryCompiled?_eq_text {q : Pattern} : v.entryCompiled? = some (.text q) ↔ v.entryPattern? = some q := by
  have hvalue : ∀ w : Value, w.asCompiled? = some (.text q) ↔ w.asPattern? = some q := by
    intro w
    constructor
    · intro h
      rcases asCompiled?_eq_some h with ⟨b, -, ⟨⟩⟩ | ⟨q', hq', heq⟩
      cases heq
      exact hq'
    · intro h
      unfold asCompiled?
      split
      · cases h
      · rw [h]
        rfl
  unfold entryCompiled? entryPattern?
  simp only [Option.bind_eq_some_iff, hvalue]

theorem SpeaksAgainst.of_pattern (hp : v.entryCompiled? = some p) (h : v.SpeaksAgainst before c) :
    2 ≤ c.rank := by
  rcases entryCompiled?_eq_some.1 hp with ⟨w, hw, hpattern⟩
  cases c with
  | malformedPair => exact absurd (h.of_part hw) (by decide)
  | notPattern t =>
    rcases h with ⟨w', hw', -, hsource, hcompiled⟩
    cases hw.symm.trans hw'
    rcases asCompiled?_eq_some hpattern with ⟨q, hq, -⟩ | ⟨q, hq, -⟩
    · exact absurd (.inr ⟨q, hq⟩) hcompiled
    · rcases asPattern?_eq_some hq with ⟨s, hs, -⟩ | hq
      · exact absurd hs (hsource s)
      · exact absurd (.inl ⟨q, hq⟩) hcompiled
  | _ => simp [RuleCause.rank]

theorem SpeaksAgainst.of_name (hname : v.HasName name) (h : v.SpeaksAgainst before c) : 3 ≤ c.rank := by
  rcases hname with ⟨p, g, hp, hnames⟩
  have htwo := h.of_pattern hp
  cases c with
  | malformedPair | notPattern _ => simp [RuleCause.rank] at htwo
  | nameCount n =>
    rcases h with ⟨p', hp', hlength, hne⟩
    cases hp.symm.trans hp'
    rw [hnames] at hlength
    exact absurd hlength.symm hne
  | _ => simp [RuleCause.rank]

/-- The entry has the name, and was given no other one. -/
structure IsNamed (v : Value) (name : String) : Prop where
  hasName : v.HasName name
  given : ∀ u, v.givenName? = some u → u = .str name

/-- Against an entry that has a name, which it may bear, only that name can speak. -/
theorem SpeaksAgainst.of_named (hname : v.IsNamed name) (h : v.SpeaksAgainst before c) : 4 ≤ c.rank := by
  have hthree := h.of_name hname.hasName
  cases c with
  | malformedPair | notPattern _ | nameCount _ => simp [RuleCause.rank] at hthree
  | nameMismatch given group =>
    rcases h with ⟨u, hu, -, hgroup, hne⟩
    rw [hname.given u hu, hname.hasName.unique hgroup] at hne
    exact absurd rfl hne
  | _ => simp [RuleCause.rank]

/-- If the name is not reserved either, it has to be that of an entry before. -/
theorem SpeaksAgainst.of_unreserved (hname : v.IsNamed name) (hfree : isReserved name = false)
    (h : v.SpeaksAgainst before c) : c.rank = 5 ∧ ∃ u ∈ before, u.HasName name := by
  have hfour := h.of_named hname
  cases c with
  | reservedName name' =>
    have hreserved : isReserved name' = true := h.2
    rw [← hname.hasName.unique h.1, hfree] at hreserved
    cases hreserved
  | duplicateName name' =>
    rw [hname.hasName.unique h.1]
    exact ⟨rfl, h.2⟩
  | _ => simp [RuleCause.rank] at hfour

/-- An entry that hides its name does not have the name it was given. -/
theorem HidesName.not_isNamed {e : Fault} (h : v.HidesName e) (name : String) : ¬ v.IsNamed name := by
  rintro ⟨-, hsame⟩
  obtain ⟨given, -, hgiven, -, htext⟩ := h
  rw [hsame given hgiven] at htext
  cases htext

/-- An entry leaves no choice in how the writing of its name fails. -/
theorem HidesName.unique {e e' : Fault} (h : v.HidesName e) (h' : v.HidesName e') : e = e' := by
  obtain ⟨given, -, hgiven, -, htext⟩ := h
  obtain ⟨given', -, hgiven', -, htext'⟩ := h'
  cases hgiven.symm.trans hgiven'
  exact Except.error.inj (htext.symm.trans htext')

namespace LacksPattern

variable {t : String} (h : v.LacksPattern t)
include h

theorem entryCompiled?_eq : v.entryCompiled? = none := by
  obtain ⟨name, place, skip, value, rfl, hplace, -⟩ := h
  unfold entryCompiled?
  rcases patternPart_rule name place skip value with ⟨hcompiled, -⟩ | ⟨-, hnone⟩
  · exact absurd hcompiled hplace
  · rw [hnone]
    rfl

theorem not_hasName (name : String) : ¬ v.HasName name := by
  rintro ⟨p, g, hp, -⟩
  cases h.entryCompiled?_eq.symm.trans hp

theorem not_hidesName (e : Fault) : ¬ v.HidesName e := by
  rintro ⟨-, name, -, hname, -⟩
  exact h.not_hasName name hname

/-- No reason is given against a rule without a pattern. -/
theorem not_speaksAgainst : ¬ v.SpeaksAgainst before c := by
  intro hc
  cases c with
  | malformedPair =>
    obtain ⟨items, rfl, -⟩ := hc
    obtain ⟨_, _, _, _, ⟨⟩, -⟩ := h
  | notPattern typeName =>
    obtain ⟨w, hw, -⟩ := hc
    obtain ⟨name, place, skip, value, rfl, hplace, -⟩ := h
    rcases patternPart_rule name place skip value with ⟨hcompiled, -⟩ | ⟨-, hnone⟩
    · exact hplace hcompiled
    · cases hnone.symm.trans hw
  | nameCount n =>
    obtain ⟨p, hp, -⟩ := hc
    cases h.entryCompiled?_eq.symm.trans hp
  | nameMismatch given group =>
    obtain ⟨-, -, -, hname, -⟩ := hc
    exact h.not_hasName group hname
  | reservedName name => exact h.not_hasName name hc.1
  | duplicateName name => exact h.not_hasName name hc.1

theorem unique {t' : String} (h' : v.LacksPattern t') : t = t' := by
  obtain ⟨name, place, skip, value, rfl, -, rfl⟩ := h
  obtain ⟨_, _, _, _, ⟨⟩, -, rfl⟩ := h'
  rfl

end LacksPattern

namespace IsRefusedFor

end IsRefusedFor

/-- What gets out of the check of an entry is determined by the entry. -/
theorem Escapes.unique {e e' : Fault} (h : v.Escapes before e) (h' : v.Escapes before e') : e = e' := by
  cases h with
  | unwritten h =>
    cases h' with
    | unwritten h' => exact h.unique h'
    | groupless h' => exact absurd h (h'.not_hidesName e)
    | bytes _ _ hwritten => exact absurd h (hwritten e)
  | groupless h =>
    cases h' with
    | unwritten h' => exact absurd h' (h.not_hidesName e')
    | groupless h' => rw [h.unique h']
    | bytes hbytes =>
      obtain ⟨p, hp⟩ := hbytes
      cases h.entryCompiled?_eq.symm.trans hp
  | bytes hbytes _ hwritten =>
    cases h' with
    | unwritten h' => exact absurd h' (hwritten e')
    | groupless h' =>
      obtain ⟨p, hp⟩ := hbytes
      cases h'.entryCompiled?_eq.symm.trans hp
    | bytes => rfl

/-- An entry that is refused lets nothing else out. -/
theorem Escapes.not_refused {e : Fault} (h : v.Escapes before e) : ¬ v.IsRefusedFor before c := by
  rintro ⟨⟨hsaid, -⟩, hwritten⟩
  cases h with
  | unwritten h => exact hwritten e h
  | groupless h => exact h.not_speaksAgainst hsaid
  | bytes _ hclean _ => exact hclean c hsaid

/-- What gets out is neither an error about a rule nor one about a pattern. -/
theorem Escapes.not_reported {e : Fault} (h : v.Escapes before e) :
    (∀ r, e ≠ .rule r) ∧ ∀ failure, e ≠ .pattern failure := by
  cases h with
  | unwritten h =>
    obtain ⟨given, -, -, -, htext⟩ := h
    cases text_error htext <;> exact ⟨by rintro _ ⟨⟩, by rintro _ ⟨⟩⟩
  | groupless => exact ⟨by rintro _ ⟨⟩, by rintro _ ⟨⟩⟩
  | bytes => exact ⟨by rintro _ ⟨⟩, by rintro _ ⟨⟩⟩

end Value

/-! ## One entry -/

/-- The entry asks for this, but for what its pattern can be tried on. -/
structure Value.AsksFor (v : Value) (d : Draft) : Prop where
  pattern : v.entryCompiled? = some d.pattern
  name : ∃ g, d.pattern.names = [(d.name, g)]
  options : v.entryOptions = (d.skip, d.hook)

namespace PatternInput

variable {w : Value} {p : CompiledPattern}

theorem toPattern_ok (h : w.asCompiled? = some p) (index : Nat) : (ofValue w).toPattern index = .ok p := by
  rcases Value.asCompiled?_eq_some h with ⟨q, rfl, rfl⟩ | ⟨q, hq, rfl⟩
  · rfl
  · rcases Value.asPattern?_eq_some hq with ⟨s, rfl, hs⟩ | rfl
    · show (compilePattern s {}).map _ = _
      unfold compilePattern
      rw [hs]
      rfl
    · rfl

theorem toPattern_other (hsource : ∀ s, w ≠ .str s) (hcompiled : ¬ w.IsCompiled) (index : Nat) :
    (ofValue w).toPattern index = .error (.rule ⟨.notPattern w.typeName, some index, none⟩) := by
  unfold ofValue
  split
  · exact absurd rfl (hsource _)
  · exact absurd (.inl ⟨_, rfl⟩) hcompiled
  · exact absurd (.inr ⟨_, rfl⟩) hcompiled
  · rfl

end PatternInput

namespace Entry

variable {v w : Value} {p : CompiledPattern} {name : String} {index : Nat}

/-- An entry that was not built as a rule asks for one if its pattern has a name. -/
theorem draft_of_part (hw : v.patternPart = some w) (hrule : v.givenName? = none) (index : Nat) :
    (ofValue v).draft index = (do
      let p ← (PatternInput.ofValue w).toPattern index
      let name ← p.groupName (some index)
      Except.ok ⟨name, p, v.entryOptions.1, v.entryOptions.2⟩) := by
  unfold Value.patternPart at hw
  split at hw
  · cases hw
    rfl
  · cases hw
  · cases hrule
  · cases hrule
  · cases hrule
  · rename_i htuple hbuilt _ _
    cases hw
    cases v with
    | tuple items => exact absurd rfl (htuple items)
    | rule a b c d => cases hrule
    | _ => rfl

/-- The name of a pattern with one named group is found. -/
theorem groupName_ok {g : Nat} (h : p.names = [(name, g)]) (place : Option Nat) :
    p.groupName place = .ok name := by
  unfold CompiledPattern.groupName
  rw [h]

/-- With any other number of them the complaint tells that number and the source. -/
theorem groupName_error (h : p.names.length ≠ 1) (place : Option Nat) :
    p.groupName place = .error (.rule ⟨.nameCount p.names.length, place, some p.source⟩) := by
  unfold CompiledPattern.groupName
  split
  · rename_i hnames
    rw [hnames] at h
    exact absurd rfl h
  · rfl

/-- Either the names of a pattern are one name, or their number is wrong. -/
theorem names_cases (p : CompiledPattern) : (∃ name g, p.names = [(name, g)]) ∨ p.names.length ≠ 1 := by
  by_cases h : p.names.length = 1
  · rcases List.length_eq_one_iff.1 h with ⟨⟨name, g⟩, hnames⟩
    exact .inl ⟨name, g, hnames⟩
  · exact .inr h

/-- The outcome of an entry that is refused for the cause `c`, the first one that speaks against it. -/
def Refused (before : List Value) (index : Nat) (v : Value) (e : Fault) : Prop :=
  ∃ c, v.IsRefusedFor before c ∧ e = .rule ⟨c, some index, v.entryCompiled?.map CompiledPattern.source⟩

/-- The check of an entry ends with the fault: it is refused, or something else gets out. -/
def Stopped (before : List Value) (index : Nat) (v : Value) (e : Fault) : Prop :=
  Refused before index v e ∨ v.Escapes before e

/-- The outcome of an entry, as far as the entry alone can tell. -/
def Outcome (before : List Value) (index : Nat) (v : Value) (x : Except Fault Draft) : Prop :=
  match x with
  | .ok d => v.AsksFor d ∧ v.IsNamed d.name
  | .error e => Stopped before index v e

variable {before : List Value}

/-- The check of an entry ends with a fault only if the entry is bad. -/
theorem Stopped.isBad {e : Fault} (h : Stopped before index v e) : v.IsBad before := by
  rcases h with ⟨c, hc, -⟩ | h
  · exact .inl ⟨c, hc.first.1⟩
  · cases h with
    | unwritten h => exact .inr (.inl ⟨_, h⟩)
    | groupless h => exact .inr (.inr (.inr ⟨_, h⟩))
    | bytes h _ _ => exact .inr (.inr (.inl h))

/-- An entry leaves no choice in the fault that its check ends with. -/
theorem Stopped.unique {e e' : Fault} (h : Stopped before index v e) (h' : Stopped before index v e') : e = e' := by
  rcases h with ⟨c, hc, rfl⟩ | h
  · rcases h' with ⟨c', hc', rfl⟩ | h'
    · rw [hc.first.unique hc'.first]
    · exact absurd hc h'.not_refused
  · rcases h' with ⟨c', hc', -⟩ | h'
    · exact absurd hc' h.not_refused
    · exact h.unique h'

/-- The check of an entry never ends with an error about a pattern. -/
theorem Stopped.ne_pattern {e : Fault} (h : Stopped before index v e) (failure : PatternFailure) :
    e ≠ .pattern failure := by
  rcases h with ⟨c, -, rfl⟩ | h
  · rintro ⟨⟩
  · exact h.not_reported.2 failure

/-- The number of names in the pattern of an entry is wrong. -/
theorem Refused.nameCount (hp : v.entryCompiled? = some p) (hcount : p.names.length ≠ 1) :
    Refused before index v (.rule ⟨.nameCount p.names.length, some index, some p.source⟩) := by
  refine ⟨.nameCount p.names.length, ⟨⟨⟨p, hp, rfl, hcount⟩, fun d hd => hd.of_pattern hp⟩, ?_⟩, ?_⟩
  · -- An entry without a name of its own has none to compare with.
    rintro e ⟨-, name, -, ⟨q, g, hq, hnames⟩, -⟩
    cases hp.symm.trans hq
    rw [hnames] at hcount
    exact hcount rfl
  · rw [hp]
    rfl

theorem ofValue_malformed {items : List Value} (h : ∀ first options, items ≠ [first, .dict options]) :
    ofValue (.tuple items) = .malformedPair := by
  unfold ofValue
  split
  · rename_i hbuilt
    cases hbuilt
  · rename_i hpair
    cases hpair
    exact absurd rfl (h _ _)
  · rfl
  · rename_i hother
    exact absurd rfl (hother items)

/-- Only an entry that was built as a rule hides a name. -/
theorem not_hidesName (hgiven : v.givenName? = none) (e : Fault) : ¬ v.HidesName e := by
  rintro ⟨given, -, hsome, -⟩
  cases hgiven.symm.trans hsome

/-- A tuple that is no pair with options is refused. -/
theorem draft_malformed (hw : v.patternPart = none) (hgiven : v.givenName? = none) :
    Outcome before index v ((ofValue v).draft index) := by
  have hnone : v.entryCompiled? = none := by
    unfold Value.entryCompiled?
    rw [hw]
    rfl
  rcases Value.patternPart_eq_none hw hgiven with ⟨items, rfl, hno⟩
  rw [ofValue_malformed hno]
  refine .inl ⟨.malformedPair, ⟨⟨⟨items, rfl, hno⟩, fun d _ => Nat.zero_le _⟩, not_hidesName rfl⟩, ?_⟩
  rw [hnone]
  rfl

/-- An entry that was not built as a rule needs a pattern with one name. -/
theorem draft_plain (hv : v.IsProper) (hw : v.patternPart = some w) (hgiven : v.givenName? = none) :
    Outcome before index v ((ofValue v).draft index) := by
  rw [draft_of_part hw hgiven]
  cases hp : w.asCompiled? with
  | none =>
    -- The value is no source, since every source in the entry can be compiled.
    have hsource : ∀ s, w ≠ .str s := by
      rintro s rfl
      rcases hv.compiles s hw with ⟨p, hcompile⟩
      simp [Value.asCompiled?, Value.asPattern?, hcompile, Except.toOption] at hp
    have hcompiled : ¬ w.IsCompiled := by
      rintro (⟨p, rfl⟩ | ⟨p, rfl⟩) <;> cases hp
    have hnone : v.entryCompiled? = none := by
      unfold Value.entryCompiled?
      rw [hw]
      exact hp
    rw [PatternInput.toPattern_other hsource hcompiled]
    refine .inl ⟨.notPattern w.typeName, ⟨⟨⟨w, hw, rfl, hsource, hcompiled⟩, fun d hd => hd.of_part hw⟩,
      not_hidesName hgiven⟩, ?_⟩
    rw [hnone]
    rfl
  | some p =>
    have hpattern : v.entryCompiled? = some p := Value.entryCompiled?_eq_some.2 ⟨w, hw, hp⟩
    rw [PatternInput.toPattern_ok hp]
    rcases names_cases p with ⟨name, g, hnames⟩ | hcount
    · show Outcome before index v (p.groupName (some index) >>= _)
      rw [groupName_ok hnames]
      refine ⟨⟨hpattern, ⟨g, hnames⟩, rfl⟩, ⟨p, g, hpattern, hnames⟩, fun u hu => ?_⟩
      rw [hgiven] at hu
      cases hu
    · show Outcome before index v (p.groupName (some index) >>= _)
      rw [groupName_error hcount]
      exact .inl (.nameCount hpattern hcount)

variable {input : PatternInput} {given skip : Value} {hook : Option Hook}

/-- An entry that was built as a rule goes by the name of its pattern, if there is one. -/
theorem draft_named {g : Nat} (hp : input.compiled? = some p) (hnames : p.names = [(name, g)]) :
    (rule given input skip hook).draft index =
      match given with
      | .str s => if s = name then .ok ⟨name, p, skip, hook⟩ else draft.mismatch index s name p
      | v => v.text >>= fun text => draft.mismatch index text name p := by
  simp only [draft, hp, groupName_ok hnames]
  cases given <;> rfl

/-- A rule that bears the name of its group is taken as it is. -/
theorem draft_match {g : Nat} (hp : input.compiled? = some p) (hnames : p.names = [(name, g)]) :
    (rule (.str name) input skip hook).draft index = .ok ⟨name, p, skip, hook⟩ :=
  (draft_named hp hnames).trans (if_pos rfl)

/-- The name that an entry was given is told if it is another one, or the entry fails with the writing of it. -/
theorem draft_mismatch {g : Nat} (hp : input.compiled? = some p) (hnames : p.names = [(name, g)])
    (hne : given ≠ .str name) :
    (rule given input skip hook).draft index =
      given.text >>= fun text => .error (.rule ⟨.nameMismatch text name, some index, some p.source⟩) := by
  rw [draft_named hp hnames]
  cases given with
  | str s => exact if_neg fun h => hne (congrArg Value.str h)
  | _ => rfl

/-- The number of names in the pattern of an entry that was built as a rule is wrong. -/
theorem draft_unnamed (hp : input.compiled? = some p) (hcount : p.names.length ≠ 1) :
    (rule given input skip hook).draft index =
      .error (.rule ⟨.nameCount p.names.length, some index, some p.source⟩) := by
  simp only [draft, hp, groupName_error hcount]
  rfl

/-- A rule that was built around anything else than a compiled pattern fails where that is asked for its groups. -/
theorem draft_lacking {name place value : Value} (hbuilt : v = .rule name place skip value)
    (hplace : ¬ place.IsCompiled) : Outcome before index v ((ofValue v).draft index) := by
  have hdraft : (ofValue v).draft index = .error (.noAttribute place.typeName "groupindex") := by
    rw [hbuilt]
    cases place with
    | pattern p => exact absurd (.inl ⟨p, rfl⟩) hplace
    | bytesPattern p => exact absurd (.inr ⟨p, rfl⟩) hplace
    | _ => rfl
  rw [hdraft]
  exact .inr (.groupless ⟨name, place, skip, value, hbuilt, hplace, rfl⟩)

/-- An entry that was built as a rule needs besides that the name it was given. -/
theorem draft_built {place value : Value} (hbuilt : v = .rule given place skip value)
    (hpattern : v.entryCompiled? = some p) (hp : (PatternInput.ofValue place).compiled? = some p) :
    Outcome before index v ((ofValue v).draft index) := by
  -- The number of named groups is looked at first, then the name that was given.
  have hentry : ofValue v = rule given (.ofValue place) skip (Hook.ofValue value) := by
    rw [hbuilt]
    rfl
  have hgiven : v.givenName? = some given := by
    rw [hbuilt]
    rfl
  rw [hentry]
  rcases names_cases p with ⟨name, g, hnames⟩ | hcount
  · have hname : v.HasName name := ⟨p, g, hpattern, hnames⟩
    by_cases hsame : given = .str name
    · subst hsame
      rw [draft_match hp hnames]
      refine ⟨⟨hpattern, ⟨g, hnames⟩, ?_⟩, hname, ?_⟩
      · rw [hbuilt]
        rfl
      · intro u hu
        cases hgiven.symm.trans hu
        rfl
    · rw [draft_mismatch hp hnames hsame]
      cases htext : given.text with
      | error e => exact .inr (.unwritten ⟨given, name, hgiven, hname, htext⟩)
      | ok text =>
        refine .inl ⟨.nameMismatch text name, ⟨⟨⟨given, hgiven, htext, hname, hsame⟩, fun d hd => hd.of_name hname⟩,
          ?_⟩, ?_⟩
        · rintro e ⟨given', -, hgiven', -, herror⟩
          cases hgiven.symm.trans hgiven'
          cases htext.symm.trans herror
        · rw [hpattern]
          rfl
  · rw [draft_unnamed hp hcount]
    exact .inl (.nameCount hpattern hcount)

/-- An entry asks for a rule with its own name, or its check ends with the fault that tells why not. -/
theorem draft_spec (hv : v.IsProper) (before : List Value) (index : Nat) :
    Outcome before index v ((ofValue v).draft index) := by
  cases hgiven : v.givenName? with
  | none =>
    cases hw : v.patternPart with
    | none => exact draft_malformed hw hgiven
    | some w => exact draft_plain hv hw hgiven
  | some given =>
    unfold Value.givenName? at hgiven
    split at hgiven
    · rename_i name place skip value
      by_cases hplace : place.IsCompiled
      · rcases hplace with ⟨p, rfl⟩ | ⟨p, rfl⟩
        · exact draft_built rfl rfl rfl
        · exact draft_built rfl rfl rfl
      · exact draft_lacking rfl hplace
    · cases hgiven

end Entry

end PatternLexer
