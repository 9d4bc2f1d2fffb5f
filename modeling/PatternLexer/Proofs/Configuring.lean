import PatternLexer.Proofs.Resetting

/-!
# Configurations from dictionaries

A dictionary tells the start line and the transforms; these go by two keys, of which `transforms` hides `transform`.

* `Value.IsTransforms` says which values stand for transforms, and `Transform.normalize_of_isTransforms` that they
  can be told as a list.
* `Config.ofEntries_ok` says what is made of a dictionary that has such values.
* `Config.ofEntries_normalizes` is about the configuration and all resets under it: transforms that are told as nothing
  are no list of transforms if the key is `transforms`, so that every reset fails after its scan.
-/

namespace PatternLexer

/-! ## Values that stand for transforms -/

/-- What callers may give as transforms: nothing, something to call, or a sequence of such things. -/
inductive Value.IsTransforms : Value → Prop where
  | nothing : IsTransforms .null
  | single {v : Value} (h : v.isCallable = true) : IsTransforms v
  | list {items : List Value} (h : ∀ v ∈ items, v.isCallable = true) : IsTransforms (.list items)
  | tuple {items : List Value} (h : ∀ v ∈ items, v.isCallable = true) : IsTransforms (.tuple items)

namespace Transform

variable {v : Value} {items : List Value}

theorem normalize_of_isCallable (h : v.isCallable = true) : normalize v = .ok [ofValue v] := by
  unfold normalize
  split
  · cases h
  · exact if_pos h

theorem forall_given_isCallable (h : ∀ v ∈ items, v.isCallable = true) :
    ∀ f ∈ items.map ofValue, f.given.isCallable = true := by
  rintro f hf
  obtain ⟨v, hv, rfl⟩ := List.mem_map.1 hf
  exact h v hv

/-- Such a value is told as a list of transforms, each of which can be called. -/
theorem normalize_of_isTransforms (h : v.IsTransforms) :
    ∃ fs, normalize v = .ok fs ∧ ∀ f ∈ fs, f.given.isCallable = true := by
  cases h with
  | nothing => exact ⟨[], rfl, List.forall_mem_nil _⟩
  | single h => exact ⟨[ofValue v], normalize_of_isCallable h, List.forall_mem_singleton.2 h⟩
  | list h => exact ⟨_, rfl, forall_given_isCallable h⟩
  | tuple h => exact ⟨_, rfl, forall_given_isCallable h⟩

end Transform

/-! ## Dictionaries -/

namespace Config

variable {entries : List (String × Value)} {fs : List Transform}

/-- What a dictionary tells about transforms: one key, or else the other. -/
def transformsEntry (entries : List (String × Value)) : Value :=
  (entries.lookup "transforms").getD ((entries.lookup "transform").getD .null)

/-- Transforms that are told as nothing are no list if the first key is there. -/
theorem ofEntries_of_null (h : transformsEntry entries = .null) : ofEntries entries =
    .ok ⟨(entries.lookup "start_line").getD (.int 1),
      if (entries.lookup "transforms").isSome then none else some []⟩ := by
  unfold ofEntries
  unfold transformsEntry at h
  rw [h]

theorem ofEntries_of_ne_null (h : transformsEntry entries ≠ .null)
    (hfs : Transform.normalize (transformsEntry entries) = .ok fs) :
    ofEntries entries = .ok ⟨(entries.lookup "start_line").getD (.int 1), some fs⟩ := by
  unfold ofEntries
  unfold transformsEntry at h hfs
  split
  · exact absurd ‹_› h
  · rw [hfs]
    rfl

/-- A dictionary whose transforms can be told as a list describes a configuration with this list, unless the first key
is there and is nothing. -/
theorem ofEntries_ok (hfs : Transform.normalize (transformsEntry entries) = .ok fs) :
    ∃ config, ofEntries entries = .ok config ∧
      config.startLine = (entries.lookup "start_line").getD (.int 1) ∧
      (entries.lookup "transforms" ≠ some .null → config.transforms = some fs) ∧
      (entries.lookup "transforms" = some .null → config.transforms = none) := by
  by_cases hnull : transformsEntry entries = .null
  · -- Nothing is told: the first key is absent, or it is there and is nothing.
    refine ⟨_, ofEntries_of_null hnull, rfl, fun hne => ?_, fun h => ?_⟩
    · rw [hnull] at hfs
      cases hfs
      cases hlookup : entries.lookup "transforms" with
      | none => rfl
      | some v =>
        rw [transformsEntry, hlookup] at hnull
        exact absurd (hlookup.trans (congrArg some hnull)) hne
    · rw [h]
      rfl
  · refine ⟨_, ofEntries_of_ne_null hnull hfs, rfl, fun _ => rfl, fun h => ?_⟩
    rw [transformsEntry, h] at hnull
    exact absurd rfl hnull

/-- No other key is looked at. -/
theorem ofEntries_congr {entries' : List (String × Value)}
    (hkeys : ∀ key ∈ ["start_line", "transforms", "transform"], entries'.lookup key = entries.lookup key) :
    ofEntries entries' = ofEntries entries := by
  obtain ⟨hline, htransforms, htransform, -⟩ :
      entries'.lookup "start_line" = entries.lookup "start_line" ∧
      entries'.lookup "transforms" = entries.lookup "transforms" ∧
      entries'.lookup "transform" = entries.lookup "transform" ∧ True := by
    simpa using hkeys
  unfold ofEntries
  rw [hline, htransforms, htransform]

/-! ## Resets under the configuration -/

/-- A dictionary whose two keys for transforms are absent, nothing, something to call, or a sequence of such things
describes a configuration, whatever its other keys are. The line is that of the dictionary, or 1. The transforms are
those of the first key, or else of the second, as a list, and resets fail only where the scan or a transform does.
But if the first key is there and is nothing, there is no list, and no reset gets past its scan. -/
theorem ofEntries_normalizes (entries : List (String × Value))
    (htransforms : ∀ v, entries.lookup "transforms" = some v → v.IsTransforms)
    (htransform : ∀ v, entries.lookup "transform" = some v → v.IsTransforms) :
    ∃ config fs, ofEntries entries = .ok config ∧
      (∀ entries' : List (String × Value), (∀ key ∈ ["start_line", "transforms", "transform"],
        entries'.lookup key = entries.lookup key) → ofEntries entries' = .ok config) ∧
      config.startLine = (entries.lookup "start_line").getD (.int 1) ∧
      Transform.normalize ((entries.lookup "transforms").getD ((entries.lookup "transform").getD .null)) = .ok fs ∧
      (∀ f ∈ fs, f.given.isCallable = true) ∧
      (entries.lookup "transforms" ≠ some .null → config.transforms = some fs ∧
        ∀ (c : Cursor) (data info : Value) (scanned : List Token), c.config = config →
          (c.lexer.tokenize (if data.truthy then data else .str "") (config.lineFrom info)).result = .ok scanned →
          (c.reset data info).2.result = (Transform.applyAll fs scanned).map fun _ => ()) ∧
      (entries.lookup "transforms" = some .null → config.transforms = none ∧
        ∀ (c : Cursor) (data info : Value) (scanned : List Token), c.config = config →
          (c.lexer.tokenize (if data.truthy then data else .str "") (config.lineFrom info)).result = .ok scanned →
          (c.reset data info).2.result = .error (.notIterable "NoneType")) := by
  have hentry : (transformsEntry entries).IsTransforms := by
    unfold transformsEntry
    cases hfirst : entries.lookup "transforms" with
    | some v => exact htransforms v hfirst
    | none =>
      cases hsecond : entries.lookup "transform" with
      | some v => exact htransform v hsecond
      | none => exact .nothing
  obtain ⟨fs, hfs, hcallable⟩ := Transform.normalize_of_isTransforms hentry
  obtain ⟨config, hconfig, hline, hlist, hnothing⟩ := ofEntries_ok hfs
  refine ⟨config, fs, hconfig, fun entries' hkeys => (ofEntries_congr hkeys).trans hconfig, hline, hfs, hcallable,
    fun hfirst => ⟨hlist hfirst, ?_⟩, fun hfirst => ⟨hnothing hfirst, ?_⟩⟩
  · rintro c data info scanned rfl hscan
    rw [Cursor.reset_outcome, hscan]
    simp only [hlist hfirst]
    rfl
  · rintro c data info scanned rfl hscan
    rw [Cursor.reset_outcome, hscan]
    simp only [hnothing hfirst]
    rfl

/-- The second key is told as a list of one transform; a key that means nothing is passed over. -/
theorem ofEntries_normalizes_single : ∃ config,
    ofEntries [("transform", .hook .upper), ("start_line", .int 3), ("unknown", .null)] = .ok config ∧
      config.startLine = .int 3 ∧ config.transforms = some [.ofValue (.hook .upper)] := by
  obtain ⟨config, fs, hconfig, -, hline, hfs, -, hlist, -⟩ := ofEntries_normalizes
    [("transform", .hook .upper), ("start_line", .int 3), ("unknown", .null)] (fun _ h => (by cases h))
    (fun _ h => (by cases h; exact .single rfl))
  have hlist := (hlist nofun).1
  cases hfs
  exact ⟨config, hconfig, hline, hlist⟩

/-- A first key that is nothing is not told as the list without transforms, and every reset fails, if only to the
empty text. -/
theorem ofEntries_null : ∃ config, ofEntries [("transforms", .null)] = .ok config ∧
    Transform.normalize .null = .ok [] ∧ config.transforms ≠ some [] ∧
    ∀ lx, ((Cursor.new lx config).reset .null .null).2.result = .error (.notIterable "NoneType") := by
  refine ⟨⟨.int 1, none⟩, rfl, rfl, nofun, fun lx => ?_⟩
  rw [Cursor.reset_outcome]
  exact congrArg (· >>= _) (lx.tokenize_empty _)

end Config

end PatternLexer
