import Mathlib.Algebra.GroupWithZero.Nat
import PatternLexer.Proofs.Matching

/-!
# Which part of a composite pattern matched

The group around a part is opened before and closed after all groups in the part, however these are repeated,
skipped or undone. So it is the group closed last as soon as the part has matched, and its number tells the part.

* `Composite.owners_eq`: the groups looked up are the wrappers, one for each part, and their numbers increase.
* `Parted.getElem?`: the branch at an index is the wrapper with the number for that index, around a body of the part.
* `Composite.attributed`: what the merged pattern matches is what its first matching branch does, and the group
  closed last is the wrapper of that branch.
* `Composite.match_attributed`: so the lookup never fails, and matches are attributed to the branch that matched.
-/

namespace PatternLexer

/-- The number of the group around the pattern at `index`, the first one having the number `group`: each part before
it takes a number for its wrapper and one for each group in it. -/
def Composite.wrapperFrom (group : Nat) (ps : List Pattern) (index : Nat) : Nat :=
  group + ((ps.take index).map fun p => 1 + p.groups).sum

namespace Composite

variable {group index : Nat} {p : Pattern} {ps : List Pattern}

@[simp] theorem wrapperFrom_zero : wrapperFrom group ps 0 = group := by
  simp [wrapperFrom]

@[simp] theorem wrapperFrom_succ :
    wrapperFrom group (p :: ps) (index + 1) = wrapperFrom (group + 1 + p.groups) ps index := by
  simp [wrapperFrom, Nat.add_assoc]

theorem le_wrapperFrom : group ≤ wrapperFrom group ps index := Nat.le_add_right _ _

/-- The groups looked up are the wrappers. -/
theorem ownersFrom_eq (ps : List Pattern) : ∀ group first : Nat,
    ownersFrom group first ps = (List.range ps.length).map fun i => (wrapperFrom group ps i, first + i) := by
  induction ps with
  | nil =>
    intro group first
    rfl
  | cons p ps ih =>
    intro group first
    rw [ownersFrom, ih, List.length_cons, List.range_succ_eq_map, List.map_cons, List.map_map]
    simp [Function.comp_def, Nat.add_assoc, Nat.add_comm 1]

/-- The numbers of the wrappers increase. -/
theorem ownersFrom_increasing (ps : List Pattern) : ∀ group first : Nat,
    ((ownersFrom group first ps).map Prod.fst).Pairwise (· < ·) := by
  induction ps with
  | nil =>
    intro group first
    exact .nil
  | cons p ps ih =>
    intro group first
    rw [ownersFrom, List.map_cons]
    refine .cons (fun g hg => ?_) (ih _ _)
    rw [ownersFrom_eq, List.map_map] at hg
    rcases List.mem_map.1 hg with ⟨i, -, rfl⟩
    have hle : group + 1 + p.groups ≤ wrapperFrom (group + 1 + p.groups) ps i := le_wrapperFrom
    show group < wrapperFrom (group + 1 + p.groups) ps i
    omega

/-- The wrapper of a part is looked up as the index of the part. -/
theorem lookup_ownersFrom (ps : List Pattern) : ∀ group first index : Nat, index < ps.length →
    (ownersFrom group first ps).lookup (wrapperFrom group ps index) = some (first + index) := by
  induction ps with
  | nil =>
    intro group first index hindex
    cases hindex
  | cons p ps ih =>
    intro group first index hindex
    rw [ownersFrom, List.lookup_cons]
    cases index with
    | zero => simp
    | succ index =>
      have hle : group + 1 + p.groups ≤ wrapperFrom (group + 1 + p.groups) ps index := le_wrapperFrom
      -- The first wrapper has another number, since those behind it are greater.
      have hother : (wrapperFrom (group + 1 + p.groups) ps index == group) = false := by
        rw [beq_eq_false_iff_ne]
        omega
      rw [wrapperFrom_succ, hother]
      show List.lookup _ _ = _
      rw [ih _ _ _ (Nat.lt_of_succ_lt_succ hindex), Nat.add_assoc, Nat.add_comm 1]

end Composite

/-! ## Branches -/

/-- The branch at an index is the wrapper with the number for that index. -/
theorem Parted.getElem? {g : Nat} {ps : List Pattern} {ts : List Tree} (h : Parted g ps ts) :
    ∀ {i : Nat} {t : Tree}, ts[i]? = some t →
      ∃ p body, ps[i]? = some p ∧ t = .group (Composite.wrapperFrom g ps i) body ∧
        p.IsBody (Composite.wrapperFrom g ps i) body := by
  induction h with
  | nil =>
    intro i t ht
    cases ht
  | @cons g p ps body ts hbody hrest ih =>
    intro i t ht
    cases i with
    | zero =>
      cases ht
      rw [Composite.wrapperFrom_zero]
      exact ⟨p, body, rfl, rfl, hbody⟩
    | succ i =>
      rw [Composite.wrapperFrom_succ]
      exact ih ht

/-- A group that matched is the group closed last, whatever was closed in it. -/
theorem Tree.group_closes_last {g : Nat} {body : Tree} {text : Subject} {fs : Flags} {s r : Progress}
    (hs : s.pos ≤ text.size) (h : (Tree.group g body).search text fs s some = some r) :
    r.lastClosed? = some g := by
  obtain ⟨u, -, -, hu⟩ := body.search_forward text fs (s.opening g) (fun t => some (t.closing g)) r hs h
  rw [← Option.some.inj hu]
  rfl

/-- How a branch of a composite pattern matches from `pos` on. -/
def Tree.outcome (t : Tree) (text : Subject) (pos : Nat) : Option Progress :=
  t.search text { unicode := true } (.start pos) some

namespace Composite

variable {c : Composite} {text : Subject} {pos : Nat} {r : Progress}

/-- The number of the group around the part at `index`. -/
def wrapper (c : Composite) (index : Nat) : Nat := wrapperFrom 1 c.parts index

/-- The branch at `index` is the first that matches at `pos`, and `r` is how it does. -/
structure IsFirstBranch (c : Composite) (text : Subject) (pos : Nat) (r : Progress) (index : Nat) : Prop where
  matched : ∃ body p, c.parts[index]? = some p ∧ p.IsBody (c.wrapper index) body ∧
    c.branches[index]? = some (.group (c.wrapper index) body) ∧
    (Tree.group (c.wrapper index) body).outcome text pos = some r
  first : ∀ j < index, ∀ t, c.branches[j]? = some t → t.outcome text pos = none

theorem owners_eq (c : Composite) : c.owners = (List.range c.parts.length).map fun i => (c.wrapper i, i) := by
  simp [owners, ownersFrom_eq, wrapper]

theorem owners_nodup (c : Composite) : (c.owners.map Prod.fst).Nodup :=
  (ownersFrom_increasing c.parts 1 0).imp Nat.ne_of_lt

/-- The merged pattern matches like the first of its branches that does. -/
theorem matchAt_findSome? (hne : c.parts ≠ []) (text : Subject) (pos : Nat) :
    c.pattern.matchAt text pos = c.branches.findSome? fun t => t.outcome text pos := by
  obtain ⟨hparted, htree, hflags⟩ := c.parted hne
  rw [Pattern.matchAt, hflags, htree, hparted.search_eq hne]
  rfl

/-- What the merged pattern matches is what its first matching branch does. The group closed last is the wrapper of
that branch, and it is looked up as the index of the branch. -/
theorem attributed (hne : c.parts ≠ []) (hpos : pos ≤ text.size) (h : c.pattern.matchAt text pos = some r) :
    ∃ index < c.parts.length, c.IsFirstBranch text pos r index ∧ r.lastClosed? = some (c.wrapper index) ∧
      c.owners.lookup (c.wrapper index) = some index := by
  rw [matchAt_findSome? hne] at h
  obtain ⟨before, t, after, hsplit, hmatch, hbefore⟩ := List.findSome?_eq_some_iff.1 h
  have ht : c.branches[before.length]? = some t := by simp [hsplit]
  obtain ⟨p, body, hp, rfl, hbody⟩ := (c.parted hne).1.getElem? ht
  have hindex : before.length < c.parts.length := (List.getElem?_eq_some_iff.1 hp).1
  refine ⟨before.length, hindex, ⟨⟨body, p, hp, hbody, ht, hmatch⟩, fun j hj u hu => ?_⟩, ?_, ?_⟩
  · rw [hsplit, List.getElem?_append_left hj] at hu
    exact hbefore u (List.mem_of_getElem? hu)
  · exact Tree.group_closes_last (s := .start pos) hpos hmatch
  · rw [owners, wrapper, lookup_ownersFrom _ _ _ _ hindex, Nat.zero_add]

/-- There is no match just if no branch has one. -/
theorem matchAt_eq_none (hne : c.parts ≠ []) :
    c.pattern.matchAt text pos = none ↔ ∀ t ∈ c.branches, t.outcome text pos = none := by
  rw [matchAt_findSome? hne, List.findSome?_eq_none_iff]

/-- The match of a composite pattern for what its merged pattern matched. -/
structure IsMatch (c : Composite) (text : Subject) (pos : Nat) (m : RuleMatch) : Prop where
  inRange : m.index < c.parts.length
  starts : m.start = pos
  forward : pos ≤ m.stop
  inside : m.stop ≤ text.size
  spells : m.text = text.slice pos m.stop
  attributed : ∃ r, c.pattern.matchAt text pos = some r ∧ r.pos = m.stop ∧
    r.lastClosed? = some (c.wrapper m.index) ∧ c.IsFirstBranch text pos r m.index

/-- Patterns that were merged, be there groups and references of any kind in them, are matched without a fault at any
integer of machine size. It stands for an offset of the text, and there is a match just if one of the branches has
one. It begins at the offset and ends in the text, and its index is that of the first branch that matches: the group
closed last is the wrapper of this branch, and the wrappers are the groups that are looked up. -/
theorem match_attributed (parts : List Pattern) (c : Composite) (s : String) (n : Int) (hne : parts ≠ [])
    (hbuilt : build parts = .ok c) (hn : -Value.machineLimit ≤ n ∧ n < Value.machineLimit) :
    ∃ (text : Subject) (pos : Nat) (found : Option RuleMatch), text = s.toList.toArray ∧
      pos = min n.toNat text.size ∧ c.matchValue (.str s) (.int n) = .ok found ∧
      (∀ m, found = some m → c.IsMatch text pos m) ∧
      (found = none ↔ ∀ t ∈ c.branches, t.outcome text pos = none) ∧ c.branches.length = parts.length ∧
      (∀ r, c.pattern.matchAt text pos = some r →
        ∃ g i, r.lastClosed? = some g ∧ c.owners.lookup g = some i ∧ i < parts.length) ∧
      c.owners = (List.range parts.length).map
        (fun i => (1 + ((parts.take i).map fun p => 1 + p.groups).sum, i)) ∧
      (c.owners.map Prod.fst).Nodup := by
  obtain rfl := build_parts hbuilt
  let text : Subject := s.toList.toArray
  let pos := min n.toNat text.size
  have hpos : pos ≤ text.size := Nat.min_le_right _ _
  have hvalue : c.matchValue (.str s) (.int n) = c.matchAt text pos := by
    rw [matchValue, Value.offset, if_pos hn]
    rfl
  have hlength : c.branches.length = c.parts.length := (c.parted hne).1.length
  have hlookup : ∀ r, c.pattern.matchAt text pos = some r →
      ∃ g i, r.lastClosed? = some g ∧ c.owners.lookup g = some i ∧ i < c.parts.length := by
    intro r hr
    obtain ⟨i, hi, -, hclosed, hlookup⟩ := attributed hne hpos hr
    exact ⟨c.wrapper i, i, hclosed, hlookup, hi⟩
  refine ⟨text, pos, ?_⟩
  rw [hvalue, matchAt]
  cases hr : c.pattern.matchAt text pos with
  | none =>
    refine ⟨none, rfl, rfl, rfl, ?_, ?_, hlength, ?_, c.owners_eq, c.owners_nodup⟩
    · intro m hm
      cases hm
    · exact ⟨fun _ => (matchAt_eq_none hne).1 hr, fun _ => rfl⟩
    · intro r hr
      cases hr
  | some r =>
    obtain ⟨i, hi, hfirst, hclosed, howner⟩ := attributed hne hpos hr
    have hends := Tree.search_some (s := .start pos) hpos hr
    simp only [hclosed, howner]
    refine ⟨_, rfl, rfl, rfl, ?_, ?_, hlength, ?_, c.owners_eq, c.owners_nodup⟩
    · intro m hm
      cases hm
      exact ⟨hi, rfl, hends.1, hends.2, rfl, r, hr, rfl, hclosed, hfirst⟩
    · constructor
      · intro hnone
        cases hnone
      · intro hnone
        cases hr.symm.trans ((matchAt_eq_none hne).2 hnone)
    · intro r' hr'
      cases hr'
      exact hlookup r hr

/-- Patterns whose groups are closed in lookaheads and in rounds of a loop. -/
def groupedRules : List Entry :=
  [.bare (.source "(?P<A>(a)(?=(b)))"), .bare (.source "(?P<C>((a)(?=(c)))+)")]

/-- The first of them closes its group for `a` before it fails, and the match is attributed to the second. -/
theorem match_attributed_grouped :
    ∃ parts c, build parts = .ok c ∧ parts ≠ [] ∧ (-Value.machineLimit ≤ 1 ∧ 1 < Value.machineLimit) ∧
      c.matchValue (.str " ac") (.int 1) = .ok (some ⟨1, "a", 1, 2⟩) ∧
      c.IsMatch " ac".toList.toArray 1 ⟨1, "a", 1, 2⟩ ∧ c.owners = [(1, 0), (5, 1), (10, 2)] := by
  obtain ⟨lx, -, hcheck⟩ := Logged.exists_ok (Lexer.compile groupedRules)
    (fun lx => (lx.composite.matchValue (.str " ac") (.int 1)).toOption == some (some ⟨1, "a", 1, 2⟩) &&
      lx.composite.owners == [(1, 0), (5, 1), (10, 2)])
    (by decide +kernel)
  rw [Bool.and_eq_true, beq_iff_eq, beq_iff_eq] at hcheck
  have hn : -Value.machineLimit ≤ 1 ∧ 1 < Value.machineLimit := by decide
  have hne : lx.composite.parts ≠ [] := Lexer.parts_ne_nil
  obtain ⟨_, _, found, rfl, rfl, hfound, hmatch, -⟩ :=
    match_attributed lx.composite.parts lx.composite " ac" 1 hne lx.composite.build_of_parts hn
  rw [hfound] at hcheck
  obtain rfl : found = some ⟨1, "a", 1, 2⟩ := Option.some.inj hcheck.1
  exact ⟨_, _, lx.composite.build_of_parts, hne, hn, hfound, hmatch _ rfl, hcheck.2⟩

end Composite

end PatternLexer
