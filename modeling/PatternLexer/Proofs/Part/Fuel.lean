import PatternLexer.Proofs.Part.Step
import PatternLexer.Pattern.Reader

/-!
# How deep a reading goes

The grammar is read with fuel. Between two pieces it goes no deeper than three calls, so that fuel for eight at
each character that is left is enough (`Read.fueled`): what is read with any fuel is read with that much.
-/

namespace PatternLexer

open Reader

namespace Reader

/-- Behind a piece there is less left. -/
theorem Leaves.length_lt {r s : Reader} {p : Piece} (h : r.Leaves p s) : s.rest.length < r.rest.length := by
  have htaken := congrArg List.length (Piece.first?_append h.first)
  have hchars : 0 < p.chars.length := by cases p <;> exact Nat.succ_pos _
  rw [h.past]
  show (r.rest.drop p.chars.length).length < _
  rw [List.length_append] at htaken
  omega

end Reader

namespace Read

variable {α β : Type} {L : Nat} {m m' : Read α} {f f' : α → Read β}

/-- Where at most `L` characters are left, what `m` reads is read by `m'` too. -/
def Covers (L : Nat) (m m' : Read α) : Prop :=
  ∀ ⦃r a s⦄, r.rest.length ≤ L → m.run r = .ok (a, s) → m'.run r = .ok (a, s)

namespace Covers

/-- What a step reads is read by itself. -/
theorem refl (m : Read α) : Covers L m m := fun _ _ _ _ h => h

/-- A step that refuses every pattern reads nothing. -/
theorem left (h : m.Refuses) : Covers L m m' := fun r a s _ hm => absurd hm (h r a s)

/-- Steps one after the other are covered by steps that cover each of them, since no more is left after the first. -/
theorem bind (hm : Covers L m m') (hf : ∀ a, Covers L (f a) (f' a)) : Covers L (m >>= f) (m' >>= f') := by
  intro r b s hr h
  rcases bind_ok.1 h with ⟨a, t, ha, hb⟩
  have ht : t.rest.length ≤ L := Nat.le_trans (m.forward ha).rest.length_le hr
  exact bind_ok.2 ⟨a, t, hm hr ha, hf a ht hb⟩

/-- The same after a step that both take. -/
theorem after (x : Read α) (hf : ∀ a, Covers L (f a) (f' a)) : Covers L (x >>= f) (x >>= f') :=
  bind (refl x) hf

/-- A choice is covered branch by branch. -/
theorem ite {c : Prop} [Decidable c] {n n' : Read α} (hm : Covers L m m') (hn : Covers L n n') :
    Covers L (if c then m else n) (if c then m' else n') := by
  split
  · exact hm
  · exact hn

/-- A piece that is left behind is not left for the steps after it. -/
theorem nextUnless_bind {stop : Piece → Bool} {g g' : Option Piece → Read α}
    (hsome : ∀ p L', L' < L → Covers L' (g (some p)) (g' (some p))) (hnone : Covers L (g none) (g' none)) :
    Covers L (nextUnless stop >>= g) (nextUnless stop >>= g') := by
  intro r a s hr h
  rcases bind_ok.1 h with ⟨p, t, hp, hg⟩
  refine bind_ok.2 ⟨p, t, hp, ?_⟩
  cases p with
  | none =>
    rcases nextUnless_none.1 hp with ⟨-, rfl⟩
    exact hnone hr hg
  | some p =>
    have hless := (nextUnless_some.1 hp).2.length_lt
    exact hsome p t.rest.length (Nat.lt_of_lt_of_le hless hr) (Nat.le_refl _) hg

/-- Behind a character that was taken there is less left. -/
theorem accept_bind {c : Char} {g g' : Bool → Read α} (hyes : ∀ L', L' < L → Covers L' (g true) (g' true))
    (hno : Covers L (g false) (g' false)) : Covers L (accept c >>= g) (accept c >>= g') := by
  intro r a s hr h
  rcases bind_ok.1 h with ⟨found, t, hfound, hg⟩
  refine bind_ok.2 ⟨found, t, hfound, ?_⟩
  rcases bind_ok.1 hfound with ⟨p, _, hp, hpure⟩
  rcases pure_ok.1 hpure with ⟨rfl, rfl⟩
  -- Only a character that was taken makes room for more calls.
  cases p with
  | none =>
    rcases nextUnless_none.1 hp with ⟨-, rfl⟩
    exact hno hr hg
  | some p =>
    have hless := (nextUnless_some.1 hp).2.length_lt
    exact hyes _ (Nat.lt_of_lt_of_le hless hr) (Nat.le_refl _) hg

/-- What stands between parentheses is covered if it is so without them. -/
theorem enclosed (start : Nat) (hm : Covers L m m') : Covers L (enclosed start m) (Reader.enclosed start m') :=
  bind hm fun _ => refl _

/-- So is what stands in a lookbehind. -/
theorem inLookbehind (hm : Covers L m m') : Covers L (inLookbehind m) (Reader.inLookbehind m') := by
  intro r a s hr h
  have hinside : ({ r with lookbehind := some (r.lookbehind.getD r.nextGroup) } : Reader).rest.length ≤ L := hr
  unfold Reader.inLookbehind at h ⊢
  dsimp only at h ⊢
  split at h
  · rename_i b t ht
    rw [hm hinside ht]
    exact h
  · cases h

end Covers

/-! ## The grammar -/

/-- What the functions of the grammar read with fuel `n` is read with fuel for eight calls at each character. -/
structure Fueled (n : Nat) : Prop where
  alternatives : ∀ n' L verbose nested, 8 * L + 2 ≤ n' →
    Covers L (alternatives verbose nested n) (Reader.alternatives verbose nested n')
  furtherItems : ∀ n' L verbose nested item, 8 * L + 1 ≤ n' →
    Covers L (furtherItems verbose nested item n) (Reader.furtherItems verbose nested item n')
  sequence : ∀ n' L verbose found, 8 * L + 1 ≤ n' →
    Covers L (sequence verbose found n) (Reader.sequence verbose found n')
  group : ∀ n' L verbose opening start, 8 * L + 3 ≤ n' →
    Covers L (group opening start verbose n) (Reader.group opening start verbose n')
  branches : ∀ n' L verbose, 8 * L + 2 ≤ n' → Covers L (branches verbose n) (Reader.branches verbose n')

namespace Fueled

variable {n : Nat} (ih : Fueled n)
include ih

/-- Alternatives go one call deeper than their sequences. -/
theorem alternatives_succ (n' L : Nat) (verbose nested : Bool) (hfuel : 8 * L + 2 ≤ n' + 1) :
    Covers L (Reader.alternatives verbose nested (n + 1)) (Reader.alternatives verbose nested (n' + 1)) := by
  refine .bind (ih.sequence n' L verbose [] (by omega)) fun item => ?_
  exact ih.furtherItems n' L verbose nested item (by omega)

/-- The alternatives behind a bar have one character less to read. -/
theorem furtherItems_succ (n' L : Nat) (verbose nested : Bool) (item : List Tree) (hfuel : 8 * L + 1 ≤ n' + 1) :
    Covers L (Reader.furtherItems verbose nested item (n + 1))
      (Reader.furtherItems verbose nested item (n' + 1)) := by
  refine .accept_bind (fun L' hless => ?_) (.refl _)
  refine .after noteStarted fun _ => .after here fun r => ?_
  exact .bind (ih.alternatives n' L' _ nested (by omega)) fun _ => .refl _

/-- Each step of a sequence leaves a piece behind, which makes room for the calls of the next. -/
theorem sequence_succ (n' L : Nat) (verbose : Bool) (found : List Element) (hfuel : 8 * L + 1 ≤ n' + 1) :
    Covers L (Reader.sequence verbose found (n + 1)) (Reader.sequence verbose found (n' + 1)) := by
  refine .after here fun r => .nextUnless_bind (fun p L' hless => ?_) (.refl _)
  -- With one piece less to read, eight calls more are left, and none of the branches needs as many.
  have hmore : ∀ verbose found, Covers L' (Reader.sequence verbose found n) (Reader.sequence verbose found n') :=
    fun verbose found => ih.sequence n' L' verbose found (by omega)
  refine .ite (hmore verbose found) (.ite ?_ (.ite ?_ ?_))
  · exact .after here fun _ => .after _ fun _ => hmore verbose found
  · refine .after (readOpening r.pos) fun opening => ?_
    have hgroup := Covers.after noteStarted fun _ =>
      .bind (ih.group n' L' verbose opening r.pos (by omega)) fun x => hmore verbose (x :: found)
    cases opening with
    | comment => exact hmore verbose found
    | global on =>
      refine .after here fun _ => .ite (.refl _) ?_
      exact .after (setFlags on) fun _ => .after here fun _ => hmore _ found
    | _ => exact hgroup
  · refine .after noteStarted fun _ => .after (addPiece r.pos p found) fun found => ?_
    exact hmore verbose found

/-- A group calls for its alternatives or its branches. -/
theorem group_succ (n' L : Nat) (verbose : Bool) (opening : Opening) (start : Nat)
    (hfuel : 8 * L + 3 ≤ n' + 1) :
    Covers L (Reader.group opening start verbose (n + 1)) (Reader.group opening start verbose (n' + 1)) := by
  have hinside : ∀ verbose, Covers L (enclosed start (Reader.alternatives verbose true n))
      (enclosed start (Reader.alternatives verbose true n')) := fun verbose =>
    .enclosed start (ih.alternatives n' L verbose true (by omega))
  cases opening with
  | comment | global _ | reference _ => exact .refl _
  | capturing name => exact .after (openGroup name) fun g => .bind (hinside verbose) fun items => .refl _
  | plain on off => exact .bind (hinside _) fun items => .refl _
  | atomic | ahead negated => exact .bind (hinside verbose) fun items => .refl _
  | behind negated => exact .bind (hinside verbose).inLookbehind fun items => .refl _
  | conditional g => exact .bind (.enclosed start (ih.branches n' L verbose (by omega))) fun b => .refl _

/-- Branches go one call deeper than their sequences. -/
theorem branches_succ (n' L : Nat) (verbose : Bool) (hfuel : 8 * L + 2 ≤ n' + 1) :
    Covers L (Reader.branches verbose (n + 1)) (Reader.branches verbose (n' + 1)) := by
  refine .bind (ih.sequence n' L verbose [] (by omega)) fun yes => .accept_bind (fun L' hless => ?_) (.refl _)
  exact .bind (ih.sequence n' L' verbose [] (by omega)) fun no => .refl _

end Fueled

/-- Fuel for eight calls at each character that is left is as good as any. -/
theorem fueled : ∀ n, Fueled n := by
  intro n
  induction n with
  | zero =>
    constructor
    all_goals
      intros
      exact .left (refuse_refuses _ _)
  | succ n ih =>
    -- Some fuel is left on the other side, even at the end of the source.
    have hsucc : ∀ {b k : Nat}, b + 1 ≤ k → ∃ j, k = j + 1 := fun h =>
      Nat.exists_eq_add_of_le' (Nat.le_trans (Nat.le_add_left 1 _) h)
    constructor
    · intro n' L verbose nested hfuel
      obtain ⟨k, rfl⟩ := hsucc hfuel
      exact ih.alternatives_succ k L verbose nested hfuel
    · intro n' L verbose nested item hfuel
      obtain ⟨k, rfl⟩ := hsucc hfuel
      exact ih.furtherItems_succ k L verbose nested item hfuel
    · intro n' L verbose found hfuel
      obtain ⟨k, rfl⟩ := hsucc hfuel
      exact ih.sequence_succ k L verbose found hfuel
    · intro n' L verbose opening start hfuel
      obtain ⟨k, rfl⟩ := hsucc hfuel
      exact ih.group_succ k L verbose opening start hfuel
    · intro n' L verbose hfuel
      obtain ⟨k, rfl⟩ := hsucc hfuel
      exact ih.branches_succ k L verbose hfuel

end Read

end PatternLexer
