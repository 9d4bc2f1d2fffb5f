import PatternLexer.Pattern.Search
import Mathlib.Tactic.Common

/-!
# Searches go forward

`Tree.search_forward`: a search that succeeds has gone on from a place that is not before its start and not
past the end of the text. Everything that is said about the ends of matches rests on it.

`GoesForward` says this of any way of searching, and the repetitions are shown to keep it.
-/

namespace PatternLexer

/-! ## Progress through the text -/

/-- A way of searching that goes on only from places between its start and the end of the text. -/
def GoesForward (text : Subject) (round : Progress → Next → Option Progress) : Prop :=
  ∀ s next r, s.pos ≤ text.size → round s next = some r →
    ∃ u : Progress, s.pos ≤ u.pos ∧ u.pos ≤ text.size ∧ next u = some r

/-- Going on twice in a row is going on. -/
theorem GoesForward.twice {text : Subject} {round rest : Progress → Next → Option Progress}
    (hround : GoesForward text round) (hrest : GoesForward text rest) {s r : Progress} {next : Next}
    (hs : s.pos ≤ text.size) (h : (round s fun t => rest t next) = some r) :
    ∃ u : Progress, s.pos ≤ u.pos ∧ u.pos ≤ text.size ∧ next u = some r := by
  rcases hround _ _ _ hs h with ⟨t, hst, ht, hnext⟩
  rcases hrest _ _ _ ht hnext with ⟨u, htu, hu, hr⟩
  exact ⟨u, Nat.le_trans hst htu, hu, hr⟩

namespace Single

theorem runLength_le_size (u : Single) (fs : Flags) (text : Subject) :
    ∀ limit pos, pos ≤ text.size → pos + u.runLength fs text limit pos ≤ text.size := by
  intro limit
  induction limit with
  | zero => intro pos hpos; simpa [runLength] using hpos
  | succ limit ih =>
    intro pos hpos
    simp only [runLength]
    split
    · rename_i haccepts
      -- What is accepted is a character of the text.
      have hlt : pos < text.size := by
        by_contra hge
        simp [Subject.at?, Array.getElem?_eq_none (Nat.le_of_not_lt hge)] at haccepts
      have hrest := ih (pos + 1) hlt
      omega
    · simpa using hpos

end Single

namespace Progress

theorem fewer_some {s : Progress} {least : Nat} {next : Next} {r : Progress} :
    ∀ {n}, s.fewer least next n = some r → ∃ k ≤ n, next (s.advance k) = some r := by
  intro n
  induction n with
  | zero =>
    intro h
    simp only [fewer] at h
    split at h
    · exact ⟨0, Nat.le_refl 0, h⟩
    · cases h
  | succ n ih =>
    intro h
    simp only [fewer] at h
    split at h
    · cases h
    · split at h
      · rename_i hnext
        exact ⟨n + 1, Nat.le_refl _, hnext.trans h⟩
      · rcases ih h with ⟨k, hk, hnext⟩
        exact ⟨k, Nat.le_succ_of_le hk, hnext⟩

theorem more_some {s : Progress} {next : Next} {r : Progress} :
    ∀ {extra count}, s.more next extra count = some r →
      ∃ k ≤ count + extra, next (s.advance k) = some r := by
  intro extra
  induction extra with
  | zero =>
    intro count h
    exact ⟨count, Nat.le_refl _, h⟩
  | succ extra ih =>
    intro count h
    simp only [more] at h
    split at h
    · rename_i hnext
      exact ⟨count, by omega, hnext.trans h⟩
    · rcases ih h with ⟨k, hk, hnext⟩
      exact ⟨k, by omega, hnext⟩

end Progress

theorem Single.search_forward (u : Single) (fs : Flags) (text : Subject) (greed : Greed) (least : Nat)
    (most : Option Nat) : GoesForward text (fun s next => u.search fs text greed least most s next) := by
  intro s next r hs h
  simp only [Single.search] at h
  have hfound := u.runLength_le_size fs text (capped most (text.size - s.pos)) s.pos hs
  generalize u.runLength fs text (capped most (text.size - s.pos)) s.pos = found at h hfound
  -- Whatever the greed, the search goes on after at most `found` characters.
  have hgoes : ∃ k ≤ found, next (s.advance k) = some r := by
    split at h
    · cases h
    · cases greed with
      | greedy => exact Progress.fewer_some h
      | lazy =>
        rcases Progress.more_some h with ⟨k, hk, hnext⟩
        exact ⟨k, by omega, hnext⟩
      | possessive => exact ⟨found, Nat.le_refl _, h⟩
  rcases hgoes with ⟨k, hk, hnext⟩
  refine ⟨s.advance k, ?_, ?_, hnext⟩
  · simp [Progress.advance]
  · simp only [Progress.advance]
    omega

section Rounds

variable {text : Subject} {round : Progress → Next → Option Progress}

theorem greedyRounds_forward (hround : GoesForward text round) (least : Nat) (most : Option Nat) :
    ∀ fuel count last, GoesForward text (greedyRounds round least most fuel count last) := by
  intro fuel
  induction fuel with
  | zero => intro count last s next r _ h; simp [greedyRounds] at h
  | succ fuel ih =>
    intro count last s next r hs h
    simp only [greedyRounds] at h
    -- Too few rounds so far: one more. Enough: a further round is tried before what follows.
    split at h
    · exact hround.twice (ih _ _) hs h
    · split at h
      · split at h
        · rename_i hr
          exact hround.twice (ih _ _) hs (hr.trans h)
        · exact ⟨s, Nat.le_refl _, hs, h⟩
      · exact ⟨s, Nat.le_refl _, hs, h⟩

theorem lazyRounds_forward (hround : GoesForward text round) (least : Nat) (most : Option Nat) :
    ∀ fuel count last, GoesForward text (lazyRounds round least most fuel count last) := by
  intro fuel
  induction fuel with
  | zero => intro count last s next r _ h; simp [lazyRounds] at h
  | succ fuel ih =>
    intro count last s next r hs h
    simp only [lazyRounds] at h
    -- Too few rounds so far: one more. Enough: what follows is tried before a further round.
    split at h
    · exact hround.twice (ih _ _) hs h
    · split at h
      · rename_i hnext
        exact ⟨s, Nat.le_refl _, hs, hnext.trans h⟩
      · split at h
        · exact hround.twice (ih _ _) hs h
        · cases h

theorem possessiveRounds_forward (hround : GoesForward text round) (least : Nat)
    (most : Option Nat) : ∀ fuel count (s t : Progress), s.pos ≤ text.size →
      possessiveRounds round least most fuel count s = some t →
      s.pos ≤ t.pos ∧ t.pos ≤ text.size := by
  intro fuel
  induction fuel with
  | zero => intro count s t _ h; simp [possessiveRounds] at h
  | succ fuel ih =>
    intro count s t hs h
    -- A single round ends at its own last place, since nothing follows it.
    have hone : ∀ u, round s some = some u → s.pos ≤ u.pos ∧ u.pos ≤ text.size := by
      intro u hu
      rcases hround _ _ _ hs hu with ⟨v, hsv, hv, heq⟩
      cases heq
      exact ⟨hsv, hv⟩
    simp only [possessiveRounds] at h
    split at h
    · split at h
      · rename_i u hu
        rcases hone u hu with ⟨hsu, hle⟩
        rcases ih _ _ _ hle h with ⟨hut, ht⟩
        exact ⟨Nat.le_trans hsu hut, ht⟩
      · cases h
    · split at h
      · split at h
        · rename_i u hu
          rcases hone u hu with ⟨hsu, hle⟩
          split at h
          · cases h
            exact ⟨hsu, hle⟩
          · rcases ih _ _ _ hle h with ⟨hut, ht⟩
            exact ⟨Nat.le_trans hsu hut, ht⟩
        · cases h
          exact ⟨Nat.le_refl _, hs⟩
      · cases h
        exact ⟨Nat.le_refl _, hs⟩

theorem rounds_forward (hround : GoesForward text round) (greed : Greed) (least : Nat)
    (most : Option Nat) : GoesForward text (rounds text round greed least most) := by
  intro s next r hs h
  simp only [rounds] at h
  cases greed with
  | greedy => exact greedyRounds_forward hround _ _ _ _ _ _ _ _ hs h
  | lazy => exact lazyRounds_forward hround _ _ _ _ _ _ _ _ hs h
  | possessive =>
    simp only at h
    split at h
    · rename_i t ht
      rcases possessiveRounds_forward hround _ _ _ _ _ _ hs ht with ⟨hst, hle⟩
      exact ⟨t, hst, hle, h⟩
    · cases h

end Rounds

/-- What is repeated at a place lies within the text. -/
theorem Progress.repeats_size {s : Progress} {fs : Flags} {text : Subject} {first last : Nat}
    (hs : s.pos ≤ text.size) (h : s.repeats fs text first last = true) :
    s.pos + (last - first) ≤ text.size := by
  by_contra hout
  -- The last character of the repetition would have to lie past the end.
  have hmem : last - first - 1 ∈ List.range (last - first) := by
    rw [List.mem_range]
    omega
  have hlast := List.all_eq_true.1 h _ hmem
  have hnone : text[s.pos + (last - first - 1)]? = none := by
    apply Array.getElem?_eq_none
    omega
  rw [hnone] at hlast
  split at hlast <;> simp_all

namespace Tree

/-- A search that succeeds has gone on from a place between its start and the end of the text. -/
theorem search_forward (text : Subject) (t : Tree) :
    ∀ fs, GoesForward text (fun s next => t.search text fs s next) := by
  induction t with
  | empty => intro fs s next r hs h; exact ⟨s, Nat.le_refl _, hs, h⟩
  | single u =>
    intro fs s next r hs h
    simp only [search] at h
    split at h
    · rename_i haccepts
      refine ⟨s.advance 1, by simp [Progress.advance], ?_, h⟩
      by_contra hout
      have hge : text.size ≤ s.pos := by simp only [Progress.advance] at hout; omega
      simp [Subject.at?, Array.getElem?_eq_none hge] at haccepts
    · cases h
  | anchor a =>
    intro fs s next r hs h
    simp only [search] at h
    split at h
    · exact ⟨s, Nat.le_refl _, hs, h⟩
    · cases h
  | seq a b iha ihb =>
    intro fs s next r hs h
    exact (iha fs).twice (ihb fs) hs h
  | alt a b iha ihb =>
    intro fs s next r hs h
    simp only [search] at h
    split at h
    · rename_i ha
      exact iha fs _ _ _ hs (ha.trans h)
    · exact ihb fs _ _ _ hs h
  | group g b ih =>
    intro fs s next r hs h
    rcases ih fs (s.opening g) _ _ hs h with ⟨u, hsu, hu, hnext⟩
    exact ⟨u.closing g, hsu, hu, hnext⟩
  | scope on off b ih =>
    intro fs s next r hs h
    exact ih (fs.within on off) s next r hs h
  | atomic b ih =>
    intro fs s next r hs h
    simp only [search] at h
    split at h
    · rename_i t ht
      rcases ih fs _ _ _ hs ht with ⟨u, hsu, hu, heq⟩
      cases heq
      exact ⟨t, hsu, hu, h⟩
    · cases h
  | ahead negated b _ =>
    -- The place is the same after the assertion, whatever its body has matched.
    intro fs s next r hs h
    simp only [search] at h
    split at h
    · rename_i t _
      exact ⟨{ t with pos := s.pos }, Nat.le_refl _, hs, h⟩
    · exact ⟨s, Nat.le_refl _, hs, h⟩
    · cases h
  | behind negated width b _ =>
    -- Likewise here, though the body is searched from a place further back.
    intro fs s next r hs h
    simp only [search] at h
    split at h
    · split at h
      · rename_i t _
        exact ⟨{ t with pos := s.pos }, Nat.le_refl _, hs, h⟩
      · exact ⟨s, Nat.le_refl _, hs, h⟩
      · cases h
    · split at h
      · exact ⟨s, Nat.le_refl _, hs, h⟩
      · cases h
  | many greed least most u =>
    intro fs
    exact u.search_forward fs text greed least most
  | loop greed least most b ih =>
    intro fs
    exact rounds_forward (ih fs) greed least most
  | backref g =>
    intro fs s next r hs h
    simp only [search] at h
    split at h
    · split at h
      · rename_i hrepeats
        exact ⟨_, by simp [Progress.advance], Progress.repeats_size hs hrepeats, h⟩
      · cases h
    · cases h
  | conditional g yes no ihyes ihno =>
    intro fs s next r hs h
    simp only [search] at h
    split at h
    · exact ihyes fs _ _ _ hs h
    · exact ihno fs _ _ _ hs h

end Tree

end PatternLexer
