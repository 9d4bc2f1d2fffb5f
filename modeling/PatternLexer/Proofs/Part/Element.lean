import PatternLexer.Proofs.Part.Agree
import PatternLexer.Proofs.Renumber
import PatternLexer.Pattern.Reader
import Mathlib.Data.List.Forall2

/-!
# Elements and alternatives of a part

Sequences, repetitions and simplified alternatives of renumbered patterns are the renumbered sequences,
repetitions and simplified alternatives: simplification never looks at the number of a group, except to
see whether two numbers are equal.

Whatever the numbers of groups, what is put together looks back just if one of its patterns does. So this is known
also of patterns that are not renumbered, because they refer to groups by number.
-/

namespace PatternLexer

open List (Forall₂)
open Reader

/-! ## Looking back -/

namespace Reader

/-- Elements that are the same look back alike. -/
theorem looksBack_sameElement {t u : Tree} (h : sameElement t u = true) : u.looksBack = t.looksBack := by
  unfold sameElement at h
  split at h
  · rfl
  · rw [beq_iff_eq] at h
    rw [h]
  · rfl
  · cases h

theorem looksBack_tails {t : Tree} {items : List (List Tree)}
    (h : (items.all fun item => (item.head?.map (sameElement t)).getD false) = true) :
    (t.looksBack || items.any fun item => item.any Tree.looksBack) =
      (t.looksBack || (items.map List.tail).any fun item => item.any Tree.looksBack) := by
  induction items with
  | nil => rfl
  | cons item rest ih =>
    rw [List.all_cons, Bool.and_eq_true] at h
    rcases h with ⟨hitem, hrest⟩
    cases item with
    | nil => cases hitem
    | cons u more =>
      have hu : u.looksBack = t.looksBack := looksBack_sameElement hitem
      have hmore := ih hrest
      simp only [List.any_cons, List.map_cons, List.tail_cons, hu]
      cases ht : t.looksBack with
      | true => rfl
      | false =>
        rw [ht, Bool.false_or, Bool.false_or] at hmore
        rw [hmore]
        rfl

theorem looksBack_commonStart (first : List Tree) : ∀ others : List (List Tree),
    ((commonStart first others).1.any Tree.looksBack ||
        (commonStart first others).2.any fun item => item.any Tree.looksBack) =
      (first.any Tree.looksBack || others.any fun item => item.any Tree.looksBack) := by
  induction first with
  | nil =>
    intro others
    simp [commonStart]
  | cons t rest ih =>
    intro others
    rw [commonStart]
    split
    · rename_i hall
      -- The element is moved in front, and the others stay behind it.
      have htails := looksBack_tails hall
      have hrest := ih (others.map List.tail)
      rw [List.any_cons, List.any_cons, Bool.or_assoc, hrest, Bool.or_left_comm, ← htails, Bool.or_left_comm,
        ← Bool.or_assoc]
    · simp

theorem looksBack_alternativesClass? {items : List (List Tree)} : ∀ {cs : List ClassItem},
    alternativesClass? items = some cs → (items.any fun item => item.any Tree.looksBack) = false := by
  induction items with
  | nil =>
    intro cs _
    rfl
  | cons item rest ih =>
    intro cs h
    unfold alternativesClass? at h
    split at h
    · rename_i heq
      cases heq
    · rename_i heq
      cases heq
      rcases Option.map_eq_some_iff.1 h with ⟨_, hrest, -⟩
      rw [List.any_cons, ih hrest]
      rfl
    · rename_i heq
      cases heq
      rcases Option.map_eq_some_iff.1 h with ⟨_, hrest, -⟩
      rw [List.any_cons, ih hrest]
      rfl
    · cases h

/-- Alternatives that are joined look back if one of them does. -/
theorem looksBack_joinAlternatives (items : List (List Tree)) :
    (joinAlternatives items).any Tree.looksBack = items.any fun item => item.any Tree.looksBack := by
  unfold joinAlternatives
  split
  · rfl
  · simp
  · rename_i first others _
    have hcommon := looksBack_commonStart first others
    dsimp only
    split
    · rename_i hclass
      rw [looksBack_alternativesClass? hclass, Bool.or_false] at hcommon
      rw [List.any_append, hcommon]
      simp [Tree.looksBack]
    · rw [List.any_append, List.any_cons, List.any_nil, Bool.or_false, Tree.looksBack_ofAlternatives, hcommon,
        List.any_cons]

/-- A repetition looks back if what it repeats does. -/
theorem looksBack_repeated (greed : Greed) (least : Nat) (most : Option Nat) (body : List Tree) :
    (repeated greed least most body).looksBack = body.any Tree.looksBack := by
  unfold repeated
  split
  · rfl
  · exact Tree.looksBack_ofList body

end Reader

/-- Whether the patterns of an element look back. -/
def Element.looksBack (x : Element) : Bool := x.trees.any Tree.looksBack

/-- A sequence looks back if one of its elements does. -/
theorem Reader.looksBack_elements (found : List Element) :
    (elements found).any Tree.looksBack = found.any Element.looksBack := by
  unfold elements Element.looksBack
  rw [List.any_flatMap, List.any_reverse]

/-! ## Renumbering -/

/-- `t'` is `t` with its groups renumbered, and `t` refers to no group with number zero. -/
def Tree.IsShift (n : Nat) (t t' : Tree) : Prop := t' = t.shift n ∧ t.PositiveRefs

/-- The element is of the same kind and stands for the same patterns, renumbered. -/
inductive Element.IsShift (n : Nat) : Element → Element → Prop where
  | plain {t t' : Tree} (h : t.IsShift n t') : IsShift n (.plain t) (.plain t')
  | bare {body body' : List Tree} (h : Forall₂ (Tree.IsShift n) body body') :
      IsShift n (.bare body) (.bare body')

variable {n : Nat}

namespace Tree.IsShift

variable {t t' u u' : Tree} {ts ts' : List Tree} {items items' : List (List Tree)}

/-- A sequence is renumbered pattern by pattern. -/
theorem ofList (h : Forall₂ (IsShift n) ts ts') : IsShift n (.ofList ts) (.ofList ts') := by
  induction h with
  | nil => exact ⟨rfl, trivial⟩
  | cons ht hrest ih =>
    cases hrest with
    | nil => exact ht
    | cons _ _ =>
      constructor
      · simp only [Tree.ofList, shift]
        rw [ht.1, ih.1]
      · exact ⟨ht.2, ih.2⟩

/-- A pattern under flags is renumbered inside. -/
theorem scope (h : IsShift n t t') (on off : Flags) : IsShift n (.scope on off t) (.scope on off t') :=
  ⟨congrArg (Tree.scope on off) h.1, h.2⟩

/-- So is one that is not gone back into. -/
theorem atomic (h : IsShift n t t') : IsShift n (.atomic t) (.atomic t') :=
  ⟨congrArg Tree.atomic h.1, h.2⟩

/-- So is one that looks ahead. -/
theorem ahead (h : IsShift n t t') (negated : Bool) : IsShift n (.ahead negated t) (.ahead negated t') :=
  ⟨congrArg (Tree.ahead negated) h.1, h.2⟩

/-- Alternatives are renumbered one by one. -/
theorem ofAlternatives (h : Forall₂ (Forall₂ (IsShift n)) items items') :
    IsShift n (.ofAlternatives items) (.ofAlternatives items') := by
  induction h with
  | nil => exact ⟨rfl, trivial⟩
  | cons hitem hrest ih =>
    have hfirst := ofList hitem
    cases hrest with
    | nil => exact hfirst
    | cons _ _ =>
      constructor
      · simp only [Tree.ofAlternatives, shift]
        rw [hfirst.1, ih.1]
      · exact ⟨hfirst.2, ih.2⟩

/-- Elements are the same after renumbering if they were before, and only then: all numbers grow alike. -/
theorem sameElement (ht : IsShift n t t') (hu : IsShift n u u') :
    sameElement t' u' = Reader.sameElement t u := by
  rcases ht with ⟨rfl, -⟩
  rcases hu with ⟨rfl, -⟩
  cases t <;> cases u <;> simp [Reader.sameElement, shift]

/-- So it is with the first pattern of a sequence. -/
theorem head? (h : Forall₂ (IsShift n) ts ts') (ht : IsShift n t t') :
    (ts'.head?.map (Reader.sameElement t')).getD false =
      (ts.head?.map (Reader.sameElement t)).getD false := by
  cases h with
  | nil => rfl
  | cons hu _ => simp [ht.sameElement hu]

theorem all_head? (h : Forall₂ (Forall₂ (IsShift n)) items items') (ht : IsShift n t t') :
    (items'.all fun item => (item.head?.map (Reader.sameElement t')).getD false) =
      items.all fun item => (item.head?.map (Reader.sameElement t)).getD false := by
  induction h with
  | nil => rfl
  | cons hitem _ ih => simp only [List.all_cons, head? hitem ht, ih]

theorem tails (h : Forall₂ (Forall₂ (IsShift n)) items items') :
    Forall₂ (Forall₂ (IsShift n)) (items.map List.tail) (items'.map List.tail) := by
  refine List.rel_map ?_ h
  intro _ _ hitem
  cases hitem with
  | nil => exact .nil
  | cons _ hrest => exact hrest

/-- What alternatives have in common at their start is the same after renumbering. -/
theorem commonStart (hfirst : Forall₂ (IsShift n) ts ts') :
    ∀ {items items'}, Forall₂ (Forall₂ (IsShift n)) items items' →
      Forall₂ (IsShift n) (commonStart ts items).1 (Reader.commonStart ts' items').1 ∧
        Forall₂ (Forall₂ (IsShift n)) (Reader.commonStart ts items).2 (Reader.commonStart ts' items').2 := by
  induction hfirst with
  | nil =>
    intro items items' h
    exact ⟨.nil, .cons .nil h⟩
  | cons ht hrest ih =>
    intro items items' h
    simp only [Reader.commonStart, all_head? h ht]
    split
    · rcases ih (tails h) with ⟨hcommon, hremaining⟩
      exact ⟨.cons ht hcommon, hremaining⟩
    · exact ⟨.nil, .cons (.cons ht hrest) h⟩

/-- Alternatives of one character each stay so. -/
theorem alternativesClass? (h : Forall₂ (Forall₂ (IsShift n)) items items') :
    alternativesClass? items' = Reader.alternativesClass? items := by
  induction h with
  | nil => rfl
  | cons hitem _ ih =>
    -- Only alternatives of one element make a class, and renumbering keeps what kind it is of.
    cases hitem with
    | nil => rfl
    | @cons t _ _ _ ht hmore =>
      rcases ht with ⟨rfl, -⟩
      cases hmore with
      | nil =>
        cases t with
        | single u =>
          cases u with
          | code c => simp only [shift, Reader.alternativesClass?, ih]
          | oneOf negated items =>
            cases negated with
            | false => simp only [shift, Reader.alternativesClass?, ih]
            | true => rfl
          | _ => rfl
        | _ => rfl
      | cons _ _ =>
        cases t with
        | single u =>
          cases u with
          | oneOf negated items => cases negated <;> rfl
          | _ => rfl
        | _ => rfl

/-- Alternatives that are joined and renumbered are those renumbered and joined. -/
theorem joinAlternatives (h : Forall₂ (Forall₂ (IsShift n)) items items') :
    Forall₂ (IsShift n) (joinAlternatives items) (Reader.joinAlternatives items') := by
  -- None, one, or several: only several are joined, behind what they have in common.
  cases h with
  | nil => exact .nil
  | cons hfirst hothers =>
    have hothers' := hothers
    cases hothers' with
    | nil => exact hfirst
    | cons _ _ =>
      rcases commonStart hfirst hothers with ⟨hcommon, hremaining⟩
      simp only [Reader.joinAlternatives, alternativesClass? hremaining]
      split
      · exact List.rel_append hcommon (.cons ⟨rfl, trivial⟩ .nil)
      · exact List.rel_append hcommon (.cons (ofAlternatives hremaining) .nil)

/-- A repetition is renumbered in what it repeats. -/
theorem repeated (h : Forall₂ (IsShift n) ts ts') (greed : Greed) (least : Nat) (most : Option Nat) :
    IsShift n (repeated greed least most ts) (Reader.repeated greed least most ts') := by
  have hbody := ofList h
  -- A character that stands alone is repeated by `many`, and everything else by `loop`.
  cases h with
  | nil => exact ⟨rfl, trivial⟩
  | @cons t _ _ _ ht hrest =>
    cases hrest with
    | nil =>
      rcases ht with ⟨rfl, hpositive⟩
      cases t with
      | single u => exact ⟨rfl, trivial⟩
      | _ => exact ⟨rfl, hpositive⟩
    | cons _ _ =>
      have hloop : ∀ t u ts, Reader.repeated greed least most (t :: u :: ts) =
          .loop greed least most (.ofList (t :: u :: ts)) := by
        intro t u ts
        cases t <;> rfl
      rw [hloop, hloop]
      exact ⟨congrArg (Tree.loop greed least most) hbody.1, hbody.2⟩

/-- A group has the width that its number had before the groups in front were counted. -/
theorem groupWidth {before widths : List (Option Width)} {g : Nat} (hg : 0 < g) :
    groupWidth (before ++ widths) (g + before.length) = Reader.groupWidth widths g := by
  have hindex : g + before.length - 1 = before.length + (g - 1) := by omega
  simp only [Reader.groupWidth, hindex]
  rw [List.getElem?_append_right (Nat.le_add_right _ _), Nat.add_sub_cancel_left]

/-- A renumbered pattern has the same width, since the groups that it refers to do. -/
theorem width {before : List (Option Width)} (h : IsShift before.length t t')
    (widths : List (Option Width)) :
    t'.width (Reader.groupWidth (before ++ widths)) = t.width (Reader.groupWidth widths) := by
  rcases h with ⟨rfl, hpositive⟩
  induction t with
  | seq a b iha ihb | alt a b iha ihb =>
    simp only [shift, Tree.width, iha hpositive.1, ihb hpositive.2]
  | conditional g yes no ihyes ihno =>
    simp only [shift, Tree.width, ihyes hpositive.2.1, ihno hpositive.2.2]
  | group g b ih | scope on off b ih | atomic b ih | loop greed least most b ih =>
    simp only [shift, Tree.width, ih hpositive]
  | backref g => exact groupWidth hpositive
  | _ => rfl

end Tree.IsShift

namespace Element.IsShift

variable {x x' : Element}

/-- An element that is renumbered stands for the patterns renumbered. -/
theorem trees (h : Element.IsShift n x x') : Forall₂ (Tree.IsShift n) x.trees x'.trees := by
  cases h with
  | plain ht => exact .cons ht .nil
  | bare hbody => exact hbody

/-- Renumbering does not touch what keeps an element from being repeated. -/
theorem unrepeatable? (h : Element.IsShift n x x') : x'.unrepeatable? = x.unrepeatable? := by
  cases h with
  | plain ht =>
    rcases ht with ⟨rfl, -⟩
    rename_i t
    cases t <;> rfl
  | bare _ => rfl

/-- Elements that are renumbered one by one make the sequence renumbered. -/
theorem elements {found found' : List Element} (h : Forall₂ (Element.IsShift n) found found') :
    Forall₂ (Tree.IsShift n) (elements found) (Reader.elements found') :=
  List.rel_flatMap (List.rel_reverse h) fun _ _ hx => hx.trees

end Element.IsShift

end PatternLexer
