import Mathlib.Data.List.Induction
import PatternLexer.Proofs.Place

/-!
# True lines and columns

A match ends one line, however many line feeds there are in it. If line feeds are only matched one at a time, each as
the last character of its match, then lines and columns are those of the text.

* `Subject.lineFeeds` counts the line feeds before an offset, and `Subject.lastLineFeed` is where the last of them is.
* `Subject.lineFeeds_stop`, `Subject.lastLineFeed_of_not_mem` and `Subject.lastLineFeed_of_concat` say what one match
  adds.
* `Tiles.lines`: the line breaks of matches are the line feeds of the text, and columns count from behind the last.
* `Lexer.scan_lines`: so each token tells its line and column in the text.
-/

namespace PatternLexer

open List (Forall₂)

/-! ## Line feeds of a text -/

namespace Subject

/-- The number of line feeds before `pos`. -/
def lineFeeds (text : Subject) (pos : Nat) : Nat := (text.toList.take pos).count '\n'

/-- Where the last line feed before `pos` is, or `-1` if there is none. -/
def lastLineFeed (text : Subject) : (pos : Nat) → Int
  | 0 => -1
  | pos + 1 => if text[pos]? = some '\n' then pos else text.lastLineFeed pos

variable {text : Subject} {start stop : Nat}

theorem toList_slice (text : Subject) (start stop : Nat) :
    (text.slice start stop).toList = (text.toList.drop start).take (stop - start) := by
  rw [slice, String.toList_ofList, Array.toList_extract, List.extract_eq_take_drop]

theorem getElem?_slice {i : Nat} (hi : i < stop - start) :
    (text.slice start stop).toList[i]? = text[start + i]? := by
  rw [toList_slice, List.getElem?_take_of_lt hi, List.getElem?_drop, Array.getElem?_toList]

/-- The line feeds of a part of the text come to those before it. -/
theorem lineFeeds_stop (hle : start ≤ stop) :
    text.lineFeeds stop = text.lineFeeds start + (text.slice start stop).toList.count '\n' := by
  have hsplit : text.toList.take stop = text.toList.take start ++ (text.slice start stop).toList := by
    rw [toList_slice, ← List.take_add, Nat.add_sub_cancel' hle]
  rw [lineFeeds, hsplit, List.count_append]
  rfl

/-- A part of the text without line feeds leaves the last one where it was. -/
theorem lastLineFeed_of_not_mem (hle : start ≤ stop) (hnone : '\n' ∉ (text.slice start stop).toList) :
    text.lastLineFeed stop = text.lastLineFeed start := by
  have hother : ∀ i, start ≤ i → i < stop → text[i]? ≠ some '\n' := by
    intro i hstart hstop hfeed
    have hget : (text.slice start stop).toList[i - start]? = text[start + (i - start)]? := getElem?_slice (by omega)
    rw [Nat.add_sub_cancel' hstart, hfeed] at hget
    exact hnone (List.mem_of_getElem? hget)
  clear hnone
  -- From the end of the part back to its start no character is a line feed.
  induction stop with
  | zero =>
    obtain rfl : start = 0 := Nat.le_zero.1 hle
    rfl
  | succ stop ih =>
    by_cases hlast : start = stop + 1
    · rw [hlast]
    · have hbefore : start ≤ stop := by omega
      rw [lastLineFeed, if_neg (hother stop hbefore (Nat.lt_succ_self _))]
      exact ih hbefore fun i hi hlt => hother i hi (Nat.lt_succ_of_lt hlt)

/-- The last line feed is the last character of a part that ends in one. -/
theorem lastLineFeed_of_concat (hlt : start < stop) {front : List Char}
    (hends : (text.slice start stop).toList = front ++ ['\n']) (hsize : stop ≤ text.size) :
    text.lastLineFeed stop = stop - 1 := by
  obtain ⟨last, rfl⟩ := Nat.exists_eq_succ_of_ne_zero (Nat.ne_zero_of_lt hlt)
  -- The line feed stands behind `front`, which is at `last`.
  have hlength : front.length + 1 = last + 1 - start := by
    have hslice : (text.slice start (last + 1)).length = last + 1 - start := text.length_slice hsize
    rw [← String.length_toList, hends, List.length_append] at hslice
    exact hslice
  have hget : (text.slice start (last + 1)).toList[front.length]? = text[start + front.length]? :=
    getElem?_slice (by omega)
  have hlast : start + front.length = last := by omega
  rw [hends, List.getElem?_concat_length, hlast] at hget
  rw [lastLineFeed, if_pos hget.symm]
  push_cast
  omega

end Subject

/-! ## Matches that end their line -/

/-- If there are line feeds in the match, there is one only, as its last character. -/
def RuleMatch.EndsInLineFeed (m : RuleMatch) : Prop :=
  m.breaksLine = true → ∃ front, m.text.toList = front ++ ['\n'] ∧ '\n' ∉ front

theorem RuleMatch.breaksLine_iff {m : RuleMatch} : m.breaksLine = true ↔ '\n' ∈ m.text.toList := by
  rw [breaksLine, String.contains_char_eq, decide_eq_true_iff]

theorem RuleMatch.EndsInLineFeed.count {m : RuleMatch} (h : m.EndsInLineFeed) :
    m.text.toList.count '\n' = if m.breaksLine then 1 else 0 := by
  cases hbreak : m.breaksLine with
  | true =>
    obtain ⟨front, htext, hfront⟩ := h hbreak
    rw [htext, List.count_append, List.count_eq_zero.2 hfront]
    rfl
  | false =>
    rw [if_neg Bool.false_ne_true, List.count_eq_zero, ← RuleMatch.breaksLine_iff, hbreak]
    exact Bool.false_ne_true

/-- Line breaks of matches and line feeds of the text go together, and so do column base and last line feed. -/
theorem Tiles.lines {text : Subject} {ms : List RuleMatch} : ∀ {stop : Nat}, Tiles text 0 ms stop →
    (∀ m ∈ ms, m.EndsInLineFeed) →
      lineBreaks ms = text.lineFeeds stop ∧ (columnBase ms : Int) = text.lastLineFeed stop + 1 := by
  induction ms using List.reverseRecOn with
  | nil =>
    intro stop h _
    cases h
    exact ⟨rfl, rfl⟩
  | append_singleton ms m ih =>
    intro stop h hends
    obtain ⟨hms, hm⟩ := List.forall_mem_append.1 hends
    have hm : m.EndsInLineFeed := hm m (List.mem_singleton.2 rfl)
    obtain ⟨hbefore, hlt, htext, hsize⟩ := h.before
    obtain rfl : m.stop = stop := by
      obtain ⟨_, -, hlast⟩ := h.of_append
      cases hlast with
      | cons _ _ _ hnil => cases hnil; rfl
    obtain ⟨hlines, hbase⟩ := ih hbefore hms
    -- The last match adds one to both counts and sets both offsets to its end, or changes nothing.
    have hcount := hm.count
    rw [lineBreaks_concat, columnBase_concat, Subject.lineFeeds_stop (Nat.le_of_lt hlt), ← htext, hcount, hlines]
    refine ⟨rfl, ?_⟩
    cases hbreak : m.breaksLine with
    | true =>
      obtain ⟨front, hfront, -⟩ := hm hbreak
      rw [htext] at hfront
      rw [if_pos rfl, Subject.lastLineFeed_of_concat hlt hfront hsize]
      omega
    | false =>
      rw [hbreak, if_neg Bool.false_ne_true, List.count_eq_zero, htext] at hcount
      rw [if_neg Bool.false_ne_true, Subject.lastLineFeed_of_not_mem (Nat.le_of_lt hlt) hcount, hbase]

namespace Lexer

/-- If the matches before a token that have line feeds have one only, as their last character, then the token tells its
line and column in the text. Without a line feed it stands in the line that the line feeds before it lead to, and its
column counts from the last of them. With one it tells the line behind it. -/
theorem scan_lines (lx : Lexer) (s : String) (line : Int) :
    ∃ (text : Subject) (ms : List RuleMatch) (o : ScanOutcome) (made : List (RuleMatch × Nat)),
      text = s.toList.toArray ∧ ms = lx.matchesOf text ∧ o = lx.scanValue (.str s) (.int line) ∧
      made <+: lx.emittedFrom 0 ms ∧ (o.fault = none → made = lx.emittedFrom 0 ms) ∧
      Forall₂ (fun x t => lx.Makes line ms x.2 x.1 t ∧ ((∀ m ∈ ms.take x.2, m.EndsInLineFeed) →
        (x.1.breaksLine = false → t.line = .int (line + text.lineFeeds x.1.start) ∧
          t.col = .int (x.1.start - text.lastLineFeed x.1.start)) ∧
        (x.1.breaksLine = true → t.line = .int (line + text.lineFeeds x.1.start + 1)))) made o.tokens := by
  let text : Subject := s.toList.toArray
  obtain ⟨stop, htiles⟩ := lx.exists_tiles text
  obtain ⟨made, hprefix, hall, hmade⟩ := lx.scan_made s line
  refine ⟨text, lx.matchesOf text, _, made, rfl, rfl, rfl, hprefix, hall, hmade.imp fun x t ht => ⟨ht, fun hends => ?_⟩⟩
  obtain ⟨hbefore, -⟩ := htiles.before_number ht.number
  obtain ⟨hlines, hbase⟩ := hbefore.lines hends
  have hline := ht.standsAt.line
  have hcol := ht.standsAt.col
  rw [take_number ht.number, lineBreaks_concat, hlines] at hline
  rw [take_number ht.number, columnBase_concat] at hcol
  refine ⟨fun hbreak => ?_, fun hbreak => ?_⟩
  · rw [hbreak, if_neg Bool.false_ne_true] at hline hcol
    rw [hbase] at hcol
    refine ⟨hline, hcol.trans (congrArg Value.int ?_)⟩
    omega
  · rw [hbreak, if_pos rfl] at hline
    refine hline.trans (congrArg Value.int ?_)
    push_cast
    omega

/-- Rules for words, for single line feeds, and for blanks, which are skipped. -/
def wordRules : List Entry :=
  [.bare (.source "(?P<WORD>[a-z]+)"), .bare (.source "(?P<NL>\\n)"), .pair (.source "(?P<WS> +)") true none]

/-- Behind two line feeds and a blank, a word stands in the second column of the third line. -/
theorem scan_lines_third :
    ∃ lx, (compile wordRules).result = .ok lx ∧
      (∀ m ∈ lx.matchesOf "ab\n\n cd".toList.toArray, m.EndsInLineFeed) ∧
      ∃ t, (lx.scanValue (.str "ab\n\n cd") (.int 1)).tokens[3]? = some t ∧
        t.length = .int 2 ∧ t.line = .int 3 ∧ t.col = .int 2 := by
  let text : Subject := "ab\n\n cd".toList.toArray
  let ms : List RuleMatch :=
    [⟨0, "ab", 0, 2⟩, ⟨1, "\n", 2, 3⟩, ⟨1, "\n", 3, 4⟩, ⟨2, " ", 4, 5⟩, ⟨0, "cd", 5, 7⟩]
  obtain ⟨lx, hlx, hcheck⟩ := Logged.exists_ok (compile wordRules)
    (fun lx => lx.given.all (fun r => r.hook.isNone) &&
      (lx.matchesOf text == ms && (lx.emittedFrom 0 ms)[3]? == some (⟨0, "cd", 5, 7⟩, 4)))
    (by decide +kernel)
  simp only [Bool.and_eq_true, List.all_eq_true, beq_iff_eq] at hcheck
  obtain ⟨hgiven, hms, hfourth⟩ := hcheck
  have hends : ∀ m ∈ ms, m.EndsInLineFeed := by
    intro m hm hbreak
    have hfeed : ∀ m ∈ ms, m.text.toList.contains '\n' → m.text = "\n" := by decide
    have htext := hfeed m hm (List.contains_iff_mem.2 (RuleMatch.breaksLine_iff.1 hbreak))
    exact ⟨[], by rw [htext]; rfl, List.not_mem_nil⟩
  have hfault : (lx.scanValue (.str "ab\n\n cd") (.int 1)).fault = none :=
    scan_fault (fun m _ => hookReturns_of_unhooked (fun r hr => Option.isNone_iff_eq_none.1 (hgiven r hr)) m) 1
  obtain ⟨_, _, _, made, rfl, rfl, rfl, -, hmade, htokens⟩ := scan_lines lx "ab\n\n cd" 1
  rw [← hms, ← hmade hfault] at hfourth
  obtain ⟨t, ht, hmakes, htrue⟩ := exists_related htokens hfourth
  have hunbroken : RuleMatch.breaksLine ⟨0, "cd", 5, 7⟩ = false := by
    simp [RuleMatch.breaksLine, String.contains_char_eq]
  obtain ⟨hline, hcol⟩ := (htrue fun m hm => hends m (hms ▸ List.mem_of_mem_take hm)).1 hunbroken
  exact ⟨lx, hlx, hms ▸ hends, t, ht, hmakes.standsAt.length, hline, hcol⟩

end Lexer

end PatternLexer
