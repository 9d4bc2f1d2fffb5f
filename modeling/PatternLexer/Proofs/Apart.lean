import Mathlib.Data.Prod.Lex
import PatternLexer.Proofs.Place

/-!
# Tokens stand apart

Tokens come in the order of their lines and columns, and those in one line do not overlap. Columns count from behind
the last match that ended a line, that of the token itself included, so they may be zero or negative, and the base
jumps where a match with line feeds makes no token. If two tokens are in the same line, though, then no match behind
the first of them up to the second ends a line, so that their columns count from the same offset.

* `Spot` is where a token stands, and `Spot.Precedes` the order of spots.
* `Tiles.precedes`: the spots of two matches of a tiling are in the order of the matches.
* `Lexer.scan_ordered`: so are those of the tokens of a scan.
-/

namespace PatternLexer

open List (Forall₂)

/-! ## Spots -/

/-- Where a token stands: its line, its column and its length. -/
structure Spot where
  line : Int
  col : Int
  length : Int
deriving Repr, DecidableEq

namespace Spot

/-- Line and column, in the order of lines first. -/
def position (p : Spot) : Lex (Int × Int) := toLex (p.line, p.col)

/-- The one spot comes before the other, and ends before it if both are in the same line. -/
structure Precedes (p q : Spot) : Prop where
  position_lt : p.position < q.position
  apart : p.line = q.line → p.col + p.length ≤ q.col

theorem position_lt_iff {p q : Spot} :
    p.position < q.position ↔ p.line < q.line ∨ p.line = q.line ∧ p.col < q.col :=
  Prod.Lex.toLex_lt_toLex

/-- In a later line, or in the same line from where the other ends. -/
theorem Precedes.of_line {p q : Spot} (hlength : 0 < p.length)
    (h : p.line < q.line ∨ p.line = q.line ∧ p.col + p.length ≤ q.col) : p.Precedes q where
  position_lt := by
    rw [position_lt_iff]
    omega
  apart := by omega

end Spot

/-- The token stands at the spot. -/
def Token.IsAt (t : Token) (p : Spot) : Prop :=
  t.line = .int p.line ∧ t.col = .int p.col ∧ t.length = .int p.length

/-- Where the token of the match number `k` stands, in a scan from `line`. -/
def spotOf (line : Int) (ms : List RuleMatch) (m : RuleMatch) (k : Nat) : Spot where
  line := line + lineBreaks (ms.take (k + 1))
  col := m.start - columnBase (ms.take (k + 1)) + 1
  length := m.stop - m.start

theorem Token.StandsAt.isAt {t : Token} {line : Int} {ms : List RuleMatch} {k : Nat} {m : RuleMatch}
    (h : t.StandsAt line ms k m) : t.IsAt (spotOf line ms m k) := ⟨h.line, h.col, h.length⟩

/-! ## Matches -/

/-- The spots of matches that lie side by side are in their order. -/
theorem Tiles.precedes {text : Subject} {ms : List RuleMatch} {stop : Nat} (h : Tiles text 0 ms stop) (line : Int)
    {k k' : Nat} {m m' : RuleMatch} (hlt : k < k') (hm : ms[k]? = some m) (hm' : ms[k']? = some m') :
    (spotOf line ms m k).Precedes (spotOf line ms m' k') := by
  obtain ⟨-, hmoves, -⟩ := h.before_number hm
  obtain ⟨hbefore, -⟩ := h.before_number hm'
  have hmem : m ∈ ms.take k' := List.mem_of_getElem? ((List.getElem?_take_of_lt hlt).trans hm)
  have hends : m.stop ≤ m'.start := hbefore.stop_le m hmem
  obtain ⟨between, hsplit⟩ : ∃ between, ms.take (k' + 1) = ms.take (k + 1) ++ between := by
    have hfront : ms.take (k + 1) <+: ms.take (k' + 1) := List.take_prefix_take_left (by omega)
    exact ⟨_, (List.prefix_iff_eq_append.1 hfront).symm⟩
  have hlines : lineBreaks (ms.take (k' + 1)) = lineBreaks (ms.take (k + 1)) + lineBreaks between := by
    rw [hsplit, lineBreaks_append]
  have hbase : columnBase (ms.take (k' + 1)) =
      if between.any RuleMatch.breaksLine then columnBase between else columnBase (ms.take (k + 1)) := by
    rw [hsplit, columnBase_append]
  refine .of_line ?_ ?_
  · show (0 : Int) < m.stop - m.start
    omega
  -- If a match behind the first one ends a line, the second is in a later line. Otherwise both columns count from the
  -- same base, and the offsets decide.
  show line + (lineBreaks (ms.take (k + 1)) : Int) < line + lineBreaks (ms.take (k' + 1)) ∨
    line + (lineBreaks (ms.take (k + 1)) : Int) = line + lineBreaks (ms.take (k' + 1)) ∧
      (m.start : Int) - columnBase (ms.take (k + 1)) + 1 + (m.stop - m.start) ≤
        m'.start - columnBase (ms.take (k' + 1)) + 1
  cases hany : between.any RuleMatch.breaksLine with
  | true =>
    have hpos : 0 < lineBreaks between := List.countP_pos_iff.2 (List.any_eq_true.1 hany)
    left
    omega
  | false =>
    have hzero : lineBreaks between = 0 := List.countP_eq_zero.2 fun x hx => List.any_eq_false.1 hany x hx
    rw [hany, if_neg Bool.false_ne_true] at hbase
    right
    omega

/-! ## Tokens -/

namespace Lexer

variable {lx : Lexer}

theorem number_of_mem {ms : List RuleMatch} {x : RuleMatch × Nat} (hx : x ∈ lx.emittedFrom 0 ms) :
    ms[x.2]? = some x.1 :=
  List.mem_zipIdx_iff_getElem?.1 (List.mem_filter.1 hx).1

/-- The numbers of the matches that make tokens grow. -/
theorem emittedFrom_increasing (ms : List RuleMatch) : (lx.emittedFrom 0 ms).Pairwise fun x y => x.2 < y.2 := by
  have hall : (ms.zipIdx 0).Pairwise fun x y => x.2 < y.2 := by
    rw [← List.pairwise_map (f := Prod.snd), List.zipIdx_map_snd]
    exact List.pairwise_lt_range'
  exact hall.filter _

/-- The tokens of a scan, up to a fault, are in the order of their lines and columns. Of two tokens in the same line
the first ends where the second begins or before, and no two tokens stand at the same line and column, whatever line
feeds they carry and wherever their columns count from. -/
theorem scan_ordered (lx : Lexer) (s : String) (line : Int) :
    ∃ (o : ScanOutcome) (spots : List Spot), o = lx.scanValue (.str s) (.int line) ∧
      Forall₂ Token.IsAt o.tokens spots ∧ spots.Pairwise Spot.Precedes ∧ (spots.map Spot.position).Nodup := by
  let ms := lx.matchesOf s.toList.toArray
  obtain ⟨stop, htiles⟩ := lx.exists_tiles s.toList.toArray
  obtain ⟨made, hfront, -, hmade⟩ := lx.scan_made s line
  have hordered : (made.map fun x => spotOf line ms x.1 x.2).Pairwise Spot.Precedes := by
    rw [List.pairwise_map]
    have hnumbers : made.Pairwise fun x y => x.2 < y.2 := (emittedFrom_increasing ms).sublist hfront.sublist
    refine hnumbers.imp_of_mem fun {x y} hx hy hlt => ?_
    exact htiles.precedes line hlt (number_of_mem (hfront.subset hx)) (number_of_mem (hfront.subset hy))
  refine ⟨_, made.map fun x => spotOf line ms x.1 x.2, rfl, ?_, hordered, ?_⟩
  · rw [List.forall₂_map_right_iff]
    exact hmade.flip.imp fun t x ht => ht.standsAt.isAt
  · rw [List.Nodup, List.pairwise_map]
    exact hordered.imp fun hprecedes => ne_of_lt hprecedes.position_lt

end Lexer

end PatternLexer
