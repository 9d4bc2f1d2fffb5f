import PatternLexer.Text.CaseTable
import PatternLexer.Text.Property

/-!
# Case mappings

Simple lower and upper case of a code point, the code points that matching without regard to case
treats as equal, and the lower case of a whole text.
-/

namespace PatternLexer.Text

/-- The run moves `code`. -/
def CaseRun.covers (r : CaseRun) (code : Nat) : Bool :=
  r.first ≤ code && code ≤ r.last && (code - r.first) % r.stride == 0

/-- The image of `code` under the first run that moves it, else `code` itself. -/
def CaseRun.image (runs : Array CaseRun) (code : Nat) : Nat :=
  match runs.find? (·.covers code) with
  | some r => (code + r.shift).toNat
  | none => code

/-- The code points that the runs move to `code`. -/
def CaseRun.preimages (runs : Array CaseRun) (code : Nat) : List Nat :=
  runs.toList.filterMap fun r =>
    let source := ((code : Int) - r.shift).toNat
    if r.covers source then some source else none

/-- Lower case in ASCII: only `A` to `Z` move. -/
def asciiLower (code : Nat) : Nat :=
  if 65 ≤ code && code ≤ 90 then code + 32 else code

/-- Simple lower case. -/
def lower (code : Nat) : Nat :=
  if code < 128 then asciiLower code else CaseRun.image Table.lowerRuns code

/-- Simple upper case. -/
def upper (code : Nat) : Nat :=
  if code < 128 then (if 97 ≤ code && code ≤ 122 then code - 32 else code)
  else CaseRun.image Table.upperRuns code

/-- The lower-case code points that stand for the same letter as the lower-case `code`. -/
def companions (code : Nat) : List Nat :=
  match Table.caseCompanions.find? (·.1 == code) with
  | some (_, others) => others
  | none => []

/-- All code points whose lower case is `code`, or stands for the same letter. -/
def caseVariants (code : Nat) : List Nat :=
  (code :: companions code).flatMap fun base =>
    (if lower base == base then [base] else []) ++ CaseRun.preimages Table.lowerRuns base

/-! ## Whole texts -/

/-- Whether the nearest character that is not skipped has case. -/
def casedAhead : List Char → Bool
  | [] => false
  | c :: rest =>
    if Table.holds Table.caseIgnorable c.toNat then casedAhead rest
    else Table.holds Table.cased c.toNat

/-- Lower case of a text whose reversed beginning is `before`: a capital sigma that ends a word
becomes a final sigma, and a dotted capital I keeps its dot as a combining character. -/
def lowercaseFrom (before : List Char) : List Char → List Char
  | [] => []
  | c :: rest =>
    let image :=
      if c.toNat == 0x3A3 then
        if casedAhead before && !casedAhead rest then [Char.ofNat 0x3C2] else [Char.ofNat 0x3C3]
      else if c.toNat == 0x130 then ['i', Char.ofNat 0x307]
      else [Char.ofNat (lower c.toNat)]
    image ++ lowercaseFrom (c :: before) rest

/-- Lower case of a text. -/
def lowercase (s : String) : String := String.ofList (lowercaseFrom [] s.toList)

/-- Upper case of a text of ASCII characters and uncased ones. -/
def uppercaseAscii (s : String) : String :=
  String.ofList (s.toList.map fun c => if 'a' ≤ c && c ≤ 'z' then Char.ofNat (c.toNat - 32) else c)

end PatternLexer.Text
