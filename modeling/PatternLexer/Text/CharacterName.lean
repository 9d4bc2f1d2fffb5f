import PatternLexer.Text.Case
import PatternLexer.Text.CharacterNameTable
import PatternLexer.Text.Numeral

/-!
# Character names

Looking up a character by its name. Ideographs and Hangul syllables are named after a rule, every other character by
a table. The table covers some blocks only, and a name of another block is unknown; nothing that is said of patterns
looks into it.
-/

namespace PatternLexer.Text

/-- The code point that a run has the name for. -/
def NameRun.find? (r : NameRun) (name : String) : Option Nat :=
  (r.rests.findIdx? fun rest => r.stem ++ rest == name).map (r.first + ·)

/-- The code point with this name or alias in the tables, in which all letters are capitals. -/
def tabulatedName? (name : String) : Option Nat :=
  (Table.nameRuns ++ Table.aliasRuns).findSome? (·.find? name)

/-- The number of the longest part that stands at the front, with what stands behind it. -/
def longestFront? (parts : List String) (cs : List Char) : Option (Nat × List Char) :=
  parts.zipIdx.foldl (fun best (part, number) =>
    match part.toList.isPrefixOf? cs, best with
    | some rest, some (_, shortest) => if rest.length < shortest.length then some (number, rest) else best
    | some rest, none => some (number, rest)
    | none, _ => best) none

/-- The Hangul syllable that is spelled by the names of its parts. -/
def hangulSyllable? (spelling : List Char) : Option Nat := do
  let (lead, rest) ← longestFront? Table.hangulLeads spelling
  let (vowel, rest) ← longestFront? Table.hangulVowels rest
  let (tail, rest) ← longestFront? Table.hangulTails rest
  if rest.isEmpty then
    some (0xAC00 + (lead * Table.hangulVowels.length + vowel) * Table.hangulTails.length + tail)
  else none

/-- The ideograph whose code is given by four or five hexadecimal digits, all letters being capitals. -/
def ideograph? (digits : List Char) : Option Nat :=
  let code := digitsValue 16 digits
  if (digits.length == 4 || digits.length == 5) && digits.all (fun c => isHexDigit c && !c.isLower) &&
      Table.ideographs.any (fun (first, last) => first ≤ code && code ≤ last) then some code
  else none

/-- The code point with this name. The names in the tables are known in small letters too. -/
def namedCode? (name : String) : Option Nat :=
  match "HANGUL SYLLABLE ".toList.isPrefixOf? name.toList with
  | some spelling => hangulSyllable? spelling
  | none =>
    match "CJK UNIFIED IDEOGRAPH-".toList.isPrefixOf? name.toList with
    | some digits => ideograph? digits
    | none => tabulatedName? (uppercaseAscii name)

end PatternLexer.Text
