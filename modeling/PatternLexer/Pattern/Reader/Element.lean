import PatternLexer.Pattern.Reader.Basic
import PatternLexer.Text.Numeral

/-!
# Elements and alternatives

A sequence is read element by element, and a repetition applies to the element before it. Alternatives are
simplified when they have been read: elements that all of them start with are moved in front, and alternatives
of one character each become a class.
-/

namespace PatternLexer

open Text

/-- An element of a sequence while it is read: a bare group is still one element, for a repetition
that may follow, and is dissolved at the end. -/
inductive Element where
  | plain (t : Tree)
  | bare (body : List Tree)
deriving Repr

/-- The patterns of an element. -/
def Element.trees : Element → List Tree
  | .plain t => [t]
  | .bare body => body

/-- What keeps an element from being repeated. -/
def Element.unrepeatable? : Element → Option PatternCause
  | .plain (.anchor _) => some .nothingToRepeat
  | .plain (.many ..) | .plain (.loop ..) => some .multipleRepeat
  | _ => none

namespace Reader

/-! ## Repetition -/

/-- The least count that is refused. -/
def maxRepeat : Nat := 0xFFFFFFFF

/-- A count in braces. -/
def readCount (digits : List Char) : Read Nat :=
  if maxDigits < digits.length then .fail (.numeralTooLong digits.length)
  else
    let n := digitsValue 10 digits
    if maxRepeat ≤ n then .fail .repetitionTooLarge else pure n

/-- The count in braces; none is written if there are no digits. -/
def readCount? (digits : List Char) : Read (Option Nat) :=
  if digits.isEmpty then pure none else some <$> readCount digits

/-- The bounds that digits in braces stand for; the braces begin at offset `start`. -/
def boundsOf (low high : List Char) (start : Nat) : Read (Nat × Option Nat) := do
  let least := (← readCount? low).getD 0
  let most ← readCount? high
  match most with
  | none => pure (least, none)
  | some m => if m < least then refuseAt .repeatBounds start else pure (least, some m)

/-- The digits of the lower and the upper bound in braces, the opening one just left behind; none if this
is no repetition. -/
def readBoundDigits : Read (Option (List Char × List Char)) := do
  let fuel := (← here).rest.length + 1
  if (← peek) = some (.char '\x7d') then return none
  let low ← takeAll Char.isDigit fuel
  if ← accept ',' then
    let high ← takeAll Char.isDigit fuel
    return if ← accept '\x7d' then some (low, high) else none
  else
    return if ← accept '\x7d' then some (low, low) else none

/-- The bounds in braces, the opening one just left behind; nothing is read if this is no repetition. -/
def readBounds : Read (Option (Nat × Option Nat)) := do
  let start := (← here).pos
  match (← readBoundDigits.attempt) with
  | some (low, high) => return some (← boundsOf low high start)
  | none => pure none

/-- The greed of a repetition, which a mark after it tells. -/
def readGreed : Read Greed := do
  if ← accept '?' then pure .lazy
  else if ← accept '+' then pure .possessive
  else pure .greedy

/-- The repetition of a sequence. -/
def repeated (greed : Greed) (least : Nat) (most : Option Nat) : List Tree → Tree
  | [.single u] => .many greed least most u
  | body => .loop greed least most (.ofList body)

/-- Repeats the last element read (the first of `found`) by the bounds of a repetition that starts at
offset `start`. -/
def repeatLast (start least : Nat) (most : Option Nat) (found : List Element) :
    Read (List Element) := do
  match found with
  | [] => refuseAt .nothingToRepeat start
  | last :: before =>
    match last.unrepeatable? with
    | some cause => refuseAt cause start
    | none => return .plain (repeated (← readGreed) least most last.trees) :: before

/-! ## Alternatives -/

/-- The elements are the same and hold no pattern of their own. -/
def sameElement : Tree → Tree → Bool
  | .single u, .single v => u == v
  | .anchor a, .anchor b => a == b
  | .backref g, .backref h => g == h
  | _, _ => false

/-- Splits off the elements that `first` and all `others` start with. -/
def commonStart : List Tree → List (List Tree) → List Tree × List (List Tree)
  | t :: rest, others =>
    if others.all fun item => (item.head?.map (sameElement t)).getD false then
      let (common, remaining) := commonStart rest (others.map List.tail)
      (t :: common, remaining)
    else ([], (t :: rest) :: others)
  | [], others => ([], [] :: others)

/-- The class that alternatives of one character each amount to. -/
def alternativesClass? : List (List Tree) → Option (List ClassItem)
  | [] => some []
  | [.single (.code c)] :: rest => (alternativesClass? rest).map (.code c :: ·)
  | [.single (.oneOf false items)] :: rest => (alternativesClass? rest).map (items ++ ·)
  | _ => none

/-- The sequence that alternatives amount to. -/
def joinAlternatives : List (List Tree) → List Tree
  | [] => []
  | [item] => item
  | first :: others =>
    let (common, remaining) := commonStart first others
    match alternativesClass? remaining with
    | some items => common ++ [.single (.oneOf false items.eraseDups)]
    | none => common ++ [.ofAlternatives remaining]

end Reader

end PatternLexer
