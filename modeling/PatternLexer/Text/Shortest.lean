/-!
# Shortest decimal text of a binary floating-point number

The digits are the fewest that read back as the same number, and among those the nearest to it.
Everything is computed on natural numbers: a positive finite number is `m · 2^q`, and the numbers that
read back as it form the interval around it, ends included iff `m` is even.
-/

namespace PatternLexer.Text

/-- A positive rational number that is a power-of-two multiple of a natural number. -/
structure Dyadic where
  mantissa : Nat
  exponent : Int
deriving Repr, DecidableEq

/-- Digits `digits`, read as `0.d₁d₂… · 10^point`. -/
structure DecimalDigits where
  digits : List Nat
  point : Int
deriving Repr, DecidableEq

namespace Dyadic

/-- The finite number with the given IEEE 754 double-precision bits, its sign dropped. -/
def ofBits (bits : Nat) : Dyadic :=
  let exponent : Nat := bits / (1 <<< 52) % (1 <<< 11)
  let fraction : Nat := bits % (1 <<< 52)
  if exponent = 0 then ⟨fraction, -1074⟩ else ⟨fraction + (1 <<< 52), (exponent : Int) - 1075⟩

/-- Numerator and denominator of `n · 2^e`. -/
def ratio (n : Nat) (e : Int) : Nat × Nat :=
  if 0 ≤ e then (n <<< e.toNat, 1) else (n, 1 <<< (-e).toNat)

/-- `a / b ≤ c / d` for fractions given as pairs. -/
def fractionLE (x y : Nat × Nat) : Bool := x.1 * y.2 ≤ y.1 * x.2

/-- `a / b < c / d` for fractions given as pairs. -/
def fractionLT (x y : Nat × Nat) : Bool := x.1 * y.2 < y.1 * x.2

/-- The ends of the interval that reads back as the number. Below a power of two the gap is half. -/
def interval (d : Dyadic) : (Nat × Nat) × (Nat × Nat) :=
  let below := if d.mantissa = 1 <<< 52 ∧ d.exponent ≠ -1074 then 1 else 2
  (ratio (4 * d.mantissa - below) (d.exponent - 2), ratio (4 * d.mantissa + 2) (d.exponent - 2))

/-- Whether the fraction reads back as the number. -/
def accepts (d : Dyadic) (x : Nat × Nat) : Bool :=
  let (low, high) := d.interval
  if d.mantissa % 2 = 0 then fractionLE low x && fractionLE x high
  else fractionLT low x && fractionLT x high

/-- The power of ten such that the number lies in `[10^(p-1), 10^p)`, searched upwards. -/
def pointFrom (x : Nat × Nat) : (fuel : Nat) → Int → Int
  | 0, p => p
  | fuel + 1, p =>
    let power := if 0 ≤ p then (Nat.pow 10 p.toNat, 1) else (1, Nat.pow 10 (-p).toNat)
    if fractionLT x power then p else pointFrom x fuel (p + 1)

/-- The fraction `n · 10^e`. -/
def decimal (n : Nat) (e : Int) : Nat × Nat :=
  if 0 ≤ e then (n * Nat.pow 10 e.toNat, 1) else (n, Nat.pow 10 (-e).toNat)

/-- The candidates with `count` digits: the neighbours of the number on that decimal grid, the nearer
first and of two equally near ones the even one. -/
def neighbours (x : Nat × Nat) (point : Int) (count : Nat) : List Nat :=
  let (stepNum, stepDen) := decimal 1 (point - count)
  let n := x.1 * stepDen / (x.2 * stepNum)
  let rest := x.1 * stepDen % (x.2 * stepNum)
  let whole := x.2 * stepNum
  if 2 * rest < whole ∨ (2 * rest = whole ∧ n % 2 = 0) then [n, n + 1] else [n + 1, n]

/-- The first grid, from `count` digits on, with a candidate that reads back. -/
def search (d : Dyadic) (point : Int) : (fuel count : Nat) → Nat × Nat
  | 0, count => (0, count)
  | fuel + 1, count =>
    let x := ratio d.mantissa d.exponent
    match (neighbours x point count).find? fun n => d.accepts (decimal n (point - count)) with
    | some n => (n, count)
    | none => search d point fuel (count + 1)

/-- The fewest digits that read back. -/
def shortest (d : Dyadic) : DecimalDigits :=
  let point := pointFrom (ratio d.mantissa d.exponent) 700 (-330)
  let (n, count) := d.search point 17 1
  let digits := Nat.toDigits 10 n |>.map fun c => c.toNat - 48
  let stripped := (digits.reverse.dropWhile (· == 0)).reverse
  ⟨stripped, point + digits.length - count⟩

end Dyadic

namespace DecimalDigits

/-- The digits as characters. -/
def chars (d : DecimalDigits) : List Char := d.digits.map fun n => Char.ofNat (n + 48)

/-- Positional from `10^-4` up to `10^16`, otherwise with an exponent of at least two digits; at least
one digit follows a decimal point in positional notation. -/
def text (d : DecimalDigits) : String :=
  let cs := d.chars
  let count : Int := cs.length
  if -4 < d.point ∧ d.point ≤ 16 then
    if d.point ≤ 0 then
      String.ofList ('0' :: '.' :: (List.replicate (-d.point).toNat '0' ++ cs))
    else if count ≤ d.point then
      String.ofList (cs ++ List.replicate (d.point - count).toNat '0' ++ ['.', '0'])
    else
      String.ofList (cs.take d.point.toNat ++ '.' :: cs.drop d.point.toNat)
  else
    let e := d.point - 1
    let eDigits := Nat.toDigits 10 e.natAbs
    let padded := List.replicate (2 - eDigits.length) '0' ++ eDigits
    let mark := if e < 0 then ['e', '-'] else ['e', '+']
    let head := match cs with
      | [] => []
      | [c] => [c]
      | c :: rest => c :: '.' :: rest
    String.ofList (head ++ mark ++ padded)

end DecimalDigits

/-- The shortest digits of a finite number, without its sign; none for zero. -/
def floatDigits (x : Float) : DecimalDigits :=
  let d := Dyadic.ofBits (x.toBits.toNat % (1 <<< 63))
  if d.mantissa = 0 then ⟨[], 0⟩ else d.shortest

/-- Whether the sign bit is set. -/
def floatNegative (x : Float) : Bool := 1 <<< 63 ≤ x.toBits.toNat

/-- The shortest text of a finite number that reads back as it. -/
def floatText (x : Float) : String :=
  let digits := floatDigits x
  let unsigned := if digits.digits.isEmpty then "0.0" else digits.text
  if floatNegative x then "-" ++ unsigned else unsigned

end PatternLexer.Text
