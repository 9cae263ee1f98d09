set_option autoImplicit false

/-! # Decimal text of floating-point numbers

A finite number is written with the fewest digits that read back as the same number, and
among those with the digits nearest to it. The search is exact: the number is `m · 2^q`, the
numbers that round to it fill an interval around it, and on the grids of 1, 2, … 17 digits
the two neighbours of the number are tested.

The text is positional for decimal points within 16 digits and for up to four zeros behind
the point, and has an exponent with its sign otherwise. -/

namespace PacketLog.Decimal

/-- A power of two. -/
def twoTo (n : Nat) : Nat := Nat.pow 2 n

/-- A power of ten. -/
def tenTo (n : Nat) : Nat := Nat.pow 10 n

/-- A positive number as a fraction, with the ends of the interval that rounds to it over the
same denominator. -/
structure Rounded where
  num : Nat
  low : Nat
  high : Nat
  den : Nat
  /-- Whether the ends themselves round to the number. -/
  closed : Bool

/-- The number `m · 2^q` with the halves of the gaps to its neighbours. The gap below is only half
as wide when `m` is the least of its exponent. -/
def Rounded.of (m : Nat) (q : Int) (narrowBelow : Bool) : Rounded :=
  let scaleUp : Nat := if 2 ≤ q then twoTo (q - 2).toNat else 1
  let den : Nat := if 2 ≤ q then 1 else twoTo (2 - q).toNat
  { num := 4 * m * scaleUp
    low := (4 * m - (if narrowBelow then 1 else 2)) * scaleUp
    high := (4 * m + 2) * scaleUp
    den := den
    closed := m % 2 == 0 }

/-- The greatest `k` below `bound` with `10^k ≤ num / den`, and 0 if there is none. -/
def log10Up (num den bound : Nat) : Nat :=
  (List.range bound).foldl (fun best k => if tenTo k * den ≤ num then k else best) 0

/-- The exponent of the leading digit of `num / den`. -/
def leadingExponent (num den : Nat) : Int :=
  if den ≤ num then (log10Up num den 400 : Int)
  else
    let zeros := (List.range 400).find? fun k => den ≤ num * tenTo k
    Int.negOfNat (zeros.getD 400)

/-- The multiples of `10^p` next to the number that round to it, the nearer first. -/
def Rounded.hits (r : Rounded) (p : Int) : List Nat :=
  let up : Nat := if p < 0 then tenTo (-p).toNat else 1
  let den : Nat := if p < 0 then r.den else r.den * tenTo p.toNat
  let num := r.num * up
  let below := num / den
  let inside (c : Nat) : Bool :=
    if r.closed then decide (r.low * up ≤ c * den ∧ c * den ≤ r.high * up)
    else decide (r.low * up < c * den ∧ c * den < r.high * up)
  let rest := num % den
  let order :=
    if 2 * rest < den ∨ (2 * rest = den ∧ below % 2 = 0) then [below, below + 1]
    else [below + 1, below]
  order.filter fun c => inside c && 0 < c

/-- The digits `c` and the exponent `p` of the shortest `c · 10^p` that rounds to the number. -/
def Rounded.shortest (r : Rounded) : Nat × Int :=
  let lead := leadingExponent r.num r.den
  let grids := (List.range 17).map fun (n : Nat) => lead - (n : Int)
  (grids.findSome? fun p => (r.hits p).head?.map fun c => (c, p)).getD (0, 0)

/-- A number without its trailing zeros, and how many there were. -/
def stripZeros : Nat → Nat → Nat × Nat
  | 0, c => (c, 0)
  | fuel + 1, c =>
    if c % 10 = 0 ∧ c ≠ 0 then
      let (rest, zeros) := stripZeros fuel (c / 10)
      (rest, zeros + 1)
    else (c, 0)

/-- An exponent with its sign. -/
def exponentText (e : Int) : String := if e < 0 then "e" ++ toString e else "e+" ++ toString e

/-- The text of the digits `c` at the exponent `p`. -/
def layout (c : Nat) (p : Int) : String :=
  let (c, zeros) := stripZeros 20 c
  let digits := toString c
  let p := p + zeros
  let point := (digits.length : Int) + p
  let zeroes (n : Nat) : String := String.ofList (List.replicate n '0')
  if 0 ≤ p ∧ point ≤ 16 then digits ++ zeroes p.toNat ++ ".0"
  else if 0 < point ∧ point ≤ 16 then
    (digits.take point.toNat).toString ++ "." ++ (digits.drop point.toNat).toString
  else if -5 < point ∧ point ≤ 0 then "0." ++ zeroes (-point).toNat ++ digits
  else if digits.length = 1 then digits ++ exponentText (point - 1)
  else (digits.take 1).toString ++ "." ++ (digits.drop 1).toString ++ exponentText (point - 1)

/-- The text of a finite number. -/
def text (x : Float) : String :=
  let bits := x.toBits.toNat
  let sign := if bits / twoTo 63 = 1 then "-" else ""
  let exponent := bits / twoTo 52 % twoTo 11
  let fraction := bits % twoTo 52
  if exponent = 0 ∧ fraction = 0 then sign ++ "0.0"
  else
    let m := if exponent = 0 then fraction else twoTo 52 + fraction
    let q : Int := (max exponent 1 : Nat) - 1075
    let (c, p) := (Rounded.of m q (fraction = 0 ∧ 1 < exponent)).shortest
    sign ++ layout c p

end PacketLog.Decimal
