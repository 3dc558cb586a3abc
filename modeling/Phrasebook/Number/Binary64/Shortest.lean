import Phrasebook.Number.Binary64

/-! The shortest decimal text of a float: the fewest digits that read back as the same float, and
of those the nearest to it. The reals that round to a float form an interval around it; for one
digit after another the two neighbours of the float on the decimal grid are tried until one lies in
that interval. -/

namespace Phrasebook.Number.Binary64

-- powers of numbers are the core library's, whatever else is in scope
attribute [local instance (high)] instPowNat

/-- Four times the distance in units from a float to the ends of its interval, below and above.
Below a power of two the floats lie twice as dense. -/
def reach (units : Nat) : Nat × Nat :=
  let step := spacing units
  (if units = Nat.pow 2 52 * step && 1 < step then step else 2 * step, 2 * step)

/-- Whether `n * 10 ^ scale` ones round to the float of so many units. -/
def roundsTo (units n : Nat) (scale : Int) : Bool :=
  let (below, above) := reach units
  let even := units / spacing units % 2 = 0
  let up := 10 ^ scale.toNat
  let down := 10 ^ (-scale).toNat
  let point := 4 * n * up * unitsPerOne
  let low := (4 * units - below) * down
  let high := (4 * units + above) * down
  if even then low ≤ point && point ≤ high else low < point && point < high

/-- Twice the signed distance in scaled units from the float to the middle of two grid points. -/
def closerAbove (units n : Nat) (scale : Int) : Ordering :=
  let up := 10 ^ scale.toNat
  let down := 10 ^ (-scale).toNat
  compare (2 * units * down) ((2 * n + 1) * up * unitsPerOne)

/-- The power of ten of the leading digit of so many units. -/
def leadExponent (units : Nat) : Int :=
  (digitCount (units * Nat.pow 10 330 / unitsPerOne) : Int) - 331

/-- The grid point below a positive float, as a multiple of `10 ^ scale`. -/
def gridBelow (units : Nat) (scale : Int) : Nat :=
  units * 10 ^ (-scale).toNat / (unitsPerOne * 10 ^ scale.toNat)

/-- The neighbour on the grid of `count` digits that reads back, the nearer one of two. -/
def candidate? (units count : Nat) : Option (Nat × Int) :=
  let scale := leadExponent units - (count - 1 : Nat)
  let n := gridBelow units scale
  match roundsTo units n scale, roundsTo units (n + 1) scale with
  | true, true =>
    match closerAbove units n scale with
    | .lt => some (n, scale)
    | .gt => some (n + 1, scale)
    | .eq => some (if n % 2 = 0 then n else n + 1, scale)
  | true, false => some (n, scale)
  | false, true => some (n + 1, scale)
  | false, false => none

/-- The decimal digits and scale chosen for a positive count of units. Seventeen digits always
suffice. -/
def shortest (units : Nat) : Nat × Int :=
  ((List.range 17).findSome? fun k => candidate? units (k + 1)).getD (0, 0)

/-- Positional from `1e-4` up to `1e16`, otherwise with an exponent of at least two digits. -/
def magnitudeText (units : Nat) : List Char :=
  if units = 0 then ['0', '.', '0']
  else
    let (n, scale) := shortest units
    let all := Number.text n
    let lead := scale + all.length - 1
    let ds := match (all.reverse.dropWhile (· == '0')).reverse with
      | [] => ['0']
      | ds => ds
    if -4 ≤ lead && lead < 16 then
      if lead < 0 then '0' :: '.' :: (List.replicate (-lead - 1).toNat '0' ++ ds)
      else
        let whole := lead.toNat + 1
        if ds.length ≤ whole then ds ++ List.replicate (whole - ds.length) '0' ++ ['.', '0']
        else ds.take whole ++ '.' :: ds.drop whole
    else
      let mantissa := match ds with
        | d :: e :: es => d :: '.' :: e :: es
        | ds => ds
      let size := Number.text lead.natAbs
      mantissa ++ 'e' :: (if lead < 0 then '-' else '+') ::
        (if size.length < 2 then '0' :: size else size)

def toText : Binary64 → List Char
  | finite negative units => (if negative then ['-'] else []) ++ magnitudeText units
  | infinite negative => if negative then "-inf".toList else "inf".toList
  | nan => "nan".toList

end Phrasebook.Number.Binary64
