import Unbundled.Number.Double

/-!
The shortest decimal that reads back as a given double: of all decimals with the fewest
digits among those nearer to it than to any other double, the nearest.
-/

namespace Unbundled.Number.Double

/-- A positive double brought to the form `m · 2 ^ e` with 53 bits or the least exponent. -/
def normalForm (m : Nat) (e : Int) : Nat × Int :=
  let low := max (e - (52 - (m.log2 : Int))) (-1074)
  if e ≥ low then (m * pow2 (e - low).toNat, low) else (m, e)

/-- Whether `c · 10 ^ k` rounds to `m · 2 ^ e`. All is compared after multiplying with
`4 · 2 ^ (-e)`, where half a unit below the number is `1` if the number starts a binade. -/
def readsBack (m : Nat) (e : Int) (c : Nat) (k : Int) : Bool :=
  let below := if m = 0x10000000000000 ∧ e > -1074 then 1 else 2
  let two := pow2 e.natAbs
  let ten := pow10 k.natAbs
  let left := 4 * c * (if k ≥ 0 then ten else 1) * (if e < 0 then two else 1)
  let unit := (if k < 0 then ten else 1) * (if e ≥ 0 then two else 1)
  let lo := (4 * m - below) * unit
  let hi := (4 * m + 2) * unit
  if m % 2 = 0 then lo ≤ left && left ≤ hi else lo < left && left < hi

/-- The neighbours below and above on the grid of multiples of `10 ^ k`; of those that
read back the nearer, and the even one if both are equally near. -/
def onGrid (m : Nat) (e : Int) (k : Int) : Option Nat :=
  let n := m * (if e ≥ 0 then pow2 e.toNat else 1) * (if k < 0 then pow10 (-k).toNat else 1)
  let d := (if e < 0 then pow2 (-e).toNat else 1) * (if k ≥ 0 then pow10 k.toNat else 1)
  let below := n / d
  let above := below + 1
  let r := n % d
  match readsBack m e below k, readsBack m e above k with
  | true, true => if 2 * r < d then some below else if 2 * r > d then some above
      else some (if below % 2 = 0 then below else above)
  | true, false => some below
  | false, true => some above
  | false, false => none

def firstGrid (m : Nat) (e : Int) : Nat → Int → Nat × Int
  | 0, k => (0, k)
  | fuel + 1, k =>
    match onGrid m e k with
    | some (c + 1) => (c + 1, k)
    | _ => firstGrid m e fuel (k - 1)

/-- Digits `c` and exponent `k` of the shortest decimal `c · 10 ^ k` for the magnitude of
a finite double. -/
def shortest (m : Nat) (e : Int) : Nat × Int :=
  if m = 0 then (0, 0)
  else
    let (m, e) := normalForm m e
    let top : Int := ((m.log2 : Int) + e) * 30103 / 100000 + 1
    firstGrid m e 22 top

def dropZeros : Nat → Nat → Int → Nat × Int
  | 0, c, k => (c, k)
  | fuel + 1, c, k => if c ≠ 0 ∧ c % 10 = 0 then dropZeros fuel (c / 10) (k + 1) else (c, k)

def digits (n : Nat) : String := String.ofList (Nat.toDigits 10 n)

def zeros (n : Nat) : String := String.ofList (List.replicate n '0')

/-- Digits and a decimal point, never an exponent. -/
def positionalMagnitude (c : Nat) (k : Int) : String :=
  let ds := Nat.toDigits 10 c
  if k ≥ 0 then String.ofList ds ++ zeros k.toNat
  else
    let p := (-k).toNat
    if p < ds.length then
      String.ofList (ds.take (ds.length - p)) ++ "." ++ String.ofList (ds.drop (ds.length - p))
    else "0." ++ zeros (p - ds.length) ++ String.ofList ds

def positional : Double → String
  | nan => "NaN"
  | infinite s => if s then "-inf" else "inf"
  | finite s m e =>
    let (c, k) := shortest m e
    let (c, k) := dropZeros 25 c k
    (if s then "-" else "") ++ (if c = 0 then "0" else positionalMagnitude c k)

/-- A double as messages show it: positional with a point from `1e-5` to below `1e16`,
scientific without a `+` outside. -/
def compact : Double → String
  | nan => "NaN"
  | infinite s => if s then "-inf" else "inf"
  | finite s m e =>
    let (c, k) := shortest m e
    let (c, k) := dropZeros 25 c k
    let sign := if s then "-" else ""
    if c = 0 then sign ++ "0.0"
    else
      let ds := Nat.toDigits 10 c
      let point : Int := ds.length + k
      if -5 < point ∧ point ≤ 16 then
        sign ++ positionalMagnitude c k ++ (if k ≥ 0 then ".0" else "")
      else
        let tail := ds.drop 1
        sign ++ String.ofList (ds.take 1)
          ++ (if tail.isEmpty then "" else "." ++ String.ofList tail) ++ "e" ++ toString (point - 1)

/-- A double as scripts print it: positional from `1e-6` to below `1e21`, scientific
outside. -/
def script : Double → String
  | nan => "NaN"
  | infinite s => if s then "-Infinity" else "Infinity"
  | finite s m e =>
    let (c, k) := shortest m e
    let (c, k) := dropZeros 25 c k
    if c = 0 then "0"
    else
      let ds := Nat.toDigits 10 c
      let point : Int := ds.length + k
      let body :=
        if -6 < point ∧ point ≤ 21 then positionalMagnitude c k
        else
          let x := point - 1
          let tail := ds.drop 1
          String.ofList (ds.take 1) ++ (if tail.isEmpty then "" else "." ++ String.ofList tail)
            ++ "e" ++ (if x < 0 then "-" else "+") ++ digits x.natAbs
      (if s then "-" else "") ++ body

end Unbundled.Number.Double
