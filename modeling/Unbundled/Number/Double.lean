/-!
Binary floating-point numbers with 53 bits of precision, kept exact: a finite number is
a mantissa times a power of two. Each operation computes the exact result and rounds once,
to the nearest number and from halfway to the even mantissa.
-/

namespace Unbundled.Number

def pow2 (n : Nat) : Nat := Nat.pow 2 n

def pow10 (n : Nat) : Nat := Nat.pow 10 n

/-- A double. A finite one is `± mantissa · 2 ^ exponent`; integers below `2 ^ 53` have
exponent `0`, and a negative exponent goes with an odd mantissa. -/
inductive Double where
  | finite (negative : Bool) (mantissa : Nat) (exponent : Int)
  | infinite (negative : Bool)
  | nan
deriving Repr, DecidableEq, Inhabited

namespace Double

def roundedQuotient (n d : Nat) : Nat :=
  let q := n / d
  let r := n % d
  if 2 * r < d then q else if 2 * r > d then q + 1 else q + q % 2

/-- Numerator and denominator of `n / d · 2 ^ (-e)`. -/
def scaled (n d : Nat) (e : Int) : Nat × Nat :=
  if e < 0 then (n * pow2 (-e).toNat, d) else (n, d * pow2 e.toNat)

/-- Halves an even mantissa while the exponent is negative, at most `k` times. -/
def shorten : Nat → Nat → Int → Nat × Int
  | 0, m, e => (m, e)
  | k + 1, m, e => if e < 0 && m % 2 == 0 then shorten k (m / 2) (e + 1) else (m, e)

def ofRatio (negative : Bool) (n d : Nat) : Double :=
  if n = 0 then finite negative 0 0
  else if d = 1 ∧ n < 0x20000000000000 then finite negative n 0
  else
    let e₀ : Int := (n.log2 : Int) - (d.log2 : Int) - 53
    let wide := scaled n d e₀
    let e₁ := if wide.1 / wide.2 < 0x20000000000000 then e₀ else e₀ + 1
    let e := max e₁ (-1074)
    let (p, q) := scaled n d e
    let m := roundedQuotient p q
    let (m, e) := if m = 0x20000000000000 then (0x10000000000000, e + 1) else (m, e)
    if m = 0 then finite negative 0 0
    else if e > 971 then infinite negative
    else
      let (m, e) := shorten 1100 m e
      finite negative m e

def ofNat (n : Nat) : Double := ofRatio false n 1

def ofInt (n : Int) : Double := ofRatio (n < 0) n.natAbs 1

def ofDecimal (negative : Bool) (n : Nat) (e : Int) : Double :=
  let size : Int := e + ((n.log2 : Int) + 1) * 30103 / 100000
  if n = 0 then finite negative 0 0
  else if size > 400 then infinite negative
  else if size < -400 then finite negative 0 0
  else if e < 0 then ofRatio negative n (pow10 (-e).toNat)
  else ofRatio negative (n * pow10 e.toNat) 1

def ofScaled (n : Int) (e : Int) : Double :=
  if e < 0 then ofRatio (n < 0) n.natAbs (pow2 (-e).toNat)
  else ofRatio (n < 0) (n.natAbs * pow2 e.toNat) 1

def neg : Double → Double
  | finite s m e => finite (!s) m e
  | infinite s => infinite (!s)
  | nan => nan

def isNegative : Double → Bool
  | finite s _ _ => s
  | infinite s => s
  | nan => false

def isZero : Double → Bool
  | finite _ 0 _ => true
  | _ => false

def signedMantissa (s : Bool) (m : Nat) : Int := if s then -(m : Int) else m

def toInt? : Double → Option Int
  | finite s m e =>
    if e < 0 then
      if m % pow2 (-e).toNat = 0 then some (signedMantissa s (m / pow2 (-e).toNat)) else none
    else some (signedMantissa s (m * pow2 e.toNat))
  | _ => none

def truncate : Double → Int
  | finite s m e =>
    if e < 0 then signedMantissa s (m / pow2 (-e).toNat) else signedMantissa s (m * pow2 e.toNat)
  | _ => 0

def add : Double → Double → Double
  | finite s m e, finite s' m' e' =>
    let low := min e e'
    let n := signedMantissa s m * pow2 (e - low).toNat + signedMantissa s' m' * pow2 (e' - low).toNat
    if n = 0 then finite (s && s') 0 0 else ofScaled n low
  | infinite s, infinite s' => if s == s' then infinite s else nan
  | infinite s, finite .. => infinite s
  | finite .., infinite s => infinite s
  | _, _ => nan

def sub (a b : Double) : Double := add a b.neg

def mul : Double → Double → Double
  | finite s m e, finite s' m' e' =>
    match ofScaled ((m * m' : Nat) : Int) (e + e') with
    | finite _ m e => finite (s != s') m e
    | infinite _ => infinite (s != s')
    | nan => nan
  | infinite s, infinite s' => infinite (s != s')
  | infinite s, finite s' m _ => if m = 0 then nan else infinite (s != s')
  | finite s m _, infinite s' => if m = 0 then nan else infinite (s != s')
  | _, _ => nan

def div : Double → Double → Double
  | finite s m e, finite s' m' e' =>
    if m' = 0 then if m = 0 then nan else infinite (s != s')
    else
      let (n, d) := scaled m m' (e' - e)
      ofRatio (s != s') n d
  | infinite s, finite s' _ _ => infinite (s != s')
  | finite s _ _, infinite s' => finite (s != s') 0 0
  | _, _ => nan

/-- The remainder with the sign of the dividend. -/
def rem : Double → Double → Double
  | finite s m e, finite _ m' e' =>
    if m' = 0 then nan
    else
      let low := min e e'
      let n : Nat := (m * pow2 (e - low).toNat) % (m' * pow2 (e' - low).toNat)
      match ofScaled n low with
      | finite _ m e => finite s m e
      | d => d
  | finite s m e, infinite _ => finite s m e
  | _, _ => nan

/-- The residue modulo `2 ^ 32`, between `-2 ^ 31` and `2 ^ 31`. -/
def toInt32 (d : Double) : Int :=
  let r : Int := d.truncate % 0x100000000
  if r ≥ 0x80000000 then r - 0x100000000 else r

def toUInt32 (d : Double) : Nat := (d.truncate % 0x100000000).toNat

def toBits : Double → UInt64
  | nan => 0x7ff8000000000000
  | infinite s => (if s then 0x8000000000000000 else 0) + 0x7ff0000000000000
  | finite s m e =>
    let sign : Nat := if s then 0x8000000000000000 else 0
    if m = 0 then sign.toUInt64
    else
      let shift := 52 - m.log2
      let low : Int := max (e - shift) (-1074)
      let m : Nat := m * pow2 (e - low).toNat
      if m < 0x10000000000000 then (sign + m).toUInt64
      else (sign + (low + 1075).toNat * 0x10000000000000 + (m - 0x10000000000000)).toUInt64

def ofBits (bits : UInt64) : Double :=
  let n := bits.toNat
  let s : Bool := n ≥ 0x8000000000000000
  let e : Nat := n / 0x10000000000000 % 0x800
  let m : Nat := n % 0x10000000000000
  if e = 2047 then if m = 0 then infinite s else nan
  else if e = 0 then
    match ofScaled m (-1074) with
    | finite _ m e => finite s m e
    | d => d
  else
    match ofScaled ((0x10000000000000 + m : Nat) : Int) ((e : Int) - 1075) with
    | finite _ m e => finite s m e
    | d => d

def pow (a b : Double) : Double :=
  match a.toInt?, b.toInt? with
  | some n, some k =>
    if 0 ≤ k ∧ k ≤ 1100 ∧ n ≠ 0 then ofInt (Int.pow n k.toNat)
    else ofBits (Float.pow (Float.ofBits a.toBits) (Float.ofBits b.toBits)).toBits
  | _, _ => ofBits (Float.pow (Float.ofBits a.toBits) (Float.ofBits b.toBits)).toBits

end Double

end Unbundled.Number
