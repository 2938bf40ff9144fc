namespace Unbundled.Text

/-- The index of the first character of `b` that equals `c`, is not used yet and lies at
most `range` away from index `i`. -/
def partner? (b : List Char) (used : List Nat) (range i : Nat) (c : Char) : Option Nat :=
  (List.range (min b.length (i + range + 1))).find? fun j =>
    i ≤ j + range && !used.contains j && b[j]? == some c

def partners (b : List Char) (range : Nat) : Nat → List Nat → List Char → List (Nat × Nat)
  | _, _, [] => []
  | i, used, c :: cs =>
    match partner? b used range i c with
    | some j => (i, j) :: partners b range (i + 1) (j :: used) cs
    | none => partners b range (i + 1) used cs

def common (a b : List Char) : Nat × Nat :=
  let pairs := partners b (max a.length b.length / 2 - 1) 0 [] a
  let ordered := (pairs.map (·.2)).mergeSort
  let crossed := (pairs.zip ordered).countP fun (p, j) => a[p.1]? != b[j]?
  (pairs.length, crossed / 2)

/-- The similarity of two texts by their common characters, as numerator and denominator:
the mean of the common part of either text and the part of it that is in order. -/
def similarity (a b : String) : Nat × Nat :=
  let (m, t) := common a.toList b.toList
  let x := a.length
  let y := b.length
  if m = 0 then (if x = 0 ∧ y = 0 then 1 else 0, 1)
  else (m * m * y + m * m * x + (m - t) * x * y, 3 * x * y * m)

def ratioLess (p q : Nat × Nat) : Bool := p.1 * q.2 < q.1 * p.2

/-- The text most similar to `s`, if one is similar enough; of several the first one. -/
def mostSimilar? (s : String) (candidates : List String) : Option String :=
  let similar := (candidates.map fun c => (c, similarity s c)).filter fun c => ratioLess (7, 10) c.2
  (similar.foldl (fun best c =>
    match best with
    | none => some c
    | some b => if ratioLess b.2 c.2 then some c else some b) none).map (·.1)

end Unbundled.Text
