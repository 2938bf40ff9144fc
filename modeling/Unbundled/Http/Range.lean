import Unbundled.Text.Affix
import Unbundled.Text.Chars

namespace Unbundled.Http

inductive RangeSpec where
  | between (first : Nat) (last : Option Nat)
  /-- The last bytes, of which there is at least one. -/
  | ending (count : Nat)
deriving Repr, DecidableEq, Inhabited

/-- A number of 64 bits without sign and leading zeros. -/
def number? (cs : List Char) : Option Nat :=
  if cs.isEmpty ∨ ¬ cs.all Char.isDigit ∨ (cs.head? = some '0' ∧ cs.length > 1) then none
  else
    let n := cs.foldl (fun n c => n * 10 + (c.toNat - 48)) 0
    if n < 0x10000000000000000 then some n else none

def RangeSpec.ofText? (cs : List Char) : Option RangeSpec :=
  match Text.splitList '-' cs with
  | [[], count] => do
    let n ← number? count
    if n = 0 then none else some (.ending n)
  | [first, []] => return .between (← number? first) none
  | [first, last] => return .between (← number? first) (some (← number? last))
  | _ => none

/-- A range without the blank before it; there must be none behind it. -/
def trimmedRange? (cs : List Char) : Option (List Char) :=
  if cs.getLast?.any Text.isWhiteSpace ∨ (cs.filter Text.isWhiteSpace).length > 1 then none
  else some (cs.dropWhile Text.isWhiteSpace)

def rangeSpecs? (header : String) : Option (List RangeSpec) := do
  let rest ← Text.afterPrefix? "bytes=" header
  (Text.splitList ',' rest.toList).mapM fun cs => do RangeSpec.ofText? (← trimmedRange? cs)

/-- The first and the last byte in a file of a given size, if the file has the first one. -/
def RangeSpec.within? (size : Nat) : RangeSpec → Option (Nat × Nat)
  | .between first last =>
    let last := (last.map (min (size - 1))).getD (size - 1)
    if first < size ∧ first ≤ last then some (first, last) else none
  | .ending count => if size = 0 then none else some (size - min count size, size - 1)

def disjoint : List (Nat × Nat) → Bool
  | [] => true
  | r :: rs => rs.all (fun s => r.2 < s.1 || s.2 < r.1) && disjoint rs

def ranges? (size : Nat) (header : String) : Option (List (Nat × Nat)) := do
  let rs ← (← rangeSpecs? header).mapM (·.within? size)
  if disjoint rs then some rs else none

end Unbundled.Http
