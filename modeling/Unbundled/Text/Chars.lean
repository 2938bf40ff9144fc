namespace Unbundled.Text

def isLineEnd (c : Char) : Bool :=
  c == '\n' || c == '\r' || c == '\u2028' || c == '\u2029'

def isWideSpace (c : Char) : Bool :=
  c == '\u00a0' || c == '\u1680' || ('\u2000' ≤ c && c ≤ '\u200a') || c == '\u202f' ||
    c == '\u205f' || c == '\u3000'

def isScriptSpace (c : Char) : Bool :=
  c == ' ' || c == '\t' || c == '\x0b' || c == '\x0c' || c == '\ufeff' || isWideSpace c

/-- The Unicode property `White_Space`. -/
def isWhiteSpace (c : Char) : Bool :=
  c == ' ' || ('\t' ≤ c && c ≤ '\r') || c == '\u0085' || isWideSpace c ||
    c == '\u2028' || c == '\u2029'

def trim (s : String) : String :=
  String.ofList ((s.toList.dropWhile isWhiteSpace).reverse.dropWhile isWhiteSpace).reverse

def searchRanges (ranges : Array (Nat × Nat)) (n : Nat) : Nat → Nat → Nat → Bool
  | 0, _, _ => false
  | fuel + 1, lo, hi =>
    if lo < hi then
      let mid := (lo + hi) / 2
      match ranges[mid]? with
      | some (a, b) =>
        if n < a then searchRanges ranges n fuel lo mid
        else if b < n then searchRanges ranges n fuel (mid + 1) hi
        else true
      | none => false
    else false

def inRanges (ranges : Array (Nat × Nat)) (n : Nat) : Bool :=
  searchRanges ranges n (ranges.size.log2 + 2) 0 ranges.size

end Unbundled.Text
