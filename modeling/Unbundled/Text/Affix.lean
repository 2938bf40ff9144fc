namespace Unbundled.Text

def dropPrefix? : List Char → List Char → Option (List Char)
  | [], cs => some cs
  | _ :: _, [] => none
  | p :: ps, c :: cs => if p = c then dropPrefix? ps cs else none

def startsWith (p s : String) : Bool := (dropPrefix? p.toList s.toList).isSome

def afterPrefix? (p s : String) : Option String :=
  (dropPrefix? p.toList s.toList).map String.ofList

def dropRepeated (p : List Char) : Nat → List Char → List Char
  | 0, cs => cs
  | fuel + 1, cs =>
    match dropPrefix? p cs with
    | some rest => dropRepeated p fuel rest
    | none => cs

/-- The text without all copies of `p` it starts with. -/
def withoutLeading (p s : String) : String :=
  String.ofList (dropRepeated p.toList s.length s.toList)

def withoutTrailing (c : Char) (s : String) : String :=
  String.ofList (s.toList.reverse.dropWhile (· = c)).reverse

def isInfix (p : List Char) : List Char → Bool
  | [] => p.isEmpty
  | c :: cs => (dropPrefix? p (c :: cs)).isSome || isInfix p cs

def contains (p s : String) : Bool := isInfix p.toList s.toList

/-- The parts between the separators; without one, the whole list. -/
def splitList (sep : Char) : List Char → List (List Char)
  | [] => [[]]
  | c :: cs =>
    if c = sep then [] :: splitList sep cs
    else match splitList sep cs with
      | [] => [[c]]
      | p :: ps => (c :: p) :: ps

def split (sep : Char) (s : String) : List String :=
  (splitList sep s.toList).map String.ofList

def lowerChar (c : Char) : Char := if 'A' ≤ c ∧ c ≤ 'Z' then Char.ofNat (c.toNat + 32) else c

def lower (s : String) : String := String.ofList (s.toList.map lowerChar)

end Unbundled.Text
