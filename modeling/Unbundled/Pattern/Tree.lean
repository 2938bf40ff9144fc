namespace Unbundled

/-- A set of characters. `folded s` has both cases of the ASCII letters in `s`. -/
inductive CharSet where
  | none
  | range (first last : Char)
  | union (s t : CharSet)
  | compl (s : CharSet)
  | folded (s : CharSet)
deriving Repr, DecidableEq, Inhabited

namespace CharSet

def otherCase (c : Char) : Char :=
  if 'a' ≤ c ∧ c ≤ 'z' then Char.ofNat (c.toNat - 32)
  else if 'A' ≤ c ∧ c ≤ 'Z' then Char.ofNat (c.toNat + 32)
  else c

def mem (c : Char) : CharSet → Bool
  | none => false
  | range a b => a ≤ c && c ≤ b
  | union s t => mem c s || mem c t
  | compl s => !mem c s
  | folded s => mem c s || mem (otherCase c) s

def single (c : Char) : CharSet := range c c

def all : CharSet := compl none

def ofRanges : List (Char × Char) → CharSet
  | [] => none
  | (a, b) :: rs => union (range a b) (ofRanges rs)

def ranges : CharSet → Nat
  | none => 0
  | range .. => 1
  | union s t => s.ranges + t.ranges
  | compl s => s.ranges + 1
  | folded s => 2 * s.ranges

def digit : CharSet := range '0' '9'

def upper : CharSet := range 'A' 'Z'

def lower : CharSet := range 'a' 'z'

def letter : CharSet := union upper lower

def space : CharSet := union (range '\t' '\r') (single ' ')

def word : CharSet := union (union digit letter) (single '_')

end CharSet

inductive Look where
  | textStart | textEnd
  | lineStart | lineEnd
  /-- A line may also end with a carriage return, alone or before a line feed. -/
  | returnLineStart | returnLineEnd
  | boundary | noBoundary
  | wordStart | wordEnd
  | noWordBefore | noWordAfter
deriving Repr, DecidableEq, Inhabited

namespace Look

def isWord (c : Option Char) : Bool := c.any CharSet.word.mem

def holds (before after : Option Char) : Look → Bool
  | textStart => before.isNone
  | textEnd => after.isNone
  | lineStart => before.isNone || before == some '\n'
  | lineEnd => after.isNone || after == some '\n'
  | returnLineStart =>
    before.isNone || before == some '\n' || (before == some '\r' && after != some '\n')
  | returnLineEnd =>
    after.isNone || after == some '\r' || (after == some '\n' && before != some '\r')
  | boundary => isWord before != isWord after
  | noBoundary => isWord before == isWord after
  | wordStart => !isWord before && isWord after
  | wordEnd => isWord before && !isWord after
  | noWordBefore => !isWord before
  | noWordAfter => !isWord after

end Look

inductive Pattern where
  | empty
  | char (c : Char)
  | oneOf (set : CharSet)
  | look (look : Look)
  | group (p : Pattern)
  | repeated (p : Pattern) (least : Nat) (most : Option Nat)
  | sequence (ps : List Pattern)
  | choice (ps : List Pattern)
deriving Repr, Inhabited

namespace Pattern

def inSequence : List Pattern → Pattern
  | [] => empty
  | [p] => p
  | ps => sequence ps

def anyOf : List Pattern → Pattern
  | [p] => p
  | ps => choice ps

def times (p : Pattern) (least : Nat) (most : Option Nat) : Pattern :=
  if most = some 0 then empty
  else if least = 1 ∧ most = some 1 then p
  else repeated p least most

mutual

def depth : Pattern → Nat
  | group p | repeated p _ _ => p.depth + 1
  | sequence ps | choice ps => depths ps + 1
  | _ => 0
termination_by structural p => p

def depths : List Pattern → Nat
  | [] => 0
  | p :: ps => max p.depth (depths ps)
termination_by structural ps => ps

end

mutual

def matchesEmpty : Pattern → Bool
  | empty | look _ => true
  | char _ | oneOf _ => false
  | group p => p.matchesEmpty
  | repeated p least _ => least == 0 || p.matchesEmpty
  | sequence ps => allEmpty ps
  | choice ps => someEmpty ps
termination_by structural p => p

def allEmpty : List Pattern → Bool
  | [] => true
  | p :: ps => p.matchesEmpty && allEmpty ps
termination_by structural ps => ps

def someEmpty : List Pattern → Bool
  | [] => false
  | p :: ps => p.matchesEmpty || someEmpty ps
termination_by structural ps => ps

end

/-- The memory of a state of an automaton, and of a way that leads on from a state. -/
def stateSize : Nat := 32

def waySize : Nat := 4

mutual

def size : Pattern → Nat
  | empty | char _ | look _ => stateSize
  | oneOf set => stateSize + 8 * set.ranges
  | group p => p.size + 2 * stateSize
  | repeated p least most =>
    let fork := stateSize + 2 * waySize
    match most with
    | none =>
      if least = 0 then p.size + fork + (if p.matchesEmpty then fork + stateSize else 0)
      else least * p.size + fork
    | some most =>
      if least = most then least * p.size
      else if least = 0 ∧ most = 1 then p.size + fork + stateSize
      else least * p.size + (if least = 0 then stateSize else 0) + stateSize
        + (most - least) * (p.size + fork)
  | sequence ps => sizes ps
  | choice ps => sizes ps + 2 * stateSize + waySize * ps.length
termination_by structural p => p

def sizes : List Pattern → Nat
  | [] => 0
  | p :: ps => p.size + sizes ps
termination_by structural ps => ps

end

end Pattern

end Unbundled
