import Unbundled.Pattern.Read

namespace Unbundled

/-- From which places of a text one gets to which. Places count from zero, and the bits of
the number at a place say to which places one gets from there. -/
abbrev Reach := Array Nat

namespace Reach

def stay (conds : List Bool) : Reach :=
  (conds.mapIdx fun i b => if b then 1 <<< i else 0).toArray

def step (conds : List Bool) : Reach :=
  (conds.mapIdx fun i b => if b then 1 <<< (i + 1) else 0).toArray

def image (r : Reach) (places : Nat) : Nat :=
  r.foldl (fun (i, bits) row => (i + 1, if places.testBit i then bits ||| row else bits)) (0, 0) |>.2

def andThen (r s : Reach) : Reach := r.map s.image

def either (r s : Reach) : Reach := r.zipWith (· ||| ·) s

def power (r one : Reach) (n : Nat) : Reach :=
  if n = 0 then one
  else
    let half := power r one (n / 2)
    let twice := half.andThen half
    if n % 2 = 1 then twice.andThen r else twice
termination_by n

end Reach

namespace Pattern

/-- The characters before and after each place of a text. -/
def places (text : List Char) : List (Option Char × Option Char) :=
  (none :: text.map some).zip (text.map some ++ [none])

def nowhere (text : List Char) : Reach := Reach.stay ((places text).map fun _ => false)

def here (text : List Char) : Reach := Reach.stay ((places text).map fun _ => true)

mutual

def reach (text : List Char) : Pattern → Reach
  | empty => here text
  | char c => Reach.step ((places text).map fun p => p.2 == some c)
  | oneOf set => Reach.step ((places text).map fun p => p.2.any set.mem)
  | look l => Reach.stay ((places text).map fun p => l.holds p.1 p.2)
  | group p => reach text p
  | repeated p least most =>
    let r := reach text p
    let one := here text
    let more := (most.map (· - least)).getD text.length
    (r.power one least).andThen ((r.either one).power one more)
  | sequence ps => reachAll text ps
  | choice ps => reachAny text ps
termination_by structural p => p

def reachAll (text : List Char) : List Pattern → Reach
  | [] => here text
  | p :: ps => (reach text p).andThen (reachAll text ps)
termination_by structural ps => ps

def reachAny (text : List Char) : List Pattern → Reach
  | [] => nowhere text
  | p :: ps => (reach text p).either (reachAny text ps)
termination_by structural ps => ps

end

def occursIn (p : Pattern) (text : String) : Bool := (reach text.toList p).any (· ≠ 0)

end Pattern

end Unbundled
