import Unbundled.Cli.Arguments
import Unbundled.Text.Affix

namespace Unbundled.Cli

inductive Stop where
  | help
  | version
  | fault (f : Fault)
deriving Repr, DecidableEq, Inhabited

/-- What is known after some words. A value is only looked at when the next thing begins, so
that `pending` may hold an option or the root with its value, or an option still without. -/
structure State where
  given : List Item := []
  pending : Option (Item × Option String) := none
  awaits : Bool := false
  rootGiven : Bool := false
  valuesOnly : Bool := false
  arguments : Arguments := {}
deriving Repr, DecidableEq, Inhabited

/-- A decimal number of 64 bits with a sign, or why there is none. -/
def signedNumber (s : String) : Except String Int :=
  match s.toList with
  | [] => .error "cannot parse integer from empty string"
  | ['-'] | ['+'] => .error "invalid digit found in string"
  | '-' :: cs => Int.neg <$> digits (0x8000000000000000) "number too small to fit in target type" 0 cs
  | '+' :: cs => Int.ofNat <$> digits (0x8000000000000000 - 1) "number too large to fit in target type" 0 cs
  | cs => Int.ofNat <$> digits (0x8000000000000000 - 1) "number too large to fit in target type" 0 cs
where
  digits (limit : Nat) (overflow : String) : Nat → List Char → Except String Nat
    | n, [] => .ok n
    | n, c :: cs =>
      if !c.isDigit then .error "invalid digit found in string"
      else
        let n := n * 10 + (c.toNat - 48)
        if n > limit then .error overflow else digits limit overflow n cs

def port (s : String) : Except String Nat := do
  let n ← signedNumber s
  if 0 ≤ n ∧ n ≤ 65535 then return n.toNat
  else throw (toString n ++ " is not in 0..=65535")

def withValue (a : Arguments) (item : Item) (value : String) : Except Fault Arguments :=
  match item with
  | .root => if value.isEmpty then .error (.missingValue item) else .ok { a with root := value }
  | .flag .config =>
    if value.isEmpty then .error (.missingValue item) else .ok { a with config := some value }
  | .flag .port =>
    match port value with
    | .ok n => .ok { a with port := some n }
    | .error cause => .error (.invalidValue .port value cause)
  | .flag .host => .ok { a with host := some value }
  | .flag .index => .ok { a with index := some value }
  | .flag _ => .ok a

namespace State

def put (s : State) (item : Item) (value : String) : Except Fault State := do
  if s.given.contains item then throw (.repeated item)
  return { s with
    given := s.given ++ [item], pending := none, arguments := ← withValue s.arguments item value }

def settled (s : State) : Except Fault State :=
  match s.pending with
  | none => .ok s
  | some (item, none) => .error (.missingValue item)
  | some (item, some value) => s.put item value

/-- What is given, also if what is pending is wrong. -/
def givenAtLast (s : State) : List Item :=
  match s.pending with
  | some (item, some _) =>
    if s.given.contains item then s.given.erase item else s.given ++ [item]
  | _ => s.given

def putFlag (s : State) (f : Flag) : Except Stop State := do
  let s ← s.settled.mapError .fault
  match f with
  | .help => throw .help
  | .version => throw .version
  | .verbose =>
    return { s with
      given := s.given.erase (.flag f) ++ [.flag f]
      arguments := { s.arguments with verbosity := s.arguments.verbosity + 1 } }
  | f =>
    if s.given.contains (.flag f) then throw (.fault (.repeated (.flag f)))
    return { s with
      given := s.given ++ [.flag f], arguments := { s.arguments with json := true } }

def putOption (s : State) (f : Flag) (value : Option String) : Except Stop State := do
  let s ← s.settled.mapError .fault
  match value with
  | some v => (s.put (.flag f) v).mapError .fault
  | none => return { s with pending := some (.flag f, none), awaits := true }

end State

def withSuggested (given : List Item) (f : Option Flag) : List Item :=
  match f with
  | none => given
  | some f => if given.contains (.flag f) then given else given ++ [.flag f]

def longWord (s : State) (name : String) (value : Option String) : Except Stop State :=
  match Flag.all.find? fun f => f.long = name with
  | none =>
    let similar := (Text.mostSimilar? name (Flag.all.map Flag.long)).bind fun n =>
      Flag.all.find? fun f => f.long = n
    .error (.fault
      (.unexpected ("--" ++ name) true similar (withSuggested s.givenAtLast similar)))
  | some f =>
    if f.valueName?.isSome then s.putOption f value
    else
      match value with
      | some v => .error (.fault (.unneededValue f v s.given))
      | none => s.putFlag f

/-- Reads options with short names that stand in one word. What follows one that takes a
value is its value. -/
def shortWord (s : State) : List Char → Except Stop State
  | [] => .ok s
  | c :: cs =>
    match Flag.all.find? fun f => f.short? = some c with
    | none => .error (.fault (.unexpected ("-" ++ c.toString) true none []))
    | some f =>
      if f.valueName?.isSome then
        match cs with
        | [] => s.putOption f none
        | '=' :: cs => s.putOption f (some (String.ofList cs))
        | cs => s.putOption f (some (String.ofList cs))
      else do shortWord (← s.putFlag f) cs

def plainWord (s : State) (word : String) : Except Stop State :=
  if s.rootGiven then .error (.fault (.unexpected word false none []))
  else do
    let s ← s.settled.mapError .fault
    return { s with pending := some (.root, some word), rootGiven := true }

def splitValue (cs : List Char) : String × Option String :=
  match cs.dropWhile (· ≠ '=') with
  | _ :: value => (String.ofList (cs.takeWhile (· ≠ '=')), some (String.ofList value))
  | [] => (String.ofList cs, none)

def word (s : State) (w : String) : Except Stop State :=
  match w.toList with
  | ['-', '-'] => .ok { s with valuesOnly := true, awaits := false }
  | '-' :: '-' :: cs =>
    let (name, value) := splitValue cs
    longWord { s with awaits := false } name value
  | '-' :: c :: cs => shortWord { s with awaits := false } (c :: cs)
  | _ =>
    match s.awaits, s.pending with
    | true, some (item, none) =>
      .ok { s with pending := some (item, some w), awaits := false }
    | _, _ => plainWord s w

def words (s : State) : List String → Except Stop State
  | [] => s.settled.mapError .fault
  | w :: ws => do words (← if s.valuesOnly then plainWord s w else word s w) ws

def read (ws : List String) : Except Stop Arguments := (·.arguments) <$> words {} ws

end Unbundled.Cli
