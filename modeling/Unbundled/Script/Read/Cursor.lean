import Unbundled.Script.Scan
import Unbundled.Script.Spans

/-!
Walking over the tokens of a script. A token is read when it is first looked at, under the
context of that moment, and kept until it is consumed.
-/

namespace Unbundled.Script.Read

open Parse (withCtx)

def cur? : Parse (Option Tok) := do
  if let some t := (← get).cur then return some t
  let next ← match (← get).peeked with
    | some t => pure (some t)
    | none => Scan.token
  modify fun s => { s with cur := next, peeked := none }
  return next

def peek? : Parse (Option Tok) := do
  let _ ← cur?
  if let some t := (← get).peeked then return some t
  let next ← Scan.token
  modify fun s => { s with peeked := next }
  return next

def bump : Parse Unit := do
  let _ ← cur?
  modify fun s => match s.cur with
    | some t => { s with cur := none, prevSpan := t.span }
    | none => s

def curToken : Parse (Option Token) := return (← cur?).map (·.token)

def peekToken : Parse (Option Token) := return (← peek?).map (·.token)

def atEnd : Parse Bool := return (← cur?).isNone

/-- Where the current token starts; at the end of the text, where the last one ends. -/
def curPos : Parse Nat := do
  match ← cur? with
  | some t => return t.span.lo
  | none => return (← get).prevSpan.hi

/-- The stretch of the current token if it has been looked at, else of the last one. -/
def curSpan : Parse Span := do
  let s ← get
  return (s.cur.map (·.span)).getD s.prevSpan

def prevSpan : Parse Span := return (← get).prevSpan

def spanFrom (start : Nat) : Parse Span := return ⟨start, (← get).prevSpan.hi⟩

def lineBreakBefore : Parse Bool := do
  match ← cur? with
  | some t => return t.lineBreak
  | none => return (← get).lineBreak

def lineBreakAfter : Parse Bool := do
  match ← peek? with
  | some t => return t.lineBreak
  | none => return true

/-- Stops with a fault at `pos`, or with that of a current token that could not be read. -/
def stopAt {α : Type} (pos : Nat) (cause : Cause) : Parse α := do
  match ← cur? with
  | some ⟨.fault f, _, _⟩ => bump; throw f
  | _ => throw ⟨pos, cause⟩

def stop {α : Type} (cause : Cause) : Parse α := do
  stopAt (← curSpan).lo cause

/-- Notes a fault and goes on, unless faults are being ignored. -/
def emitFault (fault : Fault) : Parse Unit := do
  unless (← get).ctx.quiet do
    if let some ⟨.fault f, _, _⟩ := ← cur? then
      bump
      Parse.note f
    Parse.note fault

def emit (pos : Nat) (cause : Cause) : Parse Unit := do
  unless (← get).ctx.quiet do emitFault ⟨pos, cause⟩

def emitStrict (pos : Nat) (cause : Cause) : Parse Unit := do
  if (← get).ctx.strict then emit pos cause

def need : Parse Token := do
  match ← cur? with
  | some ⟨.fault f, _, _⟩ => bump; throw f
  | some t => return t.token
  | none => throw ⟨(← get).text.size + 1, .eof⟩

def describeCur : Parse String := do
  match ← cur? with
  | some t => return t.token.describe
  | none => return "<eof>"

def unexpected {α : Type} (wanted : String) : Parse α := do
  let got ← describeCur
  stop (.unexpected got wanted)

def Token.isPunct (t : Option Token) (p : Punct) : Bool :=
  match t with
  | some (.punct q) => p == q
  | _ => false

def Token.word? : Option Token → Option String
  | some (.keyword w) | some (.ident w) => some w
  | _ => none

def Token.isWord (t : Option Token) (w : String) : Bool := Token.word? t == some w

def is (p : Punct) : Parse Bool := return Token.isPunct (← curToken) p

def isWord (w : String) : Parse Bool := return Token.isWord (← curToken) w

def peekIs (p : Punct) : Parse Bool := return Token.isPunct (← peekToken) p

def peekIsWord (w : String) : Parse Bool := return Token.isWord (← peekToken) w

def isAny (ps : List Punct) : Parse Bool := do
  let t ← curToken
  return ps.any (Token.isPunct t)

def isAnyWord (ws : List String) : Parse Bool := do
  match Token.word? (← curToken) with
  | some w => return ws.contains w
  | none => return false

def eat (p : Punct) : Parse Bool := do
  if ← is p then bump; return true else return false

def eatWord (w : String) : Parse Bool := do
  if ← isWord w then bump; return true else return false

def failExpected {α : Type} (wanted : String) : Parse α := do
  let got ← describeCur
  stop (.expected wanted got)

def expect (p : Punct) : Parse Unit := do
  unless ← eat p do failExpected p.text

def expectWord (w : String) : Parse Unit := do
  unless ← eatWord w do failExpected w

def isSemi : Parse Bool := do
  match ← curToken with
  | some (.punct .semi) | none | some (.punct .rbrace) => return true
  | _ => lineBreakBefore

def eatSemi : Parse Bool := do
  if ← eat .semi then return true else isSemi

def expectSemi : Parse Unit := do
  unless ← eatSemi do failExpected ";"

def isName : Parse Bool := return (Token.word? (← curToken)).isSome

def peekIsName : Parse Bool := return (Token.word? (← peekToken)).isSome

def Token.isIdent (ctx : Context) (t : Option Token) : Bool :=
  match Token.word? t with
  | some w => !Scan.isReserved ctx w
  | none => false

def isIdent : Parse Bool := return Token.isIdent (← Parse.ctx) (← curToken)

def peekIsIdent : Parse Bool := return Token.isIdent (← Parse.ctx) (← peekToken)

def isBinaryOp : Parse Bool := do
  match ← curToken with
  | some (.punct (.op _)) => return true
  | _ => return false

def assignSign : Punct := .assign .plain
def lt : Punct := .op .lt
def gt : Punct := .op .gt
def star : Punct := .op .mul

def typescript : Parse Bool := return (← read).typescript

def jsx : Parse Bool := return (← read).jsx

def cutShift : Parse Unit := modify fun s => match s.cur with
  | some ⟨.punct (.op .shiftLeft), span, _⟩ =>
    { s with cur := some ⟨.punct lt, ⟨span.lo + 1, span.hi⟩, false⟩ }
  | _ => s

def merged : Token → Token → Option Token
  | .punct (.op .gt), .punct p =>
    match p with
    | .op .gt => some (.punct (.op .shiftRight))
    | .assign .plain => some (.punct (.op .gtEq))
    | .op .shiftRight => some (.punct (.op .shiftRightZero))
    | .op .gtEq => some (.punct (.assign (.with .shiftRight)))
    | .assign (.with .shiftRight) => some (.punct (.assign (.with .shiftRightZero)))
    | _ => none
  | .punct (.op .lt), .punct p =>
    match p with
    | .op .lt => some (.punct (.op .shiftLeft))
    | .assign .plain => some (.punct (.op .ltEq))
    | .op .ltEq => some (.punct (.assign (.with .shiftLeft)))
    | _ => none
  | _, _ => none

/-- Joins an angle bracket with an operator that follows it directly. -/
def mergeAngle : Parse Unit := do
  if let some t := ← cur? then
    if let some u := ← peek? then
      if t.span.hi = u.span.lo then
        if let some m := merged t.token u.token then
          modify fun s => { s with
            cur := some ⟨m, ⟨t.span.lo, u.span.hi⟩, t.lineBreak⟩, peeked := none }

/-- Runs `p` with faults ignored; if it fails or gives nothing, all is as before. The
comments that it has given a place to stay. -/
def attempt {α : Type} (p : Parse (Option α)) : Parse (Option α) := fun dialect s =>
  let back (t : State) : EStateM.Result Fault State (Option α) :=
    .ok none { s with placed := t.placed }
  match p dialect { s with ctx := { s.ctx with quiet := true } } with
  | .ok (some a) t => .ok (some a) { t with ctx := { t.ctx with quiet := s.ctx.quiet } }
  | .ok none t => back t
  | .error _ t => back t

/-- What `p` would give here; nothing is consumed. -/
def lookAhead {α : Type} (p : Parse α) : Parse α := fun dialect s =>
  match p dialect { s with ctx := { s.ctx with quiet := true } } with
  | .ok a t => .ok a { s with placed := t.placed }
  | .error e t => .error e { s with placed := t.placed }

end Unbundled.Script.Read
