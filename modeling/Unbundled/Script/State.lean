import Unbundled.Script.Token

namespace Unbundled.Script

structure Dialect where
  typescript : Bool
  jsx : Bool
deriving Repr, DecidableEq, Inhabited

structure Comment where
  isBlock : Bool
  text : String
deriving Repr, DecidableEq, Inhabited

/-- The comments of a text, by the position of the token they stand before or behind. -/
structure Comments where
  leading : List (Nat × Comment) := []
  trailing : List (Nat × Comment) := []
deriving Repr, DecidableEq, Inhabited

def Comments.append (a b : Comments) : Comments :=
  ⟨a.leading ++ b.leading, a.trailing ++ b.trailing⟩

inductive Bracket where
  | statementBrace | expressionBrace | templateHole
  | statementParen (forLoop : Bool)
  | expressionParen | template (start : Nat) | functionExpr | classExpr
  | jsxOpening | jsxClosing | jsxBody
deriving Repr, DecidableEq, Inhabited

inductive TokenKind where
  | template | dot | colon | lbrace | rparen | semi | op (op : BinaryOp) | keyword (name : String)
  | jsxName | jsxText | jsxTagStart | jsxTagEnd | arrow
  | other (beforeExpr trailingComment : Bool)
deriving Repr, DecidableEq, Inhabited

/-- What the syntax around a place permits or expects there. -/
structure Context where
  quiet : Bool := false
  strict : Bool := true
  forLoopInit : Bool := false
  includeIn : Bool := true
  inAsync : Bool := false
  inGenerator : Bool := false
  inStaticBlock : Bool := false
  breakAllowed : Bool := false
  continueAllowed : Bool := false
  inType : Bool := false
  wholeAngles : Bool := false
  inDeclare : Bool := false
  inConditional : Bool := false
  colonFollows : Bool := false
  inClass : Bool := false
  inClassField : Bool := false
  inFunction : Bool := false
  insideNonArrow : Bool := false
  inParameters : Bool := false
  hasSuperClass : Bool := false
  inPropertyName : Bool := false
  inForcedJsx : Bool := false
  allowSuperCall : Bool := false
  allowUsing : Bool := false
  topLevel : Bool := true
  noConditionalTypes : Bool := false
  dotEndsExpr : Bool := false
  parenEndsExpr : Bool := false
deriving Repr, DecidableEq, Inhabited

structure State where
  text : Array Char
  ctx : Context := {}
  /-- Index of the next character to be read. -/
  pos : Nat := 0
  /-- End of the last token. -/
  prevHi : Nat := 1
  tokenStart : Nat := 1
  lineBreak : Bool := true
  isFirst : Bool := true
  exprAllowed : Bool := true
  regexAt : Option Nat := none
  kind : Option TokenKind := none
  brackets : List Bracket := [.statementBrace]
  pending : List Comment := []
  /-- Comments of which it is known where they belong. -/
  comments : Comments := {}
  /-- The comments of stretches of text that were read to their end. -/
  placed : Comments := {}
  faults : List Fault := []
  cur : Option Tok := none
  peeked : Option Tok := none
  prevSpan : Span := ⟨1, 1⟩
  labels : List String := []
  /-- Where an arrow function could start whose parameters are about to be read. -/
  arrowStart : Option Nat := none
  /-- Commas after the last element of a list that may turn out to be a pattern. -/
  trailingCommas : List (Nat × Nat) := []
deriving Inhabited

/-- Reading that may stop at a fault. What it has changed in the state stays changed; the
dialect is that of the whole text. -/
abbrev Parse := ReaderT Dialect (EStateM Fault State)

namespace Parse

def failAt {α : Type} (pos : Nat) (cause : Cause) : Parse α :=
  throw ⟨pos, cause⟩

def note (fault : Fault) : Parse Unit :=
  modify fun s => { s with faults := fault :: s.faults }

def ctx : Parse Context := return (← get).ctx

def withCtx {α : Type} (f : Context → Context) (p : Parse α) : Parse α := fun dialect s =>
  let old := s.ctx
  match p dialect { s with ctx := f old } with
  | .ok a s => .ok a { s with ctx := old }
  | .error e s => .error e { s with ctx := old }

def repeatFrom {σ α : Type} (step : σ → Parse (σ ⊕ α)) : Nat → σ → Parse α
  | 0, _ => failAt 1 .depth
  | fuel + 1, a => do
    match ← step a with
    | .inl a => repeatFrom step fuel a
    | .inr r => return r

/-- Runs `step` until it gives a result, with one turn for each character of the text. -/
def loop {σ α : Type} (init : σ) (step : σ → Parse (σ ⊕ α)) : Parse α := do
  let s ← get
  repeatFrom step (2 * s.text.size + 16) init

def collect {α : Type} (step : Parse (Option α)) : Parse (List α) :=
  loop [] fun acc => do
    match ← step with
    | some a => return .inl (a :: acc)
    | none => return .inr acc.reverse

end Parse

end Unbundled.Script
