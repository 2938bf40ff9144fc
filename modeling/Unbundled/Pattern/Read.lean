import Unbundled.Pattern.Fault
import Unbundled.Pattern.Tree
import Unbundled.Text.Affix
import Unbundled.Text.Chars
import Unbundled.Text.Names

namespace Unbundled.Pattern

structure Flags where
  anyCase : Bool := false
  multiLine : Bool := false
  dotAll : Bool := false
  returns : Bool := false
  spaced : Bool := false
deriving Repr, DecidableEq, Inhabited

structure Input where
  rest : List Char
  flags : Flags := {}
  names : List String := []
deriving Repr, Inhabited

abbrev Reader := StateT Input (Except Fault)

namespace Reader

def peek : Reader (Option Char) := return (← get).rest.head?

def second : Reader (Option Char) := return ((← get).rest.drop 1).head?

def skip : Reader Unit := modify fun s => { s with rest := s.rest.drop 1 }

def skipIf (cs : List Char) : Reader Bool := do
  let s ← get
  match Text.dropPrefix? cs s.rest with
  | some rest =>
    set { s with rest }
    return true
  | none => return false

def afterBlank : Nat → List Char → List Char
  | 0, cs => cs
  | fuel + 1, cs =>
    match cs.dropWhile Text.isWhiteSpace with
    | '#' :: cs => afterBlank fuel ((cs.dropWhile (· ≠ '\n')).drop 1)
    | cs => cs

def skipBlank : Reader Unit := modify fun s =>
  if s.flags.spaced then { s with rest := afterBlank s.rest.length s.rest } else s

def skipAndBlank : Reader Unit := do
  skip
  skipBlank

def expect (fault : Fault) : Reader Char := do
  match ← peek with
  | some c => return c
  | none => throw fault

def secondToken : Reader (Option Char) := do
  let s ← get
  let rest := s.rest.drop 1
  if s.flags.spaced then
    let next := match rest.dropWhile Text.isWhiteSpace with
      | '#' :: cs => cs.dropWhile Text.isWhiteSpace
      | cs => cs
    return (if next.isEmpty then rest else next).head?
  else return rest.head?

/-! ### Characters and sets -/

def charPattern (c : Char) : Reader Pattern := do
  if (← get).flags.anyCase ∧ CharSet.otherCase c ≠ c then
    return .oneOf (.folded (.single c))
  else return .char c

def dot (flags : Flags) : Pattern :=
  if flags.dotAll then .oneOf .all
  else if flags.returns then .oneOf (.compl (.union (.single '\n') (.single '\r')))
  else .oneOf (.compl (.single '\n'))

def lineStart (flags : Flags) : Look :=
  if !flags.multiLine then .textStart
  else if flags.returns then .returnLineStart else .lineStart

def lineEnd (flags : Flags) : Look :=
  if !flags.multiLine then .textEnd else if flags.returns then .returnLineEnd else .lineEnd

def namedSet? (c : Char) : Option CharSet :=
  match c with
  | 'd' => some .digit
  | 's' => some .space
  | 'w' => some .word
  | 'D' => some (.compl .digit)
  | 'S' => some (.compl .space)
  | 'W' => some (.compl .word)
  | _ => none

def classNamed? (name : String) : Option CharSet :=
  match name with
  | "alnum" => some (.union .digit .letter)
  | "alpha" => some .letter
  | "ascii" => some (.range '\x00' '\x7f')
  | "blank" => some (.union (.single '\t') (.single ' '))
  | "cntrl" => some (.union (.range '\x00' '\x1f') (.single '\x7f'))
  | "digit" => some .digit
  | "graph" => some (.range '!' '~')
  | "lower" => some .lower
  | "print" => some (.range ' ' '~')
  | "punct" => some (.ofRanges [('!', '/'), (':', '@'), ('[', '`'), ('\x7b', '~')])
  | "space" => some .space
  | "upper" => some .upper
  | "word" => some .word
  | "xdigit" => some (.ofRanges [('0', '9'), ('A', 'F'), ('a', 'f')])
  | _ => none

/-! ### Numbers -/

def hexValue? (c : Char) : Option Nat :=
  if c.isDigit then some (c.toNat - 48)
  else if 'a' ≤ c ∧ c ≤ 'f' then some (c.toNat - 87)
  else if 'A' ≤ c ∧ c ≤ 'F' then some (c.toNat - 55)
  else none

def charOfHex (fault : Fault) (ds : List Char) : Reader Char := do
  let n := ds.foldl (fun n d => n * 16 + (hexValue? d).getD 0) 0
  if n.isValidChar then return Char.ofNat n else throw fault

def hexDigits : Nat → Reader (List Char)
  | 0 => return []
  | n + 1 => do
    let c ← expect .hexFixedEnd
    if (hexValue? c).isNone then throw .hexFixedDigit
    skipAndBlank
    return c :: (← hexDigits n)

def hexInBraces : Nat → Reader (List Char)
  | 0 => throw .hexBraceEnd
  | fuel + 1 => do
    let c ← expect .hexBraceEnd
    skipAndBlank
    if c = '\x7d' then return []
    if (hexValue? c).isNone then throw .hexBraceDigit
    return c :: (← hexInBraces fuel)

def turns : Reader Nat := return (← get).rest.length + 1

def hex (digits : Nat) : Reader Char := do
  skipAndBlank
  if (← expect .hexEnd) = '\x7b' then
    skipAndBlank
    let ds ← hexInBraces (← turns)
    if ds.isEmpty then throw .hexBraceEmpty
    charOfHex .hexBraceInvalid ds
  else charOfHex .hexFixedInvalid (← hexDigits digits)

def decimalDigits : Nat → Reader (List Char)
  | 0 => return []
  | fuel + 1 => do
    match ← peek with
    | some c =>
      if c.isDigit then
        skipAndBlank
        return c :: (← decimalDigits fuel)
      else return []
    | none => return []

def spaces : Reader Unit :=
  modify fun s => { s with rest := s.rest.dropWhile Text.isWhiteSpace }

def maxCount : Nat := 0x100000000 - 1

def decimal : Reader Nat := do
  spaces
  let ds ← decimalDigits (← turns)
  spaces
  skipBlank
  if ds.isEmpty then throw .decimalEmpty
  let n := ds.foldl (fun n d => n * 10 + (d.toNat - 48)) 0
  if n > maxCount then throw .decimalInvalid
  return n

/-! ### Escapes -/

def isEscapable (c : Char) : Bool :=
  c.toNat < 128 && !c.isAlphanum && c != '<' && c != '>'

def isBoundaryChar (c : Char) : Bool := c.isAlpha || c == '-'

def boundaryName : Nat → Reader (List Char)
  | 0 => return []
  | fuel + 1 => do
    match ← peek with
    | some c =>
      if isBoundaryChar c then
        skipAndBlank
        return c :: (← boundaryName fuel)
      else return []
    | none => return []

/-- The name in braces of a condition on words. What is in the braces may be a count instead,
and then nothing is read. -/
def boundary? : Reader (Option Look) := do
  let start ← get
  skipAndBlank
  if !isBoundaryChar (← expect .boundaryOrCountOpen) then
    set start
    return none
  let name ← boundaryName (← turns)
  if (← peek) ≠ some '\x7d' then throw .boundaryOpen
  skip
  match String.ofList name with
  | "start" => return some .wordStart
  | "end" => return some .wordEnd
  | "start-half" => return some .noWordBefore
  | "end-half" => return some .noWordAfter
  | _ => throw .boundaryUnknown

def escape : Reader Pattern := do
  skip
  let c ← expect .escapeEnd
  if c.isDigit then throw .backReference
  if c = 'p' ∨ c = 'P' then throw .property
  match c with
  | 'x' => return ← charPattern (← hex 2)
  | 'u' => return ← charPattern (← hex 4)
  | 'U' => return ← charPattern (← hex 8)
  | _ => pure ()
  skip
  if let some set := namedSet? c then return .oneOf set
  if isEscapable c then return ← charPattern c
  match c with
  | 'a' => charPattern '\x07'
  | 'f' => charPattern '\x0c'
  | 't' => charPattern '\t'
  | 'n' => charPattern '\n'
  | 'r' => charPattern '\r'
  | 'v' => charPattern '\x0b'
  | 'A' => return .look .textStart
  | 'z' => return .look .textEnd
  | 'b' =>
    if (← peek) = some '\x7b' then
      match ← boundary? with
      | some l => return .look l
      | none => return .look .boundary
    else return .look .boundary
  | 'B' => return .look .noBoundary
  | '<' => return .look .wordStart
  | '>' => return .look .wordEnd
  | _ => throw .escapeUnknown

/-! ### Classes -/

/-- A class with a name, from its opening bracket on. Nothing is read if there is none. -/
def named? : Reader (Option CharSet) := do
  let start ← get
  if ← skipIf ['[', ':'] then
    let negated ← skipIf ['^']
    let name := (← get).rest.takeWhile (· ≠ ':')
    modify fun s => { s with rest := s.rest.drop name.length }
    if ← skipIf [':', ']'] then
      if let some set := classNamed? (String.ofList name) then
        return some (if negated then .compl set else set)
  set start
  return none

def classItem : Reader Pattern := do
  match ← peek with
  | some '\\' => escape
  | c =>
    skip
    return .char (c.getD '\x00')

def rangeEnd : Pattern → Reader Char
  | .char c => return c
  | _ => throw .classEnds

def classRange : Reader CharSet := do
  let first ← classItem
  skipBlank
  let c ← expect .classOpenItem
  let next ← secondToken
  if c ≠ '-' ∨ next = some ']' ∨ next = some '-' then
    match first with
    | .char c => return .single c
    | .oneOf set => return set
    | _ => throw .classItem
  skipAndBlank
  let _ ← expect .classOpenDash
  let last ← classItem
  let a ← rangeEnd first
  let b ← rangeEnd last
  if b < a then throw .classRange
  return .range a b

def classItems : Nat → CharSet → Reader CharSet
  | 0, set => return set
  | fuel + 1, set => do
    skipBlank
    let c ← expect .classOpen
    let next ← second
    if c = ']' then
      skip
      return set
    if c = '[' then
      match ← named? with
      | some s => classItems fuel (.union set s)
      | none => throw .classNested
    else
      if c = '&' ∧ next = some '&' then throw .classIntersection
      if c = '-' ∧ next = some '-' then throw .classDifference
      if c = '~' ∧ next = some '~' then throw .classSymmetric
      let s ← classRange
      classItems fuel (.union set s)

def leadingDashes : Nat → CharSet → Reader CharSet
  | 0, set => return set
  | fuel + 1, set => do
    if (← peek) = some '-' then
      skipAndBlank
      let _ ← expect .classOpenDash
      leadingDashes fuel (.single '-')
    else return set

def charClass : Reader Pattern := do
  skipAndBlank
  let negated := (← expect .classOpen) = '^'
  if negated then
    skipAndBlank
    let _ ← expect .classOpenNegated
  let dashes ← leadingDashes (← turns) .none
  let start ←
    if dashes = .none ∧ (← peek) = some ']' then do
      skipAndBlank
      let _ ← expect .classOpenBracket
      pure (.single ']')
    else pure dashes
  let set ← classItems (← turns) start
  let set := if (← get).flags.anyCase then .folded set else set
  return .oneOf (if negated then .compl set else set)

/-! ### Groups -/

def isNameStart (c : Char) : Bool := c != '$' && Text.isNameStart c

def isNamePart (c : Char) : Bool :=
  c == '.' || c == '[' || c == ']' || (c != '$' && Text.isNamePart c)

def nameChars : Nat → Bool → Reader (List Char)
  | 0, _ => return []
  | fuel + 1, first => do
    match ← peek with
    | none => return []
    | some '>' => return []
    | some c =>
      if !(if first then isNameStart c else isNamePart c) then throw .nameInvalid
      skip
      return c :: (← nameChars fuel false)

def groupName : Reader Unit := do
  let _ ← expect .nameMissing
  let name := String.ofList (← nameChars (← turns) true)
  let _ ← expect .nameOpen
  skip
  if name.isEmpty then throw .nameEmpty
  if (← get).names.contains name then throw .nameTwice
  modify fun s => { s with names := name :: s.names }

def setFlag (flags : Flags) (c : Char) (on : Bool) : Reader Flags :=
  match c with
  | 'i' => return { flags with anyCase := on }
  | 'm' => return { flags with multiLine := on }
  | 's' => return { flags with dotAll := on }
  | 'R' => return { flags with returns := on }
  | 'x' => return { flags with spaced := on }
  | 'U' | 'u' => return flags
  | _ => throw .flagUnknown

def readFlags : Nat → Flags → List Char → Reader Flags
  | 0, flags, _ => return flags
  | fuel + 1, flags, seen => do
    let c ← expect .flagsOpen
    if c = ':' ∨ c = ')' then
      if seen.head? = some '-' then throw .flagsEndNegated
      return flags
    if c = '-' then
      if seen.contains '-' then throw .flagsNegatedTwice
      skip
      readFlags fuel flags (c :: seen)
    else
      let flags ← setFlag flags c (!seen.contains '-')
      if seen.contains c then throw .flagTwice
      skip
      readFlags fuel flags (c :: seen)

def isLookAround : List Char → Bool
  | '?' :: '=' :: _ | '?' :: '!' :: _ | '?' :: '<' :: '=' :: _ | '?' :: '<' :: '!' :: _ => true
  | _ => false

/-- A group up to its closing parenthesis, or nothing where only flags are set. -/
def group (inner : Reader Pattern) : Reader (Option Pattern) := do
  skipAndBlank
  if isLookAround (← get).rest then throw .lookAround
  if (← skipIf ['?', 'P', '<']) || (← skipIf ['?', '<']) then
    groupName
    return some (.group (← inner))
  else if ← skipIf ['?'] then
    let c ← expect .groupAfterQuestion
    let flags ← readFlags (← turns) (← get).flags []
    modify fun s => { s with flags }
    if (← peek) = some ')' then
      if c = ')' then throw .flagsEmpty
      return none
    else
      skip
      return some (← inner)
  else return some (.group (← inner))

/-! ### Repetitions -/

def repeatable (fault : Fault) : List Pattern → Reader (Pattern × List Pattern)
  | [] => throw fault
  | p :: ps => return (p, ps)

/-- A mark that only says which of several matches is wanted. -/
def skipLazyMark : Reader Unit := do
  if (← peek) = some '?' then skip

def uncounted (read : List Pattern) (least : Nat) (most : Option Nat) :
    Reader (List Pattern) := do
  let (p, ps) ← repeatable .uncountedAlone read
  skip
  skipLazyMark
  return p.times least most :: ps

def counted (read : List Pattern) : Reader (List Pattern) := do
  let (p, ps) ← repeatable .countedAlone read
  skipAndBlank
  let _ ← expect .countedOpen
  let least ← decimal
  let most ←
    if (← expect .countedOpenAtLeast) = ',' then do
      skipAndBlank
      let most ← if (← expect .countedOpenComma) = '\x7d' then pure none else some <$> decimal
      let _ ← expect .countedOpenAtMost
      pure most
    else pure (some least)
  if (← peek) ≠ some '\x7d' then throw .countedInvalid
  skipAndBlank
  skipLazyMark
  if most.any (· < least) then throw .countedRange
  return p.times least most :: ps

/-! ### Patterns -/

def primitive (c : Char) : Reader Pattern := do
  let flags := (← get).flags
  match c with
  | '\\' => escape
  | '.' =>
    skip
    return dot flags
  | '^' =>
    skip
    return .look (lineStart flags)
  | '$' =>
    skip
    return .look (lineEnd flags)
  | c =>
    skip
    charPattern c

def closeGroup : Reader Unit := do
  if (← peek) ≠ some ')' then throw .groupOpen
  skip

/-- Alternatives up to the end or to a closing parenthesis: `before` are those already read,
and `read` are the parts of the present one, the last one first. -/
def alternatives (inner : Reader Pattern) (outermost : Bool) :
    Nat → List Pattern → List Pattern → Reader Pattern
  | 0, before, _ => return anyOf before
  | fuel + 1, before, read => do
    skipBlank
    let present := before ++ [inSequence read.reverse]
    let goOn := alternatives inner outermost fuel before
    match ← peek with
    | none => return anyOf present
    | some '(' =>
      let flags := (← get).flags
      match ← group inner with
      | some p =>
        modify fun s => { s with flags }
        closeGroup
        goOn (p :: read)
      | none =>
        closeGroup
        goOn read
    | some ')' => if outermost then throw .groupClosed else return anyOf present
    | some '|' =>
      skip
      alternatives inner outermost fuel present []
    | some '[' => goOn ((← charClass) :: read)
    | some '?' => goOn (← uncounted read 0 (some 1))
    | some '*' => goOn (← uncounted read 0 none)
    | some '+' => goOn (← uncounted read 1 none)
    | some '\x7b' => goOn (← counted read)
    | some c => goOn ((← primitive c) :: read)

def maxDepth : Nat := 50

def pattern (outermost : Bool) : Nat → Reader Pattern
  | 0 => throw .nesting
  | depth + 1 => do alternatives (pattern false depth) outermost (← turns) [] []

end Reader

def maxSize : Nat := 10 * 0x100000

def read (text : String) : Except Fault Pattern := do
  let (p, _) ← (Reader.pattern true (Reader.maxDepth + 1)).run ⟨text.toList, {}, []⟩
  if p.depth > Reader.maxDepth then throw .nesting
  if p.size + 3 * stateSize > maxSize then throw .size
  return p

end Unbundled.Pattern
