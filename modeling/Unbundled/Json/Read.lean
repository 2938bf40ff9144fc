import Unbundled.Json.Fault

namespace Unbundled.Json

structure Input where
  rest : List Char
  offset : Nat
deriving Repr, Inhabited

abbrev Reader := EStateM Fault Input

namespace Reader

def peek : Reader (Option Char) := return (← get).rest.head?

def fail {α : Type} (cause : Cause) : Reader α := do
  throw ⟨(← get).offset, cause⟩

/-- A fault at the character that comes next. -/
def failNext {α : Type} (cause : Cause) : Reader α := do
  let s ← get
  throw ⟨if s.rest.isEmpty then s.offset else s.offset + 1, cause⟩

def lift {α : Type} : Except Cause α → Reader α
  | .ok a => return a
  | .error cause => fail cause

def skip : Reader Unit := modify fun s =>
  match s.rest with
  | [] => s
  | c :: cs => ⟨cs, s.offset + c.utf8Size⟩

def next : Reader (Option Char) := do
  let c ← peek
  skip
  return c

def isBlank (c : Char) : Bool := c == ' ' || c == '\n' || c == '\t' || c == '\r'

def blanks (s : Input) : Input :=
  let gap := s.rest.takeWhile isBlank
  ⟨s.rest.drop gap.length, s.offset + gap.length⟩

def peekToken : Reader (Option Char) := do
  modify blanks
  peek

def digits : Reader (List Char) := modifyGet fun s =>
  let ds := s.rest.takeWhile Char.isDigit
  (ds, ⟨s.rest.drop ds.length, s.offset + ds.length⟩)

def word : List Char → Reader Unit
  | [] => return
  | w :: ws => do
    match ← next with
    | none => fail .eofInValue
    | some c => if c = w then word ws else fail .ident

/-! ### Strings -/

def hexValue? (c : Char) : Option Nat :=
  if c.isDigit then some (c.toNat - 48)
  else if 'a' ≤ c ∧ c ≤ 'f' then some (c.toNat - 87)
  else if 'A' ≤ c ∧ c ≤ 'F' then some (c.toNat - 55)
  else none

def hex4? (a b c d : Char) : Option Nat := do
  return ((← hexValue? a) * 16 + (← hexValue? b)) * 256
    + ((← hexValue? c) * 16 + (← hexValue? d))

def simpleEscape? (c : Char) : Option Char :=
  match c with
  | '"' | '\\' | '/' => some c
  | 'b' => some '\x08'
  | 'f' => some '\x0c'
  | 'n' => some '\n'
  | 'r' => some '\r'
  | 't' => some '\t'
  | _ => none

def byteCount (cs : List Char) : Nat := cs.foldr (fun c n => c.utf8Size + n) 0

def hexFault (cs : List Char) (o : Nat) : Fault :=
  if byteCount cs < 4 then ⟨o + byteCount cs, .eofInString⟩ else ⟨o + 4, .escape⟩

def push (c : Char) : Except Fault (List Char × Input) → Except Fault (List Char × Input)
  | .ok (cs, s) => .ok (c :: cs, s)
  | .error f => .error f

def isHighHalf (n : Nat) : Bool := 0xD800 ≤ n && n ≤ 0xDBFF

def isLowHalf (n : Nat) : Bool := 0xDC00 ≤ n && n ≤ 0xDFFF

def joinHalves (high low : Nat) : Char :=
  Char.ofNat ((high - 0xD800) * 0x400 + (low - 0xDC00) + 0x10000)

def stringBody : List Char → Nat → Except Fault (List Char × Input)
  | [], o => .error ⟨o, .eofInString⟩
  | '"' :: cs, o => .ok ([], ⟨cs, o + 1⟩)
  | '\\' :: [], o => .error ⟨o + 1, .eofInString⟩
  | '\\' :: 'u' :: a :: b :: c :: d :: cs, o =>
    match hex4? a b c d with
    | none => .error ⟨o + 6, .escape⟩
    | some n =>
      if isLowHalf n then .error ⟨o + 6, .loneSurrogate⟩
      else if isHighHalf n then
        match cs with
        | [] => .error ⟨o + 6, .eofInString⟩
        | '\\' :: [] => .error ⟨o + 7, .eofInString⟩
        | '\\' :: 'u' :: a :: b :: c :: d :: cs =>
          match hex4? a b c d with
          | none => .error ⟨o + 12, .escape⟩
          | some m =>
            if isLowHalf m then push (joinHalves n m) (stringBody cs (o + 12))
            else .error ⟨o + 12, .loneSurrogate⟩
        | '\\' :: 'u' :: cs => .error (hexFault cs (o + 8))
        | '\\' :: _ => .error ⟨o + 8, .hexEscapeEnd⟩
        | _ => .error ⟨o + 7, .hexEscapeEnd⟩
      else push (Char.ofNat n) (stringBody cs (o + 6))
  | '\\' :: 'u' :: cs, o => .error (hexFault cs (o + 2))
  | '\\' :: e :: cs, o =>
    match simpleEscape? e with
    | some c => push c (stringBody cs (o + 2))
    | none => .error ⟨o + 2, .escape⟩
  | c :: cs, o =>
    if c.toNat < 32 then .error ⟨o + 1, .controlCharacter⟩
    else push c (stringBody cs (o + c.utf8Size))

/-- What follows a string nobody looks at. Its halves of characters need not match. -/
def afterString : List Char → Nat → Except Fault Input
  | [], o => .error ⟨o, .eofInString⟩
  | '"' :: cs, o => .ok ⟨cs, o + 1⟩
  | '\\' :: [], o => .error ⟨o + 1, .eofInString⟩
  | '\\' :: 'u' :: a :: b :: c :: d :: cs, o =>
    if (hex4? a b c d).isSome then afterString cs (o + 6) else .error ⟨o + 6, .escape⟩
  | '\\' :: 'u' :: cs, o => .error (hexFault cs (o + 2))
  | '\\' :: e :: cs, o =>
    if (simpleEscape? e).isSome then afterString cs (o + 2) else .error ⟨o + 2, .escape⟩
  | c :: cs, o =>
    if c.toNat < 32 then .error ⟨o, .controlCharacter⟩ else afterString cs (o + c.utf8Size)

def string : Reader String := fun s =>
  match stringBody s.rest s.offset with
  | .ok (cs, s) => .ok (String.ofList cs) s
  | .error f => .error f s

def ignoredString : Reader Unit := fun s =>
  match afterString s.rest s.offset with
  | .ok s => .ok () s
  | .error f => .error f s

/-! ### Numbers -/

def maxInteger : Nat := 0x10000000000000000 - 1

/-- Appends digits to `n` as long as the result does not exceed `maxInteger`; gives also
the digits left over. -/
def appendDigits : Nat → List Char → Nat × List Char
  | n, [] => (n, [])
  | n, d :: ds =>
    let m := n * 10 + (d.toNat - 48)
    if m ≤ maxInteger then appendDigits m ds else (n, d :: ds)

/-- `n · 10 ^ e`, multiplying or dividing by a power of ten of at most `308` at a time. -/
def scaled : Nat → Number.Double → Int → Option Number.Double
  | 0, d, _ => some d
  | fuel + 1, d, e =>
    if e.natAbs ≤ 308 then
      let p := Number.Double.ofDecimal false 1 e.natAbs
      if e < 0 then some (d.div p)
      else match d.mul p with
        | .infinite _ => none
        | d => some d
    else if d.isZero then some d
    else if e ≥ 0 then none
    else scaled fuel (d.div (Number.Double.ofDecimal false 1 308)) (e + 308)

def float (negative : Bool) (n : Nat) (e : Int) : Reader Json.Number := do
  match scaled 4 (Number.Double.ofNat n) e with
  | none => fail .numberRange
  | some d => return .float (if negative then d.neg else d)

def exponent (negative : Bool) (n : Nat) (e : Int) : Reader Json.Number := do
  skip
  let down ← peek
  if down = some '+' ∨ down = some '-' then skip
  match ← peek with
  | none => fail .eofInValue
  | some c =>
    unless c.isDigit do
      skip
      fail .number
    let ds ← digits
    let x : Nat := ds.foldl (fun x d => x * 10 + (d.toNat - 48)) 0
    if x > 2147483647 then
      if n ≠ 0 ∧ down ≠ some '-' then fail .numberRange
      return .float (if negative then Number.Double.neg (.ofNat 0) else .ofNat 0)
    float negative n (if down = some '-' then e - (x : Int) else e + (x : Int))

def fraction (negative : Bool) (n : Nat) (e : Int) : Reader Json.Number := do
  skip
  let ds ← digits
  if ds.isEmpty then
    if (← peek).isNone then fail .eofInValue else failNext .number
  let (n, left) := appendDigits n ds
  let e := e - ((ds.length - left.length : Nat) : Int)
  match ← peek with
  | some 'e' | some 'E' => exponent negative n e
  | _ => float negative n e

def number (negative : Bool) : Reader Json.Number := do
  match ← peek with
  | none => fail .eofInValue
  | some c =>
    unless c.isDigit do
      skip
      fail .number
    let ds ← if c = '0' then do skip; pure ['0'] else digits
    if c = '0' then
      if let some d ← peek then
        if d.isDigit then failNext .number
    let (n, left) := appendDigits 0 ds
    match ← peek with
    | some '.' => fraction negative n left.length
    | some 'e' | some 'E' => exponent negative n left.length
    | _ =>
      if !left.isEmpty then float negative n left.length
      else if !negative then return .int n
      else if n = 0 ∨ n > 0x8000000000000000 then float true n 0
      else return .int (-n)

def ignoredNumber : Reader Unit := do
  match ← next with
  | some '0' =>
    if let some d ← peek then
      if d.isDigit then failNext .number
  | some c =>
    unless c.isDigit do fail .number
    let _ ← digits
  | none => fail .number
  if (← peek) = some '.' then
    skip
    if (← digits).isEmpty then failNext .number
  if (← peek) = some 'e' ∨ (← peek) = some 'E' then
    skip
    if (← peek) = some '+' ∨ (← peek) = some '-' then skip
    match ← next with
    | some d => unless d.isDigit do fail .number
    | none => fail .number
    let _ ← digits

/-! ### Lists and objects -/

def moreItems (first : Bool) : Reader Bool := do
  match ← peekToken with
  | none => fail .eofInList
  | some ']' => return false
  | some c =>
    if first then return true
    if c ≠ ',' then failNext .commaOrBracket
    skip
    match ← peekToken with
    | none => fail .eofInValue
    | some ']' => failNext .trailingComma
    | some _ => return true

def moreMembers (first : Bool) : Reader Bool := do
  match ← peekToken with
  | none => fail .eofInObject
  | some '}' => return false
  | some c =>
    if first then
      if c = '"' then return true else failNext .keyString
    if c ≠ ',' then failNext .commaOrBrace
    skip
    match ← peekToken with
    | none => fail .eofInValue
    | some '"' => return true
    | some '}' => failNext .trailingComma
    | some _ => failNext .keyString

def colon : Reader Unit := do
  match ← peekToken with
  | none => fail .eofInObject
  | some ':' => skip
  | some _ => failNext .colon

def endList : Reader Unit := do
  match ← peekToken with
  | some ']' => skip
  | some ',' =>
    skip
    if (← peekToken) = some ']' then failNext .trailingComma else failNext .trailingCharacters
  | some _ => failNext .trailingCharacters
  | none => fail .eofInList

def endObject : Reader Unit := do
  match ← peekToken with
  | some '}' => skip
  | some ',' => failNext .trailingComma
  | some _ => failNext .trailingCharacters
  | none => fail .eofInObject

def itemsFrom (item : Reader Json) : Nat → Bool → Reader (List Json)
  | 0, _ => return []
  | fuel + 1, first => do
    if ← moreItems first then
      let j ← item
      return j :: (← itemsFrom item fuel false)
    else return []

def membersFrom (item : Reader Json) :
    Nat → Bool → List (String × Json) → Reader (List (String × Json))
  | 0, _, ms => return ms
  | fuel + 1, first, ms => do
    if ← moreMembers first then
      skip
      let name ← string
      colon
      let j ← item
      membersFrom item fuel false (put name j ms)
    else return ms

/-- One more than the number of characters left, which bounds every repetition. -/
def turns : Reader Nat := return (← get).rest.length + 1

def valueOf (inner : Option (Reader Json)) : Reader Json := do
  match ← peekToken with
  | none => fail .eofInValue
  | some 'n' => do
    skip
    word ['u', 'l', 'l']
    return .null
  | some 't' => do
    skip
    word ['r', 'u', 'e']
    return .bool true
  | some 'f' => do
    skip
    word ['a', 'l', 's', 'e']
    return .bool false
  | some '-' => do
    skip
    return .num (← number true)
  | some '"' => do
    skip
    return .str (← string)
  | some '[' =>
    match inner with
    | none => failNext .recursion
    | some item => do
      skip
      let js ← itemsFrom item (← turns) true
      endList
      return .arr js
  | some '{' =>
    match inner with
    | none => failNext .recursion
    | some item => do
      skip
      let ms ← membersFrom item (← turns) true []
      endObject
      return .obj ms
  | some c =>
    if c.isDigit then return .num (← number false) else failNext .value

def value : Nat → Reader Json
  | 0 => valueOf none
  | depth + 1 => valueOf (some (value depth))

/-- A list or object that is open while a value is passed over. -/
inductive Frame where
  | list | object
deriving Repr, DecidableEq

def Frame.closing : Frame → Char
  | .list => ']'
  | .object => '}'

def passName (frame : Frame) : Reader Unit := do
  if frame = .object then
    match ← peekToken with
    | none => fail .eofInObject
    | some '"' => skip
    | some _ => failNext .keyString
    ignoredString
    colon

/-- Passes over a value nobody looks at and over the rest of the open frames. In place of
a value, `passed` says that one ends here or that a frame has just been opened. -/
def passOver : Nat → (passed : Option Bool) → List Frame → Reader Unit
  | 0, _, _ => return
  | fuel + 1, none, frames => do
    match ← peekToken with
    | none => fail .eofInValue
    | some '[' =>
      skip
      passOver fuel (some false) (.list :: frames)
    | some '{' =>
      skip
      passOver fuel (some false) (.object :: frames)
    | some c =>
      match c with
      | 'n' =>
        skip
        word ['u', 'l', 'l']
      | 't' =>
        skip
        word ['r', 'u', 'e']
      | 'f' =>
        skip
        word ['a', 'l', 's', 'e']
      | '"' =>
        skip
        ignoredString
      | '-' =>
        skip
        ignoredNumber
      | c => if c.isDigit then ignoredNumber else failNext .value
      passOver fuel (some true) frames
  | _ + 1, some _, [] => return
  | fuel + 1, some passed, frame :: frames => do
    match ← peekToken with
    | none => fail (if frame = .list then .eofInList else .eofInObject)
    | some c =>
      if passed ∧ c = ',' then
        skip
        passName frame
        passOver fuel none (frame :: frames)
      else if c = frame.closing then
        skip
        passOver fuel (some true) frames
      else if passed then
        failNext (if frame = .list then .commaOrBracket else .commaOrBrace)
      else
        passName frame
        passOver fuel none (frame :: frames)

def ignored : Reader Unit := do passOver (2 * (← turns)) none []

def finish : Reader Unit := do
  if (← peekToken).isSome then failNext .trailingCharacters

def maxDepth : Nat := 127

def run {α : Type} (reader : Reader α) (text : String) : Except Fault α :=
  match (do let a ← reader; finish; return a : Reader α) ⟨text.toList, 0⟩ with
  | .ok a _ => .ok a
  | .error f _ => .error f

end Reader

def read (text : String) : Except Fault Json := Reader.run (Reader.value Reader.maxDepth) text

end Unbundled.Json
