import Unbundled.Script.Entity
import Unbundled.Script.State
import Unbundled.Text.Chars
import Unbundled.Text.Names

/-!
Reading the next token of a script. How a character is read hangs on the brackets that are
open around it: inside a template or a JSX element plain text stands between the tokens.
-/

namespace Unbundled.Script

open Text (isLineEnd isScriptSpace isNameStart isNamePart)
open Number (Double)

namespace Scan

/-- The end of the run of characters from `i` on with the property `p`, of length at most
`fuel`. -/
def runEnd (text : Array Char) (p : Char → Bool) : Nat → Nat → Nat
  | 0, i => i
  | fuel + 1, i =>
    match text[i]? with
    | some c => if p c then runEnd text p fuel (i + 1) else i
    | none => i

def sliceOf (text : Array Char) (i j : Nat) : String := String.ofList (text.extract i j).toList

def peekAt (k : Nat) : Parse (Option Char) := do
  let s ← get
  return s.text[s.pos + k]?

def cur : Parse (Option Char) := peekAt 0

def bump (n : Nat := 1) : Parse Unit := modify fun s => { s with pos := s.pos + n }

def here : Parse Nat := return (← get).pos + 1

def is (c : Char) : Parse Bool := return (← cur) == some c

def eat (c : Char) : Parse Bool := do
  if ← is c then bump; return true else return false

def since (a : Nat) : Parse String := do
  let s ← get
  return sliceOf s.text (a - 1) s.pos

def takeWhile (p : Char → Bool) : Parse String := do
  let s ← get
  let j := runEnd s.text p (s.text.size - s.pos) s.pos
  set { s with pos := j }
  return sliceOf s.text s.pos j

def startsWith (word : String) : Parse Bool := do
  let s ← get
  return (s.text.extract s.pos (s.pos + word.length)).toList == word.toList

def note (pos : Nat) (cause : Cause) : Parse Unit := do
  unless (← get).ctx.quiet do Parse.note ⟨pos, cause⟩

def noteStrict (pos : Nat) (cause : Cause) : Parse Unit := do
  if (← get).ctx.strict then note pos cause

/-! ### Blanks and comments -/

def skipBlanks : Parse Unit := modify fun s =>
  let j := runEnd s.text (fun c => isScriptSpace c || isLineEnd c) (s.text.size - s.pos) s.pos
  { s with pos := j, lineBreak := s.lineBreak || (s.text.extract s.pos j).any isLineEnd }

def TokenKind.trailingLineComment : Option TokenKind → Bool
  | some (.op _) => false
  | _ => true

def TokenKind.trailingComment : Option TokenKind → Bool
  | some .semi | some .lbrace => true
  | some (.other _ b) => b
  | _ => false

def store (forNext : Bool) (c : Comment) : Parse Unit := modify fun s =>
  if forNext then { s with pending := c :: s.pending }
  else { s with comments := { s.comments with
    trailing := s.comments.trailing ++ [(s.prevHi, c)] } }

def skipLineComment (n : Nat) : Parse Unit := do
  bump n
  let s ← get
  let forNext := s.lineBreak || !TokenKind.trailingLineComment s.kind
  let text ← takeWhile fun c => !isLineEnd c
  store forNext ⟨false, text⟩

/-- The index behind the next `*/` from `i` on, and whether a line ends before it. -/
def commentEnd (text : Array Char) : Nat → Nat → Bool → Bool → Option Nat × Bool
  | 0, _, _, broken => (none, broken)
  | fuel + 1, i, star, broken =>
    match text[i]? with
    | none => (none, broken)
    | some c =>
      if star && c == '/' then (some (i + 1), broken)
      else commentEnd text fuel (i + 1) (c == '*') (broken || isLineEnd c)

def skipBlockComment : Parse Unit := do
  let s ← get
  let forNext := s.lineBreak || !TokenKind.trailingComment s.kind
  match commentEnd s.text (s.text.size + 1) (s.pos + 2) false s.lineBreak with
  | (none, broken) =>
    set { s with pos := s.text.size, lineBreak := broken }
    note (s.text.size + 1) .unterminatedBlockComment
  | (some j, broken) =>
    set { s with pos := j, lineBreak := broken }
    skipBlanks
    let forNext := if ← is ';' then false else forNext
    store forNext ⟨true, sliceOf s.text (s.pos + 2) (j - 2)⟩

def skipSpace : Parse Unit :=
  Parse.loop () fun _ => do
    skipBlanks
    if ← is '/' then
      match ← peekAt 1 with
      | some '/' => skipLineComment 2; return .inl ()
      | some '*' => skipBlockComment; return .inl ()
      | _ => return .inr ()
    else return .inr ()

/-- At the end of the text the comments that wait for a token go to the last one. -/
def flushPending : Parse Unit := modify fun s =>
  let waiting := s.pending.reverse.map fun c => (s.prevHi, c)
  let last : Comments := if s.prevHi = 1 then ⟨waiting, []⟩ else ⟨[], waiting⟩
  { s with pending := [], comments := {}, placed := s.placed.append (s.comments.append last) }

/-! ### Escapes -/

def hexDigit? (c : Char) : Option Nat :=
  if '0' ≤ c && c ≤ '9' then some (c.toNat - 48)
  else if 'a' ≤ c && c ≤ 'f' then some (c.toNat - 87)
  else if 'A' ≤ c && c ≤ 'F' then some (c.toNat - 55)
  else none

def digit? (radix : Nat) (c : Char) : Option Nat :=
  (hexDigit? c).filter (· < radix)

def numberOf (radix : Nat) (digits : List Char) : Nat :=
  digits.foldl (fun n c => n * radix + (digit? radix c).getD 0) 0

/-- At most `len` hexadecimal digits, or any number of them if `len` is `0`. -/
def hexRun (len : Nat) : Parse (List Char) := do
  let s ← get
  let fuel := if len = 0 then s.text.size - s.pos else len
  let j := runEnd s.text (fun c => (hexDigit? c).isSome) fuel s.pos
  set { s with pos := j }
  return (s.text.extract s.pos j).toList

/-- What follows `\u`; code points that are no characters stay as they are written. -/
def unicodeEscape : Parse (List Char) := do
  bump
  let braces ← eat '{'
  let begin ← here
  let digits ← hexRun (if braces then 0 else 4)
  let expected := if braces then "1-6 hex characters" else "4 hex characters"
  if digits.isEmpty || (!braces && digits.length ≠ 4) then
    Parse.failAt (← here) (.badEscape expected)
  let n := numberOf 16 digits
  if n > 0x10ffff then
    Parse.failAt (← here) (.badEscape "1-6 hex characters in the range 0 to 10FFFF.")
  let chars :=
    if n.isValidChar then [Char.ofNat n]
    else if braces then '\\' :: 'u' :: '{' :: digits ++ ['}'] else '\\' :: 'u' :: digits
  if braces then
    unless ← eat '}' do Parse.failAt begin .unicodeEscape
  return chars

/-- The characters that an escape stands for; none for an escaped line end. -/
def escape (inTemplate : Bool) : Parse (List Char) := do
  let start ← here
  bump
  match ← cur with
  | none => Parse.failAt start .stringEscape
  | some c =>
    match c with
    | 'n' => bump; return ['\n']
    | 'r' => bump; return ['\r']
    | 't' => bump; return ['\t']
    | 'b' => bump; return ['\x08']
    | 'v' => bump; return ['\x0b']
    | 'f' => bump; return ['\x0c']
    | '\r' => bump; let _ ← eat '\n'; return []
    | 'x' =>
      bump
      let digits ← hexRun 2
      if digits.length = 2 then return [Char.ofNat (numberOf 16 digits)]
      else Parse.failAt start (.badEscape "2 hex characters")
    | 'u' =>
      try unicodeEscape
      catch e => throw ⟨start, e.cause⟩
    | c =>
      if isLineEnd c then bump; return []
      else if '0' ≤ c && c ≤ '7' then
        bump
        let next ← cur
        if c == '0' && (next.bind (digit? 8)).isNone then return ['\x00']
        if inTemplate then Parse.failAt start .legacyOctal
        noteStrict start .legacyOctal
        let s ← get
        let limit := if c ≤ '3' then 2 else 1
        let j := runEnd s.text (fun c => (digit? 8 c).isSome) limit s.pos
        set { s with pos := j }
        return [Char.ofNat (numberOf 8 (c :: (s.text.extract s.pos j).toList))]
      else bump; return [c]

/-! ### Words, numbers and strings -/

def word : Parse (String × Bool) :=
  Parse.loop (([], false) : List Char × Bool) fun (acc, escaped) => do
    let start ← here
    match ← cur with
    | some '\\' =>
      bump
      unless ← is 'u' do Parse.failAt start .unicodeEscapeExpected
      let chars ← unicodeEscape
      match chars with
      | c :: _ =>
        unless (if acc.isEmpty then isNameStart c else isNamePart c) do note start .identChar
      | [] => pure ()
      return .inl (chars.reverse ++ acc, true)
    | some c =>
      if isNamePart c then
        let run ← takeWhile isNamePart
        return .inl (run.toList.reverse ++ acc, escaped)
      else return .inr (String.ofList acc.reverse, escaped)
    | none => return .inr (String.ofList acc.reverse, escaped)

def isReserved (ctx : Context) (w : String) : Bool :=
  match w with
  | "let" => ctx.strict
  | "await" => ctx.inAsync || ctx.inStaticBlock || ctx.strict
  | "yield" => ctx.inGenerator || ctx.strict
  | "implements" | "package" | "protected" | "interface" | "private" | "public" => ctx.strict
  | "enum" => true
  | w => keywords.contains w

def readWord : Parse Token := do
  let start ← here
  let (w, escaped) ← word
  if escaped && isReserved (← Parse.ctx) w then Parse.failAt start (.escapedReservedWord w)
  return if keywords.contains w then .keyword w else .ident w

/-- The digits of a number, of which single underscores may part two. -/
def digits (radix : Nat) : Parse (List Char) := do
  let start ← here
  Parse.loop (([], none) : List Char × Option Char) fun (acc, prev) => do
    match ← cur with
    | some '_' =>
      let next ← peekAt 1
      let allowed := (next.bind (digit? radix)).isSome
      let forbidden : Option Char → Bool := fun
        | some c =>
          if radix = 16 then c == '.' || c == 'X' || c == '_' || c == 'x'
          else ['.', 'B', 'E', 'O', '_', 'b', 'e', 'o'].contains c
        | none => false
      if !allowed || forbidden prev || forbidden next then note start .numericSeparator
      bump
      return .inl (acc, prev)
    | some c =>
      if (digit? radix c).isSome then bump; return .inl (c :: acc, some c)
      else return .inr acc.reverse
    | none => return .inr acc.reverse

def someDigits (radix : Nat) : Parse (List Char) := do
  let start ← here
  let ds ← digits radix
  if ds.isEmpty then
    Parse.failAt start (.digit (match radix with
      | 2 => "a binary" | 8 => "an octal" | 16 => "a hexadecimal" | _ => "a decimal"))
  return ds

def noNameFollows : Parse Unit := do
  match ← cur with
  | some c => if isNameStart c then Parse.failAt (← here) .identAfterNumber
  | none => pure ()

def radixNumber (radix : Nat) : Parse Token := do
  let start ← here
  bump 2
  let ds ← someDigits radix
  if ← eat 'n' then return .bigint (← since start)
  noNameFollows
  return .num (.ofNat (numberOf radix ds)) (← since start)

def legacyOctalNumber (start : Nat) (ds : List Char) : Parse Token := do
  noNameFollows
  if (← read).typescript then note start .legacyOctalLiteral
  noteStrict start .legacyOctal
  return .num (.ofNat (numberOf 8 ds)) (← since start)

def exponent : Parse Int := do
  match ← cur with
  | some 'e' | some 'E' =>
    bump
    match ← cur with
    | none => Parse.failAt (← here) .exponent
    | some c =>
      if c == '+' || c == '-' then bump
      let ds ← someDigits 10
      let n : Int := numberOf 10 ds
      return if c == '-' then -n else n
  | _ => return 0

def numberTail (start : Nat) (whole : List Char) : Parse Token := do
  let fraction ← if ← eat '.' then digits 10 else pure []
  let e ← exponent
  noNameFollows
  return .num (.ofDecimal false (numberOf 10 (whole ++ fraction)) (e - fraction.length)) (← since start)

def number : Parse Token := do
  let start ← here
  let zero ← is '0'
  let whole ← someDigits 10
  if ← eat 'n' then return .bigint (← since start)
  if zero then
    if whole.all (· == '0') then
      if (← here) ≠ start + 1 then return ← legacyOctalNumber start whole
    else if whole.any (fun c => c == '8' || c == '9') then noteStrict start .legacyDecimal
    else return ← legacyOctalNumber start whole
  numberTail start whole

def stringLit (quote : Char) : Parse Token := do
  let start ← here
  bump
  let done (acc : List (List Char)) : Parse Token := do
    return .str (String.ofList acc.reverse.flatten) (← since start)
  Parse.loop ([] : List (List Char)) fun acc => do
    let run ← takeWhile fun c => c != quote && c != '\\' && c != '\n' && c != '\r'
    let acc := run.toList :: acc
    match ← cur with
    | some '\\' => return .inl ((← escape false) :: acc)
    | some c =>
      if c == quote then bump; return .inr (← done acc)
      else
        note start .unterminatedString
        return .inr (← done acc)
    | none =>
      note start .unterminatedString
      return .inr (← done acc)

def templatePiece (start : Nat) : Parse Token := do
  let begin ← here
  Parse.loop ((.ok [], false) : Except Fault (List (List Char)) × Bool) fun (cooked, _) => do
    let add (cs : List Char) : Except Fault (List (List Char)) := cooked.map (cs :: ·)
    match ← cur with
    | none => Parse.failAt start .unterminatedTemplate
    | some c =>
      let hole ← if c == '$' then (do return (← peekAt 1) == some '{') else pure false
      if c == '`' || hole then
        if (← here) = begin && (← get).kind == some .template then
          if hole then bump 2; return .inr (.punct .dollarBrace)
          else bump; return .inr (.punct .backquote)
        else
          let raw ← since begin
          return .inr (.template (cooked.map fun acc => String.ofList acc.reverse.flatten) raw)
      else if c == '\\' then
        try
          let cs ← escape true
          return .inl (add cs, true)
        catch e =>
          return .inl (match cooked with | .ok _ => .error e | .error e => .error e, true)
      else if c == '\r' then
        bump
        let _ ← eat '\n'
        return .inl (add ['\n'], true)
      else
        bump
        return .inl (add [c], true)

def regex (start : Nat) : Parse Token := do
  modify fun s => { s with pos := start }
  let body ← Parse.loop ((false, false) : Bool × Bool) fun (escaped, inClass) => do
    match ← cur with
    | none => return .inr ()
    | some c =>
      if isLineEnd c then Parse.failAt start .unterminatedRegex
      else if escaped then bump; return .inl (false, inClass)
      else if c == '/' && !inClass then return .inr ()
      else
        bump
        return .inl (c == '\\', c == '[' || (inClass && c != ']'))
  let _ := body
  let pattern ← since (start + 1)
  unless ← eat '/' do Parse.failAt start .unterminatedRegex
  match ← cur with
  | some c =>
    if isNameStart c then
      let (flags, _) ← word
      return .regex pattern flags
    else return .regex pattern ""
  | none => return .regex pattern ""

/-! ### Operators -/

def orAssign (op : BinaryOp) : Parse Token := do
  return .punct (if ← eat '=' then .assign (.with op) else .op op)

def conflict (start : Nat) : Parse Unit := do
  note start .conflictMarker
  skipLineComment 5
  skipSpace

def slash : Parse Token := do
  bump
  orAssign .div

def ltOrGt (c : Char) : Parse (Option Token) := do
  let start ← here
  bump
  let s ← get
  if (← read).typescript && s.ctx.inType && !s.ctx.wholeAngles then
    return some (.punct (.op (if c == '<' then .lt else .gt)))
  if c == '<' && (← startsWith "!--") then
    skipLineComment 3
    skipSpace
    note start .legacyComment
    return none
  if ← eat c then
    if c == '<' then
      if ← startsWith "<<<<< " then conflict start; return none
      orAssign .shiftLeft
    else if ← eat c then
      if ← startsWith ">>>> " then conflict start; return none
      orAssign .shiftRightZero
    else orAssign .shiftRight
  else if ← eat '=' then return some (.punct (.op (if c == '<' then .ltEq else .gtEq)))
  else return some (.punct (.op (if c == '<' then .lt else .gt)))

def bangOrEq (c : Char) : Parse (Option Token) := do
  let start ← here
  bump
  if ← eat '=' then
    if ← eat '=' then
      if c == '=' && (← startsWith "====") then conflict start; return none
      return some (.punct (.op (if c == '!' then .strictNotEq else .strictEq)))
    return some (.punct (.op (if c == '!' then .notEq else .eq)))
  if c == '=' && (← eat '>') then return some (.punct .arrow)
  return some (.punct (if c == '!' then .bang else .assign .plain))

def plusOrMinus (c : Char) : Parse (Option Token) := do
  let start ← here
  bump
  if ← eat c then
    if c == '-' && (← get).lineBreak && (← is '>') then
      bump
      note start .legacyComment
      skipLineComment 0
      skipSpace
      return none
    return some (.punct (if c == '+' then .plusPlus else .minusMinus))
  orAssign (if c == '+' then .add else .sub)

def starOrPercent (c : Char) : Parse Token := do
  bump
  if c == '%' then orAssign .mod
  else if ← eat '*' then orAssign .exp
  else orAssign .mul

def andOrBar (c : Char) : Parse Token := do
  bump
  if ← eat c then orAssign (if c == '&' then .and else .or)
  else orAssign (if c == '&' then .bitAnd else .bitOr)

def single (p : Punct) : Parse Token := do
  bump
  return .punct p

/-- A token outside of templates and JSX; nothing if only a comment was read. -/
def plainToken : Parse (Option Token) := do
  match ← cur with
  | none => return none
  | some c =>
    match c with
    | '(' => single .lparen
    | ')' => single .rparen
    | '{' => single .lbrace
    | '}' => single .rbrace
    | '[' => single .lbracket
    | ']' => single .rbracket
    | ';' => single .semi
    | ',' => single .comma
    | ':' => single .colon
    | '@' => single .at
    | '~' => single .tilde
    | '`' => single .backquote
    | '"' | '\'' => stringLit c
    | '.' =>
      match ← peekAt 1, ← peekAt 2 with
      | some '.', some '.' => bump 3; return some (.punct .dots)
      | some d, _ =>
        if d.isDigit then numberTail (← here) [] else single .dot
      | _, _ => single .dot
    | '?' =>
      bump
      if ← eat '?' then orAssign .coalesce else return some (.punct .question)
    | '#' =>
      if (← get).pos = 0 && (← peekAt 1) == some '!' then
        bump 2
        return some (.shebang (← takeWhile fun c => !isLineEnd c))
      single .hash
    | '0' =>
      match ← peekAt 1 with
      | some 'x' | some 'X' => radixNumber 16
      | some 'o' | some 'O' => radixNumber 8
      | some 'b' | some 'B' => radixNumber 2
      | _ => number
    | '%' | '*' => starOrPercent c
    | '&' | '|' => andOrBar c
    | '^' => bump; orAssign .bitXor
    | '+' | '-' => plusOrMinus c
    | '<' | '>' => ltOrGt c
    | '=' | '!' => bangOrEq c
    | '/' => slash
    | '\\' => readWord
    | '\x00' =>
      bump
      modify fun s => { s with lineBreak := false }
      skipSpace
      modify fun s => { s with tokenStart := s.pos + 1 }
      return none
    | c =>
      if c.isDigit then number
      else if isNameStart c then readWord
      else
        let start ← here
        bump
        Parse.failAt start (.unexpectedChar c)

def plain : Parse (Option Token) :=
  Parse.loop () fun _ => do
    match ← plainToken with
    | some t => return .inr (some t)
    | none =>
      match ← cur with
      | none => flushPending; return .inr none
      | some _ => return .inl ()

/-! ### JSX -/

/-- The character behind `&`; the name is read only if it is known. -/
def jsxEntity : Parse Char := do
  bump
  let s ← get
  let j := runEnd s.text (· != ';') 10 s.pos
  let name := (s.text.extract s.pos j).toList
  if s.text[j]? == some ';' && name.length < 10 then
    let found : Option Char :=
      match name with
      | '#' :: 'x' :: ds =>
        if ds.all (fun c => (hexDigit? c).isSome) && !ds.isEmpty
        then some (Char.ofNat (numberOf 16 ds)) else none
      | '#' :: ds =>
        if ds.all Char.isDigit && !ds.isEmpty then some (Char.ofNat (numberOf 10 ds)) else none
      | name => entity? (String.ofList name)
    match found with
    | some c =>
      set { s with pos := j + 1 }
      return c
    | none => return '&'
  else return '&'

def jsxContent : Parse (Option Token) := do
  let begin ← here
  Parse.loop ([] : List (List Char)) fun acc => do
    let run ← takeWhile fun c =>
      c != '<' && c != '{' && c != '>' && c != '}' && c != '&' && c != '\r'
    let acc := run.toList :: acc
    match ← cur with
    | none => Parse.failAt (← get).tokenStart .unterminatedJsx
    | some '<' | some '{' =>
      if (← here) = begin then
        if (← is '<') && (← get).exprAllowed then bump; return .inr (some .jsxTagStart)
        else return .inr (← plain)
      else
        return .inr (some (.jsxText (String.ofList acc.reverse.flatten) (← since begin)))
    | some '>' =>
      note (← here) (.suggestion "`\x7b'>'\x7d` or `&gt;`")
      bump
      return .inl (['>'] :: acc)
    | some '}' =>
      note (← here) (.suggestion "`\x7b'\x7d'\x7d` or `&rbrace;`")
      bump
      return .inl (['}'] :: acc)
    | some '&' => return .inl ([← jsxEntity] :: acc)
    | some _ =>
      bump
      if ← eat '\n' then return .inl (['\n'] :: acc) else return .inl (['\r'] :: acc)

def jsxString (quote : Char) : Parse Token := do
  let start ← here
  bump
  let done (acc : List (List Char)) : Parse Token := do
    return .str (String.ofList acc.reverse.flatten) (← since start)
  Parse.loop ([] : List (List Char)) fun acc => do
    let run ← takeWhile fun c => c != quote && c != '&'
    let acc := run.toList :: acc
    match ← cur with
    | none =>
      note start .unterminatedString
      return .inr (← done acc)
    | some '&' => return .inl ([← jsxEntity] :: acc)
    | some _ => bump; return .inr (← done acc)

def jsxWord : Parse Token := do
  return .jsxName (← takeWhile fun c => isNamePart c || c == '-')

/-! ### The next token -/

def topIs (brackets : List Bracket) (b : Bracket) : Bool := brackets.head? == some b

/-- Inside of templates and JSX text blanks belong to the text. -/
def Bracket.keepsBlanks : Option Bracket → Bool
  | some (.template _) | some .jsxBody => true
  | _ => false

def next : Parse (Option Token) := do
  if let some start := (← get).regexAt then return some (← regex start)
  unless Bracket.keepsBlanks (← get).brackets.head? do skipSpace
  modify fun s => { s with tokenStart := s.pos + 1 }
  match ← cur with
  | none =>
    flushPending
    return none
  | some c =>
    let s ← get
    if (← read).jsx && !s.ctx.inPropertyName && !s.ctx.inType then
      if topIs s.brackets .jsxBody then return ← jsxContent
      if topIs s.brackets .jsxOpening || topIs s.brackets .jsxClosing then
        if isNameStart c then return some (← jsxWord)
        if c == '>' then bump; return some .jsxTagEnd
        if (c == '\'' || c == '"') && topIs s.brackets .jsxOpening then return some (← jsxString c)
      if c == '<' && s.exprAllowed && (← peekAt 1) != some '!' then
        bump
        return some .jsxTagStart
    match s.brackets.head? with
    | some (.template start) => return some (← templatePiece start)
    | _ => plain

def keywordBeforeExpr (w : String) : Bool :=
  ["await", "case", "default", "do", "else", "return", "throw", "new", "extends", "yield", "in",
   "instanceof", "typeof", "void", "delete"].contains w

def Token.beforeExpr : Token → Bool
  | .keyword w => keywordBeforeExpr w
  | .punct (.op _) | .punct (.assign _) => true
  | .punct p =>
    [.arrow, .dots, .bang, .lparen, .lbrace, .lbracket, .semi, .comma, .colon, .dollarBrace,
     .question, .tilde].contains p
  | .jsxText .. => true
  | _ => false

def Token.kind : Token → TokenKind
  | .template .. => .template
  | .punct .dot => .dot
  | .punct .colon => .colon
  | .punct .lbrace => .lbrace
  | .punct .rparen => .rparen
  | .punct .semi => .semi
  | .punct .arrow => .arrow
  | .punct (.op o) => .op o
  | .jsxName _ => .jsxName
  | .jsxText .. => .jsxText
  | .jsxTagStart => .jsxTagStart
  | .jsxTagEnd => .jsxTagEnd
  | .keyword w =>
    if w == "null" || w == "true" || w == "false" then .other false false else .keyword w
  | t => .other (beforeExpr t) <|
    match t with
    | .num .. | .str .. | .ident _ | .regex .. | .bigint _ => true
    | .punct p => [.lbracket, .rbracket, .rbrace, .dollarBrace].contains p
    | _ => false

def TokenKind.beforeExpr : TokenKind → Bool
  | .jsxText | .colon | .lbrace | .semi | .arrow | .op _ => true
  | .keyword w => keywordBeforeExpr w
  | .other b _ => b
  | _ => false

def opensBlock (brackets : List Bracket) (prev : Option TokenKind) (lineBreak exprAllowed : Bool) :
    Bool :=
  let byPrev : Bool :=
    match prev with
    | none | some .semi | some .rparen | some (.keyword "else") => true
    | some (.keyword "return") | some (.keyword "yield") => lineBreak
    | some .lbrace =>
      (match brackets with
        | .expressionBrace :: .jsxOpening :: _ => true
        | _ => false) || topIs brackets .statementBrace
    | some (.op .lt) | some (.op .gt) | some .arrow => true
    | _ => !exprAllowed
  match prev, brackets.head? with
  | some .colon, some .statementBrace => true
  | some .colon, some .expressionBrace => false
  | _, _ => byPrev

def Bracket.isExpr : Bracket → Bool
  | .expressionBrace | .templateHole | .expressionParen | .template _ | .functionExpr
  | .classExpr | .jsxBody => true
  | _ => false

def close : List Bracket → List Bracket × Bool
  | [] => ([], true)
  | [b] => ([b], true)
  | .statementBrace :: .functionExpr :: rest => (rest, false)
  | .statementBrace :: .classExpr :: rest => (rest, false)
  | .templateHole :: .template n :: rest => (.template n :: rest, false)
  | .templateHole :: rest => (rest, true)
  | out :: rest => (rest, !Bracket.isExpr out)

def follow (jsx : Bool) (s : State) (t : Token) : List Bracket × Bool :=
  let bs := s.brackets
  let prevIs (k : TokenKind) : Bool := s.kind == some k
  let startsExpr := s.exprAllowed && !opensBlock bs s.kind s.lineBreak s.exprAllowed
  match t with
  | .keyword w =>
    if prevIs .dot && w != "null" && w != "true" && w != "false" then (bs, false)
    else if w == "function" then (if startsExpr then .functionExpr :: bs else bs, false)
    else if w == "class" then (if startsExpr then .classExpr :: bs else bs, false)
    else (bs, keywordBeforeExpr w)
  | .ident w =>
    if w == "of" && topIs bs (.statementParen true)
    then (bs, !((s.kind.map TokenKind.beforeExpr).getD false)) else (bs, false)
  | .punct .rparen | .punct .rbrace => close bs
  | .punct .lbrace =>
    if jsx && topIs bs .jsxOpening then (.expressionBrace :: bs, true)
    else if jsx && topIs bs .jsxBody then (.templateHole :: bs, true)
    else if opensBlock bs s.kind s.lineBreak s.exprAllowed then (.statementBrace :: bs, true)
    else (.expressionBrace :: bs, true)
  | .punct (.op .div) =>
    if jsx && prevIs .jsxTagStart then (.jsxClosing :: bs.drop 2, false)
    else (bs, true)
  | .punct .dollarBrace => (.templateHole :: bs, true)
  | .punct .lparen =>
    (match s.kind with
      | some (.keyword "if") | some (.keyword "while") | some (.keyword "with") =>
        .statementParen false :: bs
      | some (.keyword "for") => .statementParen true :: bs
      | _ => .expressionParen :: bs, true)
  | .punct .plusPlus | .punct .minusMinus => (bs, s.exprAllowed)
  | .punct .backquote =>
    match bs with
    | .template _ :: rest => (rest, false)
    | bs => (.template s.tokenStart :: bs, false)
  | .jsxTagStart => (.jsxOpening :: .jsxBody :: bs, false)
  | .jsxTagEnd =>
    let rest := bs.drop 1
    if (topIs bs .jsxOpening && prevIs (.op .div)) || topIs bs .jsxClosing then
      (rest.drop 1, topIs (rest.drop 1) .jsxBody)
    else (rest, true)
  | t => (bs, Token.beforeExpr t)

/-- Reads the next token, or gives nothing at the end of the text. What cannot be read is
a token too. -/
def token : Parse (Option Tok) := do
  modify fun s => { s with lineBreak := s.isFirst, isFirst := false }
  let t ← try next catch e => pure (some (.fault e))
  match t with
  | none => return none
  | some t =>
    let s ← get
    let start := s.tokenStart
    let (brackets, exprAllowed) := follow (← read).jsx s t
    set { s with
      comments := { s.comments with
        leading := s.comments.leading ++ s.pending.reverse.map fun c => (start, c) }
      pending := []
      brackets, exprAllowed
      kind := some (Token.kind t)
      prevHi := s.pos + 1 }
    return some ⟨t, ⟨start, s.pos + 1⟩, s.lineBreak⟩

end Scan

end Unbundled.Script
