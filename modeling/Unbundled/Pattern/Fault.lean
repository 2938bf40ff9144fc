namespace Unbundled.Pattern

inductive Fault where
  | nesting | size
  | groupOpen | groupClosed | groupAfterQuestion | lookAround
  | nameMissing | nameInvalid | nameOpen | nameEmpty | nameTwice
  | flagsEmpty | flagUnknown | flagTwice | flagsNegatedTwice | flagsOpen | flagsEndNegated
  | decimalEmpty | decimalInvalid
  | hexEnd | hexFixedEnd | hexFixedDigit | hexFixedInvalid
  | hexBraceEnd | hexBraceDigit | hexBraceEmpty | hexBraceInvalid
  | escapeEnd | escapeUnknown | backReference | property
  | uncountedAlone | countedAlone | countedOpen | countedOpenAtLeast | countedOpenComma
  | countedOpenAtMost | countedInvalid | countedRange
  | classOpen | classOpenItem | classOpenDash | classOpenNegated | classOpenBracket
  | classEnds | classItem | classRange | classNested
  | classIntersection | classDifference | classSymmetric
  | boundaryOpen | boundaryUnknown | boundaryOrCountOpen
deriving Repr, DecidableEq, Inhabited

def Fault.message : Fault → String
  | nesting => "pattern has too much nesting"
  | size => "compiled regex exceeded size limit"
  | groupOpen => "found open group without closing ')'"
  | groupClosed => "found closing ')' without matching '('"
  | groupAfterQuestion => "expected closing ')', but got end of pattern"
  | lookAround => "look-around is not supported"
  | nameMissing => "expected capture group name, but got end of pattern"
  | nameInvalid => "invalid group name"
  | nameOpen => "expected end of capture group name, but got end of pattern"
  | nameEmpty => "empty capture group names are not allowed"
  | nameTwice => "duplicate capture group name"
  | flagsEmpty => "empty flag directive '(?)' is not allowed"
  | flagUnknown => "unrecognized inline flag"
  | flagTwice => "duplicate inline flag is not allowed"
  | flagsNegatedTwice => "inline flag negation cannot be repeated"
  | flagsOpen => "expected ':' or ')' to end inline flags, but got end of pattern"
  | flagsEndNegated => "inline flags cannot end with negation directive"
  | decimalEmpty => "expected decimal number, but found no digits"
  | decimalInvalid => "got invalid decimal number"
  | hexEnd => "expected hexadecimal number, but saw end of pattern first"
  | hexFixedEnd => "expected fixed length hexadecimal number, but saw end of pattern first"
  | hexFixedDigit => "expected fixed length hexadecimal number, but got non-hex digit"
  | hexFixedInvalid => "got invalid fixed length hexadecimal number"
  | hexBraceEnd =>
    "expected hexadecimal number, but saw end of pattern before closing brace"
  | hexBraceDigit => "expected hexadecimal number in braces, but got non-hex digit"
  | hexBraceEmpty => "expected hexadecimal number in braces, but got no digits"
  | hexBraceInvalid => "got invalid hexadecimal number in braces"
  | escapeEnd =>
    "saw start of escape sequence, but saw end of pattern before it finished"
  | escapeUnknown => "unrecognized escape sequence"
  | backReference => "backreferences are not supported"
  | property => "Unicode character classes are not supported"
  | uncountedAlone => "uncounted repetition operator must be applied to a sub-expression"
  | countedAlone => "counted repetition operator must be applied to a sub-expression"
  | countedOpen => "found unclosed counted repetition operator"
  | countedOpenAtLeast => "found incomplete and unclosed counted repetition operator"
  | countedOpenComma => "found counted repetition with a comma that is unclosed"
  | countedOpenAtMost => "found counted repetition with min and max that is unclosed"
  | countedInvalid => "expected closing brace for counted repetition, but got something else"
  | countedRange => "found counted repetition with a min bigger than its max"
  | classOpen => "found unclosed character class"
  | classOpenItem => "non-empty character class has no closing bracket"
  | classOpenDash => "non-empty character class has no closing bracket after dash"
  | classOpenNegated => "negated character class has no closing bracket"
  | classOpenBracket =>
    "character class begins with literal ']' but has no closing bracket"
  | classEnds => "character class ranges must start and end with a single character"
  | classItem => "invalid escape sequence in character class"
  | classRange => "invalid range in character class"
  | classNested => "nested character classes are not supported"
  | classIntersection => "character class intersection is not supported"
  | classDifference => "character class difference is not supported"
  | classSymmetric => "character class symmetric difference is not supported"
  | boundaryOpen =>
    "special word boundary assertion is unclosed or has an invalid character"
  | boundaryUnknown => "special word boundary assertion is unrecognized"
  | boundaryOrCountOpen => "found start of special word boundary or repetition without an end"

end Unbundled.Pattern
