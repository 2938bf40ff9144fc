namespace Unbundled.Script

inductive Cause where
  | getterParams | setterParams | superCall | superAccess | superPrivate | newTargetPlace
  | importPlace | usingName | usingInit | usingInForIn
  | legacyDecimal | legacyOctal | identChar | digit (kind : String) | unterminatedBlockComment
  | unterminatedString | unicodeEscapeExpected | escapedReservedWord (word : String)
  | unterminatedRegex | unterminatedTemplate | identAfterNumber | unexpectedChar (c : Char)
  | stringEscape | unicodeEscape | badEscape (expected : String) | legacyComment
  | exponent | strictIdent (name : String) | asyncIdent | evalOrArguments | argumentsInField
  | useStrictPlace | unaryBeforePower | hash | lineBreakInThrow | lineBreakBeforeArrow
  | unexpected (got expected : String) | assignedShorthand | expected (token got : String)
  | expressionEnd | reservedShorthand | coalesceMix | multipleDefaults | commaAfterRest
  | restNotLast | spreadInParens | emptyParens | notPattern | notExpression | notSimpleTarget
  | ident | duplicateLabel (label : String) | itemInScript
  | patternInit | withInStrict | returnPlace | oneBinding | initInForHead
  | labelledGenerator | labelledFunction | yieldParam | awaitParam | forAwait | awaitPlace
  | unterminatedJsx | emptyJsxAttr | jsxValue | jsxFragmentEnd | jsxEnd (tag : String)
  | decoratorOnExport | requiredAfterOptional | paramPropertyPattern
  | hashSpace | asyncConstructor | fieldNamedConstructor | privateConstructor
  | privateModifier (modifier : String) | constructorAccessor | readonlyMethod
  | generatorConstructor | duplicateConstructor | optionalPattern | optionalSuperCall
  | newOptionalChain | taggedInChain | commaInImport
  | exportFrom (word : String) | dotsWithoutName | numericSeparator | importedString (name : String)
  | exportedString | constInit | duplicateFlag (flag : Char) | unknownFlag
  | identifier | semicolon | trailingComma | restParamLast | optionalWithInit | declareMember
  | declareTwice | asyncModifier | optionalRest | restInit | legacyOctalLiteral
  | constructorModifier (word : String) | constructorTypeParams | indexParams | emptyTypeParams
  | argumentsStrict | deleteIdent | breakPlace | asyncForOf | expression
  | continuePlace | breakTarget | emptyDeclarations | stringLiteral | optionalObjectMember | lineBreak
  | computedEnum | commaInComputed | extendsTwice | extendsAfterImplements | extendsMany
  | implementsTwice | ambientBody | modifierPlace | conflictMarker
  | abstractModifier | abstractMethod | abstractInit | typeParamModifier (word : String)
  | varianceModifier (word : String) | constModifier (word : String) | typeImportModifier
  | typeExportModifier | paramPropertyPlace | paramInit | assignTarget | withUnsupported
  | className | interfaceName | numericEnum | forOfTyped | forInPattern | deleteOperand
  | overrideMember | decoratorsTwice | annotationAfterDefault | nonNullTarget (word : String)
  | eof | invalidTarget | suggestion (choices : String) | exportPlace | privateInInterface
  | arrowPlace | depth | jumpOutOfFunction | modifierOrder (first second : String)
  | modifierTwice (word : String) | modifierClash (first second : String)
  | constructorTyped | abstractBody | accessOnPrivate | restInSetter
  | declarationPlace | readonlyAccessor | usingDisabled | usingPlace | reservedImport
  | awaitStar
deriving Repr, DecidableEq, Inhabited

def Cause.message : Cause → String
  | .getterParams => "A `get` accessor cannot have parameters"
  | .setterParams => "A `set` accessor must have exactly one parameter"
  | .superCall => "Invalid `super()`"
  | .superAccess => "Invalid access to super"
  | .superPrivate => "Index super with private name is not allowed"
  | .newTargetPlace =>
    "'new.target' is only allowed in the body of a function declaration, function expression, or class."
  | .importPlace => "Import is not allowed here"
  | .usingName => "Using declaration only allows identifiers"
  | .usingInit => "Using declaration requires initializer"
  | .usingInForIn => "Using declaration is not allowed in for-in loop"
  | .legacyDecimal => "Legacy decimal escape is not permitted in strict mode"
  | .legacyOctal => "Legacy octal escape is not permitted in strict mode"
  | .identChar => "Invalid character in identifier"
  | .digit kind => "Expected " ++ kind ++ " digit"
  | .unterminatedBlockComment => "Unterminated block comment"
  | .unterminatedString => "Unterminated string constant"
  | .unicodeEscapeExpected => "Expected unicode escape"
  | .escapedReservedWord w => "Unexpected escape sequence in reserved word: " ++ w
  | .unterminatedRegex => "Unterminated regexp literal"
  | .unterminatedTemplate => "Unterminated template"
  | .identAfterNumber => "Identifier cannot follow number"
  | .unexpectedChar c => "Unexpected character " ++ quoteChar c
  | .stringEscape => "Invalid string escape"
  | .unicodeEscape => "Invalid unicode escape"
  | .badEscape e => "Bad character escape sequence, expected " ++ e
  | .legacyComment => "Legacy comments cannot be used in module code"
  | .exponent => "Expected +, - or decimal digit after e"
  | .strictIdent n => "`" ++ n ++ "` cannot be used as an identifier in strict mode"
  | .asyncIdent => "`await` cannot be used as an identifier in an async context"
  | .evalOrArguments =>
    "'eval' and 'arguments' cannot be used as a binding identifier in strict mode"
  | .argumentsInField => "'arguments' is only allowed in functions and class methods"
  | .useStrictPlace => "Illegal 'use strict' directive in function with non-simple parameter list."
  | .unaryBeforePower => "** cannot be applied to unary expression"
  | .hash => "Unexpected token '#'"
  | .lineBreakInThrow => "LineBreak cannot follow 'throw'"
  | .lineBreakBeforeArrow => "Unexpected line break between arrow head and arrow"
  | .unexpected got wanted => "Unexpected token `" ++ got ++ "`. Expected " ++ wanted
  | .assignedShorthand => "assignment property is invalid syntax"
  | .expected token got => "Expected '" ++ token ++ "', got '" ++ got ++ "'"
  | .expressionEnd => "Expected ';', '\x7d' or <eof>"
  | .reservedShorthand => "Cannot use a reserved word as a shorthand property"
  | .coalesceMix =>
    "Nullish coalescing operator(??) requires parens when mixing with logical operators"
  | .multipleDefaults => "A switch block cannot have multiple defaults"
  | .commaAfterRest => "Trailing comma isn't permitted after a rest element"
  | .restNotLast => "Rest element must be final element"
  | .spreadInParens => "Parenthesized expression cannot contain spread operator"
  | .emptyParens => "Parenthesized expression cannot be empty"
  | .notPattern => "Not a pattern"
  | .notExpression => "Not an expression"
  | .notSimpleTarget => "Cannot assign to this"
  | .ident => "Expected ident"
  | .duplicateLabel l => "Label " ++ l ++ " is already declared"
  | .itemInScript => "'import', and 'export' cannot be used outside of module code"
  | .patternInit => "Destructuring bindings require initializers"
  | .withInStrict => "With statement are not allowed in strict mode"
  | .returnPlace => "Return statement is not allowed here"
  | .oneBinding => "Expected one variable binding"
  | .initInForHead => "Unexpected initializer in for in/of loop"
  | .labelledGenerator => "Generator or async function cannot be labelled"
  | .labelledFunction => "Function cannot be labelled in strict mode"
  | .yieldParam => "'yield' cannot be used as a parameter within generator"
  | .awaitParam => "`await` expressions cannot be used in a parameter initializer."
  | .forAwait => "for await syntax is valid only for for-of statement"
  | .awaitPlace => "await isn't allowed in non-async function"
  | .unterminatedJsx => "Unterminated JSX contents"
  | .emptyJsxAttr => "JSX attributes must only be assigned a non-empty expression"
  | .jsxValue => "JSX value should be either an expression or a quoted JSX text"
  | .jsxFragmentEnd => "Expected corresponding JSX closing tag for <>"
  | .jsxEnd tag => "Expected corresponding JSX closing tag for <" ++ tag ++ ">"
  | .decoratorOnExport =>
    "Using the export keyword between a decorator and a class is not allowed. Please use " ++
      "`export @dec class` instead."
  | .requiredAfterOptional => "A required element cannot follow an optional element."
  | .paramPropertyPattern =>
    "Typescript parameter property must be an identifier or assignment pattern"
  | .hashSpace => "Unexpected space between # and identifier"
  | .asyncConstructor => "Constructor can't be an async function"
  | .fieldNamedConstructor => "Classes may not have a non-static field named 'constructor'"
  | .privateConstructor => "Classes can't have a private field named '#constructor'."
  | .privateModifier m => "'" ++ m ++ "' modifier cannot be used with a private identifier"
  | .constructorAccessor => "Class constructor can't be an accessor"
  | .readonlyMethod => "A method cannot be readonly"
  | .generatorConstructor => "Constructor can't be a generator"
  | .duplicateConstructor => "A class may only have one constructor"
  | .optionalPattern =>
    "A binding pattern parameter cannot be optional in an implementation signature."
  | .optionalSuperCall => "Super call cannot be optional"
  | .newOptionalChain => "Constructors in/after an Optional Chain are not allowed."
  | .taggedInChain => "Tagged template literal is not allowed in optional chain."
  | .commaInImport => "Trailing comma is disallowed inside import(...) arguments"
  | .exportFrom w => "`" ++ w ++ "` cannot be used without `from` clause"
  | .dotsWithoutName => "`...` must be followed by an identifier in declaration contexts"
  | .numericSeparator => "A numeric separator is only allowed between two digits"
  | .importedString n =>
    "A string literal cannot be used as an imported binding.\n- Did you mean `import \x7b \"" ++ n ++
      "\" as foo \x7d`?"
  | .exportedString => "A string literal cannot be used as an exported binding without `from`."
  | .constInit => "'const' declarations must be initialized"
  | .duplicateFlag f => "Duplicated regular expression flag '" ++ f.toString ++ "'."
  | .unknownFlag => "Unknown regular expression flags."
  | .identifier => "Expected an identifier"
  | .semicolon => "Expected a semicolon"
  | .trailingComma => "Trailing comma is not allowed"
  | .restParamLast => "A rest parameter must be last in a parameter list"
  | .optionalWithInit => "Parameter cannot have question mark and initializer"
  | .declareMember => "`declare` modifier cannot appear on class elements of this kind"
  | .declareTwice => "`declare` modifier not allowed for code already in an ambient context"
  | .asyncModifier => "`async` modifier cannot be used here"
  | .optionalRest => "A rest parameter cannot be optional"
  | .restInit => "A rest parameter cannot have an initializer"
  | .legacyOctalLiteral =>
    "Legacy octal literals are not available when targeting ECMAScript 5 and higher"
  | .constructorModifier w => "'" ++ w ++ "' modifier cannot appear on a constructor declaration"
  | .constructorTypeParams => "Type parameters cannot appear on a constructor declaration"
  | .indexParams => "An index signature must have exactly one parameter"
  | .emptyTypeParams => "Type parameter list cannot be empty"
  | .argumentsStrict => "Invalid use of 'arguments' in strict mode"
  | .deleteIdent => "'delete' cannot be called on an identifier in strict mode"
  | .breakPlace =>
    "A 'break' statement can only be used within an enclosing iteration or switch statement"
  | .asyncForOf => "The left-hand side of a `for...of` statement may not be `async`"
  | .expression => "Expression expected"
  | .continuePlace =>
    "A 'continue' statement can only target a label of an enclosing iteration statement"
  | .breakTarget => "A 'break' statement can only jump to a label of an enclosing statement"
  | .emptyDeclarations => "Variable declaration list cannot be empty"
  | .stringLiteral => "String literal expected"
  | .optionalObjectMember => "An object member cannot be declared optional"
  | .lineBreak => "Line break not permitted here"
  | .computedEnum => "Computed property names are not allowed in enums"
  | .commaInComputed => "A comma expression is not allowed in a computed property name"
  | .extendsTwice => "`extends` clause already seen."
  | .extendsAfterImplements => "'extends' clause must precede 'implements' clause."
  | .extendsMany => "Classes can only extend a single class"
  | .implementsTwice => "`implements` clause already seen"
  | .ambientBody => "An implementation cannot be declared in ambient contexts"
  | .modifierPlace => "Modifiers cannot appear here"
  | .conflictMarker => "Merge conflict marker encountered."
  | .abstractModifier => "`abstract` modifier can only appear on a class or method declaration"
  | .abstractMethod => "Abstract methods can only appear within an abstract class."
  | .abstractInit => "Abstract property cannot have an initializer"
  | .typeParamModifier w => "'" ++ w ++ "' modifier cannot appear on a type parameter"
  | .varianceModifier w => "'" ++ w ++
      "' modifier can only appear on a type parameter of a class, interface or type alias"
  | .constModifier w => "'" ++ w ++
      "' modifier can only appear on a type parameter of a function, method or class"
  | .typeImportModifier => "The 'type' modifier cannot be used on a named import when " ++
      "'import type' is used on its import statement."
  | .typeExportModifier => "The 'type' modifier cannot be used on a named export when " ++
      "'export type' is used on its export statement."
  | .paramPropertyPlace => "A parameter property is only allowed in a constructor implementation"
  | .paramInit =>
    "A parameter initializer is only allowed in a function or constructor implementation"
  | .assignTarget => "The left-hand side of an assignment expression must be a variable or a " ++
      "property access."
  | .withUnsupported => "The 'with' statement is not supported. All symbols in a 'with' block " ++
      "will have type 'any'."
  | .className => "Invalid class name"
  | .interfaceName => "interface name is invalid"
  | .numericEnum => "An enum member cannot have a numeric name"
  | .forOfTyped =>
    "The left-hand side of a 'for...of' statement cannot use a type annotation"
  | .forInPattern =>
    "The left-hand side of a 'for...in' statement cannot be a destructuring pattern"
  | .deleteOperand => "The operand of a delete operator must be a property reference."
  | .overrideMember => "This member cannot have an 'override' modifier because its containing " ++
      "class does not extend another class."
  | .decoratorsTwice => "Decorators may not appear after `export` or `export default` if they " ++
      "also appear before `export`."
  | .annotationAfterDefault => "Type annotations must come before default assignments"
  | .nonNullTarget w =>
    "Typescript non-null assertion operator is not allowed with '" ++ w ++ "'"
  | .eof => "Unexpected eof"
  | .invalidTarget => "Invalid assignment target"
  | .suggestion c => "Unexpected token. Did you mean " ++ c ++ "?"
  | .exportPlace => "`export` is not allowed here"
  | .privateInInterface => "private names are not allowed in interface"
  | .arrowPlace => "An arrow function is not allowed here"
  | .depth => "Nested too deeply"
  | .jumpOutOfFunction => "Jump target cannot cross function boundary"
  | .modifierOrder a b => "'" ++ a ++ "' modifier must precede '" ++ b ++ "' modifier."
  | .modifierTwice w => "'" ++ w ++ "' modifier already seen."
  | .modifierClash a b => "'" ++ a ++ "' modifier cannot be used with '" ++ b ++ "' modifier."
  | .constructorTyped => "Type annotation cannot appear on a constructor declaration."
  | .abstractBody =>
    "Method cannot have an implementation because it is marked abstract."
  | .accessOnPrivate => "An accessibility modifier cannot be used with a private identifier."
  | .restInSetter => "Rest pattern is not allowed in setter"
  | .declarationPlace => "Declaration is not allowed"
  | .readonlyAccessor => "A getter or a setter cannot be readonly"
  | .usingDisabled => "Using declaration is not enabled. Set jsc.parser.explicitResourceManagement to true"
  | .usingPlace => "Using declaration is not allowed here"
  | .reservedImport => "cannot import as reserved word"
  | .awaitStar => "await* has been removed from the async functions proposal. Use Promise.all() instead."
where
  quoteChar (c : Char) : String :=
    if c == '\t' then "'\\t'" else if c == '\r' then "'\\r'" else if c == '\n' then "'\\n'"
    else if c == '\'' then "'\\''" else if c == '\\' then "'\\\\'" else if c == '\x00' then "'\\0'"
    else if c.val < 0x20 || (c.val ≥ 0x7f && c.val < 0xa0) then
      "'\\u\x7b" ++ String.ofList (Nat.toDigits 16 c.toNat) ++ "\x7d'"
    else "'" ++ c.toString ++ "'"

/-- A cause and the position in the text, counted from 1, where it is reported. -/
structure Fault where
  pos : Nat
  cause : Cause
deriving Repr, DecidableEq, Inhabited

end Unbundled.Script
