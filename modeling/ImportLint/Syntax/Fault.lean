import ImportLint.Text.Quoted

/-!
# Syntax — errors

What can be wrong with a source, and where.  `SyntaxFault.message` is the one place where the
faults are worded.
-/

namespace ImportLint.Syntax

/-- A range of bytes. -/
structure Span where
  lo : Nat
  hi : Nat
deriving DecidableEq, Repr, Inhabited

/-- What is wrong. -/
inductive SyntaxFault where
  -- characters and literals
  | unexpectedChar (c : Char)
  | unterminatedComment
  | unterminatedString
  | unterminatedTemplate
  | unterminatedRegex
  | unterminatedMarkup
  | badEscape (wanted : String)
  | invalidEscape
  | invalidUnicodeEscape
  | unicodeEscapeExpected
  | invalidIdentifierChar
  | escapedReservedWord (word : String)
  | digitExpected (radix : Nat)
  | exponentExpected
  | identifierAfterNumber
  | misplacedSeparator
  | legacyDecimal
  | legacyOctal
  | octalLiteral
  | legacyComment
  | mergeMarker
  | unexpectedMarkup (candidates : List String)
  -- tokens
  | unexpectedEnd
  | expected (wanted got : String)
  | unexpected (got wanted : String)
  | expressionExpected
  | identifierExpected
  | identifierNameExpected
  | importTypeSource
  | semicolonExpected
  | endOfStatementExpected
  | trailingComma
  -- names
  | strictIdentifier (word : String)
  | asyncIdentifier
  | strictBinding
  | strictUse
  | argumentsInField
  | spaceAfterHash
  -- patterns and assignment
  | invalidPattern
  | invalidTarget
  | notAssignable
  | notReference
  | assignmentProperty
  | restNotLast
  | restParameterNotLast
  | restWithInitializer
  | restOptional
  | commaAfterRest
  | restWithoutIdentifier
  | optionalPattern
  | optionalWithInitializer
  -- expressions
  | logicalMix
  | unaryBeforePower
  | chainedTemplate
  | unknownFlag
  | repeatedFlag (flag : Char)
  | awaitStar
  | awaitInFunction
  | awaitInParameter
  | yieldInParameter
  | deleteIdentifier
  | deleteNoReference
  | spreadInParentheses
  | emptyParentheses
  | lineBreakBeforeArrow
  | arrowNotAllowed
  | chainedConstructor
  | invalidSuper
  | invalidSuperCall
  | optionalSuperCall
  | invalidImport
  | invalidNewTarget
  | nonNullNotAllowed (word : String)
  | commaInComputedName
  | optionalMember
  | modifierNotHere
  | trailingCommaInImport
  -- statements
  | returnOutside
  | breakOutside
  | breakLabel
  | continueOutside
  | continueLabel
  | multipleDefaults
  | lineBreakInThrow
  | withStatement
  | withInStrict
  | duplicateLabel (label : String)
  | labelledFunction
  | labelledGenerator
  | declarationNotAllowed
  | constWithoutInitializer
  | patternWithoutInitializer
  | tooManyBindings
  | initializerInForIn
  | typeInForOf
  | patternInForIn
  | emptyDeclarationList
  | forAwaitOnlyOf
  | asyncInForOf
  | usingNotEnabled
  | usingInForIn
  | usingName
  | usingWithoutInitializer
  | illegalDirective
  -- functions and classes
  | getterParameter
  | setterParameter
  | restInSetter
  | duplicateConstructor
  | generatorConstructor
  | asyncConstructor
  | constructorAccessor
  | constructorProperty
  | privateConstructor
  | readonlyMethod
  | readonlyAccessor
  | privateModifier (word : String)
  | accessOnPrivate
  | modifierSeen (word : String)
  | modifierOrder (first second : String)
  | modifiersConflict (first second : String)
  | modifierOnConstructor (word : String)
  | modifierOnTypeParameter (word : String)
  | modifierOnlyOnClassParameter (word : String)
  | modifierOnlyOnFunctionParameter (word : String)
  | modifierNotAllowed
  | declareOnMember
  | overrideWithoutBase
  | abstractOnlyOnClass
  | abstractOutsideClass
  | abstractWithBody
  | abstractWithInitializer
  | typeParametersOnConstructor
  | emptyTypeParameters
  | typeOnConstructor
  | parameterProperty
  | parameterPropertyPattern
  | parameterInitializer
  | ambientImplementation
  | ambientDeclare
  | extendsSeen
  | extendsAfterImplements
  | extendsMany
  | implementsSeen
  | className
  | decoratorsTwice
  | exportNotAllowed
  -- types
  | interfaceName
  | interfaceExtends
  | indexParameter
  | privateInInterface
  | requiredAfterOptional
  | numericEnumMember
  | computedEnumMember
  -- modules
  | moduleOnly
  | importBindingString (name : String)
  | exportBindingString
  | exportNeedsFrom (name : String)
  | typeModifierInImport
  | typeModifierInExport
  -- markup
  | emptyAttribute
  | invalidAttribute
  | closingTagExpected (tag : String)
  | closingFragmentExpected
deriving DecidableEq, Repr, Inhabited

namespace SyntaxFault

/-- The name of the digits of a radix. -/
def radixName : Nat → String
  | 2 => "a binary"
  | 8 => "an octal"
  | 10 => "a decimal"
  | _ => "a hexadecimal"

def message : SyntaxFault → String
  | unexpectedChar c => "Unexpected character " ++ (Text.quotedChar c).toString
  | unterminatedComment => "Unterminated block comment"
  | unterminatedString => "Unterminated string constant"
  | unterminatedTemplate => "Unterminated template"
  | unterminatedRegex => "Unterminated regexp literal"
  | unterminatedMarkup => "Unterminated JSX contents"
  | badEscape wanted => "Bad character escape sequence, expected " ++ wanted
  | invalidEscape => "Invalid string escape"
  | invalidUnicodeEscape => "Invalid unicode escape"
  | unicodeEscapeExpected => "Expected unicode escape"
  | invalidIdentifierChar => "Invalid character in identifier"
  | escapedReservedWord word => "Unexpected escape sequence in reserved word: " ++ word
  | digitExpected radix => "Expected " ++ radixName radix ++ " digit"
  | exponentExpected => "Expected +, - or decimal digit after e"
  | identifierAfterNumber => "Identifier cannot follow number"
  | misplacedSeparator => "A numeric separator is only allowed between two digits"
  | legacyDecimal => "Legacy decimal escape is not permitted in strict mode"
  | legacyOctal => "Legacy octal escape is not permitted in strict mode"
  | octalLiteral =>
    "Legacy octal literals are not available when targeting ECMAScript 5 and higher"
  | legacyComment => "Legacy comments cannot be used in module code"
  | mergeMarker => "Merge conflict marker encountered."
  | unexpectedMarkup candidates =>
    "Unexpected token. Did you mean " ++ String.intercalate " or " candidates ++ "?"
  | unexpectedEnd => "Unexpected eof"
  | expected wanted got => "Expected '" ++ wanted ++ "', got '" ++ got ++ "'"
  | unexpected got wanted => "Unexpected token `" ++ got ++ "`. Expected " ++ wanted
  | expressionExpected => "Expression expected"
  | identifierExpected => "Expected ident"
  | identifierNameExpected => "Expected an identifier"
  | importTypeSource => "literal in an import type should be string literal"
  | semicolonExpected => "Expected a semicolon"
  | endOfStatementExpected => "Expected ';', '\x7d' or <eof>"
  | trailingComma => "Trailing comma is not allowed"
  | strictIdentifier word => "`" ++ word ++ "` cannot be used as an identifier in strict mode"
  | asyncIdentifier => "`await` cannot be used as an identifier in an async context"
  | strictBinding =>
    "'eval' and 'arguments' cannot be used as a binding identifier in strict mode"
  | strictUse => "Invalid use of 'arguments' in strict mode"
  | argumentsInField => "'arguments' is only allowed in functions and class methods"
  | spaceAfterHash => "Unexpected space between # and identifier"
  | invalidPattern => "Not a pattern"
  | invalidTarget => "Invalid assignment target"
  | notAssignable => "Cannot assign to this"
  | notReference =>
    "The left-hand side of an assignment expression must be a variable or a property access."
  | assignmentProperty => "assignment property is invalid syntax"
  | restNotLast => "Rest element must be final element"
  | restParameterNotLast => "A rest parameter must be last in a parameter list"
  | restWithInitializer => "A rest parameter cannot have an initializer"
  | restOptional => "A rest parameter cannot be optional"
  | commaAfterRest => "Trailing comma isn't permitted after a rest element"
  | restWithoutIdentifier => "`...` must be followed by an identifier in declaration contexts"
  | optionalPattern =>
    "A binding pattern parameter cannot be optional in an implementation signature."
  | optionalWithInitializer => "Parameter cannot have question mark and initializer"
  | logicalMix =>
    "Nullish coalescing operator(??) requires parens when mixing with logical operators"
  | unaryBeforePower => "'**' cannot be applied to unary/await expression."
  | chainedTemplate => "Tagged template literal is not allowed in optional chain."
  | unknownFlag => "Unknown regular expression flags."
  | repeatedFlag flag =>
    "Duplicated regular expression flag '" ++ String.ofList [flag] ++ "'."
  | awaitStar =>
    "await* has been removed from the async functions proposal. Use Promise.all() instead."
  | awaitInFunction => "await isn't allowed in non-async function"
  | awaitInParameter => "`await` expressions cannot be used in a parameter initializer."
  | yieldInParameter => "'yield' cannot be used as a parameter within generator"
  | deleteIdentifier => "`delete` cannot be called on an identifier in strict mode"
  | deleteNoReference => "The operand of a delete must be a property reference."
  | spreadInParentheses => "Parenthesized expression cannot contain spread operator"
  | emptyParentheses => "Parenthesized expression cannot be empty"
  | lineBreakBeforeArrow => "Unexpected line break between arrow head and arrow"
  | arrowNotAllowed => "An arrow function is not allowed here"
  | chainedConstructor => "Constructor in/after an optional chaining is not allowed."
  | invalidSuper => "Invalid access to super"
  | invalidSuperCall => "Invalid `super()`"
  | optionalSuperCall => "Super call cannot be optional"
  | invalidImport => "Import is not allowed here"
  | invalidNewTarget => 
    "'new.target' is only allowed in the body of a function declaration, function expression, or class."
  | nonNullNotAllowed word =>
    "Typescript non-null assertion operator is not allowed with '" ++ word ++ "'"
  | commaInComputedName => "A comma expression is not allowed in a computed property name"
  | optionalMember => "An object member cannot be declared optional"
  | modifierNotHere => "`async` modifier cannot be used here"
  | trailingCommaInImport => "Trailing comma is disallowed inside import(...) arguments"
  | returnOutside => "Return statement is not allowed here"
  | breakOutside =>
    "A 'break' statement can only be used within an enclosing iteration or switch statement"
  | breakLabel => "A 'break' statement can only jump to a label of an enclosing statement"
  | continueOutside =>
    "A 'continue' statement can only jump to a label of an enclosing iteration statement"
  | continueLabel => "Jump target cannot cross function boundary"
  | multipleDefaults => "A switch block cannot have multiple defaults"
  | lineBreakInThrow => "LineBreak cannot follow 'throw'"
  | withStatement =>
    "The 'with' statement is not supported. All symbols in a 'with' block will have type 'any'."
  | withInStrict => "With statement are not allowed in strict mode"
  | duplicateLabel label => "Label " ++ label ++ " is already declared"
  | labelledFunction => "Function cannot be labelled in strict mode"
  | labelledGenerator => "Generator or async function cannot be labelled"
  | declarationNotAllowed => "Declaration is not allowed"
  | constWithoutInitializer => "'const' declarations must be initialized"
  | patternWithoutInitializer => "Destructuring bindings require initializers"
  | tooManyBindings => "Expected one variable binding"
  | initializerInForIn => "Unexpected initializer in for in/of loop"
  | typeInForOf => "The left-hand side of a 'for...of' statement cannot use a type annotation"
  | patternInForIn =>
    "The left-hand side of a 'for...in' statement cannot be a destructuring pattern"
  | emptyDeclarationList => "Variable declaration list cannot be empty"
  | forAwaitOnlyOf => "for await syntax is valid only for for-of statement"
  | asyncInForOf => "The left-hand side of a `for...of` statement may not be `async`"
  | usingNotEnabled =>
    "Using declaration is not enabled. Set jsc.parser.explicitResourceManagement to true"
  | usingInForIn => "Using declaration is not allowed in for-in loop"
  | usingName => "Using declaration only allows identifiers"
  | usingWithoutInitializer => "Using declaration requires initializer"
  | illegalDirective =>
    "Illegal 'use strict' directive in function with non-simple parameter list."
  | getterParameter => "A `get` accessor cannot have parameters"
  | setterParameter => "A `set` accessor must have exactly one parameter"
  | restInSetter => "Rest pattern is not allowed in setter"
  | duplicateConstructor => "A class can only have one constructor"
  | generatorConstructor => "A constructor cannot be generator"
  | asyncConstructor => "Constructor can't be an async function"
  | constructorAccessor => "Class constructor can't be an accessor"
  | constructorProperty => "Classes may not have a non-static field named 'constructor'"
  | privateConstructor => "Classes can't have a private field named '#constructor'."
  | readonlyMethod => "A method cannot be readonly"
  | readonlyAccessor => "A getter or a setter cannot be readonly"
  | privateModifier word =>
    "'" ++ word ++ "' modifier cannot be used with a private identifier"
  | accessOnPrivate =>
    "An accessibility modifier cannot be used with a private identifier."
  | modifierSeen word => "'" ++ word ++ "' modifier already seen."
  | modifierOrder first second =>
    "'" ++ first ++ "' modifier must precede '" ++ second ++ "' modifier."
  | modifiersConflict first second =>
    "'" ++ first ++ "' modifier cannot be used with '" ++ second ++ "' modifier."
  | modifierOnConstructor word =>
    "'" ++ word ++ "' modifier cannot appear on a constructor declaration"
  | modifierOnTypeParameter word =>
    "'" ++ word ++ "' modifier cannot appear on a type parameter"
  | modifierOnlyOnClassParameter word =>
    "'" ++ word ++
      "' modifier can only appear on a type parameter of a class, interface or type alias"
  | modifierOnlyOnFunctionParameter word =>
    "'" ++ word ++
      "' modifier can only appear on a type parameter of a function, method or class"
  | modifierNotAllowed => "Modifiers cannot appear here"
  | declareOnMember => "`declare` modifier cannot appear on class elements of this kind"
  | overrideWithoutBase =>
    "This member cannot have an 'override' modifier because its containing class does not extend another class."
  | abstractOnlyOnClass =>
    "`abstract` modifier can only appear on a class or method declaration"
  | abstractOutsideClass => "Abstract methods can only appear within an abstract class."
  | abstractWithBody => "Abstract method cannot have an implementation."
  | abstractWithInitializer => "Abstract property cannot have an initializer."
  | typeParametersOnConstructor =>
    "Type parameters cannot appear on a constructor declaration"
  | emptyTypeParameters => "Type parameter list cannot be empty"
  | typeOnConstructor => "Type annotation cannot appear on a constructor declaration"
  | parameterProperty => "A parameter property is only allowed in a constructor implementation"
  | parameterPropertyPattern =>
    "Typescript parameter property must be an identifier or assignment pattern"
  | parameterInitializer =>
    "A parameter initializer is only allowed in a function or constructor implementation"
  | ambientImplementation => "An implementation cannot be declared in ambient contexts"
  | ambientDeclare => "`declare` modifier not allowed for code already in an ambient context"
  | extendsSeen => "`extends` clause already seen."
  | extendsAfterImplements => "'extends' clause must precede 'implements' clause."
  | extendsMany => "Classes can only extend a single class"
  | implementsSeen => "`implements` clause already seen."
  | className => "Invalid class name"
  | decoratorsTwice =>
    "Decorators may not appear after `export` or `export default` if they also appear before `export`."
  | exportNotAllowed => "`export` is not allowed here"
  | interfaceName => "interface name is invalid"
  | interfaceExtends =>
    "An interface can only extend an identifier/qualified-name with optional type arguments."
  | indexParameter => "An index signature must have exactly one parameter"
  | privateInInterface => "private names are not allowed in interface"
  | requiredAfterOptional => "A required element cannot follow an optional element."
  | numericEnumMember => "An enum member cannot have a numeric name"
  | computedEnumMember => "Computed property names are not allowed in enums"
  | moduleOnly => "'import', and 'export' cannot be used outside of module code"
  | importBindingString name =>
    "A string literal cannot be used as an imported binding.\n- Did you mean `import \x7b \""
      ++ name ++ "\" as foo \x7d`?"
  | exportBindingString =>
    "A string literal cannot be used as an exported binding without `from`."
  | exportNeedsFrom name => "`" ++ name ++ "` cannot be used without `from` clause"
  | typeModifierInImport =>
    "The 'type' modifier cannot be used on a named import when 'import type' is used on its import statement."
  | typeModifierInExport =>
    "The 'type' modifier cannot be used on a named export when 'export type' is used on its export statement."
  | emptyAttribute => "JSX attributes must only be assigned a non-empty expression"
  | invalidAttribute => "JSX value should be either an expression or a quoted JSX text"
  | closingTagExpected tag => "Expected corresponding JSX closing tag for <" ++ tag ++ ">"
  | closingFragmentExpected => "Expected corresponding JSX closing tag for <>"

/-- The fault of a token that could not be read, as that token is shown. -/
def tokenName : SyntaxFault → String
  | unexpectedChar c => "UnexpectedChar \x7b c: " ++ (Text.quotedChar c).toString ++ " \x7d"
  | unterminatedTemplate => "UnterminatedTpl"
  | unterminatedRegex => "UnterminatedRegExp"
  | unterminatedMarkup => "UnterminatedJSXContents"
  | badEscape wanted =>
    "BadCharacterEscapeSequence \x7b expected: " ++ (Text.quoted wanted.toList).toString ++ " \x7d"
  | invalidEscape => "InvalidStrEscape"
  | invalidUnicodeEscape => "InvalidUnicodeEscape"
  | unicodeEscapeExpected => "ExpectedUnicodeEscape"
  | escapedReservedWord word =>
    "EscapeInReservedWord \x7b word: " ++ (Text.quoted word.toList).toString ++ " \x7d"
  | digitExpected radix => "ExpectedDigit \x7b radix: " ++ radix.repr ++ " \x7d"
  | exponentExpected => "NumLitTerminatedWithExp"
  | identifierAfterNumber => "IdentAfterNum"
  | mergeMarker => "TS1185"
  | f => f.message

end SyntaxFault

/-- A fault and the bytes it is about. -/
structure Fault where
  span : Span
  fault : SyntaxFault
deriving DecidableEq, Repr, Inhabited

/-- A token that could not be read as an error shows it, with bytes counted from one. -/
def Fault.asToken (f : Fault) : String :=
  "<lexing error: Error \x7b error: (" ++ (f.span.lo + 1).repr ++ ".." ++ (f.span.hi + 1).repr
    ++ ", " ++ f.fault.tokenName ++ ") \x7d>"

end ImportLint.Syntax
