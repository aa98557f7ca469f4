import ScriptSuite.Script.Token

set_option autoImplicit false

namespace ScriptSuite.Script

inductive Expectation where
  | mark (punct : Punct)
  | word (text : String)
  | identifier
  | propertyName
  | stringLiteral
  | expression
  | bindingTarget
  | functionName
  | className
  | switchLabel
  | importSpecifier
  | exportedDeclaration
deriving DecidableEq, Repr

def Expectation.describe : Expectation → String
  | .mark punct => "'" ++ String.ofList punct.spelling ++ "'"
  | .word text => "'" ++ text ++ "'"
  | .identifier => "identifier"
  | .propertyName => "property name"
  | .stringLiteral => "string literal"
  | .expression => "expression"
  | .bindingTarget => "binding name or pattern"
  | .functionName => "function name"
  | .className => "class name"
  | .switchLabel => "'case' or 'default'"
  | .importSpecifier => "import specifier"
  | .exportedDeclaration => "declaration after 'export'"

inductive Fault where
  | unterminatedComment
  | unterminatedString
  | unterminatedTemplate
  | unterminatedRegex
  | unexpectedCharacter (c : Char)
  | invalidNumber (text : String)
  | nameAfterNumber
  | missingRadixDigits
  | unexpected (wanted : Expectation) (found : TokenKind)
  | nestingTooDeep
  | newlineAfterThrow
  | tryWithoutHandler
  | unclosedBlock
  | unclosedClassBody
deriving DecidableEq, Repr

def Fault.message : Fault → String
  | .unterminatedComment => "Unterminated block comment"
  | .unterminatedString => "Unterminated string literal"
  | .unterminatedTemplate => "Unterminated template literal"
  | .unterminatedRegex => "Unterminated regular expression"
  | .unexpectedCharacter c => "Unexpected character '" ++ c.toString ++ "'"
  | .invalidNumber text => "Invalid number literal '" ++ text ++ "'"
  | .nameAfterNumber => "Identifier starts immediately after numeric literal"
  | .missingRadixDigits => "Missing digits after radix prefix"
  | .unexpected wanted found => "Expected " ++ wanted.describe ++ ", found " ++ found.describe
  | .nestingTooDeep => "Nesting too deep"
  | .newlineAfterThrow => "Illegal newline after throw"
  | .tryWithoutHandler => "Missing catch or finally after try"
  | .unclosedBlock => "Expected '\x7d' before end of file"
  | .unclosedClassBody => "Expected '\x7d' to close class body"

structure SyntaxError where
  fault : Fault
  span : Span
deriving DecidableEq, Repr

namespace SyntaxError

def message (error : SyntaxError) : String :=
  error.fault.message

def shift (distance : Nat) (error : SyntaxError) : SyntaxError :=
  { error with span := error.span.shift distance }

end SyntaxError

end ScriptSuite.Script
