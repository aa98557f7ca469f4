import ScriptSuite.Number.Decimal
import ScriptSuite.Script.Span

set_option autoImplicit false

namespace ScriptSuite.Script

open Number

inductive Keyword where
  | breakWord | caseWord | catchWord | classWord | constWord | continueWord | debuggerWord | defaultWord
  | deleteWord | doWord | elseWord | exportWord | extendsWord | finallyWord | forWord | functionWord
  | ifWord | importWord | inWord | instanceOfWord | newWord | returnWord | superWord | switchWord
  | thisWord | throwWord | tryWord | typeOfWord | varWord | voidWord | whileWord | withWord | trueWord
  | falseWord | nullWord
deriving DecidableEq, Repr

namespace Keyword

def all : List Keyword :=
  [.breakWord, .caseWord, .catchWord, .classWord, .constWord, .continueWord, .debuggerWord, .defaultWord,
   .deleteWord, .doWord, .elseWord, .exportWord, .extendsWord, .finallyWord, .forWord, .functionWord,
   .ifWord, .importWord, .inWord, .instanceOfWord, .newWord, .returnWord, .superWord, .switchWord,
   .thisWord, .throwWord, .tryWord, .typeOfWord, .varWord, .voidWord, .whileWord, .withWord, .trueWord,
   .falseWord, .nullWord]

def spelling : Keyword → String
  | .breakWord => "break"
  | .caseWord => "case"
  | .catchWord => "catch"
  | .classWord => "class"
  | .constWord => "const"
  | .continueWord => "continue"
  | .debuggerWord => "debugger"
  | .defaultWord => "default"
  | .deleteWord => "delete"
  | .doWord => "do"
  | .elseWord => "else"
  | .exportWord => "export"
  | .extendsWord => "extends"
  | .finallyWord => "finally"
  | .forWord => "for"
  | .functionWord => "function"
  | .ifWord => "if"
  | .importWord => "import"
  | .inWord => "in"
  | .instanceOfWord => "instanceof"
  | .newWord => "new"
  | .returnWord => "return"
  | .superWord => "super"
  | .switchWord => "switch"
  | .thisWord => "this"
  | .throwWord => "throw"
  | .tryWord => "try"
  | .typeOfWord => "typeof"
  | .varWord => "var"
  | .voidWord => "void"
  | .whileWord => "while"
  | .withWord => "with"
  | .trueWord => "true"
  | .falseWord => "false"
  | .nullWord => "null"

def ofName? (name : String) : Option Keyword :=
  all.find? fun keyword => keyword.spelling == name

theorem ofName?_spelling (keyword : Keyword) : ofName? keyword.spelling = some keyword := by
  cases keyword <;> decide

end Keyword

inductive Punct where
  | uShrEq | ellipsis | eqEqEq | notEqEq | starStarEq | shlEq | shrEq | uShr | ampAmpEq | pipePipeEq
  | questionQuestionEq | arrow | eqEq | notEq | ltEq | gtEq | ampAmp | pipePipe | questionQuestion
  | questionDot | plusPlus | minusMinus | plusEq | minusEq | starEq | slashEq | percentEq | ampEq | pipeEq
  | caretEq | starStar | shl | shr | lBrace | rBrace | lParen | rParen | lBracket | rBracket | semi | comma
  | colon | question | dot | at | plus | minus | star | slash | percent | amp | pipe | caret | bang | tilde
  | lt | gt | eq
deriving DecidableEq, Repr

namespace Punct

def all : List Punct :=
  [.uShrEq, .ellipsis, .eqEqEq, .notEqEq, .starStarEq, .shlEq, .shrEq, .uShr, .ampAmpEq, .pipePipeEq,
   .questionQuestionEq, .arrow, .eqEq, .notEq, .ltEq, .gtEq, .ampAmp, .pipePipe, .questionQuestion,
   .questionDot, .plusPlus, .minusMinus, .plusEq, .minusEq, .starEq, .slashEq, .percentEq, .ampEq, .pipeEq,
   .caretEq, .starStar, .shl, .shr, .lBrace, .rBrace, .lParen, .rParen, .lBracket, .rBracket, .semi,
   .comma, .colon, .question, .dot, .at, .plus, .minus, .star, .slash, .percent, .amp, .pipe, .caret,
   .bang, .tilde, .lt, .gt, .eq]

def spelling : Punct → List Char
  | .uShrEq => ['>', '>', '>', '=']
  | .ellipsis => ['.', '.', '.']
  | .eqEqEq => ['=', '=', '=']
  | .notEqEq => ['!', '=', '=']
  | .starStarEq => ['*', '*', '=']
  | .shlEq => ['<', '<', '=']
  | .shrEq => ['>', '>', '=']
  | .uShr => ['>', '>', '>']
  | .ampAmpEq => ['&', '&', '=']
  | .pipePipeEq => ['|', '|', '=']
  | .questionQuestionEq => ['?', '?', '=']
  | .arrow => ['=', '>']
  | .eqEq => ['=', '=']
  | .notEq => ['!', '=']
  | .ltEq => ['<', '=']
  | .gtEq => ['>', '=']
  | .ampAmp => ['&', '&']
  | .pipePipe => ['|', '|']
  | .questionQuestion => ['?', '?']
  | .questionDot => ['?', '.']
  | .plusPlus => ['+', '+']
  | .minusMinus => ['-', '-']
  | .plusEq => ['+', '=']
  | .minusEq => ['-', '=']
  | .starEq => ['*', '=']
  | .slashEq => ['/', '=']
  | .percentEq => ['%', '=']
  | .ampEq => ['&', '=']
  | .pipeEq => ['|', '=']
  | .caretEq => ['^', '=']
  | .starStar => ['*', '*']
  | .shl => ['<', '<']
  | .shr => ['>', '>']
  | .lBrace => ['{']
  | .rBrace => ['}']
  | .lParen => ['(']
  | .rParen => [')']
  | .lBracket => ['[']
  | .rBracket => [']']
  | .semi => [';']
  | .comma => [',']
  | .colon => [':']
  | .question => ['?']
  | .dot => ['.']
  | .at => ['@']
  | .plus => ['+']
  | .minus => ['-']
  | .star => ['*']
  | .slash => ['/']
  | .percent => ['%']
  | .amp => ['&']
  | .pipe => ['|']
  | .caret => ['^']
  | .bang => ['!']
  | .tilde => ['~']
  | .lt => ['<']
  | .gt => ['>']
  | .eq => ['=']

def longest? (text : List Char) : Option Punct :=
  all.find? fun punct => punct.spelling.isPrefixOf text

theorem longest?_spelling (punct : Punct) : longest? punct.spelling = some punct := by
  cases punct <;> decide

end Punct

inductive TemplatePart where
  | text (value : String)
  | substitution (source : String) (offset : Nat)
deriving DecidableEq, Repr

inductive TokenKind where
  | keyword (word : Keyword)
  | punct (mark : Punct)
  | identifier (name : String)
  | privateName (name : String)
  | number (value : Double)
  | bigint (literal : String)
  | string (value : String)
  | template (parts : List TemplatePart)
  | regex (pattern flags : String)
  | endOfFile
deriving DecidableEq, Repr, Inhabited

structure Token where
  kind : TokenKind
  span : Span
  newlineBefore : Bool
deriving DecidableEq, Repr, Inhabited

namespace TokenKind

def describe : TokenKind → String
  | .keyword word => "'" ++ word.spelling ++ "'"
  | .punct mark => "'" ++ String.ofList mark.spelling ++ "'"
  | .identifier name => "identifier '" ++ name ++ "'"
  | .privateName name => "'#" ++ name ++ "'"
  | .number value => "number " ++ value.toText
  | .bigint literal => "bigint " ++ literal ++ "n"
  | .string _ => "string literal"
  | .template _ => "template literal"
  | .regex _ _ => "regular expression"
  | .endOfFile => "end of file"

def endsOperand : TokenKind → Bool
  | .punct mark => mark ∈ [.rParen, .rBracket, .plusPlus, .minusMinus]
  | .keyword word => word ∈ [.thisWord, .superWord, .trueWord, .falseWord, .nullWord]
  | _ => true

end TokenKind

end ScriptSuite.Script
