import ScriptSuite.Script.Fault

set_option autoImplicit false

namespace ScriptSuite.Script

open Number

inductive VarKind where
  | var | «let» | const
deriving DecidableEq, Repr

def VarKind.text : VarKind → String
  | .var => "var"
  | .«let» => "let"
  | .const => "const"

inductive MethodKind where
  | method | getter | setter
deriving DecidableEq, Repr

inductive UnaryOp where
  | neg | plus | not | bitNot | typeOf | void | delete
deriving DecidableEq, Repr

inductive UpdateOp where
  | increment | decrement
deriving DecidableEq, Repr

inductive BinaryOp where
  | add | sub | mul | div | mod | pow | eq | notEq | strictEq | strictNotEq | lt | gt | ltEq | gtEq
  | shl | shr | uShr | bitAnd | bitOr | bitXor | and | or | nullish | isIn | instanceOf
deriving DecidableEq, Repr

inductive AssignOp where
  | assign | add | sub | mul | div | mod | pow | shl | shr | uShr | bitAnd | bitOr | bitXor | and | or
  | nullish
deriving DecidableEq, Repr

inductive Literal where
  | string (value : String)
  | number (value : Double)
  | bigint (literal : String)
  | bool (value : Bool)
  | null
  | regex (pattern flags : String)
deriving DecidableEq, Repr

inductive ImportSpecifier where
  | default (name : String)
  | all (name : String)
  | named (imported name : String)
deriving DecidableEq, Repr

mutual

inductive Statement where
  | var (decl : VarDecl)
  | function (function : Function)
  | classDecl (decl : Class)
  | expr (value : Spanned Expr)
  | block (body : List (Spanned Statement))
  | conditional (condition : Spanned Expr) (yes : Spanned Statement) (no : Option (Spanned Statement))
  | forLoop (init : Option ForInit) (test update : Option (Spanned Expr)) (body : Spanned Statement)
  | forEach (left : ForInit) (ofKeys : Bool) (right : Spanned Expr) (body : Spanned Statement)
  | whileLoop (condition : Spanned Expr) (body : Spanned Statement)
  | doWhile (condition : Spanned Expr) (body : Spanned Statement)
  | within (object : Spanned Expr) (body : Spanned Statement)
  | returns (value : Option (Spanned Expr))
  | throws (value : Spanned Expr)
  | tries (block : List (Spanned Statement)) (handler : Option CatchClause)
      (finalizer : Option (List (Spanned Statement)))
  | switch (discriminant : Spanned Expr) (cases : List SwitchCase)
  | breaks (label : Option String)
  | continues (label : Option String)
  | labeled (label : String) (body : Spanned Statement)
  | imports (specifiers : List ImportSpecifier) (source : String)
  | exportsDeclaration (declaration : Spanned Statement)
  | exportsDefault (value : Spanned Expr)
  | exportsNamed (names : List (String × String)) (source : Option String)
  | exportsAll (renamed : Option String) (source : String)
  | debugger
  | empty

structure VarDecl where
  kind : VarKind
  declarators : List Declarator

structure Declarator where
  target : Spanned Pattern
  init : Option (Spanned Expr)

inductive ForInit where
  | var (decl : VarDecl)
  | expr (value : Spanned Expr)

structure CatchClause where
  param : Option (Spanned Pattern)
  body : List (Spanned Statement)

structure SwitchCase where
  test : Option (Spanned Expr)
  body : List (Spanned Statement)

inductive Pattern where
  | ident (name : String)
  | object (props : List PatternProp)
  | array (items : List (Option (Spanned Pattern)))
  | withDefault (target : Spanned Pattern) (value : Spanned Expr)
  | rest (target : Spanned Pattern)

inductive PatternProp where
  | keyValue (key : PropKey) (value : Spanned Pattern)
  | rest (target : Spanned Pattern)

structure Function where
  name : Option String
  params : List (Spanned Pattern)
  body : List (Spanned Statement)
  isAsync : Bool
  isGenerator : Bool

inductive ArrowBody where
  | expr (value : Spanned Expr)
  | block (body : List (Spanned Statement))

structure Class where
  name : Option String
  heritage : Option (Spanned Expr)
  members : List (Spanned ClassMember)

inductive ClassMember where
  | method (key : PropKey) (kind : MethodKind) (isStatic : Bool) (function : Function)
  | field (key : PropKey) (isStatic : Bool) (value : Option (Spanned Expr))
  | staticBlock (body : List (Spanned Statement))

inductive Expr where
  | ident (name : String)
  | literal (value : Literal)
  | template (template : Template)
  | tagged (tag : Spanned Expr) (template : Template)
  | array (items : List (Option (Spanned Expr)))
  | object (props : List Property)
  | function (function : Function)
  | arrow (params : List (Spanned Pattern)) (body : ArrowBody) (isAsync : Bool)
  | classExpr (decl : Class)
  | unary (op : UnaryOp) (operand : Spanned Expr)
  | update (op : UpdateOp) (isPrefix : Bool) (target : Spanned Expr)
  | binary (left : Spanned Expr) (op : BinaryOp) (right : Spanned Expr)
  | assign (target : Spanned Expr) (op : AssignOp) (value : Spanned Expr)
  | conditional (test consequent alternate : Spanned Expr)
  | call (callee : Spanned Expr) (args : List (Spanned Expr)) (optional : Bool)
  | new (callee : Spanned Expr) (args : List (Spanned Expr))
  | member (object : Spanned Expr) (property : MemberProp) (optional : Bool)
  | sequence (items : List (Spanned Expr))
  | spread (value : Spanned Expr)
  | await (value : Spanned Expr)
  | yield (argument : Option (Spanned Expr)) (delegate : Bool)
  | paren (value : Spanned Expr)
  | this
  | super
  | metaProperty (object property : String)

structure Template where
  quasis : List String
  exprs : List (Spanned Expr)

inductive MemberProp where
  | ident (name : String)
  | computed (value : Spanned Expr)

inductive Property where
  | keyValue (key : PropKey) (value : Spanned Expr)
  | shorthand (name : String)
  | method (key : PropKey) (kind : MethodKind) (function : Function)
  | spread (value : Spanned Expr)

inductive PropKey where
  | ident (name : String)
  | string (value : String)
  | number (value : Double)
  | computed (value : Spanned Expr)

end

abbrev Body := List (Spanned Statement)

structure Program where
  body : Body
  recovered : List SyntaxError

def Template.plain? (template : Template) : Option String :=
  match template.quasis, template.exprs with
  | [text], [] => some text
  | _, _ => none

end ScriptSuite.Script
