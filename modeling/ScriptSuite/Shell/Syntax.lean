set_option autoImplicit false

namespace ScriptSuite.Shell

abbrev Word := List Char

inductive RedirectKind where
  | read | write | append | duplicate
  -- A text in the script itself; unless its end was quoted, substitutions are made in it.
  | document (expands : Bool)
deriving DecidableEq, Repr

structure Redirect where
  descriptor : Nat
  kind : RedirectKind
  target : Word
deriving DecidableEq, Repr

inductive Command where
  | nothing
  | simple (line : Nat) (assignments : List (String × Word)) (words : List Word) (redirects : List Redirect)
  | pipeline (first second : Command)
  | negation (command : Command)
  | conjunction (first second : Command)
  | disjunction (first second : Command)
  | sequence (first second : Command)
  | background (command : Command)
  | conditional (condition yes no : Command)
  | repetition (whileSucceeds : Bool) (condition body : Command)
  | iteration (name : String) (words : Option (List Word)) (body : Command)
  | choice (word : Word) (branches : List (List Word × Command))
  | group (body : Command) (redirects : List Redirect)
  | subshell (body : Command) (redirects : List Redirect)
  | function (name : String) (body : Command)
deriving Inhabited

end ScriptSuite.Shell
