/-!
# Scripts

The commands of a shell: tools with their arguments and redirections, joined by what becomes of the
ones before, repeated, or run apart.
-/

set_option autoImplicit false

namespace BundleWatch.Shell

def isNameChar (c : Char) : Bool := c.isAlphanum || c = '_'

inductive Change
  | fallback (empty : Bool) (text : String)
  | instead (empty : Bool) (text : String)
  | cutStart (longest : Bool) (pattern : String)
  | cutEnd (longest : Bool) (pattern : String)
  | size
deriving DecidableEq

inductive Fragment
  | plain (s : String)
  | quoted (s : String)
  | variable (name : String) (change : Option Change) (isQuoted : Bool)
  | output (script : String) (isQuoted : Bool)
  | arithmetic (text : String)
deriving DecidableEq

abbrev Word := List Fragment

inductive RedirectMode
  | read
  | write
  | append
  | duplicate
deriving DecidableEq

structure Redirection where
  channel : Nat
  mode : RedirectMode
  target : Word
deriving DecidableEq

inductive Script
  | skip
  | simple (assignments : List (String × Word)) (words : List Word)
      (redirections : List Redirection)
  | redirected (body : Script) (redirections : List Redirection)
  | subshell (body : Script)
  | both (first second : Script)
  | andThen (first second : Script)
  | orElse (first second : Script)
  | negate (body : Script)
  | pipe (source target : Script)
  | background (body : Script)
  | choose (condition yes no : Script)
  | loop (whileFails : Bool) (condition body : Script)
  | each (name : String) (items : List Word) (body : Script)
deriving DecidableEq, Inhabited

inductive ScriptError
  | unterminated (what : String)
  | unexpected (what : String)
deriving DecidableEq

def ScriptError.message : ScriptError → String
  | .unterminated what => "Syntax error: Unterminated " ++ what
  | .unexpected what => "Syntax error: " ++ what ++ " unexpected"

end BundleWatch.Shell
