import CorpusShape.Path
import CorpusShape.Table
/-!
# Environment variables

Variables, and paths in which variables and the home directory are named.
-/
namespace CorpusShape

abbrev Environment := Table String

namespace Environment

def isNameChar (c : Char) : Bool := c.isAlphanum || c == '_'

/-- The name of a variable after a dollar sign, with or without braces, and the rest. -/
def nameAfter? (cs : List Char) : Option (String × List Char) :=
  match cs with
  | '\x7b' :: rest =>
    match rest.dropWhile (· != '\x7d') with
    | _ :: after => some (String.ofList (rest.takeWhile (· != '\x7d')), after)
    | [] => none
  | _ =>
    let name := cs.takeWhile isNameChar
    if name.isEmpty then none else some (String.ofList name, cs.dropWhile isNameChar)

/-- Puts in the values of variables. A variable that is not set stays as it is written, and values are not
looked through again. The fuel is the number of characters. -/
def expandFrom (env : Environment) : Nat → List Char → List Char
  | _, [] => []
  | 0, cs => cs
  | fuel + 1, c :: rest =>
    let keep := c :: expandFrom env fuel rest
    if c == '$' then
      match nameAfter? rest with
      | some (name, after) =>
        match env.get? name with
        | some value => value.toList ++ expandFrom env fuel after
        | none => c :: rest.take (rest.length - after.length) ++ expandFrom env fuel after
      | none => keep
    else keep

def expandVariables (env : Environment) (s : String) : String :=
  String.ofList (expandFrom env s.length s.toList)

/-- Puts in the home directory for a tilde that is the whole first part. -/
def expandHome (env : Environment) (s : String) : String :=
  match s.toList, env.get? "HOME" with
  | '~' :: rest, some home =>
    if rest.isEmpty || rest.head? == some '/' then
      let path := Path.dropTrailingStrokes home.toList ++ rest
      if path.isEmpty then "/" else String.ofList path
    else s
  | _, _ => s

/-- The path that a text means. -/
def expandPath (env : Environment) (s : String) : String := Path.spelled (env.expandHome (env.expandVariables s))

end Environment

end CorpusShape
