import CorpusShape.Scope
import CorpusShape.Syntax.Grammar

/-!
# Modules

What is known of one module of a corpus: its imports and exports, its functions and classes, and its
call sites with the scopes they see.
-/
namespace CorpusShape

/-- An import and the local names it binds. -/
structure Import where
  specifier : String
  line : Nat
  /-- The local name of the default export. -/
  standard : Option String := none
  /-- The local name of the whole module. -/
  whole : Option String := none
  /-- Local names with the names they have in the imported module. -/
  names : Table String := []
  /-- Written as `import x = require("...")`. -/
  isRequire : Bool := false
deriving Repr, Inhabited

/-- Whether a specifier names a file and not a package. -/
def isFileSpecifier (specifier : String) : Bool :=
  match specifier.toList with
  | c :: _ => c == '.' || c == '/'
  | [] => false

namespace Import

def isRelative (i : Import) : Bool := isFileSpecifier i.specifier

end Import

/-- Exports that are taken over from another module: the listed names, the whole module under one name,
or everything. -/
structure Reexport where
  specifier : String
  /-- Exported names with the names they have in the other module. -/
  names : Option (Table String) := none
  /-- The name under which the whole module is exported. -/
  whole : Option String := none
deriving Repr, Inhabited

namespace Reexport

/-- Everything but the default export is taken over. -/
def isStar (r : Reexport) : Bool := r.names.isNone && r.whole.isNone

end Reexport

/-- A method of a class. -/
structure Method where
  name : String
  line : Nat
  body : String
  accessibility : Option String
deriving Repr, Inhabited

namespace Method

def isPublic (m : Method) : Bool :=
  m.accessibility != some "private" && m.accessibility != some "protected"

end Method

/-- A function at the top of a module. -/
structure TopFunction where
  name : String
  line : Nat
  body : String
  exported : Bool
deriving Repr, Inhabited

/-- A class with its members. -/
structure ClassShape where
  name : Option String
  line : Nat
  methods : List Method := []
  propertyCount : Nat := 0
  constructorCount : Nat := 0
  members : List String := []
  /-- The left-most name of what the class extends. -/
  base : Option String := none
  /-- The scope in which the base is looked up. -/
  scope : Option Scope := none
deriving Repr, Inhabited

/-- The forms of a callee. -/
inductive CalleeKind where
  | name
  | member
  | super
  | other
deriving DecidableEq, Repr, Inhabited

/-- A call with what is needed to find the module that declares its callee. -/
structure CallSite where
  line : Nat
  kind : CalleeKind
  text : String
  /-- The left-most name of the callee, or `this` or `super`. -/
  root : Option String := none
  members : List String := []
  scope : Option Scope := none
  /-- The class around the call. -/
  owner : Option ClassShape := none
deriving Repr, Inhabited

/-- One module of a corpus. -/
structure Module where
  path : String
  text : String := ""
  imports : List Import := []
  /-- Exported names with the local names they stand for. -/
  exports : Table (Option String) := []
  reexports : List Reexport := []
  functions : List TopFunction := []
  classes : List ClassShape := []
  calls : List CallSite := []
  /-- Class members and object keys that are declared anywhere in the module. -/
  members : List String := []
  /-- The bindings at the top of the module. -/
  frame : Frame := []
deriving Repr, Inhabited

end CorpusShape
