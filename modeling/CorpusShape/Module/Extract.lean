import CorpusShape.Module.Calls
import CorpusShape.Module.Interface
import CorpusShape.Path
import CorpusShape.Syntax.Parse

/-!
# Extraction

A module is read off the syntax tree of its text. A tree with a fault, and a text without a tree, give
a failure instead.
-/
namespace CorpusShape

open Syntax

/-- Why a module could not be read. -/
inductive ParseReason where
  | syntaxError
  | notUtf8 (detail : String)
  | unreadable (detail : String)
  | stated (reason : String)
deriving DecidableEq, Repr

namespace ParseReason

def message : ParseReason → String
  | .syntaxError => "syntax error"
  | .notUtf8 detail => "not valid UTF-8: " ++ detail
  | .unreadable detail => "unreadable: " ++ detail
  | .stated reason => reason

end ParseReason

/-- A module that could not be read, with the line of its first fault where one is known. -/
structure ParseFailure where
  path : String
  reason : ParseReason
  line : Option Nat := none
deriving DecidableEq, Repr

namespace ParseFailure

/-- The path, with the line after it if one is known. -/
def location (f : ParseFailure) : String :=
  match f.line with
  | none => f.path
  | some 0 => f.path
  | some line => f.path ++ ":" ++ toString line

def message (f : ParseFailure) : String :=
  "Failed to parse " ++ f.location ++ ": " ++ f.reason.message

end ParseFailure

/-- Adds the import or export that a statement makes. -/
def Module.addStatement (src : Source) (m : Module) (n : Node) : Module :=
  if n.kind == "import_statement" then
    match importOf? src n with
    | some i => { m with imports := m.imports ++ [i], frame := m.frame.bindImport i }
    | none => m
  else if n.kind == "export_statement" then m.addExport src n
  else m

/-- The function that a node is, at the top of a module whose exports stand for `exportedLocals`. -/
def topFunction (src : Source) (exportedLocals : List String) (exported : Bool) (n : Node) :
    TopFunction :=
  let name := match n.child? "name" with
    | some name => src.textOf name
    | none => "default"
  { name, line := src.line n.start, body := src.textOf? (n.child? "body"),
    exported := exported || exportedLocals.contains name }

/-- Adds a function or class that stands at the top of the module. -/
def Module.addTop (src : Source) (exportedLocals : List String) (m : Module) (child : Node) :
    Module :=
  let isExport := child.kind == "export_statement"
  match if isExport then child.child? "declaration" <|> child.child? "value" else some child with
  | none => m
  | some n =>
    if isExport && functionExpressionKinds.contains n.kind then
      let f : TopFunction :=
        { name := "default", line := src.line n.start, body := src.textOf? (n.child? "body"), exported := true }
      { m with functions := m.functions ++ [f] }
    else if ["function_declaration", "generator_function_declaration"].contains n.kind then
      { m with functions := m.functions ++ [topFunction src exportedLocals isExport n] }
    else if classKinds.contains n.kind then
      { m with classes := m.classes ++ [classShape src [m.frame] n] }
    else m

/-- The module of a sound syntax tree. -/
def extract (path text : String) (root : Node) : Module :=
  let src := Source.ofString text
  let m := root.namedChildren.foldl (Module.addStatement src) { path, text }
  let m := { m with frame := hoist src root m.frame }
  let exportedLocals := m.exports.filterMap fun p => p.2.filter (!·.isEmpty)
  let m := root.namedChildren.foldl (Module.addTop src exportedLocals) m
  let found := findings src root m.frame
  { m with calls := found.calls, members := found.members }

/-- The module of a syntax tree, unless the tree has a fault. -/
def Module.ofTree (path text : String) (root : Node) : Except ParseFailure Module :=
  if root.hasFault then
    let line := root.firstFault?.map fun n => (Source.ofString text).line n.start
    .error { path, reason := .syntaxError, line }
  else .ok (extract path text root)

/-- The dialect of a file, by its extension in any case of letters. -/
def dialectOf? (path : String) : Option Dialect :=
  match String.ofList ((Path.extension path).toList.map Char.toLower) with
  | ".ts" => some .typescript
  | ".mts" => some .typescript
  | ".cts" => some .typescript
  | ".tsx" => some .tsx
  | ".js" => some .javascript
  | ".mjs" => some .javascript
  | ".cjs" => some .javascript
  | ".jsx" => some .javascript
  | _ => none

/-- The module of a source text. -/
def Module.ofText (dialect : Dialect) (path text : String) : Except ParseFailure Module :=
  match parse dialect text with
  | .ok root => Module.ofTree path text root
  | .error offset => .error { path, reason := .syntaxError, line := (Source.ofString text).line offset }

end CorpusShape
