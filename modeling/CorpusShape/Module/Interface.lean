import CorpusShape.Module.Names

/-!
# Imports and exports

What the import and export statements at the top of a module say.
-/
namespace CorpusShape

open Syntax

/-- The last named child of the given kind. -/
def lastChild? (n : Node) (kind : String) : Option Node :=
  n.namedChildren.reverse.find? fun c => c.kind == kind

/-- Names before and after `as`, for the named children of the given kind: the name that is bound or
exported, with the name it has on the other side. -/
def specifierNames (src : Source) (kind : String) (n : Node) : Table String :=
  (n.namedChildren.filter (·.kind == kind)).foldl
    (fun t spec =>
      let name := src.textOf? (spec.child? "name")
      let outer := match spec.child? "alias" with
        | some a => src.textOf a
        | none => name
      t.put outer name) []

/-- Adds what one child of an import clause binds. -/
def addImported (src : Source) (i : Import) (n : Node) : Import :=
  if n.kind == "identifier" then { i with standard := some (src.textOf n) }
  else if n.kind == "namespace_import" then
    match n.namedChild? "identifier" with
    | some a => { i with whole := some (src.textOf a) }
    | none => i
  else if n.kind == "named_imports" then
    { i with names := (specifierNames src "import_specifier" n).foldl (fun t p => t.put p.1 p.2) i.names }
  else i

/-- The import that an import statement makes, if it names a module. -/
def importOf? (src : Source) (n : Node) : Option Import :=
  match lastChild? n "import_require_clause" with
  | some required =>
    match required.child? "source" <|> required.namedChild? "string" with
    | none => none
    | some from_ =>
      some { specifier := unquoted (src.textOf from_), line := src.line n.start, isRequire := true,
             whole := (required.namedChild? "identifier").map src.textOf }
  | none =>
    match n.child? "source" with
    | none => none
    | some from_ =>
      let start : Import := { specifier := unquoted (src.textOf from_), line := src.line n.start }
      match lastChild? n "import_clause" with
      | none => some start
      | some clause => some (clause.namedChildren.foldl (addImported src) start)

/-- Binds a name that is there and not empty. -/
def bindIfNamed (f : Frame) (name : Option String) (b : Binding) : Frame :=
  match name with
  | some n => if n.isEmpty then f else f.put n b
  | none => f

/-- Binds the names of an import. -/
def Frame.bindImport (f : Frame) (i : Import) : Frame :=
  let f := bindIfNamed f i.standard (.imported i.specifier "default")
  let f := bindIfNamed f i.whole (.imported i.specifier "*")
  i.names.foldl (fun f p => f.put p.1 (.imported i.specifier p.2)) f

/-- Adds the names that an export statement exposes. -/
def Module.addExport (src : Source) (m : Module) (n : Node) : Module :=
  match n.child? "source" with
  | some from_ =>
    let specifier := unquoted (src.textOf from_)
    match n.namedChild? "export_clause", n.namedChild? "namespace_export" with
    | some clause, _ =>
      { m with reexports := m.reexports ++
          [{ specifier, names := some (specifierNames src "export_specifier" clause) }] }
    | none, some space =>
      { m with reexports := m.reexports ++
          [{ specifier, whole := some (src.textOf? space.namedChildren.getLast?) }] }
    | none, none =>
      if n.hasToken "*" then { m with reexports := m.reexports ++ [{ specifier }] } else m
  | none =>
    if n.hasToken "default" then
      let inner := match n.child? "declaration" with
        | some d => (declaredNames src d).head?
        | none =>
          match n.child? "value" with
          | some v => if v.kind == "identifier" then some (src.textOf v) else none
          | none => none
      { m with exports := m.exports.put "default" inner }
    else
      let names : Table String := match n.child? "declaration", n.namedChild? "export_clause" with
        | some d, _ => (declaredNames src d).map fun name => (name, name)
        | none, some clause => specifierNames src "export_specifier" clause
        | none, none => []
      { m with exports := names.foldl (fun t p => t.put p.1 (some p.2)) m.exports }

end CorpusShape
