import CorpusShape.Module
import CorpusShape.Path

/-!
# Corpora

A corpus holds modules by their paths, in the order in which they were found. A specifier that names a
file is looked up under several spellings: as it is, with the extension of a compiled file replaced by
that of its source, with an extension added, and as a directory with an index file.
-/
namespace CorpusShape

/-- Modules by path. -/
structure Corpus where
  modules : Table Module := []
deriving Repr, Inhabited

namespace Corpus

def get? (c : Corpus) (path : String) : Option Module := c.modules.get? path

def contains (c : Corpus) (path : String) : Bool := c.modules.contains path

def paths (c : Corpus) : List String := c.modules.keys

def size (c : Corpus) : Nat := c.modules.length

/-- The modules in the order in which they were found. -/
def toList (c : Corpus) : List Module := c.modules.map (·.2)

/-- Adds a module under its own path; a module that is there already is replaced in its place. -/
def add (c : Corpus) (m : Module) : Corpus := ⟨c.modules.put m.path m⟩

def remove (c : Corpus) (path : String) : Corpus := ⟨c.modules.erase path⟩

def ofModules (ms : List Module) : Corpus := ms.foldl add {}

/-- Extensions that are tried after a specifier, in this order. -/
def sourceExtensions : List String := [".ts", ".tsx", ".mts", ".cts", ".js", ".jsx", ".mjs", ".cjs"]

/-- The extensions of the sources from which a file of the given extension is compiled. -/
def compiledFrom (extension : String) : List String :=
  match extension with
  | ".js" => [".ts", ".tsx"]
  | ".jsx" => [".tsx"]
  | ".mjs" => [".mts"]
  | ".cjs" => [".cts"]
  | _ => []

/-- The spellings under which a clean path is looked up, in this order. -/
def candidates (base : String) : List String :=
  let (stem, ext) := Path.splitExtension base
  [base] ++ (compiledFrom ext).map (stem ++ ·) ++ sourceExtensions.map (base ++ ·) ++
    [base ++ ".d.ts"] ++ sourceExtensions.map fun e => Path.join base ("index" ++ e)

/-- The clean path that a specifier names, seen from the module at `origin`. A package has none. -/
def specifiedPath? (origin specifier : String) : Option String :=
  if specifier.startsWith "/" then
    some (Path.clean (String.ofList (specifier.toList.dropWhile (· == '/'))))
  else if specifier.startsWith "." then
    some (Path.clean (Path.join (Path.directory origin) specifier))
  else none

/-- The module that a specifier names, seen from the module at `origin`. -/
def resolve? (c : Corpus) (origin specifier : String) : Option String :=
  match specifiedPath? origin specifier with
  | none => none
  | some base => (candidates base).find? c.contains

end Corpus

end CorpusShape
