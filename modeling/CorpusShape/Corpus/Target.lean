import CorpusShape.Corpus.Exports

/-!
# Targets of calls

The module that declares the callee of a call, found through the scopes of the caller, its imports, and
the re-exports of the corpus. Everything that asks for the names a module exports does so through the
function `exported`, which may remember its answers.
-/
namespace CorpusShape

/-- Where a callee is declared. -/
inductive TargetKind where
  | module_
  | external
  | unresolved
deriving DecidableEq, Repr, Inhabited

/-- The declaration of a callee, with its module where it lies in one. -/
structure CallTarget where
  kind : TargetKind
  path : Option String := none
deriving DecidableEq, Repr, Inhabited

namespace CallTarget

def inModule (path : String) : CallTarget := ⟨.module_, some path⟩

def external : CallTarget := ⟨.external, none⟩

def unresolved : CallTarget := ⟨.unresolved, none⟩

end CallTarget

/-- Names that the runtime provides. -/
def globalNames : List String :=
  ["AbortController", "Array", "ArrayBuffer", "BigInt", "Blob", "Boolean", "Buffer", "DataView", "Date",
    "Error", "EvalError", "FormData", "Function", "Headers", "Intl", "JSON", "Map", "Math", "Number",
    "Object", "Promise", "Proxy", "RangeError", "Reflect", "RegExp", "Request", "Response", "Set",
    "String", "Symbol", "SyntaxError", "TextDecoder", "TextEncoder", "TypeError", "URL",
    "URLSearchParams", "WeakMap", "WeakSet", "XMLHttpRequest", "alert", "atob", "btoa",
    "cancelAnimationFrame", "clearInterval", "clearTimeout", "console", "decodeURI",
    "decodeURIComponent", "document", "encodeURI", "encodeURIComponent", "exports", "fetch",
    "globalThis", "isFinite", "isNaN", "localStorage", "module", "navigator", "parseFloat", "parseInt",
    "process", "queueMicrotask", "require", "requestAnimationFrame", "sessionStorage", "setImmediate",
    "setInterval", "setTimeout", "structuredClone", "window"]

/-- Methods of the types that the runtime provides; they are known by their names on any receiver. -/
def runtimeMethods : List String :=
  ["at", "concat", "copyWithin", "entries", "every", "fill", "filter", "find", "findIndex", "findLast",
    "findLastIndex", "flat", "flatMap", "forEach", "includes", "indexOf", "join", "keys", "lastIndexOf",
    "map", "pop", "push", "reduce", "reduceRight", "reverse", "shift", "slice", "some", "sort", "splice",
    "toReversed", "toSorted", "toSpliced", "unshift", "values", "with",
    "charAt", "charCodeAt", "codePointAt", "endsWith", "localeCompare", "match", "matchAll", "normalize",
    "padEnd", "padStart", "repeat", "replace", "replaceAll", "search", "split", "startsWith",
    "substring", "toLowerCase", "toUpperCase", "trim", "trimEnd", "trimStart",
    "apply", "bind", "call", "hasOwnProperty", "toFixed", "toISOString", "toJSON", "toLocaleString",
    "toPrecision", "toString", "valueOf", "getTime",
    "catch", "finally", "then",
    "add", "clear", "delete", "get", "has", "set",
    "exec", "test",
    "parse", "stringify", "debug", "error", "info", "log", "warn"]

namespace Corpus

variable {m : Type → Type} [Monad m]

/-- One step from a module and a name it exposes towards the module that declares the name: through an
exported import, a re-export by name, or the first whole re-export that has the name. -/
def reexportStep (c : Corpus) (exported : String → m (List String)) (path name : String) :
    m (Option (String × String)) :=
  match c.get? path with
  | none => pure none
  | some module_ =>
    match module_.exports.get? name with
    | some inner =>
      match (inner.filter (!·.isEmpty)).bind module_.frame.get? with
      | some (.imported specifier imported) =>
        if imported == some "*" then pure none
        else
          pure ((c.resolve? path (specifier.getD "")).map fun target =>
            (target, (imported.filter (!·.isEmpty)).getD "default"))
      | _ => pure none
    | none =>
      match module_.reexports.findSome? fun r => r.names.bind fun ns => (ns.get? name).map (r.specifier, ·) with
      | some (specifier, source) => pure ((c.resolve? path specifier).map (·, source))
      | none =>
        if name == "default" then pure none
        else firstStar ((module_.reexports.filter (·.isStar)).filterMap fun r => c.resolve? path r.specifier)
where
  /-- The first of the modules that exports the name. -/
  firstStar : List String → m (Option (String × String))
    | [] => pure none
    | target :: rest => do
      if (← exported target).contains name then return some (target, name)
      else firstStar rest

/-- The longest chain of re-exports that is followed. -/
def reexportLimit : Nat := 32

/-- Follows re-exports from a module and a name. It stops where no step leads on, where it has been
before, or after the given number of steps. -/
def declaringFrom (c : Corpus) (exported : String → m (List String)) :
    Nat → List (String × String) → String → String → m String
  | 0, _, path, _ => pure path
  | steps + 1, visited, path, name =>
    if visited.contains (path, name) then pure path
    else do
      match ← c.reexportStep exported path name with
      | none => return path
      | some (target, source) => c.declaringFrom exported steps ((path, name) :: visited) target source

/-- The module that declares what the module at `path` exposes as `name`. -/
def declaringModule (c : Corpus) (exported : String → m (List String)) (path name : String) : m String :=
  c.declaringFrom exported reexportLimit [] path name

/-- The target of an imported name. -/
def importTarget (c : Corpus) (exported : String → m (List String)) (origin : String)
    (specifier imported : Option String) : m CallTarget := do
  let specifier := specifier.getD ""
  if !isFileSpecifier specifier then return .external
  match c.resolve? origin specifier with
  | none => return .unresolved
  | some target =>
    if imported == some "*" then return .inModule target
    return .inModule (← c.declaringModule exported target ((imported.filter (!·.isEmpty)).getD "default"))

/-- The target of a plain name. -/
def nameTarget? (c : Corpus) (exported : String → m (List String)) (module_ : Module)
    (scope : Option Scope) (name : Option String) : m (Option CallTarget) :=
  match name.filter (!·.isEmpty), scope with
  | some name, some scope =>
    match scope.lookup name with
    | none => pure (if globalNames.contains name then some .external else none)
    | some .declared => pure (some (.inModule module_.path))
    | some (.imported specifier imported) => do
      return some (← c.importTarget exported module_.path specifier imported)
  | _, _ => pure none

/-- The target of what a class extends. -/
def baseTarget? (c : Corpus) (exported : String → m (List String)) (module_ : Module)
    (owner : Option ClassShape) : m (Option CallTarget) :=
  match owner with
  | none => pure none
  | some o => if o.base.isNone then pure none else c.nameTarget? exported module_ o.scope o.base

/-- The target of one member of a whole imported module. -/
def namespaceTarget (c : Corpus) (exported : String → m (List String)) (origin : String)
    (specifier : Option String) (member : String) : m CallTarget := do
  let whole ← c.importTarget exported origin specifier (some "*")
  match whole.kind, whole.path with
  | .module_, some path =>
    if member == "[]" then return whole
    return .inModule (← c.declaringModule exported path member)
  | _, _ => return whole

/-- The target of a single member of a receiver that is known. -/
def receiverTarget? (c : Corpus) (exported : String → m (List String)) (module_ : Module)
    (call : CallSite) (member : String) : m (Option CallTarget) :=
  match call.root with
  | some "this" =>
    match call.owner with
    | none => pure none
    | some o =>
      if o.members.contains member then pure (some (.inModule module_.path))
      else c.baseTarget? exported module_ call.owner
  | some "super" => c.baseTarget? exported module_ call.owner
  | root =>
    match root.filter (!·.isEmpty), call.scope with
    | some root, some scope =>
      match scope.lookup root with
      | none => pure (if globalNames.contains root then some .external else none)
      | some .declared =>
        pure (if module_.members.contains member then some (.inModule module_.path) else none)
      | some (.imported specifier imported) =>
        if imported == some "*" then do
          return some (← c.namespaceTarget exported module_.path specifier member)
        else do
          let target ← c.importTarget exported module_.path specifier imported
          if target.kind != .module_ then return some target
          let declaring := target.path.bind c.get?
          return if declaring.any (·.members.contains member) then some target else none
    | _, _ => pure none

/-- Whether the left-most name of a member chain is provided by the runtime or by a package. -/
def receiverIsExternal (call : CallSite) : Bool :=
  match call.root.filter (!·.isEmpty), call.scope with
  | some root, some scope =>
    if root == "this" || root == "super" then false
    else
      match scope.lookup root with
      | none => globalNames.contains root
      | some .declared => false
      | some (.imported specifier _) => !isFileSpecifier (specifier.getD "")
  | _, _ => false

/-- The target of a member call. One member is looked up on its receiver; of longer chains only the
last name counts. -/
def memberTarget? (c : Corpus) (exported : String → m (List String)) (module_ : Module)
    (call : CallSite) (member : String) : m (Option CallTarget) := do
  let byName := if runtimeMethods.contains member then some CallTarget.external else none
  if call.members.length = 1 then
    match ← c.receiverTarget? exported module_ call member with
    | some target => return some target
    | none => return byName
  else if receiverIsExternal call then return some .external
  else return byName

/-- The target of a call. -/
def callTarget (c : Corpus) (exported : String → m (List String)) (module_ : Module) (call : CallSite) :
    m CallTarget := do
  let target ← match call.kind, call.members.getLast? with
    | .name, _ => c.nameTarget? exported module_ call.scope call.root
    | .super, _ => c.baseTarget? exported module_ call.owner
    | .member, some member => c.memberTarget? exported module_ call member
    | _, _ => pure none
  return target.getD .unresolved

end Corpus

end CorpusShape
