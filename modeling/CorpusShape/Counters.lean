import CorpusShape.Corpus.Exports

/-!
# Counters

The counts that are kept for each module, and the first pass over the corpus, which counts what a module
declares. Bodies and the whole text are searched for calls that leave the process.
-/
namespace CorpusShape

/-- The counts of one module. -/
structure Counters where
  exportedCount : Int := 0
  externalImports : Int := 0
  privateMethods : Int := 0
  publicMethods : Int := 0
  internalTypes : Int := 0
  outgoingHits : Int := 0
  callsTotal : Int := 0
  callsInternal : Int := 0
  callsExternal : Int := 0
  callsCrossModule : Int := 0
  callsTrueExternal : Int := 0
  callsUnresolved : Int := 0
  incomingInternal : Int := 0
  incomingExternal : Int := 0
deriving DecidableEq, Repr, Inhabited

namespace Counters

/-- The counts with the names under which they are reported. -/
def toList (k : Counters) : Table Int :=
  [("exported_count", k.exportedCount), ("external_imports", k.externalImports),
    ("private_method_count", k.privateMethods), ("public_method_count", k.publicMethods),
    ("internal_type_count", k.internalTypes), ("outgoing_call_heuristic", k.outgoingHits),
    ("calls_out_total", k.callsTotal), ("calls_out_internal", k.callsInternal),
    ("calls_out_external", k.callsExternal), ("calls_out_cross_module", k.callsCrossModule),
    ("calls_out_true_external", k.callsTrueExternal), ("calls_out_unresolved", k.callsUnresolved),
    ("incoming_internal", k.incomingInternal), ("incoming_external", k.incomingExternal)]

end Counters

/-- Texts that show a call leaving the process. -/
def outgoingLiterals : List (List Char) :=
  ["fetch(".toList, "axios.".toList, "http.request".toList, "XMLHttpRequest".toList]

/-- The first of the texts that starts here. -/
def outgoingAt? (cs : List Char) : Option (List Char) := outgoingLiterals.find? (·.isPrefixOf cs)

/-- The number of the texts found from left to right, each search starting after the last find. -/
def outgoingCount (cs : List Char) : Nat :=
  go 0 cs
where
  /-- Counts from here, the next `skip` characters belonging to the last find. -/
  go : Nat → List Char → Nat
    | _, [] => 0
    | skip + 1, _ :: rest => go skip rest
    | 0, c :: rest =>
      match outgoingAt? (c :: rest) with
      | some found => 1 + go (found.length - 1) rest
      | none => go 0 rest

/-- Whether one of the texts occurs. -/
def hasOutgoing : List Char → Bool
  | [] => false
  | c :: rest => (outgoingAt? (c :: rest)).isSome || hasOutgoing rest

namespace Counters

/-- One if the condition holds. -/
def one (b : Bool) : Int := if b then 1 else 0

/-- Counts one method or function. -/
def addCallable (k : Counters) (isPublic : Bool) (body : String) : Counters :=
  { k with
    publicMethods := k.publicMethods + one isPublic
    privateMethods := k.privateMethods + one (!isPublic)
    outgoingHits := k.outgoingHits + one (hasOutgoing body.toList) }

/-- Counts a class with its methods, fields and constructors. -/
def addClass (k : Counters) (c : ClassShape) : Counters :=
  let k := c.methods.foldl (fun k m => k.addCallable m.isPublic m.body) k
  { k with internalTypes := k.internalTypes + c.propertyCount + c.constructorCount }

/-- Counts what a module declares. `exported` is the number of names that it exports. -/
def collect (k : Counters) (m : Module) (exported : Nat) : Counters :=
  let imports := (m.imports.filter fun i => !(i.isRelative || i.isRequire)).length
  let k := { k with exportedCount := exported, externalImports := imports }
  let k := m.classes.foldl addClass k
  let k := m.functions.foldl (fun k f => k.addCallable f.exported f.body) k
  { k with outgoingHits := k.outgoingHits + outgoingCount m.text.toList }

end Counters

end CorpusShape
