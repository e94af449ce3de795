import CorpusShape.Corpus.Target
import CorpusShape.Counters

/-!
# Call graphs

The second pass over the corpus classifies every call by where its callee is declared, and counts it for
the caller and, across modules, for the callee. Both passes work on the counters of the tracked modules
and share one memory of export sets.
-/
namespace CorpusShape

/-- A call seen from its caller. -/
inductive CallClass where
  | self
  | crossModule
  | trueExternal
  | unresolved
deriving DecidableEq, Repr, Inhabited

/-- The class of a call from the module at `caller`, and the module of its callee. -/
def classify (caller : String) (target : CallTarget) : CallClass × Option String :=
  match target.kind, target.path.filter (!·.isEmpty) with
  | .external, _ => (.trueExternal, none)
  | .unresolved, _ => (.unresolved, none)
  | .module_, none => (.unresolved, none)
  | .module_, some path => if path == caller then (.self, some path) else (.crossModule, some path)

namespace Counters

/-- Counts one call for its caller. -/
def addCall (k : Counters) (c : CallClass) : Counters :=
  let k := { k with callsTotal := k.callsTotal + 1 }
  match c with
  | .self => { k with callsInternal := k.callsInternal + 1 }
  | .crossModule =>
    { k with callsExternal := k.callsExternal + 1, callsCrossModule := k.callsCrossModule + 1 }
  | .trueExternal =>
    { k with callsExternal := k.callsExternal + 1, callsTrueExternal := k.callsTrueExternal + 1 }
  | .unresolved =>
    { k with callsExternal := k.callsExternal + 1, callsUnresolved := k.callsUnresolved + 1 }

/-- Counts one call from another module. -/
def addIncoming (k : Counters) : Counters := { k with incomingInternal := k.incomingInternal + 1 }

end Counters

/-- The counters of the tracked modules, by path. -/
abbrev Ledger := Table Counters

namespace Ledger

/-- Changes the counters of the module at `path`, if it is tracked. -/
def update (l : Ledger) (path : String) (f : Counters → Counters) : Ledger :=
  l.map fun p => if p.1 = path then (p.1, f p.2) else p

/-- Zero counters for each of the paths. -/
def zero (paths : List String) : Ledger := paths.foldl (fun l p => l.put p {}) []

/-- Counts one call. -/
def addCall (l : Ledger) (caller : String) (call : CallClass × Option String) : Ledger :=
  let l := l.update caller (·.addCall call.1)
  match call with
  | (.crossModule, some callee) => l.update callee Counters.addIncoming
  | _ => l

end Ledger

/-- Finds the target of a call, possibly with the memory of export sets. -/
abbrev Resolver := Module → CallSite → Remembering CallTarget

/-- The resolver that follows scopes, imports and re-exports. -/
def scopeResolver (c : Corpus) : Resolver := c.callTarget c.rememberedNames

/-- Finds the class of a call. -/
def classifyCall (r : Resolver) (m : Module) (call : CallSite) : Remembering (CallClass × Option String) := do
  return classify m.path (← r m call)

/-- Counts what one tracked module declares. -/
def collectModule (c : Corpus) (m : Module) (l : Ledger) : Remembering Ledger := do
  let names ← c.rememberedNames m.path
  return l.update m.path (·.collect m names.length)

/-- Counts the calls of one tracked module. -/
def tallyModule (r : Resolver) (m : Module) (l : Ledger) : Remembering Ledger :=
  m.calls.foldlM (fun l call => do return l.addCall m.path (← classifyCall r m call)) l

/-- Both passes over a corpus. -/
def countCorpus (c : Corpus) (r : Resolver) : Remembering Ledger := do
  let l := Ledger.zero c.paths
  let l ← c.toList.foldlM (fun l m => collectModule c m l) l
  c.toList.foldlM (fun l m => tallyModule r m l) l

end CorpusShape
