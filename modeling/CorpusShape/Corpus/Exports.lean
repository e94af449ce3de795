import CorpusShape.Corpus

/-!
# Exported names

The names that a module exports: its own, those it takes over by name, and all but the default ones of
the modules it takes over whole. The set of a module may be asked for with a memory that keeps every
answer for good.
-/
namespace CorpusShape

namespace Corpus

/-- What the modules at `target` give to a re-export, given the names they export. -/
def starNames (exported : List String) : List String := exported.filter (· != "default")

/-- The number of modules that a search may still enter. -/
def unvisited (c : Corpus) (visiting : List String) : Nat :=
  (c.paths.filter fun p => !visiting.contains p).length

theorem unvisited_cons_lt (c : Corpus) {path : String} {visiting : List String}
    (hp : path ∈ c.paths) (hv : ¬visiting.contains path) :
    c.unvisited (path :: visiting) < c.unvisited visiting := by
  have hsplit : (c.paths.filter fun p => !(path :: visiting).contains p) =
      (c.paths.filter fun p => !visiting.contains p).filter fun p => !decide (p = path) := by
    rw [List.filter_filter]
    congr 1
    funext p
    simp
  have hmem : path ∈ c.paths.filter fun p => !visiting.contains p := by simpa [hp] using hv
  rw [unvisited, unvisited, hsplit]
  refine Nat.lt_of_le_of_ne (List.length_filter_le _ _) fun h => ?_
  have hne := List.length_filter_eq_length_iff.mp h path hmem
  simp at hne

/-- The names that the module at `path` exports, apart from those that come through the modules in
`visiting`. Every module that is entered is kept out of the search below it, so that cycles of re-exports
come to an end. -/
def exportsFrom (c : Corpus) (visiting : List String) (path : String) : List String :=
  match _h : c.get? path with
  | none => []
  | some m =>
    if _hv : visiting.contains path then []
    else
      m.exports.keys ++ m.reexports.flatMap fun r =>
        match r.whole.filter (!·.isEmpty), r.names with
        | some name, _ => [name]
        | none, some names => names.keys
        | none, none =>
          match c.resolve? path r.specifier with
          | none => []
          | some target => starNames (c.exportsFrom (path :: visiting) target)
termination_by c.unvisited visiting
decreasing_by exact c.unvisited_cons_lt (Table.mem_keys_of_get? _h) _hv

/-- The distinct names that the module at `path` exports. -/
def exportedNames (c : Corpus) (path : String) : List String := sortedNames (c.exportsFrom [] path)

end Corpus

/-- Export sets that have been asked for. -/
abbrev ExportMemory := Table (List String)

/-- A computation that remembers export sets. -/
abbrev Remembering := StateM ExportMemory

namespace Corpus

/-- The names that the module at `path` exports, as they were when they were first asked for. -/
def rememberedNames (c : Corpus) (path : String) : Remembering (List String) := do
  match (← get).get? path with
  | some names => return names
  | none =>
    let names := c.exportedNames path
    modify (·.put path names)
    return names

end Corpus

/-- A corpus that may still grow, with the export sets that have been asked for. The sets are kept even
if the corpus changes. -/
structure LiveCorpus where
  corpus : Corpus := {}
  memory : ExportMemory := []
deriving Repr, Inhabited

namespace LiveCorpus

def add (l : LiveCorpus) (m : Module) : LiveCorpus := { l with corpus := l.corpus.add m }

def remove (l : LiveCorpus) (path : String) : LiveCorpus := { l with corpus := l.corpus.remove path }

/-- Asks a question that may use and extend the memory. -/
def ask {α : Type} (l : LiveCorpus) (question : Corpus → Remembering α) : α × LiveCorpus :=
  let (a, memory) := (question l.corpus).run l.memory
  (a, { l with memory })

end LiveCorpus

end CorpusShape
