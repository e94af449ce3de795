import CorpusShape.CallGraph
import CorpusShape.Corpus.Load
import CorpusShape.Report.Rating
/-!
# Analysis

A whole run: the corpus below a root is loaded, its calls are counted, and its modules are scored and ranked. Beside
the outcome stands what is told on the way.
-/
namespace CorpusShape

/-- Why an analysis has no outcome. -/
inductive AnalysisError where
  | load (e : LoadError)
  | score (e : ScoreError)
deriving Repr

namespace ScoreError

def message : ScoreError → String
  | .tooLarge => "int too large to convert to float"
  | .undefined => "math domain error"
  | .invalid problems => String.intercalate "\n" (problems.map (·.text))

end ScoreError

namespace AnalysisError

def message : AnalysisError → String
  | .load e => e.message
  | .score e => e.message

end AnalysisError

namespace Corpus

/-- The counters of all modules. -/
def counters (c : Corpus) (r : Resolver) : Ledger := ((countCorpus c r).run []).1

end Corpus

/-- The metrics of all modules that were counted, ranked. -/
def Ledger.metrics (l : Ledger) (w : Weights) (alpha : Float) : Except ScoreError (List Metrics) := do
  return Metrics.ranked (← l.mapM fun (path, k) => Metrics.ofCounters w alpha path k)

namespace Corpus

/-- The ranked metrics of a corpus. -/
def metrics (c : Corpus) (r : Resolver) (s : Settings) : Except ScoreError (List Metrics) :=
  (c.counters r).metrics s.weights s.alpha

/-- What is told about the counting. -/
def countEvents (l : Ledger) : List Event :=
  l.map (fun (path, k) =>
    { level := .debug, name := "calls_tallied", component := some "resolver",
      fields := [("path", .text path), ("total", .int k.callsTotal), ("internal", .int k.callsInternal),
        ("external", .int k.callsExternal)] : Event }) ++
  [{ level := .info, name := "call_graph_built", component := some "analyzer",
     fields := [("modules", .int l.length), ("calls", .int (l.foldl (fun n e => n + e.2.callsTotal) 0))] }]

end Corpus

namespace Analysis

/-- The outcome for the corpus below the root of the settings. -/
def run (files : Files) (s : Settings) : Except AnalysisError Analysis := do
  let rules := FileRules.ofPatterns s.included s.excluded
  let c ← (Visit.corpus (rules.visits files (files.resolve s.root))).mapError .load
  let results ← (c.metrics (scopeResolver c) s).mapError .score
  return { results, alpha := s.alpha, thresholds := s.thresholds }

/-- What is told while the corpus below the root of the settings is analysed. -/
def events (files : Files) (s : Settings) : List Event :=
  let root := files.resolve s.root
  let visits := (FileRules.ofPatterns s.included s.excluded).visits files root
  let later := match Visit.corpus visits with
    | .error _ => []
    | .ok c =>
      let l := c.counters (scopeResolver c)
      let loaded : Event :=
        { level := .info, name := "corpus_loaded", component := some "scanner",
          fields := [("root", .text root), ("modules", .int c.size)] }
      let complete : List Event := match l.metrics s.weights s.alpha with
        | .ok results =>
          [{ level := .info, name := "analysis_complete", component := some "analyzer",
             fields := [("modules", .int results.length), ("alpha", .float s.alpha)] }]
        | .error _ => []
      loaded :: Corpus.countEvents l ++ complete
  (Visit.events visits ++ later).map (·.within "root" (.text root))

end Analysis

end CorpusShape
