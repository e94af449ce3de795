import CorpusShape.Proofs.Passes
import CorpusShape.Proofs.SharedTargets

/-!
# Corpora with the same modules

Nothing in the search for export sets and for the targets of calls asks for the order of the modules: all of it
goes through the look-up of a path. Two corpora that have the same module at every path therefore answer alike,
and a step of a pass has the same effect over both.
-/
namespace CorpusShape

namespace Corpus
variable {c d : Corpus}

section Lookups
variable (h : c.get? = d.get?)
include h

theorem contains_congr : c.contains = d.contains := by
  funext path
  exact congrArg Option.isSome (congrFun h path)

theorem resolve?_congr : c.resolve? = d.resolve? := by
  funext origin specifier
  simp only [resolve?, contains_congr h]

/-- All modules are a part that the corpora share. -/
theorem sharedPart_of_get?_eq : c.SharedPart d fun _ => True where
  get?_eq := fun path _ => congrFun h path
  resolve?_eq := fun path _ _ _ s _ => congrFun (congrFun (resolve?_congr h) path) s
  closed := fun _ _ _ _ _ _ _ _ => trivial

theorem exportedNames_congr : c.exportedNames = d.exportedNames := by
  funext path
  exact (sharedPart_of_get?_eq h).exportedNames_eq trivial

theorem targetWith_congr (names : String → List String) : c.targetWith names = d.targetWith names := by
  funext module_ call
  refine ((sharedPart_of_get?_eq h).targetWith_alike (fun _ _ => rfl) trivial fun s _ => ?_).1
  exact ⟨congrFun (congrFun (resolve?_congr h) _) s, fun _ _ => trivial⟩

theorem effect_congr (names : String → List String) (path : String) :
    c.effect names path = d.effect names path := by
  funext k s
  cases s with
  | collect m => rfl
  | tally m => simp only [effect, callShare, targetWith_congr h]

end Lookups

end Corpus

end CorpusShape
