import CorpusShape.Module
import CorpusShape.Source
import CorpusShape.Syntax.Node

/-!
# Declared names

The names that patterns and declarations bind, and the names that are hoisted to the scope of a
function or a module: those of all declarations inside it that do not lie inside a nested function,
a class, or another named declaration.
-/
namespace CorpusShape

open Syntax

/-- The text of a node. -/
def Source.textOf (src : Source) (n : Node) : String := src.slice n.start n.stop

/-- The text of a node that may be absent. -/
def Source.textOf? (src : Source) : Option Node → String
  | none => ""
  | some n => src.textOf n

/-- The text of a string without its quotes; any other text as it is. -/
def unquoted (text : String) : String :=
  match text.toList with
  | q :: rest =>
    if (q == '\'' || q == '"' || q == '`') && rest.getLast? == some q then String.ofList rest.dropLast
    else text
  | [] => text

/-- Nodes that are functions. -/
def functionKinds : List String :=
  ["function_declaration", "generator_function_declaration", "function_expression", "function",
    "generator_function", "arrow_function", "method_definition"]

/-- Functions that are expressions and may have a name of their own. -/
def functionExpressionKinds : List String := ["function_expression", "function", "generator_function"]

/-- Nodes that are classes. -/
def classKinds : List String := ["class_declaration", "abstract_class_declaration", "class"]

/-- Declarations of one name. -/
def namedDeclarationKinds : List String :=
  ["function_declaration", "generator_function_declaration", "function_signature",
    "class_declaration", "abstract_class_declaration", "interface_declaration",
    "type_alias_declaration", "enum_declaration", "internal_module"]

/-- Declarations of variables. -/
def variableKinds : List String := ["lexical_declaration", "variable_declaration"]

mutual
/-- The names that a pattern or a parameter binds. -/
def patternNames (src : Source) : Node → List String
  | ⟨kind, _, _, _, start, stop, children⟩ =>
    if ["identifier", "shorthand_property_identifier_pattern"].contains kind then [src.slice start stop]
    else if ["required_parameter", "optional_parameter"].contains kind then
      fieldPatternNames src "pattern" children
    else if kind == "pair_pattern" then fieldPatternNames src "value" children
    else if ["assignment_pattern", "object_assignment_pattern"].contains kind then
      fieldPatternNames src "left" children
    else if ["object_pattern", "array_pattern", "rest_pattern", "formal_parameters"].contains kind then
      allPatternNames src children
    else []

/-- The names that the first node in the field `field` binds. -/
def fieldPatternNames (src : Source) (field : String) : List Node → List String
  | [] => []
  | n :: rest =>
    if n.field == some field then patternNames src n else fieldPatternNames src field rest

/-- The names that the named ones of the nodes bind. -/
def allPatternNames (src : Source) : List Node → List String
  | [] => []
  | n :: rest => (if n.named then patternNames src n else []) ++ allPatternNames src rest
end

/-- The names that a pattern binds, if it is there. -/
def patternNames? (src : Source) : Option Node → List String
  | none => []
  | some n => patternNames src n

/-- The names of the declarators among the nodes. -/
def declaratorNames (src : Source) (ns : List Node) : List String :=
  (ns.filter (·.kind == "variable_declarator")).flatMap fun d => patternNames? src (d.child? "name")

mutual
/-- The names that a declaration introduces. -/
def declaredNames (src : Source) : Node → List String
  | n@⟨kind, _, _, _, _, _, children⟩ =>
    if kind == "ambient_declaration" then firstDeclaredNames src children
    else if namedDeclarationKinds.contains kind then
      match n.child? "name" with
      | some name => [src.textOf name]
      | none => []
    else if variableKinds.contains kind then declaratorNames src n.namedChildren
    else []

/-- The names that the first named one of the nodes introduces. -/
def firstDeclaredNames (src : Source) : List Node → List String
  | [] => []
  | n :: rest => if n.named then declaredNames src n else firstDeclaredNames src rest
end

/-- What hoisting does at a node: the names it declares there, and the nodes it looks at next. -/
def hoistStep (src : Source) (n : Node) : List String × List Node :=
  if n.kind == "import_statement" || n.kind == "class" then ([], [])
  else if variableKinds.contains n.kind then
    (declaredNames src n, n.namedChildren.filterMap (·.child? "value"))
  else if namedDeclarationKinds.contains n.kind || n.kind == "ambient_declaration" then
    (declaredNames src n, [])
  else if functionKinds.contains n.kind then ([], [])
  else if n.kind == "for_in_statement" then (patternNames? src (n.child? "left"), n.namedChildren)
  else ([], n.namedChildren)

theorem sizes_values_le (ns : List Node) :
    Node.sizes (ns.filterMap (·.child? "value")) ≤ Node.sizes ns := by
  induction ns with
  | nil => simp
  | cons n rest ih =>
    rw [List.filterMap_cons]
    split
    · simp only [Node.sizes_cons]; omega
    · rename_i c hc
      have := Node.size_child?_lt hc
      simp only [Node.sizes_cons]; omega

theorem sizes_hoistStep_lt (src : Source) (n : Node) : Node.sizes (hoistStep src n).2 < n.size := by
  have hpos := n.size_pos
  have hnamed := n.sizes_namedChildren_lt
  have hvalues := sizes_values_le n.namedChildren
  unfold hoistStep
  repeat' split
  all_goals simp only [Node.sizes_nil]
  all_goals omega

/-- Binds every name that is hoisted from the pending nodes. The node that was added last is looked at
first. -/
def hoistPending (src : Source) (f : Frame) : List Node → Frame
  | [] => f
  | n :: pending =>
    hoistPending src (f.declareAll (hoistStep src n).1) ((hoistStep src n).2.reverse ++ pending)
termination_by ns => Node.sizes ns
decreasing_by
  have h := sizes_hoistStep_lt src n
  have hr : Node.sizes (hoistStep src n).2.reverse = Node.sizes (hoistStep src n).2 := by
    generalize (hoistStep src n).2 = l
    induction l with
    | nil => rfl
    | cons a l ih => simp [ih, Nat.add_comm]
  simp only [Node.sizes_append, Node.sizes_cons, hr]
  omega

/-- Binds in `f` every name that is hoisted from below `root`. -/
def hoist (src : Source) (root : Node) (f : Frame) : Frame :=
  hoistPending src f root.namedChildren.reverse

end CorpusShape
