import CorpusShape.Module.Calls
import Mathlib.Tactic.FinCases

/-!
# The names that patterns, declarations, classes and objects give

What a pattern binds, what a declaration introduces, which members a class has and which keys an object is given are
said here as relations between nodes and names, one rule for each form of a node. The functions that list the names of
a node list exactly those that the relations give it.
-/
namespace CorpusShape

open Syntax

@[elab_as_elim]
theorem Syntax.Node.inductionOn {P : Node → Prop} (n : Node) (h : ∀ n, (∀ c ∈ n.children, P c) → P n) : P n := by
  induction hsize : n.size using Nat.strong_induction_on generalizing n with
  | h size ih =>
    refine h n fun c hc => ih c.size ?_ c rfl
    have hle := Node.size_le_of_mem hc
    rw [← hsize, Node.size_eq n]
    omega

theorem Syntax.Node.mem_children_of_child? {n c : Node} {name : String} (h : n.child? name = some c) : c ∈ n.children :=
  List.mem_of_find?_eq_some h

section Patterns
variable {src : Source} {n c : Node} {x : String}

def nameKinds : List String := ["identifier", "shorthand_property_identifier_pattern"]

/-- The second node is a part of the first that binds names for it. -/
inductive PatternPart (n : Node) : Node → Prop
  | parameter {c : Node} : n.kind ∈ ["required_parameter", "optional_parameter"] → n.child? "pattern" = some c →
      PatternPart n c
  | value {c : Node} : n.kind = "pair_pattern" → n.child? "value" = some c → PatternPart n c
  | left {c : Node} : n.kind ∈ ["assignment_pattern", "object_assignment_pattern"] → n.child? "left" = some c →
      PatternPart n c
  | inner {c : Node} : n.kind ∈ ["object_pattern", "array_pattern", "rest_pattern", "formal_parameters"] →
      c ∈ n.namedChildren → PatternPart n c

inductive PatternBinds (src : Source) : Node → String → Prop
  | name {n : Node} : n.kind ∈ nameKinds → PatternBinds src n (src.textOf n)
  | part {n c : Node} {x : String} : PatternPart n c → PatternBinds src c x → PatternBinds src n x

def patternParts (n : Node) : List Node :=
  if ["required_parameter", "optional_parameter"].contains n.kind then (n.child? "pattern").toList
  else if n.kind == "pair_pattern" then (n.child? "value").toList
  else if ["assignment_pattern", "object_assignment_pattern"].contains n.kind then (n.child? "left").toList
  else if ["object_pattern", "array_pattern", "rest_pattern", "formal_parameters"].contains n.kind then n.namedChildren
  else []

theorem mem_patternParts_iff : c ∈ patternParts n ↔ PatternPart n c := by
  constructor
  · intro h
    unfold patternParts at h
    split at h
    · rename_i hkind
      exact .parameter (List.contains_iff_mem.mp hkind) (Option.mem_toList.mp h)
    · split at h
      · rename_i hkind
        exact .value (beq_iff_eq.mp hkind) (Option.mem_toList.mp h)
      · split at h
        · rename_i hkind
          exact .left (List.contains_iff_mem.mp hkind) (Option.mem_toList.mp h)
        · split at h
          · rename_i hkind
            exact .inner (List.contains_iff_mem.mp hkind) h
          · cases h
  · intro h
    unfold patternParts
    cases h with
    | parameter hkind hc => rw [if_pos (List.contains_iff_mem.mpr hkind), hc, Option.toList_some, List.mem_singleton]
    | value hkind hc => simp [hkind, hc]
    | left hkind hc =>
      generalize n.kind = kind at hkind
      fin_cases hkind <;> simp [hc]
    | inner hkind hc =>
      generalize n.kind = kind at hkind
      fin_cases hkind <;> simpa using hc

theorem PatternPart.mem_children (h : PatternPart n c) : c ∈ n.children := by
  cases h with
  | parameter _ hc => exact Node.mem_children_of_child? hc
  | value _ hc => exact Node.mem_children_of_child? hc
  | left _ hc => exact Node.mem_children_of_child? hc
  | inner _ hc => exact List.mem_of_mem_filter hc

theorem PatternPart.not_name (h : PatternPart n c) : n.kind ∉ nameKinds := by
  cases h with
  | parameter hkind => exact fun hname => absurd hname (by generalize n.kind = kind at hkind; fin_cases hkind <;> decide)
  | value hkind => exact hkind ▸ by decide
  | left hkind => exact fun hname => absurd hname (by generalize n.kind = kind at hkind; fin_cases hkind <;> decide)
  | inner hkind => exact fun hname => absurd hname (by generalize n.kind = kind at hkind; fin_cases hkind <;> decide)

theorem patternNames?_eq (src : Source) (n : Option Node) : patternNames? src n = n.toList.flatMap (patternNames src) := by
  cases n with
  | none => rfl
  | some n => simp [patternNames?]

theorem fieldPatternNames_eq (src : Source) (field : String) (ns : List Node) :
    fieldPatternNames src field ns = patternNames? src (ns.find? fun c => c.field == some field) := by
  induction ns with
  | nil => rfl
  | cons n rest ih =>
    rw [fieldPatternNames, List.find?_cons]
    cases hn : n.field == some field with
    | true => rfl
    | false => simpa using ih

theorem allPatternNames_eq (src : Source) (ns : List Node) :
    allPatternNames src ns = (ns.filter (·.named)).flatMap (patternNames src) := by
  induction ns with
  | nil => rfl
  | cons n rest ih =>
    rw [allPatternNames, ih]
    by_cases hn : n.named
    · simp [hn]
    · simp [hn]

theorem patternNames_eq (src : Source) (n : Node) :
    patternNames src n =
      if nameKinds.contains n.kind then [src.textOf n] else (patternParts n).flatMap (patternNames src) := by
  have hfield : ∀ field, fieldPatternNames src field n.children = (n.child? field).toList.flatMap (patternNames src) :=
    fun field => (fieldPatternNames_eq src field n.children).trans (patternNames?_eq src _)
  have hall : allPatternNames src n.children = n.namedChildren.flatMap (patternNames src) := allPatternNames_eq src _
  unfold patternParts
  simp only [apply_ite (List.flatMap (patternNames src)), ← hfield, ← hall]
  cases n
  rw [patternNames]
  rfl

theorem mem_patternNames_iff : x ∈ patternNames src n ↔ PatternBinds src n x := by
  constructor
  · induction n using Node.inductionOn with
    | h n ih =>
      intro hx
      rw [patternNames_eq] at hx
      split at hx
      · rename_i hname
        rw [List.mem_singleton] at hx
        exact hx ▸ .name (List.contains_iff_mem.mp hname)
      · obtain ⟨c, hc, hx⟩ := List.mem_flatMap.mp hx
        have hpart := mem_patternParts_iff.mp hc
        exact .part hpart (ih c hpart.mem_children hx)
  · intro h
    induction h with
    | name hname =>
      rw [patternNames_eq, if_pos (List.contains_iff_mem.mpr hname)]
      exact List.mem_singleton_self _
    | part hpart _ ih =>
      rw [patternNames_eq, if_neg (mt List.contains_iff_mem.mp hpart.not_name)]
      exact List.mem_flatMap.mpr ⟨_, mem_patternParts_iff.mpr hpart, ih⟩

theorem mem_patternNames?_iff {pattern : Option Node} :
    x ∈ patternNames? src pattern ↔ ∃ n, pattern = some n ∧ PatternBinds src n x := by
  cases pattern with
  | none => simp [patternNames?]
  | some n => simp [patternNames?, mem_patternNames_iff]

end Patterns

section Declarations
variable {src : Source} {n : Node} {x : String}

/-- The declaration introduces the name: that of its own, one that the pattern of a declarator binds, or for an ambient
declaration one that the declaration inside it introduces. -/
inductive Declares (src : Source) : Node → String → Prop
  | named {n name : Node} : n.kind ∈ namedDeclarationKinds → n.child? "name" = some name → Declares src n (src.textOf name)
  | declarator {n d pattern : Node} {x : String} : n.kind ∈ variableKinds → d ∈ n.namedChildren →
      d.kind = "variable_declarator" → d.child? "name" = some pattern → PatternBinds src pattern x → Declares src n x
  | ambient {n inner : Node} {x : String} : n.kind = "ambient_declaration" → n.namedChildren.head? = some inner →
      Declares src inner x → Declares src n x

theorem mem_declaratorNames_iff {ns : List Node} :
    x ∈ declaratorNames src ns ↔ ∃ d ∈ ns, d.kind = "variable_declarator" ∧
      ∃ pattern, d.child? "name" = some pattern ∧ PatternBinds src pattern x := by
  simp only [declaratorNames, List.mem_flatMap, List.mem_filter, beq_iff_eq, and_assoc, mem_patternNames?_iff]

theorem firstDeclaredNames_eq (src : Source) (ns : List Node) :
    firstDeclaredNames src ns = ((ns.filter (·.named)).head?).elim [] (declaredNames src) := by
  induction ns with
  | nil => rfl
  | cons n rest ih =>
    rw [firstDeclaredNames, ih]
    by_cases hn : n.named
    · simp [hn]
    · simp [hn]

theorem declaredNames_eq (src : Source) (n : Node) :
    declaredNames src n =
      if n.kind == "ambient_declaration" then n.namedChildren.head?.elim [] (declaredNames src)
      else if namedDeclarationKinds.contains n.kind then ((n.child? "name").map src.textOf).toList
      else if variableKinds.contains n.kind then declaratorNames src n.namedChildren
      else [] := by
  have hfirst : firstDeclaredNames src n.children = n.namedChildren.head?.elim [] (declaredNames src) :=
    firstDeclaredNames_eq src n.children
  rw [← hfirst]
  cases n
  unfold declaredNames
  generalize Node.child? _ "name" = name
  cases name with
  | none => rfl
  | some name => rfl

theorem declaredNames_of_ambient (src : Source) (h : n.kind = "ambient_declaration") :
    declaredNames src n = n.namedChildren.head?.elim [] (declaredNames src) := by
  rw [declaredNames_eq, if_pos (beq_iff_eq.mpr h)]

theorem declaredNames_of_named (src : Source) (h : n.kind ∈ namedDeclarationKinds) :
    declaredNames src n = ((n.child? "name").map src.textOf).toList := by
  have hambient : n.kind ≠ "ambient_declaration" := fun he => absurd (he ▸ h) (by decide)
  rw [declaredNames_eq, if_neg (mt beq_iff_eq.mp hambient), if_pos (List.contains_iff_mem.mpr h)]

theorem declaredNames_of_variable (src : Source) (h : n.kind ∈ variableKinds) :
    declaredNames src n = declaratorNames src n.namedChildren := by
  rw [declaredNames_eq]
  generalize n.kind = kind at h ⊢
  fin_cases h <;> rfl

theorem mem_declaredNames_iff : x ∈ declaredNames src n ↔ Declares src n x := by
  constructor
  · induction n using Node.inductionOn with
    | h n ih =>
      intro hx
      by_cases hambient : n.kind = "ambient_declaration"
      · rw [declaredNames_of_ambient src hambient] at hx
        cases hinner : n.namedChildren.head? with
        | none =>
          rw [hinner] at hx
          cases hx
        | some inner =>
          rw [hinner] at hx
          have hmem : inner ∈ n.children := List.mem_of_mem_filter (List.mem_of_mem_head? hinner)
          exact .ambient hambient hinner (ih inner hmem hx)
      · by_cases hnamed : n.kind ∈ namedDeclarationKinds
        · rw [declaredNames_of_named src hnamed, Option.mem_toList, Option.map_eq_some_iff] at hx
          obtain ⟨name, hname, rfl⟩ := hx
          exact .named hnamed hname
        · by_cases hvariable : n.kind ∈ variableKinds
          · rw [declaredNames_of_variable src hvariable, mem_declaratorNames_iff] at hx
            obtain ⟨d, hd, hkind, pattern, hpattern, hx⟩ := hx
            exact .declarator hvariable hd hkind hpattern hx
          · rw [declaredNames_eq, if_neg (mt beq_iff_eq.mp hambient), if_neg (mt List.contains_iff_mem.mp hnamed),
              if_neg (mt List.contains_iff_mem.mp hvariable)] at hx
            cases hx
  · intro h
    induction h with
    | named hkind hname =>
      rw [declaredNames_of_named src hkind, hname]
      exact List.mem_singleton_self _
    | declarator hkind hd hdeclarator hpattern hx =>
      rw [declaredNames_of_variable src hkind]
      exact mem_declaratorNames_iff.mpr ⟨_, hd, hdeclarator, _, hpattern, hx⟩
    | ambient hkind hinner _ ih =>
      rw [declaredNames_of_ambient src hkind, hinner]
      exact ih

end Declarations

section Members
variable {src : Source} {member n : Node} {x : String}

def methodKinds : List String := ["method_definition", "abstract_method_signature"]

/-- The node in the body of a class gives the class a member of the name. A constructor also gives it those of its
parameters that have an accessibility. -/
inductive GivesMember (src : Source) (member : Node) : String → Prop
  | field : member.kind ∈ ["public_field_definition", "field_definition"] →
      GivesMember src member (src.textOf? (member.child? "name" <|> member.child? "property"))
  | method : member.kind ∈ "method_signature" :: methodKinds →
      GivesMember src member (src.textOf? (member.child? "name"))
  | parameter {parameters p modifier : Node} {x : String} : member.kind ∈ methodKinds →
      src.textOf? (member.child? "name") = "constructor" → member.child? "parameters" = some parameters →
      p ∈ parameters.namedChildren → modifier ∈ p.namedChildren → modifier.kind = "accessibility_modifier" →
      PatternBinds src p x → GivesMember src member x

def HasMember (src : Source) (n : Node) (x : String) : Prop :=
  ∃ body, n.child? "body" = some body ∧ ∃ member ∈ body.namedChildren, GivesMember src member x

theorem mem_parameterFields_iff {parameters : Option Node} :
    x ∈ parameterFields src parameters ↔ ∃ ps, parameters = some ps ∧ ∃ p ∈ ps.namedChildren,
      (∃ modifier ∈ p.namedChildren, modifier.kind = "accessibility_modifier") ∧ PatternBinds src p x := by
  cases parameters with
  | none => simp [parameterFields]
  | some ps =>
    simp only [parameterFields, List.mem_flatMap, List.mem_filter, Node.namedChild?, List.find?_isSome, beq_iff_eq,
      and_assoc, mem_patternNames_iff, Option.some.injEq, exists_eq_left']

def addedMembers (src : Source) (member : Node) : List String :=
  if ["public_field_definition", "field_definition"].contains member.kind then
    [src.textOf? (member.child? "name" <|> member.child? "property")]
  else if ("method_signature" :: methodKinds).contains member.kind then
    src.textOf? (member.child? "name") ::
      if methodKinds.contains member.kind && src.textOf? (member.child? "name") == "constructor" then
        parameterFields src (member.child? "parameters")
      else []
  else []

theorem members_addMember (src : Source) (shape : ClassShape) (member : Node) :
    (shape.addMember src member).members = shape.members ++ addedMembers src member := by
  unfold ClassShape.addMember addedMembers
  dsimp only
  by_cases hfield : member.kind ∈ ["public_field_definition", "field_definition"]
  · generalize member.kind = kind at hfield
    fin_cases hfield <;> rfl
  · by_cases hmethod : member.kind ∈ "method_signature" :: methodKinds
    · by_cases hconstructor : src.textOf? (member.child? "name") = "constructor"
      · rw [hconstructor]
        generalize member.kind = kind at hmethod
        fin_cases hmethod
        · rfl
        · exact List.append_assoc _ _ _
        · exact List.append_assoc _ _ _
      · generalize src.textOf? (member.child? "name") = name at hconstructor
        generalize member.kind = kind at hmethod
        fin_cases hmethod <;> simp [hconstructor, methodKinds] <;> split <;> rfl
    · simp_all [methodKinds]

theorem mem_addedMembers_iff : x ∈ addedMembers src member ↔ GivesMember src member x := by
  unfold addedMembers
  constructor
  · intro hx
    split at hx
    · rename_i hkind
      rw [List.mem_singleton] at hx
      exact hx ▸ .field (List.contains_iff_mem.mp hkind)
    · split at hx
      · rename_i hkind
        rcases List.mem_cons.mp hx with rfl | hx
        · exact .method (List.contains_iff_mem.mp hkind)
        · split at hx
          · rename_i hconstructor
            rw [Bool.and_eq_true, beq_iff_eq, List.contains_iff_mem] at hconstructor
            obtain ⟨ps, hps, p, hp, ⟨modifier, hmodifier, haccess⟩, hx⟩ := mem_parameterFields_iff.mp hx
            exact .parameter hconstructor.1 hconstructor.2 hps hp hmodifier haccess hx
          · cases hx
      · cases hx
  · intro h
    have hother : ∀ kind ∈ "method_signature" :: methodKinds,
        ¬["public_field_definition", "field_definition"].contains kind = true := by decide
    cases h with
    | field hkind =>
      rw [if_pos (List.contains_iff_mem.mpr hkind)]
      exact List.mem_singleton_self _
    | method hkind =>
      rw [if_neg (hother _ hkind), if_pos (List.contains_iff_mem.mpr hkind)]
      exact List.mem_cons_self
    | parameter hkind hname hparameters hp hmodifier haccess hx =>
      have hmethod : member.kind ∈ "method_signature" :: methodKinds := List.mem_cons_of_mem _ hkind
      have hconstructor : (methodKinds.contains member.kind && src.textOf? (member.child? "name") == "constructor") =
          true := by rw [Bool.and_eq_true, beq_iff_eq, List.contains_iff_mem]; exact ⟨hkind, hname⟩
      rw [if_neg (hother _ hmethod), if_pos (List.contains_iff_mem.mpr hmethod), if_pos hconstructor]
      exact List.mem_cons_of_mem _
        (mem_parameterFields_iff.mpr ⟨_, hparameters, _, hp, ⟨_, hmodifier, haccess⟩, hx⟩)

theorem mem_members_foldl_addMember {shape : ClassShape} {ns : List Node} :
    x ∈ (ns.foldl (ClassShape.addMember src) shape).members ↔
      x ∈ shape.members ∨ ∃ member ∈ ns, GivesMember src member x := by
  induction ns generalizing shape with
  | nil => simp
  | cons n ns ih =>
    rw [List.foldl_cons, ih, members_addMember, List.mem_append, mem_addedMembers_iff, or_assoc]
    simp

/-- What does not change when members are added to a class. -/
def ClassShape.head (shape : ClassShape) : Option String × Nat × Option Scope := (shape.name, shape.line, shape.scope)

theorem head_addMember (src : Source) (shape : ClassShape) (member : Node) :
    (shape.addMember src member).head = shape.head := by
  unfold ClassShape.addMember
  split
  · rfl
  · dsimp only
    split
    · rfl
    · split
      · split
        · rfl
        · split <;> rfl
      · rfl

theorem head_classShape (src : Source) (scope : Scope) (n : Node) :
    (classShape src scope n).head = ((n.child? "name").map src.textOf, src.line n.start, some scope) := by
  have hfold : ∀ (ns : List Node) (shape : ClassShape), (ns.foldl (ClassShape.addMember src) shape).head = shape.head := by
    intro ns
    induction ns with
    | nil => exact fun _ => rfl
    | cons member ns ih => exact fun shape => (ih _).trans (head_addMember src shape member)
  unfold classShape
  cases n.child? "body" with
  | none => rfl
  | some body => exact hfold _ _

theorem mem_members_classShape_iff (scope : Scope) : x ∈ (classShape src scope n).members ↔ HasMember src n x := by
  unfold classShape HasMember
  cases n.child? "body" with
  | none => simp
  | some body => simp [mem_members_foldl_addMember]

end Members

section Keys
variable {src : Source} {member n : Node} {text x : String}

def quoteChars : List Char := ['\'', '"', '`']

/-- The text says `x`: in quotes of one kind, or else as it is. -/
def Says (text x : String) : Prop :=
  (∃ q ∈ quoteChars, text.toList = q :: (x.toList ++ [q])) ∨
    (∀ q ∈ quoteChars, ∀ inner, text.toList ≠ q :: (inner ++ [q])) ∧ x = text

theorem Says.unique {y : String} (hx : Says text x) (hy : Says text y) : x = y := by
  rcases hx with ⟨q, hq, hx⟩ | ⟨hx, rfl⟩
  · rcases hy with ⟨r, hr, hy⟩ | ⟨hy, -⟩
    · obtain ⟨rfl, hinner⟩ := List.cons.inj (hx.symm.trans hy)
      exact String.toList_inj.mp (List.append_cancel_right hinner)
    · exact absurd hx (hy q hq _)
  · rcases hy with ⟨r, hr, hy⟩ | ⟨-, rfl⟩
    · exact absurd hy (hx r hr _)
    · rfl

theorem says_unquoted (text : String) : Says text (unquoted text) := by
  unfold unquoted
  split
  · rename_i q rest htext
    split
    · rename_i hquoted
      rw [Bool.and_eq_true, beq_iff_eq] at hquoted
      obtain ⟨hq, hlast⟩ := hquoted
      refine .inl ⟨q, by simpa [quoteChars, or_assoc] using hq, ?_⟩
      rw [htext, String.toList_ofList, List.dropLast_append_getLast? q hlast]
    · rename_i hplain
      refine .inr ⟨fun r hr inner h => hplain ?_, rfl⟩
      obtain ⟨rfl, rfl⟩ := List.cons.inj (htext.symm.trans h)
      rw [Bool.and_eq_true, beq_iff_eq]
      exact ⟨by simpa [quoteChars, or_assoc] using hr, List.getLast?_concat⟩
  · rename_i hempty
    exact .inr ⟨fun r _ inner h => by simp [hempty] at h, rfl⟩

theorem unquoted_eq_iff : unquoted text = x ↔ Says text x :=
  ⟨fun h => h ▸ says_unquoted text, fun h => (says_unquoted text).unique h⟩

/-- The node that names a member of an object literal. -/
inductive KeyNode (member : Node) : Node → Prop
  | pair {key : Node} : member.kind = "pair" → member.child? "key" = some key → KeyNode member key
  | method {key : Node} : member.kind = "method_definition" → member.child? "name" = some key → KeyNode member key

/-- The member of an object literal has the name, which is no computed one. -/
inductive GivesKey (src : Source) (member : Node) : String → Prop
  | shorthand : member.kind = "shorthand_property_identifier" → GivesKey src member (src.textOf member)
  | plain {key : Node} : KeyNode member key → key.kind ≠ "computed_property_name" → key.kind ≠ "string" →
      GivesKey src member (src.textOf key)
  | string {key : Node} {x : String} : KeyNode member key → key.kind = "string" → Says (src.textOf key) x →
      GivesKey src member x

def HasKey (src : Source) (n : Node) (x : String) : Prop := ∃ member ∈ n.namedChildren, GivesKey src member x

def keyNode? (member : Node) : Option Node :=
  if member.kind == "pair" then member.child? "key"
  else if member.kind == "method_definition" then member.child? "name"
  else none

theorem keyNode?_eq_some_iff {key : Node} : keyNode? member = some key ↔ KeyNode member key := by
  unfold keyNode?
  constructor
  · intro h
    split at h
    · rename_i hkind
      exact .pair (beq_iff_eq.mp hkind) h
    · split at h
      · rename_i hkind
        exact .method (beq_iff_eq.mp hkind) h
      · cases h
  · intro h
    cases h with
    | pair hkind hkey =>
      rw [hkind]
      exact hkey
    | method hkind hkey =>
      rw [hkind]
      exact hkey

def keyText? (src : Source) (key : Node) : Option String :=
  if key.kind == "computed_property_name" then none
  else if key.kind == "string" then some (unquoted (src.textOf key))
  else some (src.textOf key)

theorem objectKey?_eq (src : Source) (member : Node) :
    objectKey? src member = if member.kind == "shorthand_property_identifier" then some (src.textOf member)
      else (keyNode? member).bind (keyText? src) := by
  unfold objectKey? keyNode?
  split
  · rfl
  · dsimp only
    generalize (if member.kind == "pair" then member.child? "key"
      else if member.kind == "method_definition" then member.child? "name" else none) = key
    cases key with
    | none => rfl
    | some key => rfl

theorem objectKey?_eq_some_iff : objectKey? src member = some x ↔ GivesKey src member x := by
  rw [objectKey?_eq]
  constructor
  · intro h
    split at h
    · rename_i hkind
      cases h
      exact .shorthand (beq_iff_eq.mp hkind)
    · obtain ⟨key, hkey, h⟩ := Option.bind_eq_some_iff.mp h
      have hnode := keyNode?_eq_some_iff.mp hkey
      unfold keyText? at h
      split at h
      · cases h
      · rename_i hcomputed
        split at h
        · rename_i hstring
          exact .string hnode (beq_iff_eq.mp hstring) (unquoted_eq_iff.mp (Option.some.inj h))
        · rename_i hstring
          cases h
          exact .plain hnode (fun he => hcomputed (beq_iff_eq.mpr he)) fun he => hstring (beq_iff_eq.mpr he)
  · have hmember : ∀ {key}, KeyNode member key → ¬(member.kind == "shorthand_property_identifier") = true := by
      rintro key (⟨hkind, -⟩ | ⟨hkind, -⟩)
      · rw [hkind]
        decide
      · rw [hkind]
        decide
    intro h
    cases h with
    | shorthand hkind => rw [if_pos (beq_iff_eq.mpr hkind)]
    | plain hnode hcomputed hstring =>
      rw [if_neg (hmember hnode), keyNode?_eq_some_iff.mpr hnode, Option.bind_some, keyText?,
        if_neg (mt beq_iff_eq.mp hcomputed), if_neg (mt beq_iff_eq.mp hstring)]
    | string hnode hstring hsays =>
      rw [if_neg (hmember hnode), keyNode?_eq_some_iff.mpr hnode, Option.bind_some, keyText?, hstring]
      exact congrArg some (unquoted_eq_iff.mpr hsays)

theorem mem_objectKeys_iff : x ∈ objectKeys src n ↔ HasKey src n x := by
  simp only [objectKeys, List.mem_filterMap, objectKey?_eq_some_iff, HasKey]

end Keys

end CorpusShape
