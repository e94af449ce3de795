import CorpusShape.Proofs.Credits
import CorpusShape.Proofs.MirroredTrees

/-!
# Calls of members that stay in their module

A call of a member stays in its module only if it names a single member. If the receiver is a name that the module
declares, some class or object of the module has the member. If the receiver is the object of a class that extends
nothing, that class has it; and the class that is around a call is one of the places of the tree, whose members the
module has too. Longer chains of members lead into no module at all.
-/
namespace CorpusShape

open Syntax

section Owners
variable {n root : Node} {up outer : List Node} {p : Place}

/-- The nodes around a place, and the place itself, are places too. -/
theorem mem_placesOf_of_suffix (h : p ∈ placesOf up root) (hsuffix : n :: outer <:+ p.node :: p.around) :
    ⟨n, outer⟩ ∈ placesOf up root ∨ n :: outer <:+ up := by
  induction root using Node.inductionOn generalizing up with
  | h root ih =>
    have hroot : n :: outer <:+ root :: up → ⟨n, outer⟩ ∈ placesOf up root ∨ n :: outer <:+ up := by
      intro hup
      rcases List.suffix_cons_iff.mp hup with heq | hup
      · obtain ⟨rfl, rfl⟩ := List.cons.inj heq
        rw [placesOf_eq]
        exact .inl List.mem_cons_self
      · exact .inr hup
    rw [placesOf_eq] at h
    rcases List.mem_cons.mp h with rfl | hinner
    · exact hroot hsuffix
    · obtain ⟨child, hchild, hp⟩ := List.mem_flatMap.mp hinner
      rcases ih child (List.mem_of_mem_filter hchild) hp with hmem | hup
      · left
        rw [placesOf_eq]
        exact List.mem_cons_of_mem _ (List.mem_flatMap.mpr ⟨child, hchild, hmem⟩)
      · exact hroot hup

/-- The owner of what stands inside the given nodes is the class of one of them. -/
theorem ownerInside_eq_some {src : Source} {frame : Frame} {around : List Node} {o : ClassShape}
    (h : ownerInside src frame around = some o) :
    ∃ n outer, n :: outer <:+ around ∧ n.kind ∈ classKinds ∧ o = classShape src (scopeInside src frame outer) n := by
  induction around with
  | nil => cases h
  | cons n around ih =>
    unfold ownerInside at h
    split at h
    · rename_i hclass
      exact ⟨n, around, List.suffix_rfl, List.contains_iff_mem.mp hclass, (Option.some.inj h).symm⟩
    · obtain ⟨m, outer, hsuffix, hclass, ho⟩ := ih h
      exact ⟨m, outer, hsuffix.trans (List.suffix_cons _ _), hclass, ho⟩

/-- A module has all members of the classes around its calls. -/
theorem mem_members_of_owner {path text : String} {root : Node} {call : CallSite} {o : ClassShape}
    (hcall : call ∈ (extract path text root).calls) (ho : call.owner = some o) {x : String} (hx : x ∈ o.members) :
    x ∈ (extract path text root).members := by
  rw [calls_extract] at hcall
  obtain ⟨p, hp, hsite⟩ := List.mem_filterMap.mp hcall
  have hkind : isCall p.node = true := by
    by_contra hno
    rw [Place.call?_of_not_isCall _ _ hno] at hsite
    cases hsite
  rw [Place.call?_of_isCall _ _ hkind] at hsite
  cases hsite
  obtain ⟨n, outer, hsuffix, hclass, rfl⟩ := ownerInside_eq_some ho
  have hplace : ⟨n, outer⟩ ∈ placesOf [] root := by
    rcases mem_placesOf_of_suffix hp (hsuffix.trans (List.suffix_cons _ _)) with hmem | hnil
    · exact hmem
    · cases List.suffix_nil.mp hnil
  rw [members_extract]
  have hmember := (mem_members_classShape_iff _).mp hx
  exact List.mem_flatMap.mpr ⟨_, hplace, (Place.mem_members _).mpr (.inl ⟨hclass, hmember⟩)⟩

theorem eq_extract_of_ofTree {path text : String} {root : Node} {m : Module}
    (h : Module.ofTree path text root = .ok m) : m = extract path text root := by
  unfold Module.ofTree at h
  split at h
  · cases h
  · exact (Except.ok.inj h).symm

end Owners

section Classes
variable {caller : String} {t : CallTarget}

theorem classify_eq_self : (classify caller t).1 = .self ↔ t = .inModule caller ∧ caller ≠ "" := by
  obtain ⟨kind, found⟩ := t
  cases kind with
  | external => simp [classify, CallTarget.inModule]
  | unresolved => simp [classify, CallTarget.inModule]
  | module_ =>
    cases found with
    | none => simp [classify, CallTarget.inModule]
    | some found =>
      by_cases hempty : found = ""
      · subst hempty
        have hnone : (classify caller ⟨.module_, some ""⟩).1 = .unresolved := rfl
        rw [hnone, CallTarget.inModule]
        constructor
        · intro h
          cases h
        · rintro ⟨h, hne⟩
          exact absurd (Option.some.inj (congrArg CallTarget.path h)).symm hne
      · have hclass := classify_inModule hempty caller
        rw [CallTarget.inModule] at hclass
        rw [hclass]
        by_cases hself : found = caller
        · subst hself
          simp [CallTarget.inModule, hempty]
        · simp [CallTarget.inModule, hself]

end Classes

namespace Corpus
variable {c : Corpus} {names : String → List String} {m : Module} {call : CallSite} {member : String}

def targetByName (member : String) : CallTarget := if runtimeMethods.contains member then .external else .unresolved

theorem targetByName_kind (member : String) : (targetByName member).kind ≠ .module_ := by
  unfold targetByName
  split
  · exact fun h => nomatch h
  · exact fun h => nomatch h

/-- The target of a call of a single member is that of its receiver, or else by the name of the member. -/
theorem targetWith_of_single (hkind : call.kind = .member) (hmembers : call.members = [member]) :
    c.targetWith names m call =
      ((c.receiverTarget? (m := Id) names m call member).run).getD (targetByName member) := by
  have htarget : c.targetWith names m call =
      ((c.memberTarget? (m := Id) names m call member).run).getD .unresolved := by
    unfold targetWith callTarget
    rw [hkind, hmembers]
    rfl
  have hone : call.members.length = 1 := by rw [hmembers, List.length_singleton]
  rw [htarget, memberTarget?, if_pos hone]
  cases hreceiver : (c.receiverTarget? (m := Id) names m call member).run with
  | some target =>
    have hrun : c.receiverTarget? (m := Id) names m call member = (some target : Option CallTarget) := hreceiver
    rw [hrun]
    rfl
  | none =>
    have hrun : c.receiverTarget? (m := Id) names m call member = (none : Option CallTarget) := hreceiver
    rw [hrun, targetByName]
    by_cases hmethod : runtimeMethods.contains member = true
    · simp only [hmethod, if_true]
      rfl
    · simp only [hmethod]
      rfl

/-- A chain of members has no target in a module. -/
theorem targetWith_of_chain (hkind : call.kind = .member) (hmembers : call.members.length ≠ 1) :
    (c.targetWith names m call).kind ≠ .module_ := by
  unfold targetWith callTarget
  rw [hkind]
  cases hlast : call.members.getLast? with
  | none => exact fun h => nomatch h
  | some member =>
    dsimp only
    unfold memberTarget?
    rw [if_neg hmembers]
    split
    · exact fun h => nomatch h
    · split
      · exact fun h => nomatch h
      · exact fun h => nomatch h

theorem receiverTarget?_of_declared {x : String} {scope : Scope} (hroot : call.root = some x) (hthis : x ≠ "this")
    (hsuper : x ≠ "super") (hscope : call.scope = some scope) (hlookup : scope.lookup x = some .declared) :
    (c.receiverTarget? (m := Id) names m call member).run =
      if x ≠ "" ∧ member ∈ m.members then some (.inModule m.path) else none := by
  unfold receiverTarget?
  rw [hroot, hscope]
  split
  · rename_i heq
    exact absurd (Option.some.inj heq) hthis
  · rename_i heq
    exact absurd (Option.some.inj heq) hsuper
  · by_cases hx : x = ""
    · subst hx
      rfl
    · have hfilter : (some x).filter (!·.isEmpty) = some x := by simp [hx]
      rw [hfilter]
      dsimp only
      rw [hlookup]
      by_cases hmember : member ∈ m.members
      · simp [hx, hmember]
      · simp [hmember]

theorem receiverTarget?_of_this {o : ClassShape} (hroot : call.root = some "this") (ho : call.owner = some o)
    (hbase : o.base = none) :
    (c.receiverTarget? (m := Id) names m call member).run =
      if member ∈ o.members then some (.inModule m.path) else none := by
  unfold receiverTarget? baseTarget?
  rw [hroot, ho]
  by_cases hmember : member ∈ o.members
  · simp [hmember]
  · simp [hmember, hbase]

theorem run_classifyCall (c : Corpus) (memory : ExportMemory) (m : Module) (call : CallSite) :
    ((classifyCall (scopeResolver c) m call).run memory).1 =
      classify m.path (c.targetWith (c.namesWith memory) m call) :=
  congrArg (classify m.path) (run_scopeResolver c memory m call)

theorem classify_targetWith_of_chain (hkind : call.kind = .member) (hmembers : call.members.length ≠ 1) :
    (classify m.path (c.targetWith names m call)).1 ≠ .self ∧
      (classify m.path (c.targetWith names m call)).1 ≠ .crossModule := by
  have hnowhere : (c.targetWith names m call).kind ≠ .module_ := targetWith_of_chain hkind hmembers
  constructor
  · intro hself
    obtain ⟨htarget, -⟩ := classify_eq_self.mp hself
    exact hnowhere (congrArg CallTarget.kind htarget)
  · exact classify_ne_crossModule hnowhere _

/-- A single member stays in its module exactly if the receiver is found there. -/
theorem classify_targetWith_of_single (hkind : call.kind = .member) (hmembers : call.members = [member]) {p : Prop}
    [Decidable p] (hreceiver : (c.receiverTarget? (m := Id) names m call member).run =
      if p then some (.inModule m.path) else none) :
    (classify m.path (c.targetWith names m call)).1 = .self ↔ m.path ≠ "" ∧ p := by
  rw [classify_eq_self, targetWith_of_single hkind hmembers, hreceiver]
  by_cases hp : p
  · rw [if_pos hp, Option.getD_some]
    simp [hp]
  · rw [if_neg hp, Option.getD_none]
    constructor
    · rintro ⟨htarget, -⟩
      exact absurd (congrArg CallTarget.kind htarget) (targetByName_kind member)
    · rintro ⟨-, h⟩
      exact absurd h hp

/-- A module that was read off a sound tree. -/
def Extracted (m : Module) : Prop := ∃ path text root, Module.ofTree path text root = .ok m

/-- In a corpus of modules that were read off sound trees, whatever has been asked before: a call of a member that stays
in its module has a single member, and a longer chain leads into no module. A single member of a name that the module
declares stays there exactly if the module has the member, and a single member of the object of a class that extends
nothing exactly if the class has it, and then the module has it too. -/
theorem self_member_calls_declared (hc : ∀ m ∈ c.toList, Extracted m) (hm : m ∈ c.toList) (hcall : call ∈ m.calls)
    (hkind : call.kind = .member) (memory : ExportMemory) :
    let answer := ((classifyCall (scopeResolver c) m call).run memory).1.1
    (answer = .self → call.members.length = 1) ∧
    (2 ≤ call.members.length → answer ≠ .self ∧ answer ≠ .crossModule) ∧
    ∀ member, call.members = [member] →
      (∀ x scope, call.root = some x → x ≠ "this" → x ≠ "super" → call.scope = some scope →
        scope.lookup x = some .declared → (answer = .self ↔ m.path ≠ "" ∧ x ≠ "" ∧ member ∈ m.members)) ∧
      ∀ o, call.root = some "this" → call.owner = some o → o.base = none →
        (answer = .self ↔ m.path ≠ "" ∧ member ∈ o.members) ∧ (answer = .self → member ∈ m.members) := by
  rw [run_classifyCall]
  intro answer
  refine ⟨?_, ?_, ?_⟩
  · intro hself
    by_contra hmembers
    exact (classify_targetWith_of_chain hkind hmembers).1 hself
  · intro hlong
    exact classify_targetWith_of_chain hkind (by omega)
  · intro member hmembers
    constructor
    · intro x scope hroot hthis hsuper hscope hlookup
      exact classify_targetWith_of_single hkind hmembers
        (receiverTarget?_of_declared hroot hthis hsuper hscope hlookup)
    · intro o hroot ho hbase
      have hself : answer = .self ↔ m.path ≠ "" ∧ member ∈ o.members :=
        classify_targetWith_of_single hkind hmembers (receiverTarget?_of_this hroot ho hbase)
      refine ⟨hself, fun h => ?_⟩
      obtain ⟨path, text, root, htree⟩ := hc m hm
      have hextract := eq_extract_of_ofTree htree
      rw [hextract] at hcall ⊢
      exact mem_members_of_owner hcall ho (hself.mp h).2

section Trees

/-- The member of an expression whose name is the one letter after the point. -/
def memberOf (object : Node) : Node :=
  .branch "member_expression" object.start (object.stop + 2) [object.inField "object",
    .token "." object.stop (object.stop + 1),
    (Node.leaf "property_identifier" (object.stop + 1) (object.stop + 2)).inField "property"]

def callOf (callee : Node) : Node :=
  .branch "call_expression" callee.start (callee.stop + 2) [callee.inField "function",
    (Node.branch "arguments" callee.stop (callee.stop + 2) [.token "(" callee.stop (callee.stop + 1),
      .token ")" (callee.stop + 1) (callee.stop + 2)]).inField "arguments"]

def objectText : String := "const o = \x7b f: 1 \x7d; o.f(); o.f.g()"

def objectTree : Node :=
  .branch "program" 0 34
    [.branch "lexical_declaration" 0 19 [.token "const" 0 5,
      .branch "variable_declarator" 6 18 [(Node.leaf "identifier" 6 7).inField "name", .token "=" 8 9,
        (Node.branch "object" 10 18 [.token "\x7b" 10 11,
          .branch "pair" 12 16 [(Node.leaf "property_identifier" 12 13).inField "key", .token ":" 13 14,
            (Node.leaf "number" 15 16).inField "value"], .token "\x7d" 17 18]).inField "value"], .token ";" 18 19],
      .branch "expression_statement" 20 26 [callOf (memberOf (.leaf "identifier" 20 21)), .token ";" 25 26],
      .branch "expression_statement" 27 34 [callOf (memberOf (memberOf (.leaf "identifier" 27 28)))]]

theorem self_member_calls_declared_objectTree :
    let m := extract "a.ts" objectText objectTree
    let classOf := fun call => ((classifyCall (scopeResolver (ofModules [m])) m call).run []).1.1
    ∃ single chain, m.calls = [single, chain] ∧ classOf single = .self ∧ classOf chain ≠ .self := by
  intro m classOf
  have hextracted : ∀ n ∈ (ofModules [m]).toList, Extracted n :=
    List.forall_mem_singleton.mpr ⟨"a.ts", objectText, objectTree, ofTree_eq_ok (by decide) _ _⟩
  have hread : m.calls.map (·.members) = [["f"], ["f", "g"]] ∧ m.calls.map (·.kind) = [.member, .member] ∧
      m.calls.map (·.root) = [some "o", some "o"] ∧
      m.calls.map (·.scope.bind (·.lookup "o")) = [some .declared, some .declared] ∧ m.calls.length = 2 ∧
      "f" ∈ m.members := by decide +kernel
  obtain ⟨hmembers, hkinds, hroots, hbindings, hlength, hmember⟩ := hread
  obtain ⟨single, chain, hcalls⟩ := List.length_eq_two.mp hlength
  simp only [hcalls, List.map_cons, List.map_nil, List.cons.injEq, and_true] at hmembers hkinds hroots hbindings
  obtain ⟨scope, hscope, hlookup⟩ := Option.bind_eq_some_iff.mp hbindings.1
  have hsingle := self_member_calls_declared hextracted List.mem_cons_self
    (hcalls ▸ List.mem_cons_self : single ∈ m.calls) hkinds.1 []
  have hchain := self_member_calls_declared hextracted List.mem_cons_self
    (hcalls ▸ List.mem_cons_of_mem _ List.mem_cons_self : chain ∈ m.calls) hkinds.2 []
  refine ⟨single, chain, hcalls, ?_, ?_⟩
  · have hdeclared := (hsingle.2.2 "f" hmembers.1).1 "o" scope hroots.1 (by decide) (by decide) hscope hlookup
    exact hdeclared.mpr ⟨by decide, by decide, hmember⟩
  · exact (hchain.2.1 (by rw [hmembers.2]; decide)).1

end Trees

end Corpus

end CorpusShape
