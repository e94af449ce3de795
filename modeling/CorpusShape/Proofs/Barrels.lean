import CorpusShape.Proofs.SharedParts

/-!
# Barrels

A barrel is a module that exposes a name of another one: it lists the name in a re-export, takes over the whole
module, or imports the name and exports it again. A barrel that is added to a corpus, and that nothing in the corpus
names, leaves the corpus as a part that both share. A walk that starts in the barrel makes one move into that part and
goes on there as it would without the barrel, whatever the form of the barrel.
-/
namespace CorpusShape

namespace Corpus
variable {c : Corpus} {b : Module}

/-- No specifier of the corpus names the module, were it added. -/
def Unnamed (c : Corpus) (b : Module) : Prop :=
  ∀ e ∈ c.modules, ∀ s ∈ e.2.specifiers, (c.add b).resolve? e.1 s ≠ some b.path

theorem get?_add_self (c : Corpus) (b : Module) : (c.add b).get? b.path = some b :=
  Table.get?_put_self _ _ _

theorem get?_add_of_ne {path : String} (h : path ≠ b.path) : (c.add b).get? path = c.get? path :=
  Table.get?_put_of_ne _ _ (Ne.symm h)

/-- A specifier that does not name the added module names what it named before. -/
theorem resolve?_add_of_ne {origin specifier : String}
    (h : (c.add b).resolve? origin specifier ≠ some b.path) :
    (c.add b).resolve? origin specifier = c.resolve? origin specifier := by
  have hself : (c.add b).contains b.path = true := congrArg Option.isSome (get?_add_self c b)
  exact resolve?_eq_of_ne hself (fun _ hpath => congrArg Option.isSome (get?_add_of_ne hpath)) h

/-- A corpus and the same one with a new module that it does not name share all but that module. -/
theorem sharedPart_add (hfresh : b.path ∉ c.paths) (hunnamed : c.Unnamed b) :
    c.SharedPart (c.add b) (· ≠ b.path) where
  get?_eq := fun _ hpath => (get?_add_of_ne hpath).symm
  resolve?_eq := fun path _ m hm s hs =>
    (resolve?_add_of_ne (hunnamed (path, m) (Table.mem_of_get? hm) s hs)).symm
  closed := by
    rintro path - m hm s hs t ht rfl
    exact hfresh (resolve?_mem ht)

/-- The module exposes the name `n` of the module at `t`, under the name that comes last. -/
inductive Exposes (c : Corpus) (b : Module) (t n : String) : String → Prop
  /-- The name is listed in a re-export; the module does not export the new name itself, and no re-export before
  lists it. -/
  | listed {x : String} {r : Reexport} {names : Table String} {before after : List Reexport} :
    x ∉ b.exports.keys → b.reexports = before ++ r :: after →
    (∀ q ∈ before, ∀ others, q.names = some others → x ∉ others.keys) →
    r.names = some names → names.get? x = some n → c.resolve? b.path r.specifier = some t → Exposes c b t n x
  /-- The whole module is taken over; the name is not provided, and no star before leads to a module that exports
  it. -/
  | star {r : Reexport} {before after : List Reexport} :
    ¬b.Provides n → b.reexports = before ++ r :: after →
    (∀ q ∈ before, q.isStar = true → ∀ u, c.resolve? b.path q.specifier = some u → n ∉ c.exportedNames u) →
    r.isStar = true → c.resolve? b.path r.specifier = some t → Exposes c b t n n
  /-- The name is imported under a local name, and this is exported. -/
  | imported {x inner specifier : String} :
    b.exports.get? x = some (some inner) → inner ≠ "" →
    b.frame.get? inner = some (.imported (some specifier) (some n)) → c.resolve? b.path specifier = some t →
    Exposes c b t n x

/-- Whatever the form of the barrel, its step leads to the name in the other module. -/
theorem Exposes.moves {t n x : String} (h : c.Exposes b t n x) (hb : c.get? b.path = some b) (hempty : n ≠ "")
    (hdefault : n ≠ "default") (hwhole : n ≠ "*") (hn : n ∈ c.exportedNames t) :
    c.Moves c.exportedNames (b.path, x) (t, n) := by
  rw [Moves, stepWith_eq hb]
  cases h with
  | @listed x r names before after hown hsplit hbefore hnames hlists ht =>
    have hnamed : b.named? x = some (some (r.specifier, n)) := by
      simp [Module.named?, Table.get?_eq_none hown, Module.listed?_of_first hsplit hbefore hnames hlists]
    simp [hnamed, placeOf?, ht]
  | star hprovides hsplit hbefore hstar ht =>
    have hnamed : b.named? n = none := Module.named?_eq_none.mpr fun hnames => hprovides hnames.provides
    rw [hnamed, find?_starTargets_of_first hsplit hbefore hstar ht hn]
    simp [hdefault]
  | @imported x inner specifier hown hinner hbound ht =>
    have hnamed : b.named? x = some (some (specifier, n)) := by
      simp [Module.named?, hown, Module.importedAs?_of_imported hinner hbound hempty hwhole]
    simp [hnamed, placeOf?, ht]

/-- From a barrel the walk moves to the name in the other module, and goes on from there as in the corpus without the
barrel, with one step less. -/
theorem walkFrom_add (hfresh : b.path ∉ c.paths) (hunnamed : c.Unnamed b) {t n x : String} (ht : t ∈ c.paths)
    (hmove : (c.add b).Moves (c.add b).exportedNames (b.path, x) (t, n)) (steps : Nat) :
    (c.add b).walkFrom (c.add b).exportedNames (steps + 1) [] (b.path, x) =
      (t, n) :: c.walkFrom c.exportedNames steps [] (t, n) := by
  have hshared := sharedPart_add hfresh hunnamed
  have hvisited : ∀ a : String × String, a.1 ≠ b.path → (a ∈ [] ↔ a ∈ [(b.path, x)]) := by
    rintro ⟨path, name⟩ ha
    simpa using fun hpath _ => ha hpath
  have htb : t ≠ b.path := fun h => hfresh (h ▸ ht)
  rw [walkFrom_of_moves _ List.not_mem_nil hmove,
    hshared.walkFrom_eq (fun _ hq => hshared.exportedNames_eq hq) hvisited steps htb]

/-- Barrels are transparent: a new module that nothing in the corpus names, and that exposes a name of a module of the
corpus in one of the three forms, has the declaring module that the name had before, provided that the walk to it
leaves one step for the barrel. -/
theorem declaringModule_of_barrel {t n x : String} (ht : t ∈ c.paths) (hempty : n ≠ "") (hdefault : n ≠ "default")
    (hwhole : n ≠ "*") {memory memory' : ExportMemory} (hmemory : c.Remembered memory)
    (hn : n ∈ ((c.rememberedNames t).run memory).1)
    (hmoves : (c.walk c.exportedNames (t, n)).length < reexportLimit) (hfresh : b.path ∉ c.paths)
    (hunnamed : c.Unnamed b) (hexposes : (c.add b).Exposes b t n x) (hmemory' : (c.add b).Remembered memory') :
    (((c.add b).declaringModule (c.add b).rememberedNames b.path x).run memory').1 =
      ((c.declaringModule c.rememberedNames t n).run memory).1 := by
  simp only [run_rememberedNames, run_declaringModule, hmemory.namesWith_eq, hmemory'.namesWith_eq] at hn ⊢
  have htb : t ≠ b.path := fun h => hfresh (h ▸ ht)
  have hexported : n ∈ (c.add b).exportedNames t := by
    rwa [← (sharedPart_add hfresh hunnamed).exportedNames_eq htb]
  have hmove := hexposes.moves (get?_add_self c b) hempty hdefault hwhole hexported
  have hwalk : (c.add b).walk (c.add b).exportedNames (b.path, x) = (t, n) :: c.walk c.exportedNames (t, n) := by
    calc (c.add b).walk (c.add b).exportedNames (b.path, x)
        = (t, n) :: c.walkFrom c.exportedNames 31 [] (t, n) := walkFrom_add hfresh hunnamed ht hmove 31
      _ = (t, n) :: c.walk c.exportedNames (t, n) := by
        rw [walk, reexportLimit, walkFrom_succ_of_length_le (Nat.le_of_lt_succ hmoves)]
  rw [hwalk, List.getLastD_cons]

/-- A module that takes over all of the one that declares something. -/
def layeredCorpus : Corpus := ofModules [{ path := "lib.ts", reexports := [{ specifier := "./c" }] }, crossedLeaf]

/-- A barrel that lists a name under another name. -/
def listingIndex : Module :=
  { path := "index.ts", reexports := [{ specifier := "./lib", names := some [("g", "f")] }] }

/-- A barrel that takes over a whole module, after another of which there is none. -/
def takingIndex : Module := { path := "index.ts", reexports := [{ specifier := "./none" }, { specifier := "./lib" }] }

/-- A barrel that imports a name and exports it under another name. -/
def importingIndex : Module :=
  { path := "index.ts", exports := [("g", some "h")], frame := [("h", .imported (some "./lib") (some "f"))] }

theorem declaringModule_of_barrel_layered :
    let c := layeredCorpus
    let declaring := ((c.declaringModule c.rememberedNames "lib.ts" "f").run []).1
    declaring = "c.ts" ∧
      (((c.add listingIndex).declaringModule (c.add listingIndex).rememberedNames "index.ts" "g").run []).1 =
        declaring ∧
      (((c.add takingIndex).declaringModule (c.add takingIndex).rememberedNames "index.ts" "f").run []).1 =
        declaring ∧
      (((c.add importingIndex).declaringModule (c.add importingIndex).rememberedNames "index.ts" "g").run []).1 =
        declaring := by
  intro c declaring
  have ht : "lib.ts" ∈ c.paths := by decide
  have hn : "f" ∈ ((c.rememberedNames "lib.ts").run []).1 := by decide +kernel
  have hmoves : (c.walk c.exportedNames ("lib.ts", "f")).length < reexportLimit := by decide +kernel
  have hfresh : "index.ts" ∉ c.paths := by decide
  have hlisting : (c.add listingIndex).Exposes listingIndex "lib.ts" "f" "g" :=
    .listed (by decide) (show listingIndex.reexports = [] ++ _ :: [] from rfl) (by simp) rfl rfl (by decide +kernel)
  have htaking : (c.add takingIndex).Exposes takingIndex "lib.ts" "f" "f" := by
    have hprovides : ¬takingIndex.Provides "f" := by simp [takingIndex, Module.Provides, Reexport.Lists]
    have hmissing : (c.add takingIndex).resolve? "index.ts" "./none" = none := by decide +kernel
    refine .star hprovides (show takingIndex.reexports = [{ specifier := "./none" }] ++ _ :: [] from rfl) ?_ rfl
      (by decide +kernel)
    intro q hq _ u hu
    obtain rfl := List.mem_singleton.mp hq
    cases hmissing.symm.trans hu
  have himporting : (c.add importingIndex).Exposes importingIndex "lib.ts" "f" "g" :=
    .imported rfl (by decide) rfl (by decide +kernel)
  have hunnamed : c.Unnamed listingIndex ∧ c.Unnamed takingIndex ∧ c.Unnamed importingIndex := by
    unfold Unnamed
    decide +kernel
  refine ⟨by decide +kernel, ?_, ?_, ?_⟩
  · exact declaringModule_of_barrel ht (by decide) (by decide) (by decide) (remembered_nil c) hn hmoves hfresh
      hunnamed.1 hlisting (remembered_nil _)
  · exact declaringModule_of_barrel ht (by decide) (by decide) (by decide) (remembered_nil c) hn hmoves hfresh
      hunnamed.2.1 htaking (remembered_nil _)
  · exact declaringModule_of_barrel ht (by decide) (by decide) (by decide) (remembered_nil c) hn hmoves hfresh
      hunnamed.2.2 himporting (remembered_nil _)

end Corpus

end CorpusShape
