import CorpusShape.Proofs.ReexportWalks

/-!
# Names that shadow stars

A name that a module names itself does not depend on what the module takes over whole: with all its stars taken out
the step from it is the same. The name of a whole module does not count as named here, and neither does a name that
the module does not provide at all. Without stars these lead nowhere; with stars they lead to the first target that
exports them.
-/
namespace CorpusShape

namespace Module

def withoutStars (m : Module) : Module := { m with reexports := m.reexports.filter (!·.isStar) }

theorem listed?_withoutStars (m : Module) (n : String) : m.withoutStars.listed? n = m.listed? n := by
  unfold listed? withoutStars
  dsimp only
  induction m.reexports with
  | nil => rfl
  | cons r rest ih =>
    by_cases hstar : r.isStar = true
    · -- A star lists no names, so taking it out does not change which list comes first.
      obtain ⟨hnames, -⟩ := Reexport.isStar_iff.mp hstar
      simpa [hstar, hnames] using ih
    · simp [hstar, List.findSome?_cons, ih]

theorem named?_withoutStars (m : Module) (n : String) : m.withoutStars.named? n = m.named? n := by
  have hown : ∀ inner, m.withoutStars.importedAs? inner = m.importedAs? inner := fun _ => rfl
  have hexports : m.withoutStars.exports = m.exports := rfl
  simp only [named?, hexports, hown, listed?_withoutStars]

end Module

namespace Corpus
variable {c : Corpus} {p n : String} {m : Module}

def withoutStarsAt (c : Corpus) (p : String) : Corpus :=
  ⟨c.modules.adjust fun path m => if path = p then m.withoutStars else m⟩

theorem get?_withoutStarsAt (hm : c.get? p = some m) : (c.withoutStarsAt p).get? p = some m.withoutStars := by
  have hm' : c.modules.get? p = some m := hm
  simp [get?, withoutStarsAt, Table.get?_adjust, hm']

theorem resolve?_withoutStarsAt (c : Corpus) (p : String) : (c.withoutStarsAt p).resolve? = c.resolve? := by
  have hcontains : (c.withoutStarsAt p).contains = c.contains := by
    funext path
    simp [contains, Table.contains, withoutStarsAt, Table.get?_adjust]
  funext origin specifier
  simp only [resolve?, hcontains]

theorem starTargets_withoutStars (c : Corpus) (p : String) (m : Module) : c.starTargets p m.withoutStars = [] := by
  simp [starTargets, Module.withoutStars, List.filter_filter]

variable {names bare : String → List String}

/-- The names that a module names lead to the same place with and without its stars. -/
theorem stepWith_withoutStarsAt_of_names (hm : c.get? p = some m) (hn : m.Names n) :
    (c.withoutStarsAt p).stepWith bare p n = c.stepWith names p n := by
  have hplace : (c.withoutStarsAt p).placeOf? p = c.placeOf? p := by
    funext source
    simp only [placeOf?, resolve?_withoutStarsAt]
  rw [stepWith_eq (get?_withoutStarsAt hm), stepWith_eq hm, Module.named?_withoutStars, hplace]
  cases hnamed : m.named? n with
  | none => exact absurd hn (Module.named?_eq_none.mp hnamed)
  | some source => rfl

/-- All other names lead nowhere without the stars. -/
theorem stepWith_withoutStarsAt_of_not_names (hm : c.get? p = some m) (hn : ¬m.Names n) :
    (c.withoutStarsAt p).stepWith bare p n = none := by
  rw [stepWith_eq (get?_withoutStarsAt hm), Module.named?_withoutStars, Module.named?_eq_none.mpr hn,
    starTargets_withoutStars]
  simp

/-- With all stars of a module taken out, the step from a name that the module exports itself or lists in a re-export
is the same, whatever has been asked before, and so is the first move of the walk. Other names, that of a whole module
included, are not kept from the stars: the step is the same only for the default name, or if no star target exports
the name. -/
theorem named_exports_shadow_stars (hm : c.get? p = some m) (n : String) (memory memory' : ExportMemory) :
    let d := c.withoutStarsAt p
    let step := ((c.reexportStep c.rememberedNames p n).run memory).1
    let bareStep := ((d.reexportStep d.rememberedNames p n).run memory').1
    (m.Names n → bareStep = step ∧
      (d.walk (d.namesWith memory') (p, n)).head? = (c.walk (c.namesWith memory) (p, n)).head?) ∧
    (¬m.Names n → (bareStep = step ↔
      n = "default" ∨ ∀ t, c.StarEdge p t → n ∉ ((c.rememberedNames t).run memory).1)) := by
  simp only [run_reexportStep, run_rememberedNames, head?_walk]
  constructor
  · intro hn
    exact ⟨stepWith_withoutStarsAt_of_names hm hn, stepWith_withoutStarsAt_of_names hm hn⟩
  · intro hn
    have hsome : (c.stepWith (c.namesWith memory) p n).isSome ↔ _ := stepWith_isSome_of_not_names hm hn
    rw [stepWith_withoutStarsAt_of_not_names hm hn, eq_comm, ← Option.not_isSome_iff_eq_none, hsome]
    simp only [not_and, not_exists, ne_eq]
    exact Decidable.or_iff_not_imp_left.symm

/-- A barrel that lists a name which a star target has as well. -/
def listingBarrel : Module :=
  { path := "p.ts", reexports := [{ specifier := "./y" }, { specifier := "./x", names := some [("n", "q")] }] }

/-- A barrel that gives a whole module a name which a star target has as well. -/
def aliasingBarrel : Module :=
  { path := "p.ts", reexports := [{ specifier := "./x", whole := some "n" }, { specifier := "./y" }] }

/-- A barrel between the module of which it takes a part and the module that it takes over. -/
def barrelCorpus (barrel : Module) : Corpus :=
  ofModules [barrel, { path := "x.ts", exports := [("q", some "q")], frame := [("q", .declared)] },
    { path := "y.ts", exports := [("n", some "n")], frame := [("n", .declared)] }]

theorem named_exports_shadow_stars_listing :
    let c := barrelCorpus listingBarrel
    let d := c.withoutStarsAt "p.ts"
    ((d.reexportStep d.rememberedNames "p.ts" "n").run []).1 =
        ((c.reexportStep c.rememberedNames "p.ts" "n").run []).1 ∧
      ((c.reexportStep c.rememberedNames "p.ts" "n").run []).1 = some ("x.ts", "q") := by
  intro c d
  have hnames : listingBarrel.Names "n" :=
    Or.inr ⟨_, List.mem_cons_of_mem _ List.mem_cons_self, _, rfl, List.mem_cons_self⟩
  obtain ⟨hnamed, -⟩ := named_exports_shadow_stars (c := c) (p := "p.ts") rfl "n" [] []
  exact ⟨(hnamed hnames).1, by decide +kernel⟩

/-- The name of a whole module is provided, but the stars are tried for it. -/
theorem whole_name_yields_to_star :
    let c := barrelCorpus aliasingBarrel
    let d := c.withoutStarsAt "p.ts"
    c.get? "p.ts" = some aliasingBarrel ∧ aliasingBarrel.Provides "n" ∧
      ((c.reexportStep c.rememberedNames "p.ts" "n").run []).1 = some ("y.ts", "n") ∧
      ((d.reexportStep d.rememberedNames "p.ts" "n").run []).1 = none := by
  refine ⟨rfl, Or.inr ⟨_, List.mem_cons_self, Or.inr rfl⟩, ?_, ?_⟩
  · decide +kernel
  · decide +kernel

end Corpus

end CorpusShape
