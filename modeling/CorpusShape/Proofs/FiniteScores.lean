import CorpusShape.Proofs.Scores
import CorpusShape.Proofs.SettingRecords
import CorpusShape.Proofs.SpecialDoubles

/-!
# Scores that are no number

A weighted sum of counts is no number where a count of zero meets an infinite weight, and only there. What a module's
score then is depends on how the volume meets the power of the area: a quotient with an operand that is no number, or
with two infinite ones, is no number, and every other quotient is finite or made finite. The main statement names the
ways in which a score is no number and says that every other score is finite.
-/
namespace CorpusShape

namespace Double
variable {x y alpha d : Float}

theorem less_eq_true_iff : less x y = true ↔ isNaN x = false ∧ isNaN y = false ∧ rank x < rank y := by
  simp [less, and_assoc]

/-- A natural number that is not too large becomes a finite double, and only zero becomes zero. -/
theorem ofInt?_natCast_eq_some {n : Nat} (h : ofInt? n = some x) :
    Unsigned x ∧ isNaN x = false ∧ isInfinite x = false ∧ (isZero x = true ↔ n = 0) := by
  have hbits : nearestBits n 1 < 2047 * 2 ^ 52 := by
    unfold ofInt? nearest? at h
    simp only [twoTo_eq, Int.natAbs_natCast] at h
    by_contra hlarge
    rw [if_neg hlarge] at h
    cases h
  have hzero : nearestBits n 1 = 0 ↔ n = 0 := by
    constructor
    · intro hnone
      by_contra hn
      have hlow := (nearestBits_one hn).1
      omega
    · rintro rfl
      rfl
  rw [ofInt?_natCast hbits] at h
  cases h
  have hrank := rank_ofMagnitude hbits
  obtain ⟨hunsigned, hnumber, -⟩ := ofMagnitude_spec hbits
  refine ⟨hunsigned, hnumber, ?_, ?_⟩
  · rw [isInfinite, beq_eq_false_iff_ne, hrank, infiniteRank, twoTo_eq]
    omega
  · rw [isZero, beq_iff_eq, hrank]
    omega

section Powers

theorem rank_abs (hx : isFinite x = true) (hunsigned : Unsigned x) : rank (abs x) = rank x := by
  have hrank : rank x = x.toBits.toNat := by
    unfold rank
    dsimp only
    rw [twoTo_eq]
    exact if_pos hunsigned
  have hbits : x.toBits.toNat < 2047 * 2 ^ 52 := by
    rw [isFinite, decide_eq_true_eq, hrank, infiniteRank, twoTo_eq] at hx
    omega
  unfold abs
  rw [twoTo_eq, Nat.mod_eq_of_lt hunsigned, rank_ofMagnitude hbits, hrank]

theorem toInfinitePower_special (halpha : less 0 alpha = true) (hx : isFinite x = true) (hunsigned : Unsigned x) :
    isNaN (toInfinitePower x alpha) = false ∧ (isInfinite (toInfinitePower x alpha) = true ↔ less 1 x = true) := by
  have hrank := rank_abs hx hunsigned
  have habs : less 1 (abs x) = less 1 x := by simp only [less, isNaN, hrank]
  unfold toInfinitePower
  rw [halpha, habs]
  by_cases hsame : same (abs x) 1 = true
  · have hless : less 1 x = false := by
      simp only [same, Bool.and_eq_true, beq_iff_eq, hrank] at hsame
      simp [less, hsame.2]
    simp [hsame, plain_one, hless]
  · cases less 1 x with
    | true => simp [hsame, positiveInfinity_infinite]
    | false => simp [hsame, plain_zero]

/-- A positive power of a double without a sign is no number only if the double is none. It is infinite only if the
double is, or if the exponent is and the double is above 1: a finite power that grows too large is an error. -/
theorem power_special (halpha : less 0 alpha = true) (hx : Unsigned x) (h : power x alpha = .ok d) :
    (isNaN d = true ↔ isNaN x = true) ∧
      (isInfinite d = true ↔ isInfinite x = true ∨ (isInfinite alpha = true ∧ less 1 x = true)) := by
  obtain ⟨-, halphanumber, halphapos⟩ := less_eq_true_iff.mp halpha
  rw [rank_zero] at halphapos
  have halphazero : isZero alpha = false := by
    rw [isZero, beq_eq_false_iff_ne]
    omega
  unfold power at h
  by_cases hnumber : isNaN x = true
  · rw [if_pos hnumber, halphazero] at h
    cases h
    have hless : less 1 x = false := by simp [less, hnumber]
    simp [hnumber, hless, isInfinite_of_isNaN hnumber]
  rw [if_neg hnumber, if_neg (by simp [halphanumber])] at h
  by_cases hinfinite : isInfinite x = true
  · rw [if_pos hinfinite, infinitePower, if_pos halpha] at h
    split at h
    · cases h
      simp [hinfinite]
    · cases h
      simp [hnumber, hinfinite, positiveInfinity_infinite]
  rw [if_neg hinfinite] at h
  by_cases hsteep : isInfinite alpha = true
  · rw [if_pos hsteep] at h
    cases h
    obtain ⟨hpower, hgrows⟩ := toInfinitePower_special halpha (isFinite_of_not hnumber hinfinite) hx
    simp [hnumber, hinfinite, hsteep, hpower, hgrows]
  rw [if_neg hsteep] at h
  dsimp only at h
  split at h
  · cases h
  split at h
  · cases h
  rename_i hpower hbounded
  cases h
  simp [hnumber, hinfinite, hsteep, hpower, hbounded]

theorem power_ok_of_special (h : isNaN x = true ∨ isInfinite x = true ∨ isInfinite alpha = true) :
    ∃ d, power x alpha = .ok d := by
  unfold power
  split
  · exact ⟨_, rfl⟩
  split
  · exact ⟨_, rfl⟩
  split
  · exact ⟨_, rfl⟩
  split
  · exact ⟨_, rfl⟩
  · simp_all

end Powers

section Floors

/-- The double whose power is taken for an area. -/
def floored (area : Float) : Float := if isZero area then epsilon else area

theorem Unsigned.floored (hx : Unsigned x) : Unsigned (floored x) := by
  unfold Double.floored
  split
  · unfold Unsigned
    decide
  · exact hx

theorem floored_special (x : Float) :
    isNaN (floored x) = isNaN x ∧ isInfinite (floored x) = isInfinite x ∧ less 1 (floored x) = less 1 x := by
  unfold floored
  by_cases hzero : isZero x = true
  · have hrank : rank x = 0 := by simpa [isZero] using hzero
    have hnumber : isNaN x = false := Bool.eq_false_iff.mpr fun hno => by simp [isZero_of_isNaN hno] at hzero
    have hbounded : isInfinite x = false := Bool.eq_false_iff.mpr fun hno => by simp [isZero_of_isInfinite hno] at hzero
    have hless : less 1 x = false := by simp [less, hrank, rank_one]
    have hepsilon := plain_of_rank rank_epsilon (by decide)
    rw [if_pos hzero, hnumber, hbounded, hless]
    exact ⟨hepsilon.1, hepsilon.2, by simp [less, rank_one, rank_epsilon]⟩
  · rw [if_neg hzero]
    exact ⟨rfl, rfl, rfl⟩

theorem power_floored (halpha : less 0 alpha = true) (hx : Unsigned x) (h : power (floored x) alpha = .ok d) :
    (isNaN d = true ↔ isNaN x = true) ∧
      (isInfinite d = true ↔ isInfinite x = true ∨ (isInfinite alpha = true ∧ less 1 x = true)) := by
  obtain ⟨hnumber, hinfinite, hless⟩ := floored_special x
  rw [← hnumber, ← hinfinite, ← hless]
  exact power_special halpha hx.floored h

end Floors

end Double

namespace Amount
variable {a b c : Amount} {x : Float}

/-- An integer that is not negative, or a double without a sign. -/
def Unsigned : Amount → Prop
  | .int i => 0 ≤ i
  | .float x => Double.Unsigned x

def isNaN : Amount → Bool
  | .int _ => false
  | .float x => Double.isNaN x

def isInfinite : Amount → Bool
  | .int _ => false
  | .float x => Double.isInfinite x

/-- The double nearest to an amount is special where the amount is. -/
theorem Unsigned.toFloat? (ha : a.Unsigned) (h : a.toFloat? = some x) :
    Double.Unsigned x ∧ Double.isNaN x = a.isNaN ∧ Double.isInfinite x = a.isInfinite ∧ Double.isZero x = a.isZero := by
  cases a with
  | int i =>
    obtain ⟨n, rfl⟩ := Int.eq_ofNat_of_zero_le ha
    obtain ⟨hunsigned, hnumber, hbounded, hzero⟩ := Double.ofInt?_natCast_eq_some h
    refine ⟨hunsigned, hnumber, hbounded, ?_⟩
    rw [Bool.eq_iff_iff, hzero]
    simp [isZero]
  | float y =>
    cases h
    exact ⟨ha, rfl, rfl, rfl⟩

theorem combine?_eq_some {exact : Int → Int → Int} {rounded : Float → Float → Float}
    (h : combine? exact rounded a b = some c) :
    (∃ i j, a = .int i ∧ b = .int j ∧ c = .int (exact i j)) ∨
      ∃ x y, a.toFloat? = some x ∧ b.toFloat? = some y ∧ c = .float (rounded x y) := by
  have hfloat : (do return .float (rounded (← a.toFloat?) (← b.toFloat?)) : Option Amount) = some c →
      ∃ x y, a.toFloat? = some x ∧ b.toFloat? = some y ∧ c = .float (rounded x y) := by
    intro hsome
    obtain ⟨x, hx, hrest⟩ := Option.bind_eq_some_iff.mp hsome
    obtain ⟨y, hy, hc⟩ := Option.bind_eq_some_iff.mp hrest
    cases hc
    exact ⟨x, y, hx, hy, rfl⟩
  cases a with
  | int i =>
    cases b with
    | int j =>
      cases h
      exact .inl ⟨i, j, rfl, rfl, rfl⟩
    | float y => exact .inr (hfloat h)
  | float x => exact .inr (hfloat h)

/-- A number without a sign, which may be infinite. -/
def Number (a : Amount) : Prop := a.Unsigned ∧ a.isNaN = false

/-- A count with a weight that is a number. -/
def Weighed (t : Int × Amount) : Prop := 0 ≤ t.1 ∧ t.2.Number

/-- A count of zero with an infinite weight. -/
def Vacuous (t : Int × Amount) : Prop := t.1 = 0 ∧ t.2.isInfinite = true

theorem Weighed.mul? {t : Int × Amount} (ht : Weighed t) (h : Amount.mul? (.int t.1) t.2 = some c) :
    c.Unsigned ∧ (c.isNaN = true ↔ Vacuous t) := by
  obtain ⟨i, b⟩ := t
  obtain ⟨hi, hb, hnumber⟩ := ht
  have hcount : (Amount.int i).Unsigned := hi
  rcases combine?_eq_some h with ⟨_, j, hint, hj, rfl⟩ | ⟨x, y, hx, hy, rfl⟩
  · cases hint
    cases hj
    exact ⟨Int.mul_nonneg hi hb, by simp [Vacuous, isNaN, isInfinite]⟩
  · obtain ⟨hxs, hxnumber, hxbounded, hxzero⟩ := hcount.toFloat? hx
    obtain ⟨hys, hynumber, hyinfinite, -⟩ := hb.toFloat? hy
    refine ⟨hxs.mul hys, ?_⟩
    -- a count is finite, so that only its being zero can spoil the product
    rw [isNaN, Double.isNaN_mul, hxnumber, hynumber, hxbounded, hxzero, hyinfinite, hnumber]
    simp [Vacuous, isNaN, isInfinite, isZero]

theorem Unsigned.add? (ha : a.Unsigned) (hb : b.Unsigned) (h : a.add? b = some c) :
    c.Unsigned ∧ (c.isNaN = true ↔ a.isNaN = true ∨ b.isNaN = true) := by
  rcases combine?_eq_some h with ⟨i, j, rfl, rfl, rfl⟩ | ⟨x, y, hx, hy, rfl⟩
  · exact ⟨Int.add_nonneg ha hb, by simp [isNaN]⟩
  · obtain ⟨hxs, hxnumber, -⟩ := ha.toFloat? hx
    obtain ⟨hys, hynumber, -⟩ := hb.toFloat? hy
    refine ⟨hxs.add hys, ?_⟩
    rw [isNaN, hxs.isNaN_add hys, hxnumber, hynumber]

theorem foldlM_add?_isNaN {rest : List Amount} (ha : a.Unsigned) (hrest : ∀ b ∈ rest, b.Unsigned)
    (h : rest.foldlM Amount.add? a = some c) :
    c.Unsigned ∧ (c.isNaN = true ↔ ∃ b ∈ a :: rest, b.isNaN = true) := by
  induction rest generalizing a with
  | nil =>
    cases h
    exact ⟨ha, by simp⟩
  | cons b rest ih =>
    rw [List.foldlM_cons] at h
    obtain ⟨d, hd, htail⟩ := Option.bind_eq_some_iff.mp h
    obtain ⟨hdunsigned, hdnumber⟩ := ha.add? (hrest b List.mem_cons_self) hd
    obtain ⟨hunsigned, hnumber⟩ := ih hdunsigned (fun e he => hrest e (List.mem_cons_of_mem _ he)) htail
    refine ⟨hunsigned, ?_⟩
    rw [hnumber]
    simp only [List.exists_mem_cons_iff, hdnumber, or_assoc]

theorem mapM_mul?_isNaN {terms : List (Int × Amount)} {as : List Amount} (hterms : ∀ t ∈ terms, Weighed t)
    (h : terms.mapM (fun t => Amount.mul? (.int t.1) t.2) = some as) :
    (∀ b ∈ as, b.Unsigned) ∧ ((∃ b ∈ as, b.isNaN = true) ↔ ∃ t ∈ terms, Vacuous t) := by
  induction terms generalizing as with
  | nil =>
    cases h
    simp
  | cons t terms ih =>
    rw [List.mapM_cons] at h
    obtain ⟨b, hb, hrest⟩ := Option.bind_eq_some_iff.mp h
    obtain ⟨bs, hbs, hcons⟩ := Option.bind_eq_some_iff.mp hrest
    cases hcons
    obtain ⟨hunsigned, hvacuous⟩ := (hterms t List.mem_cons_self).mul? hb
    obtain ⟨hall, hany⟩ := ih (fun u hu => hterms u (List.mem_cons_of_mem _ hu)) hbs
    constructor
    · exact List.forall_mem_cons.mpr ⟨hunsigned, hall⟩
    · rw [List.exists_mem_cons_iff, List.exists_mem_cons_iff, hany, hvacuous]

/-- A weighted sum is no number exactly if one of its counts is zero and has an infinite weight. -/
theorem weighted?_isNaN {terms : List (Int × Amount)} (hterms : ∀ t ∈ terms, Weighed t) (h : weighted? terms = some c) :
    c.Unsigned ∧ (c.isNaN = true ↔ ∃ t ∈ terms, Vacuous t) := by
  obtain ⟨as, has, hsum⟩ := Option.bind_eq_some_iff.mp h
  obtain ⟨hall, hany⟩ := mapM_mul?_isNaN hterms has
  rw [← hany]
  cases as with
  | nil =>
    cases hsum
    exact ⟨Int.le_refl 0, by simp [isNaN]⟩
  | cons a rest =>
    exact foldlM_add?_isNaN (hall a List.mem_cons_self) (fun b hb => hall b (List.mem_cons_of_mem _ hb)) hsum

end Amount

theorem Weights.number_of_ofEntries {entries : Entries} {w : Weights} (h : ofEntries entries = .ok w) :
    ∀ f ∈ w.fields, f.2.2.Number := by
  obtain ⟨hfields, -⟩ := ofEntries_eq_ok_iff.mp h
  have hstandard : ∀ f ∈ w.fields, f.2.1.Number := by
    rw [forall_mem_fields]
    simp [Amount.Number, Amount.Unsigned, Amount.isNaN]
  intro f hf
  apply Field.Name.read_eq_ok (P := Amount.Number) (hstandard f hf) _ (hfields f hf)
  intro v a ha
  obtain ⟨x, hx, rfl⟩ := Checked.map_eq_ok ha
  have hless := Field.less_of_positive hx
  exact ⟨Double.unsigned_of_less hless, (Double.less_eq_true_iff.mp hless).2.1⟩

namespace Counters
variable {k : Counters} {w : Weights}

def volumeTerms (k : Counters) (w : Weights) : List (Int × Amount) :=
  [(k.privateMethods, w.privateMethod), (k.callsInternal + k.incomingInternal, w.internalCall),
    (k.internalTypes, w.internalType)]

def areaTerms (k : Counters) (w : Weights) : List (Int × Amount) :=
  [(k.exportedCount, w.exportedSymbol), (k.publicMethods, w.publicMethod), (k.externalImports, w.externalImport),
    (k.outgoingHits, w.outgoingCall), (k.callsExternal, w.outgoingCall)]

theorem volume?_eq (k : Counters) (w : Weights) : k.volume? w = Amount.weighted? (k.volumeTerms w) := rfl

theorem area?_eq (k : Counters) (w : Weights) : k.area? w = Amount.weighted? (k.areaTerms w) := rfl

variable (hk : ∀ e ∈ k.toList, 0 ≤ e.2) (hw : ∀ f ∈ w.fields, f.2.2.Number)
include hk hw

theorem weighed_volumeTerms : ∀ t ∈ k.volumeTerms w, Amount.Weighed t := by
  obtain ⟨hprivate, hcall, htype, -⟩ := Weights.forall_mem_fields.mp hw
  simp only [toList, List.forall_mem_cons] at hk
  simp only [volumeTerms, List.forall_mem_cons]
  refine ⟨⟨?_, hprivate⟩, ⟨?_, hcall⟩, ⟨?_, htype⟩, List.forall_mem_nil _⟩ <;> omega

theorem weighed_areaTerms : ∀ t ∈ k.areaTerms w, Amount.Weighed t := by
  obtain ⟨-, -, -, hexported, hpublic, hexternal, houtgoing⟩ := Weights.forall_mem_fields.mp hw
  simp only [toList, List.forall_mem_cons] at hk
  simp only [areaTerms, List.forall_mem_cons]
  refine ⟨⟨?_, hexported⟩, ⟨?_, hpublic⟩, ⟨?_, hexternal⟩, ⟨?_, houtgoing⟩, ⟨?_, houtgoing⟩, List.forall_mem_nil _⟩ <;>
    omega

end Counters

section Sphericity
open Double (isNaN isInfinite isZero less power floored)
variable {alpha v a s : Float} {volume area : Amount}

theorem toFloat?_scoredArea (harea : area.Unsigned) (ha : area.toFloat? = some a) :
    (scoredArea area).toFloat? = some (floored a) := by
  obtain ⟨-, -, -, hzero⟩ := harea.toFloat? ha
  unfold scoredArea floored
  rw [hzero]
  split
  · rfl
  · exact ha

/-- The sphericity is the quotient of the volume and the power of the area wherever that power is neither zero nor too
large, and it is no number only where the quotient is none. -/
theorem sphericityOf_special (hvolume : volume.toFloat? = some v) (harea : area.Unsigned) (ha : area.toFloat? = some a)
    (h : sphericityOf alpha volume area = .ok s) :
    isInfinite s = false ∧
      (isNaN s = true ↔ ∃ d, power (floored a) alpha = .ok d ∧ isZero d = false ∧
        (isNaN v = true ∨ isNaN d = true ∨ (isInfinite v = true ∧ isInfinite d = true))) := by
  have hgreatest := Double.plain_of_rank Double.rank_greatest (by decide)
  unfold sphericityOf at h
  rw [toFloat?_scoredArea harea ha] at h
  dsimp only at h
  cases hpower : power (floored a) alpha with
  | error e =>
    rw [hpower] at h
    cases e with
    | tooLarge =>
      cases h
      simp [Double.plain_zero]
    | undefined => cases h
  | ok d =>
    rw [hpower] at h
    dsimp only at h
    by_cases hzero : isZero d = true
    · rw [if_pos hzero] at h
      cases h
      split
      · simp [hzero, hgreatest]
      · simp [hzero, Double.plain_zero]
    · rw [if_neg hzero, hvolume] at h
      rw [Bool.not_eq_true] at hzero
      have hquotient : isNaN (v / d) = true ↔
          isNaN v = true ∨ isNaN d = true ∨ (isInfinite v = true ∧ isInfinite d = true) := by
        simp [Double.isNaN_div, hzero]
      dsimp only at h
      by_cases hlarge : isInfinite (v / d) = true
      · rw [if_pos hlarge] at h
        cases h
        have hnumber : ¬isNaN (v / d) = true := fun hno => by simp [Double.isInfinite_of_isNaN hno] at hlarge
        rw [hquotient] at hnumber
        simpa [hgreatest, hzero] using hnumber
      · rw [if_neg hlarge] at h
        cases h
        simp [hlarge, hquotient, hzero]

/-- The ways in which a score is no number. -/
inductive Indefinite (alpha volume area : Float) : Prop
  | area (hnumber : isNaN area = true)
  | volume {d : Float} (hnumber : isNaN volume = true) (hpower : power (floored area) alpha = .ok d)
      (hzero : isZero d = false)
  | infinities (hvolume : isInfinite volume = true) (harea : isInfinite area = true)
  | steep (hvolume : isInfinite volume = true) (halpha : isInfinite alpha = true) (harea : less 1 area = true)

theorem indefinite_iff (halpha : less 0 alpha = true) (ha : Double.Unsigned a) :
    Indefinite alpha v a ↔ ∃ d, power (floored a) alpha = .ok d ∧ isZero d = false ∧
      (isNaN v = true ∨ isNaN d = true ∨ (isInfinite v = true ∧ isInfinite d = true)) := by
  obtain ⟨hnumber, hinfinite, -⟩ := Double.floored_special a
  constructor
  · intro h
    cases h with
    | area hno =>
      obtain ⟨d, hd⟩ : ∃ d, power (floored a) alpha = .ok d := Double.power_ok_of_special (.inl (hnumber.trans hno))
      have hdno := (Double.power_floored halpha ha hd).1.mpr hno
      exact ⟨d, hd, Double.isZero_of_isNaN hdno, .inr (.inl hdno)⟩
    | volume hno hpower hzero => exact ⟨_, hpower, hzero, .inl hno⟩
    | infinities hv hinf =>
      obtain ⟨d, hd⟩ := Double.power_ok_of_special (.inr (.inl (hinfinite.trans hinf)))
      have hdinf := (Double.power_floored halpha ha hd).2.mpr (.inl hinf)
      exact ⟨d, hd, Double.isZero_of_isInfinite hdinf, .inr (.inr ⟨hv, hdinf⟩)⟩
    | steep hv hsteep hgrows =>
      obtain ⟨d, hd⟩ := Double.power_ok_of_special (.inr (.inr hsteep))
      have hdinf := (Double.power_floored halpha ha hd).2.mpr (.inr ⟨hsteep, hgrows⟩)
      exact ⟨d, hd, Double.isZero_of_isInfinite hdinf, .inr (.inr ⟨hv, hdinf⟩)⟩
  · rintro ⟨d, hd, hzero, hno | hno | ⟨hv, hinf⟩⟩
    · exact .volume hno hd hzero
    · exact .area ((Double.power_floored halpha ha hd).1.mp hno)
    · rcases (Double.power_floored halpha ha hd).2.mp hinf with harea | ⟨hsteep, hgrows⟩
      · exact .infinities hv harea
      · exact .steep hv hsteep hgrows

end Sphericity

namespace Metrics
variable {w : Weights} {alpha : Float} {file : String} {k : Counters} {m : Metrics}

theorem ofFigures_eq_ok {volume area : Amount} {s cohesion : Float} {extras : List (String × Int)}
    (h : ofFigures file volume area s cohesion extras = .ok m) :
    volume.toFloat? = some m.volume ∧ area.toFloat? = some m.area ∧ m.sphericity = s := by
  unfold ofFigures at h
  dsimp only at h
  obtain ⟨_, _, hg, -, rfl⟩ := Checked.seq_eq_ok h
  obtain ⟨_, a, hf, ha, rfl⟩ := Checked.seq_eq_ok hg
  obtain ⟨v, hv, rfl⟩ := Checked.map_eq_ok hf
  refine ⟨?_, ?_, rfl⟩
  · split at hv
    · cases hv
      assumption
    · cases hv
  · split at ha
    · cases ha
      assumption
    · cases ha

theorem ofCounters_eq_ok (h : ofCounters w alpha file k = .ok m) :
    ∃ volume area, k.volume? w = some volume ∧ k.area? w = some area ∧ volume.toFloat? = some m.volume ∧
      area.toFloat? = some m.area ∧ sphericityOf alpha volume area = .ok m.sphericity := by
  unfold ofCounters at h
  split at h
  · rename_i volume area cohesion hvolume harea hcohesion
    split at h
    · cases h
    rename_i s hs
    split at h
    · rename_i hfigures
      cases h
      obtain ⟨hv, ha, rfl⟩ := ofFigures_eq_ok hfigures
      exact ⟨volume, area, hvolume, harea, hv, ha, hs⟩
    · cases h
  · cases h

/-- Every module whose counters balance and are not negative has a score, under weights and a power that are accepted,
if no counter outgrows the doubles. Whatever has a score has a finite one unless its figures are indefinite, and then
the score is no number; it is never infinite. A volume or an area is no number exactly if one of the weights that it
adds up is infinite and nothing was counted for it. -/
theorem sphericity_finite_unless_indefinite {entries : Entries} (hw : Weights.ofEntries entries = .ok w)
    (halpha : Double.less 0 alpha = true) (hk : ∀ e ∈ k.toList, 0 ≤ e.2) (file : String) :
    (∀ calls bound size : Nat, k.Balanced calls → PowersDefined alpha → (∀ e ∈ k.toList, e.2 ≤ bound) →
      30 * (bound + 1) < 2 ^ size → size ≤ 1023 → ∃ m, ofCounters w alpha file k = .ok m) ∧
    ∀ m, ofCounters w alpha file k = .ok m →
      (¬Indefinite alpha m.volume m.area → Double.isFinite m.sphericity = true) ∧
      (Indefinite alpha m.volume m.area → Double.isNaN m.sphericity = true) ∧
      (Double.isNaN m.volume = true ↔ ∃ t ∈ k.volumeTerms w, t.1 = 0 ∧ t.2.isInfinite = true) ∧
      (Double.isNaN m.area = true ↔ ∃ t ∈ k.areaTerms w, t.1 = 0 ∧ t.2.isInfinite = true) := by
  constructor
  · intro calls bound size hbalanced hpow hbound hfits hsize
    have hfit : k.Fit bound := by
      intro e he
      obtain ⟨n, hn⟩ := Int.eq_ofNat_of_zero_le (hk e he)
      exact ⟨n, hn, Int.ofNat_le.mp (hn ▸ hbound e he)⟩
    obtain ⟨m, hm, -⟩ := ofCounters_ok hfit hbalanced (Weights.fit_of_ofEntries hw) hpow hsize hfits file
    exact ⟨m, hm⟩
  · intro m hm
    have hnumbers := Weights.number_of_ofEntries hw
    obtain ⟨volume, area, hvolume, harea, hv, ha, hs⟩ := ofCounters_eq_ok hm
    rw [Counters.volume?_eq] at hvolume
    rw [Counters.area?_eq] at harea
    obtain ⟨hvunsigned, hvterms⟩ := Amount.weighted?_isNaN (Counters.weighed_volumeTerms hk hnumbers) hvolume
    obtain ⟨haunsigned, haterms⟩ := Amount.weighted?_isNaN (Counters.weighed_areaTerms hk hnumbers) harea
    obtain ⟨-, hvnumber, -⟩ := hvunsigned.toFloat? hv
    obtain ⟨hfigure, hanumber, -⟩ := haunsigned.toFloat? ha
    obtain ⟨hbounded, hnumber⟩ := sphericityOf_special hv haunsigned ha hs
    rw [← indefinite_iff halpha hfigure] at hnumber
    refine ⟨?_, hnumber.mpr, ?_, ?_⟩
    · intro hdefinite
      apply Double.isFinite_of_not (mt hnumber.mp hdefinite)
      simp [hbounded]
    · rw [hvnumber]
      exact hvterms
    · rw [hanumber]
      exact haterms

section Overflow

def heavy : Float := .ofBits 0x7fe1ccf385ebc8a0

def heavyEntries : Entries := [(.text "internal_call", .float heavy), (.text "exported_symbol", .float heavy)]

def heavyWeights : Weights := { internalCall := .float heavy, exportedSymbol := .float heavy }

def busyCounters : Counters := { exportedCount := 10, callsTotal := 10, callsInternal := 10 }

theorem sphericity_finite_unless_indefinite_busy :
    (∃ m, ofCounters {} Double.positiveInfinity "m" busyCounters = .ok m ∧ Double.isFinite m.sphericity = true) ∧
      ∃ m, ofCounters heavyWeights Double.positiveInfinity "m" busyCounters = .ok m ∧
        Double.isNaN m.sphericity = true := by
  have halpha : Double.less 0 Double.positiveInfinity = true := by decide
  have hpow : PowersDefined Double.positiveInfinity := fun hfinite => absurd hfinite (by decide)
  have hbalanced : busyCounters.Balanced 10 := by constructor <;> decide
  have hbound : ∀ e ∈ busyCounters.toList, 0 ≤ e.2 ∧ e.2 ≤ (10 : Nat) := by decide
  constructor
  · obtain ⟨hscored, hfinite⟩ := sphericity_finite_unless_indefinite
      (show Weights.ofEntries [] = .ok {} from rfl) halpha (fun e he => (hbound e he).1) "m"
    obtain ⟨m, hm⟩ := hscored 10 10 9 hbalanced hpow (fun e he => (hbound e he).2) (by decide) (by decide)
    have hfigures : (ofCounters {} Double.positiveInfinity "m" busyCounters).toOption.all (fun m =>
        !Double.isNaN m.volume && !Double.isInfinite m.volume && !Double.isNaN m.area) = true := by decide
    simp only [hm, Except.toOption, Option.all_some, Bool.and_eq_true, Bool.not_eq_true'] at hfigures
    refine ⟨m, hm, (hfinite m hm).1 ?_⟩
    intro h
    cases h <;> simp_all
  · obtain ⟨hscored, hfinite⟩ := sphericity_finite_unless_indefinite
      (show Weights.ofEntries heavyEntries = .ok heavyWeights from rfl) halpha (fun e he => (hbound e he).1) "m"
    obtain ⟨m, hm⟩ := hscored 10 10 9 hbalanced hpow (fun e he => (hbound e he).2) (by decide) (by decide)
    have hfigures : (ofCounters heavyWeights Double.positiveInfinity "m" busyCounters).toOption.all (fun m =>
        Double.isInfinite m.volume && Double.isInfinite m.area) = true := by decide +kernel
    simp only [hm, Except.toOption, Option.all_some, Bool.and_eq_true] at hfigures
    exact ⟨m, hm, (hfinite m hm).2.1 (.infinities hfigures.1 hfigures.2)⟩

def unboundedEntries : Entries := [(.text "public_method", .float Double.positiveInfinity)]

def unboundedWeights : Weights := { publicMethod := .float Double.positiveInfinity }

/-- Finite weights that make both figures infinite leave no score, and neither does an infinite weight of what was not
counted; both are accepted. -/
theorem sphericity_no_number :
    Weights.ofEntries heavyEntries = .ok heavyWeights ∧ Weights.ofEntries unboundedEntries = .ok unboundedWeights ∧
      Double.isFinite heavy = true ∧ Double.less 0 1.8 = true ∧ (∀ e ∈ busyCounters.toList, 0 ≤ e.2) ∧
      ∀ w ∈ [heavyWeights, unboundedWeights],
        (ofCounters w 1.8 "m" busyCounters).toOption.any (fun m => Double.isNaN m.sphericity) = true := by
  refine ⟨rfl, rfl, by decide, by decide, by decide, ?_⟩
  simp only [List.forall_mem_cons]
  exact ⟨by decide +kernel, by decide +kernel, List.forall_mem_nil _⟩

end Overflow

end Metrics

end CorpusShape
