import CorpusShape.Proofs.CallBalance
import CorpusShape.Proofs.Signs
import CorpusShape.Score

/-!
# Every counted module has a score

Counts are not negative and weights are not negative, so neither are volumes and areas, as integers or as doubles. The
area whose power is taken is then positive, infinite or no number, and its power is defined. Nothing is left on which
the scoring of a module could fail, as long as no count outgrows the doubles.
-/
namespace CorpusShape

namespace Amount

/-- An integer up to a bound, or a double without a sign. -/
def Fits (bound : Nat) : Amount → Prop
  | .int i => ∃ n : Nat, i = n ∧ n ≤ bound
  | .float x => Double.Unsigned x

variable {a b : Amount} {bound more size : Nat}

theorem Fits.mono (h : a.Fits bound) (hle : bound ≤ more) : a.Fits more := by
  cases a with
  | int i =>
    obtain ⟨n, hi, hn⟩ := h
    exact ⟨n, hi, Nat.le_trans hn hle⟩
  | float x => exact h

theorem Fits.toFloat? (h : a.Fits bound) (hsize : size ≤ 1023) (hbound : bound < 2 ^ size) :
    ∃ x, a.toFloat? = some x ∧ Double.Unsigned x := by
  cases a with
  | int i =>
    obtain ⟨n, rfl, hn⟩ := h
    obtain ⟨x, hx, hunsigned, -⟩ := Double.ofInt?_of_lt hsize (Nat.lt_of_le_of_lt hn hbound)
    exact ⟨x, hx, hunsigned⟩
  | float x => exact ⟨x, rfl, h⟩

theorem Fits.combine? {exact : Int → Int → Int} {rounded : Float → Float → Float} {total : Nat} (ha : a.Fits bound)
    (hb : b.Fits more) (hsize : size ≤ 1023) (hbound : bound < 2 ^ size) (hmore : more < 2 ^ size)
    (hexact : ∀ m n : Nat, m ≤ bound → n ≤ more → (Amount.int (exact m n)).Fits total)
    (hrounded : ∀ x y, Double.Unsigned x → Double.Unsigned y → Double.Unsigned (rounded x y)) :
    ∃ c, Amount.combine? exact rounded a b = some c ∧ c.Fits total := by
  obtain ⟨x, hx, hxs⟩ := ha.toFloat? hsize hbound
  obtain ⟨y, hy, hys⟩ := hb.toFloat? hsize hmore
  have hfloat : (do return .float (rounded (← a.toFloat?) (← b.toFloat?)) : Option Amount) =
      some (.float (rounded x y)) := by
    rw [hx, hy]
    rfl
  cases a with
  | int i =>
    cases b with
    | int j =>
      obtain ⟨m, rfl, hm⟩ := ha
      obtain ⟨n, rfl, hn⟩ := hb
      exact ⟨_, rfl, hexact m n hm hn⟩
    | float y => exact ⟨_, hfloat, hrounded x _ hxs hys⟩
  | float x => exact ⟨_, hfloat, hrounded _ y hxs hys⟩

theorem Fits.mul? (ha : a.Fits bound) (hb : b.Fits more) (hsize : size ≤ 1023) (hbound : bound < 2 ^ size)
    (hmore : more < 2 ^ size) : ∃ c, a.mul? b = some c ∧ c.Fits (bound * more) :=
  ha.combine? hb hsize hbound hmore
    (fun m n hm hn => ⟨m * n, (Int.natCast_mul m n).symm, Nat.mul_le_mul hm hn⟩) fun _ _ => Double.Unsigned.mul

theorem Fits.add? (ha : a.Fits bound) (hb : b.Fits more) (hsize : size ≤ 1023) (hbound : bound < 2 ^ size)
    (hmore : more < 2 ^ size) : ∃ c, a.add? b = some c ∧ c.Fits (bound + more) :=
  ha.combine? hb hsize hbound hmore
    (fun m n hm hn => ⟨m + n, (Int.natCast_add m n).symm, Nat.add_le_add hm hn⟩) fun _ _ => Double.Unsigned.add

theorem foldlM_add?_fits {rest : List Amount} (ha : a.Fits more) (hrest : ∀ b ∈ rest, b.Fits bound)
    (hsize : size ≤ 1023) (hbound : more + rest.length * bound < 2 ^ size) :
    ∃ c, rest.foldlM Amount.add? a = some c ∧ c.Fits (more + rest.length * bound) := by
  induction rest generalizing a more with
  | nil => exact ⟨a, rfl, ha.mono (by simp)⟩
  | cons b rest ih =>
    rw [List.length_cons, Nat.succ_mul] at hbound ⊢
    obtain ⟨c, hc, hfits⟩ := ha.add? (hrest b List.mem_cons_self) hsize (by omega) (by omega)
    obtain ⟨d, hd, hdfits⟩ := ih hfits (fun e he => hrest e (List.mem_cons_of_mem _ he)) (by omega)
    refine ⟨d, ?_, hdfits.mono (by omega)⟩
    rw [List.foldlM_cons, hc]
    exact hd

/-- A sum of counts, each with its weight. -/
theorem weighted?_fits {terms : List (Int × Amount)} {heaviest : Nat}
    (hterms : ∀ t ∈ terms, (Amount.int t.1).Fits bound ∧ t.2.Fits heaviest) (hsize : size ≤ 1023)
    (hb : bound < 2 ^ size) (hh : heaviest < 2 ^ size) (hbound : terms.length * (bound * heaviest) < 2 ^ size) :
    ∃ c, weighted? terms = some c ∧ c.Fits (terms.length * (bound * heaviest)) := by
  have hmap : ∀ {terms : List (Int × Amount)}, (∀ t ∈ terms, (Amount.int t.1).Fits bound ∧ t.2.Fits heaviest) →
      ∃ as, terms.mapM (fun t => Amount.mul? (.int t.1) t.2) = some as ∧ as.length = terms.length ∧
        ∀ b ∈ as, b.Fits (bound * heaviest) := by
    intro terms hterms
    induction terms with
    | nil => exact ⟨[], rfl, rfl, by simp⟩
    | cons t terms ih =>
      obtain ⟨hcount, hweight⟩ := hterms t List.mem_cons_self
      obtain ⟨c, hc, hfits⟩ := hcount.mul? hweight hsize hb hh
      obtain ⟨as, has, hlength, hall⟩ := ih fun u hu => hterms u (List.mem_cons_of_mem _ hu)
      refine ⟨c :: as, ?_, by rw [List.length_cons, hlength, List.length_cons], ?_⟩
      · rw [List.mapM_cons, hc, has]
        rfl
      · exact List.forall_mem_cons.mpr ⟨hfits, hall⟩
  obtain ⟨as, has, hlength, hall⟩ := hmap hterms
  have hsum : weighted? terms = sum? as := by
    unfold weighted?
    exact congrArg (· >>= sum?) has
  rw [hsum, ← hlength]
  rw [← hlength] at hbound
  cases as with
  | nil => exact ⟨.int 0, rfl, 0, rfl, Nat.zero_le _⟩
  | cons a rest =>
    rw [List.length_cons, Nat.succ_mul, Nat.add_comm] at hbound ⊢
    exact foldlM_add?_fits (hall a List.mem_cons_self) (fun b hb => hall b (List.mem_cons_of_mem _ hb)) hsize hbound

end Amount

/-- A positive finite double to the power `alpha` is a number, if `alpha` is finite. This is what is documented of
powers. -/
def PowersDefined (alpha : Float) : Prop :=
  Double.isFinite alpha = true → ∀ x, Double.less 0 x = true → Double.isFinite x = true →
    Double.isNaN (Float.pow x alpha) = false

namespace Double

theorem isFinite_of_not {x : Float} (hnumber : ¬isNaN x = true) (hfinite : ¬isInfinite x = true) : isFinite x = true := by
  simp only [isNaN, isInfinite, isFinite, decide_eq_true_eq, beq_iff_eq] at hnumber hfinite ⊢
  omega

theorem less_zero_of_rank_pos {x : Float} (hnumber : isNaN x = false) (hpos : 0 < rank x) : less 0 x = true := by
  simp [less, hnumber, plain_zero, rank_zero, hpos]

/-- The power of a double that is positive, or no number, is defined. -/
theorem power_ne_undefined {x alpha : Float} (hpow : PowersDefined alpha) (hpos : 0 < rank x) :
    power x alpha ≠ .error .undefined := by
  unfold power
  split
  · exact fun h => nomatch h
  rename_i hx
  split
  · exact fun h => nomatch h
  rename_i halpha
  split
  · exact fun h => nomatch h
  rename_i hxfinite
  split
  · exact fun h => nomatch h
  rename_i hafinite
  have hless := less_zero_of_rank_pos (Bool.not_eq_true _ ▸ hx) hpos
  have hr := hpow (isFinite_of_not halpha hafinite) x hless (isFinite_of_not hx hxfinite)
  have hzero : isZero x = false := by
    rw [isZero, beq_eq_false_iff_ne]
    omega
  dsimp only
  rw [hr, hzero]
  split
  · contradiction
  split
  · exact fun h => nomatch h
  · exact fun h => nomatch h

end Double

/-- The area whose power is taken is positive, or no number. -/
theorem Amount.Fits.scoredArea {area : Amount} {bound size : Nat} (h : area.Fits bound) (hsize : size ≤ 1023)
    (hbound : bound < 2 ^ size) : ∃ x, (scoredArea area).toFloat? = some x ∧ 0 < Double.rank x := by
  unfold CorpusShape.scoredArea
  split
  · exact ⟨Double.epsilon, rfl, by simp [Double.rank_epsilon]⟩
  rename_i hzero
  cases area with
  | int i =>
    obtain ⟨n, rfl, hn⟩ := h
    obtain ⟨x, hx, -, -, hpos⟩ := Double.ofInt?_of_lt hsize (Nat.lt_of_le_of_lt hn hbound)
    refine ⟨x, hx, hpos ?_⟩
    simp only [Amount.isZero, beq_iff_eq] at hzero
    omega
  | float x =>
    refine ⟨x, rfl, ?_⟩
    have hnonneg := Double.Unsigned.rank_nonneg h
    simp only [Amount.isZero, Double.isZero, beq_iff_eq] at hzero
    omega

theorem sphericityOf_ok {alpha : Float} {volume area : Amount} {bound size : Nat} (hpow : PowersDefined alpha)
    (hv : volume.Fits bound) (ha : area.Fits bound) (hsize : size ≤ 1023) (hbound : bound < 2 ^ size) :
    ∃ s, sphericityOf alpha volume area = .ok s := by
  obtain ⟨base, hbase, hpos⟩ := ha.scoredArea hsize hbound
  obtain ⟨v, hv, -⟩ := hv.toFloat? hsize hbound
  have hdefined := Double.power_ne_undefined hpow hpos
  unfold sphericityOf
  rw [hbase]
  dsimp only
  cases hpower : Double.power base alpha with
  | error e =>
    cases e with
    | tooLarge => exact ⟨0, rfl⟩
    | undefined => exact absurd hpower hdefined
  | ok denominator =>
    dsimp only
    split
    · exact ⟨_, rfl⟩
    · rw [hv]
      exact ⟨_, rfl⟩

/-- No counter is negative or above the bound. -/
def Counters.Fit (bound : Nat) (k : Counters) : Prop := ∀ e ∈ k.toList, (Amount.int e.2).Fits bound

/-- Integers up to 3 and doubles without a sign. -/
def Weights.Fit (w : Weights) : Prop := ∀ e ∈ w.toList, e.2.Fits 3

namespace Counters
variable {k : Counters} {w : Weights} {bound size : Nat}

/-- A counter, by the name under which it is reported. -/
theorem Fit.field (hk : k.Fit bound) (name : String) {i : Int} (hi : (name, i) ∈ k.toList) :
    (Amount.int i).Fits (2 * bound) :=
  (hk _ hi).mono (by omega)

theorem Fit.callsWithin (hk : k.Fit bound) : (Amount.int (k.callsInternal + k.incomingInternal)).Fits (2 * bound) := by
  obtain ⟨m, hm, hmle⟩ := hk ("calls_out_internal", k.callsInternal) (by simp [toList])
  obtain ⟨n, hn, hnle⟩ := hk ("incoming_internal", k.incomingInternal) (by simp [toList])
  exact ⟨m + n, by dsimp only at hm hn; rw [hm, hn, Int.natCast_add], by omega⟩

theorem Fit.weighted? {terms : List (Int × Amount)} (hterms : ∀ t ∈ terms, (Amount.int t.1).Fits (2 * bound) ∧ t.2.Fits 3)
    (hlength : terms.length ≤ 5) (hsize : size ≤ 1023) (hbound : 30 * (bound + 1) < 2 ^ size) :
    ∃ a, Amount.weighted? terms = some a ∧ a.Fits (30 * bound) := by
  have htotal : terms.length * (2 * bound * 3) ≤ 30 * bound :=
    Nat.le_trans (Nat.mul_le_mul_right _ hlength) (by omega)
  obtain ⟨a, ha, hfits⟩ := Amount.weighted?_fits hterms hsize (by omega) (by omega) (by omega)
  exact ⟨a, ha, hfits.mono htotal⟩

theorem Fit.volume? (hk : k.Fit bound) (hw : w.Fit) (hsize : size ≤ 1023) (hbound : 30 * (bound + 1) < 2 ^ size) :
    ∃ a, k.volume? w = some a ∧ a.Fits (30 * bound) := by
  refine Fit.weighted? ?_ (by simp) hsize hbound
  simp only [List.forall_mem_cons]
  refine ⟨⟨hk.field "private_method_count" (by simp [toList]), hw ("private_method", _) (by simp [Weights.toList])⟩,
    ⟨hk.callsWithin, hw ("internal_call", _) (by simp [Weights.toList])⟩,
    ⟨hk.field "internal_type_count" (by simp [toList]), hw ("internal_type", _) (by simp [Weights.toList])⟩, by simp⟩

theorem Fit.area? (hk : k.Fit bound) (hw : w.Fit) (hsize : size ≤ 1023) (hbound : 30 * (bound + 1) < 2 ^ size) :
    ∃ a, k.area? w = some a ∧ a.Fits (30 * bound) := by
  have houtgoing := hw ("outgoing_call", w.outgoingCall) (by simp [Weights.toList])
  refine Fit.weighted? ?_ (by simp) hsize hbound
  simp only [List.forall_mem_cons]
  refine ⟨⟨hk.field "exported_count" (by simp [toList]), hw ("exported_symbol", _) (by simp [Weights.toList])⟩,
    ⟨hk.field "public_method_count" (by simp [toList]), hw ("public_method", _) (by simp [Weights.toList])⟩,
    ⟨hk.field "external_imports" (by simp [toList]), hw ("external_import", _) (by simp [Weights.toList])⟩,
    ⟨hk.field "outgoing_call_heuristic" (by simp [toList]), houtgoing⟩,
    ⟨hk.field "calls_out_external" (by simp [toList]), houtgoing⟩, by simp⟩

end Counters

theorem Metrics.ofFigures_ok {volume area : Amount} {cohesion v a : Float} (hv : volume.toFloat? = some v)
    (ha : area.toFloat? = some a) (hcohesion : checkedCohesion cohesion = .ok cohesion) (file : String) (s : Float)
    (extras : List (String × Int)) :
    ofFigures file volume area s cohesion extras =
      .ok { id := file, file, volume := v, area := a, sphericity := s, cohesion, extras } := by
  unfold ofFigures
  dsimp only
  rw [hv, ha, hcohesion]
  rfl

/-- A module whose counters are in bounds and balanced has metrics, under its own path. -/
theorem Metrics.ofCounters_ok {k : Counters} {w : Weights} {alpha : Float} {bound size calls : Nat} (hk : k.Fit bound)
    (hbalanced : k.Balanced calls) (hw : w.Fit) (hpow : PowersDefined alpha) (hsize : size ≤ 1023)
    (hbound : 30 * (bound + 1) < 2 ^ size) (file : String) :
    ∃ m, ofCounters w alpha file k = .ok m ∧ m.id = file ∧ m.file = file := by
  obtain ⟨volume, hvolume, hvfits⟩ := hk.volume? hw hsize hbound
  obtain ⟨area, harea, hafits⟩ := hk.area? hw hsize hbound
  obtain ⟨cohesion, hcohesion, hnumber, hlow, hhigh⟩ := hbalanced.cohesion?_between
  have hfits : 30 * bound < 2 ^ size := by omega
  obtain ⟨s, hs⟩ := sphericityOf_ok hpow hvfits hafits hsize hfits
  obtain ⟨v, hv, -⟩ := hvfits.toFloat? hsize hfits
  obtain ⟨a, ha, -⟩ := hafits.toFloat? hsize hfits
  have hfigures := ofFigures_ok hv ha (checkedCohesion_of_between hnumber hlow hhigh) file s k.toList
  unfold ofCounters
  rw [hvolume, harea, hcohesion]
  dsimp only
  rw [hs]
  dsimp only
  rw [hfigures]
  exact ⟨_, rfl, rfl, rfl⟩

section Settings

namespace Checked
variable {α β : Type}

theorem map_eq_ok {f : α → β} {x : Checked α} {b : β} (h : f <$> x = .ok b) : ∃ a, x = .ok a ∧ b = f a := by
  cases x with
  | ok a =>
    cases h
    exact ⟨a, rfl, rfl⟩
  | bad problems => cases h

theorem seq_eq_ok {f : Checked (α → β)} {x : Checked α} {b : β} (h : f <*> x = .ok b) :
    ∃ g a, f = .ok g ∧ x = .ok a ∧ b = g a := by
  cases f with
  | ok g =>
    cases x with
    | ok a =>
      cases h
      exact ⟨g, a, rfl, rfl, rfl⟩
    | bad problems => cases h
  | bad problems => cases h

theorem andThen_eq_ok {f : α → Checked β} {x : Checked α} {b : β} (h : x.andThen f = .ok b) :
    ∃ a, x = .ok a ∧ f a = .ok b := by
  cases x with
  | ok a => exact ⟨a, rfl, h⟩
  | bad problems => cases h

end Checked

/-- A field has its standard value or one that was read. -/
theorem Field.Name.read_eq_ok {α : Type} {P : α → Prop} {n : Field.Name} {entries : Entries}
    {reader : Value → Checked α} {standard a : α} (hstandard : P standard) (hreader : ∀ v a, reader v = .ok a → P a)
    (h : n.read entries reader standard = .ok a) : P a := by
  unfold Field.Name.read at h
  split at h
  · rename_i v hv
    cases hread : reader v with
    | ok b =>
      rw [hread] at h
      cases h
      exact hreader v _ hread
    | bad problems =>
      rw [hread] at h
      cases h
  · cases h
    exact hstandard

theorem Double.unsigned_of_less {x : Float} (h : Double.less 0 x = true) : Double.Unsigned x := by
  simp only [Double.less, Bool.and_eq_true, decide_eq_true_eq, Double.rank_zero] at h
  have hpos := h.2
  unfold Double.rank at hpos
  rw [twoTo_eq] at hpos
  dsimp only at hpos
  split at hpos
  · assumption
  · omega

theorem Field.less_of_positive {v : Value} {x : Float} (h : Field.positive v = .ok x) : Double.less 0 x = true := by
  obtain ⟨y, -, hy⟩ := Checked.andThen_eq_ok h
  split at hy
  · cases hy
    assumption
  · cases hy

/-- Weights that are accepted are standard ones or positive doubles. -/
theorem Weights.fit_of_ofEntries {entries : Entries} {w : Weights} (h : ofEntries entries = .ok w) : w.Fit := by
  have hreader : ∀ v a, (Field.positive v).map Amount.float = .ok a → a.Fits 3 := by
    intro v a ha
    obtain ⟨x, hx, rfl⟩ := Checked.map_eq_ok ha
    exact Double.unsigned_of_less (Field.less_of_positive hx)
  have hweight : ∀ {n : Field.Name} {i : Nat} {a : Amount}, i ≤ 3 →
      n.read entries (fun v => (Field.positive v).map .float) (.int i) = .ok a → a.Fits 3 := fun hi =>
    Field.Name.read_eq_ok ⟨_, rfl, hi⟩ hreader
  unfold ofEntries at h
  obtain ⟨_, _, hg, -, rfl⟩ := Checked.seq_eq_ok h
  obtain ⟨_, _, hf, h₇, rfl⟩ := Checked.seq_eq_ok hg
  obtain ⟨_, _, he, h₆, rfl⟩ := Checked.seq_eq_ok hf
  obtain ⟨_, _, hd, h₅, rfl⟩ := Checked.seq_eq_ok he
  obtain ⟨_, _, hc, h₄, rfl⟩ := Checked.seq_eq_ok hd
  obtain ⟨_, _, hb, h₃, rfl⟩ := Checked.seq_eq_ok hc
  obtain ⟨_, _, ha, h₂, rfl⟩ := Checked.seq_eq_ok hb
  obtain ⟨_, h₁, rfl⟩ := Checked.map_eq_ok ha
  simp only [Weights.Fit, Weights.toList, List.forall_mem_cons]
  exact ⟨hweight (i := 1) (by omega) h₁, hweight (i := 1) (by omega) h₂, hweight (i := 2) (by omega) h₃,
    hweight (i := 3) (by omega) h₄, hweight (i := 2) (by omega) h₅, hweight (i := 2) (by omega) h₆,
    hweight (i := 2) (by omega) h₇, by simp⟩

/-- Settings that are accepted weigh with standard weights and positive doubles. -/
theorem Settings.weights_fit {root : String} {entries : Entries} {s : Settings} (h : ofEntries root entries = .ok s) :
    s.weights.Fit := by
  have hstandard : ({} : Weights).Fit := Weights.fit_of_ofEntries (show Weights.ofEntries [] = .ok {} from rfl)
  unfold ofEntries at h
  obtain ⟨_, _, hthresholds, -, rfl⟩ := Checked.seq_eq_ok h
  obtain ⟨_, _, halpha, -, rfl⟩ := Checked.seq_eq_ok hthresholds
  obtain ⟨_, _, hweights, -, rfl⟩ := Checked.seq_eq_ok halpha
  obtain ⟨_, w, hexcluded, hw, rfl⟩ := Checked.seq_eq_ok hweights
  obtain ⟨_, _, hincluded, -, rfl⟩ := Checked.seq_eq_ok hexcluded
  obtain ⟨_, _, hdebug, -, rfl⟩ := Checked.seq_eq_ok hincluded
  obtain ⟨_, -, rfl⟩ := Checked.map_eq_ok hdebug
  refine Field.Name.read_eq_ok (P := Weights.Fit) hstandard (fun v a ha => ?_) hw
  obtain ⟨_, -, hentries⟩ := Checked.andThen_eq_ok ha
  exact Weights.fit_of_ofEntries hentries

end Settings

end CorpusShape
