-- SUMMARY: The text of every number reads back: integers as themselves, doubles as a double near by.
import Exchange.Proofs.Data.Decimal
import Exchange.Proofs.Data.Digits

/-!
# Numbers read back

Text readers multiply the digits of a double by a rounded power of ten, so the
double that comes back may be a neighbour (`Json.respelled`). One does always
come back: the digits fit sixty-four bits, dividing cannot leave the range, and
where the digits are multiplied the product is below `Double.ceiling`. That
bound fails for the three largest magnitudes, which are computed.
-/

namespace Exchange

/-! ## Scaling -/

namespace Double

theorem units_lt (x : Double) : x.units < ceiling * 2 ^ 1074 := by
  have hle : x.units ≤ unitsOf (2 ^ 53 - 1 + 2045 * 2 ^ 52) := by
    refine unitsOf_mono ?_
    have := x.finite
    unfold infinity at this
    omega
  rw [unitsOf_add_mul (by decide) (.inr (by decide))] at hle
  calc x.units ≤ (2 ^ 53 - 1) * 2 ^ 2045 := hle
    _ = (2 ^ 54 - 2) * (2 ^ 970 * 2 ^ 1074) := by
      rewrite [two_pow_eq 2045 1 2044 rfl, two_pow_eq 2044 970 1074 rfl]
      generalize 2 ^ 970 * 2 ^ 1074 = unit
      omega
    _ < (2 ^ 54 - 1) * (2 ^ 970 * 2 ^ 1074) := by
      have hpos := Nat.mul_pos (Nat.two_pow_pos 970) (Nat.two_pow_pos 1074)
      generalize 2 ^ 970 * 2 ^ 1074 = unit at hpos ⊢
      omega
    _ = ceiling * 2 ^ 1074 := by
      rewrite [ceiling_mul]
      generalize 2 ^ 970 * 2 ^ 1074 = unit
      rfl

/-- The rounded powers of ten are at least one, and at most one part in `2 ^ 53` too large. -/
theorem powerOfTen_bounds : ∀ n < 309, 2 ^ 1074 ≤ (powerOfTen n).units ∧
    (powerOfTen n).units * 2 ^ 53 ≤ 10 ^ n * 2 ^ 1074 * (2 ^ 53 + 1) := by
  decide +kernel

/-- Dividing by a power of ten stays in the range of doubles. -/
theorem div?_powerOfTen (x : Double) {n : Nat} (hn : n ≤ maxPower) :
    ∃ y, x.div? (powerOfTen n) = some y := by
  have hp := (powerOfTen_bounds n (Nat.lt_succ_of_le hn)).1
  have hpos : 0 < (powerOfTen n).units := Nat.lt_of_lt_of_le (Nat.two_pow_pos 1074) hp
  exact nearest?_isSome _ hpos (Nat.lt_of_lt_of_le x.units_lt (Nat.mul_le_mul_left ceiling hp))

theorem scale?_of_neg (fuel : Nat) (x : Double) {exponent : Int} (h : exponent < 0) :
    ∃ y, scale? fuel x exponent = some y := by
  induction fuel generalizing x exponent with
  | zero => exact ⟨x, rfl⟩
  | succ fuel ih =>
    have hneg : ¬0 ≤ exponent := Int.not_le.2 h
    unfold scale?
    split
    · rename_i hn
      exact div?_powerOfTen x hn
    · rename_i hn
      split
      · exact ⟨x, rfl⟩
      · obtain ⟨y, hy⟩ := div?_powerOfTen x (Nat.le_refl maxPower)
        have hnext : exponent + maxPower < 0 := by
          unfold maxPower at hn ⊢
          omega
        obtain ⟨z, hz⟩ := ih y hnext
        exact ⟨z, by simp [hy, hz]⟩

/-- A product that stays six half spacings below `ceiling` has room for two roundings. -/
theorem two_roundings_lt {n : Nat} (h : n ≤ (2 ^ 54 - 7) * 2 ^ 970) :
    n * (2 ^ 1074 * 2 ^ 1074) * ((2 ^ 53 + 1) * (2 ^ 53 + 1)) <
      ceiling * 2 ^ 2148 * (2 ^ 53 * 2 ^ 53) := by
  have ha : 0 < 2 ^ 970 := Nat.two_pow_pos 970
  have hb : 0 < 2 ^ 1074 := Nat.two_pow_pos 1074
  rewrite [two_pow_eq 2148 1074 1074 rfl, ceiling]
  generalize 2 ^ 970 = a at *
  generalize 2 ^ 1074 = b at *
  calc n * (b * b) * ((2 ^ 53 + 1) * (2 ^ 53 + 1))
      ≤ (2 ^ 54 - 7) * a * (b * b) * ((2 ^ 53 + 1) * (2 ^ 53 + 1)) :=
        Nat.mul_le_mul_right _ (Nat.mul_le_mul_right _ h)
    _ = (2 ^ 54 - 7) * ((2 ^ 53 + 1) * (2 ^ 53 + 1)) * (a * (b * b)) := by
      rw [Nat.mul_assoc (2 ^ 54 - 7), Nat.mul_right_comm]
    _ < (2 ^ 54 - 1) * (2 ^ 53 * 2 ^ 53) * (a * (b * b)) :=
      Nat.mul_lt_mul_of_pos_right (by decide) (Nat.mul_pos ha (Nat.mul_pos hb hb))
    _ = (2 ^ 54 - 1) * a * (b * b) * (2 ^ 53 * 2 ^ 53) := by
      rw [Nat.mul_right_comm, Nat.mul_assoc (2 ^ 54 - 1) a]

/-- Multiplying by a power of ten stays in the range where the exact product is well inside it. -/
theorem scale?_of_nonneg {fuel digits : Nat} {x : Double} {exponent : Int} (h : 0 ≤ exponent)
    (hd : 0 < digits) (hx : nearest? false digits 1 = some x)
    (hmax : digits * 10 ^ exponent.toNat ≤ (2 ^ 54 - 7) * 2 ^ 970) (hn : exponent.toNat ≤ maxPower) :
    ∃ y, scale? (fuel + 1) x exponent = some y := by
  have habs : exponent.natAbs = exponent.toNat := by omega
  have hx := units_nearest?_one_le hd hx
  have hp := (powerOfTen_bounds _ (Nat.lt_succ_of_le hn)).2
  unfold scale?
  rw [habs, if_pos hn, if_pos h]
  refine nearest?_isSome _ (Nat.two_pow_pos 2148) ?_
  refine Nat.lt_of_mul_lt_mul_right (a := 2 ^ 53 * 2 ^ 53) (Nat.lt_of_le_of_lt ?_ (two_roundings_lt hmax))
  generalize (powerOfTen exponent.toNat).units = p at *
  generalize x.units = u at *
  generalize 10 ^ exponent.toNat = t at *
  calc u * p * (2 ^ 53 * 2 ^ 53) = u * 2 ^ 53 * (p * 2 ^ 53) := Nat.mul_mul_mul_comm ..
    _ ≤ digits * 2 ^ 1074 * (2 ^ 53 + 1) * (t * 2 ^ 1074 * (2 ^ 53 + 1)) := Nat.mul_le_mul hx hp
    _ = digits * t * (2 ^ 1074 * 2 ^ 1074) * ((2 ^ 53 + 1) * (2 ^ 53 + 1)) := by
      rw [Nat.mul_mul_mul_comm, Nat.mul_mul_mul_comm digits]

/-! ## Absorbing digits -/

theorem le_ofDigitChars (ds : List Char) (s : Nat) : s ≤ Nat.ofDigitChars 10 ds s := by
  rw [Nat.ofDigitChars_eq_ofDigitChars_zero]
  exact Nat.le_trans (Nat.le_mul_of_pos_left s (Nat.pow_pos (by decide))) (Nat.le_add_right _ _)

/-- Digits that sixty-four bits hold are absorbed as they are. -/
theorem absorb_map_value (ds : List Char) {s : Nat} (h : Nat.ofDigitChars 10 ds s < 2 ^ 64) :
    absorb s (ds.map Digits.value) = (Nat.ofDigitChars 10 ds s, ds.length) := by
  induction ds generalizing s with
  | nil => rfl
  | cons c ds ih =>
    rw [Nat.ofDigitChars_cons] at h ⊢
    have hs : s * 10 + Digits.value c = 10 * s + (c.toNat - '0'.toNat) := by
      rw [Nat.mul_comm]
      rfl
    have hlt : s * 10 + Digits.value c < 2 ^ 64 := hs ▸ Nat.lt_of_le_of_lt (le_ofDigitChars ds _) h
    rw [List.map_cons, absorb, if_pos hlt, hs, ih h]
    rfl

end Double

/-- The magnitude of a literal by one rounding of its digits and one of the scaled result. -/
def Literal.magnitude? (l : Literal) : Option Double := do
  let x ← Double.nearest? false l.significand 1
  Double.scale? 5 x l.scale

theorem Double.ofScaled?_literal {negative : Bool} {l : Literal} (hs : l.significand < 2 ^ 64)
    (he : ∀ n, l.exponent = some (false, n) → n < 2 ^ 31) (h : ∃ y, l.magnitude? = some y) :
    ∃ y, ofScaled? negative (l.whole.map Digits.value) (l.fraction.map Digits.value) l.part = some y := by
  obtain ⟨y, hy⟩ := h
  have hsig : l.significand = Nat.ofDigitChars 10 l.fraction (Nat.ofDigitChars 10 l.whole 0) :=
    Nat.ofDigitChars_append 0
  rw [hsig] at hs
  have hwhole := absorb_map_value l.whole (Nat.lt_of_le_of_lt (le_ofDigitChars l.fraction _) hs)
  have hfraction := absorb_map_value l.fraction hs
  unfold Literal.magnitude? Literal.scale at hy
  rw [hsig] at hy
  unfold ofScaled?
  simp only [hwhole, hfraction, List.length_map, Nat.sub_self, Literal.part]
  cases hl : l.exponent with
  | none =>
    rw [hl] at hy
    refine ⟨{ y with negative }, ?_⟩
    simpa using congrArg (Option.map fun y : Double => { y with negative }) hy
  | some e =>
    obtain ⟨sign, n⟩ := e
    rw [hl] at hy
    simp only [Option.map_some]
    split
    · rename_i hbig
      cases sign with
      | true => exact ⟨_, by simp; rfl⟩
      | false =>
        have := he n hl
        omega
    · refine ⟨{ y with negative }, ?_⟩
      have hscale : ((0 : Nat) : Int) - (l.fraction.length : Int) + (if sign then -(n : Int) else n) =
          (if sign then -(n : Int) else n) - l.fraction.length := by omega
      rw [hscale]
      exact congrArg (Option.map fun y : Double => { y with negative }) hy

/-! ## The literal of a double -/

/-- The literal that `Double.magnitudeText` makes of a decimal. -/
def Decimal.literal (d : Decimal) : Literal :=
  let digits := Nat.toDigits 10 d.digits
  let lead := d.exponent + digits.length - 1
  if Double.positional lead then
    if lead < 0 then ⟨['0'], List.replicate ((-lead).toNat - 1) '0' ++ digits, none⟩
    else
      let whole := lead.toNat + 1
      let fraction := digits.drop whole
      ⟨digits.take whole ++ List.replicate (whole - digits.length) '0',
        if fraction.isEmpty then ['0'] else fraction, none⟩
  else ⟨digits.take 1, digits.drop 1, some (decide (lead < 0), lead.natAbs)⟩

/-- The literal of the magnitude of a double. -/
def Double.literal (x : Double) : Literal :=
  if x.code = 0 then ⟨['0'], ['0'], none⟩ else x.shortest.literal

theorem Double.toList_magnitudeText (x : Double) : x.magnitudeText.toList = x.literal.chars := by
  unfold magnitudeText literal
  split
  · rfl
  · unfold Decimal.literal
    dsimp only
    split
    · split
      · simp [Literal.chars, Literal.exponentChars]
      · generalize (x.shortest.exponent + _ - 1).toNat + 1 = whole
        cases hf : (Nat.toDigits 10 x.shortest.digits).drop whole with
        | nil => simp [Literal.chars, Literal.exponentChars]
        | cons c cs => simp [Literal.chars, Literal.exponentChars]
    · cases hf : (Nat.toDigits 10 x.shortest.digits).drop 1 with
      | nil => simp [Literal.chars, Literal.exponentChars]
      | cons c cs => simp [Literal.chars, Literal.exponentChars]

namespace Decimal

variable {d : Decimal}

theorem length_toDigits_le {n : Nat} (h : n ≤ 10 ^ 17) : (Nat.toDigits 10 n).length ≤ 18 :=
  (Nat.length_toDigits_le_iff (by decide) (by decide)).2 (by omega)

theorem literal_proper (h : 0 < d.digits) : d.literal.Proper := by
  have hdigit := Digits.isDigit_toDigits (n := d.digits)
  have hzero (k : Nat) : ∀ c ∈ List.replicate k '0', c.isDigit = true := by
    intro c hc
    rw [(List.mem_replicate.1 hc).2]
    rfl
  have hne : Nat.toDigits 10 d.digits ≠ [] := Nat.toDigits_ne_nil
  unfold literal
  dsimp only
  split
  · split
    · refine ⟨by simp, ?_, by simp, by simp⟩
      intro c hc
      rcases List.mem_append.1 hc with hc | hc
      · exact hzero _ c hc
      · exact hdigit c hc
    · refine ⟨?_, ?_, ?_, ?_⟩
      · intro c hc
        rcases List.mem_append.1 hc with hc | hc
        · exact hdigit c (List.mem_of_mem_take hc)
        · exact hzero _ c hc
      · intro c hc
        dsimp only at hc
        split at hc
        · simp at hc
          rw [hc]
          rfl
        · exact hdigit c (List.mem_of_mem_drop hc)
      · simp [hne]
      · intro ds hds
        cases hd : Nat.toDigits 10 d.digits with
        | nil => exact absurd hd hne
        | cons c cs =>
          rw [hd, List.take_succ_cons, List.cons_append] at hds
          obtain ⟨rfl, -⟩ := List.cons.inj hds
          exact absurd (Digits.toDigits_eq_zero_cons hd) (Nat.ne_of_gt h)
  · refine ⟨?_, ?_, ?_, ?_⟩
    · exact fun c hc => hdigit c (List.mem_of_mem_take hc)
    · exact fun c hc => hdigit c (List.mem_of_mem_drop hc)
    · simp [hne]
    · intro ds hds
      have := congrArg List.length hds
      simp at this
      exact List.length_eq_zero_iff.1 (by omega)

theorem literal_significand_lt (h0 : 0 < d.digits) (h : d.digits ≤ 10 ^ 17) :
    d.literal.significand < 2 ^ 64 := by
  have hlen := length_toDigits_le h
  have hdigits : Nat.ofDigitChars 10 (Nat.toDigits 10 d.digits) 0 = d.digits :=
    Nat.ofDigitChars_ten_toDigits
  by_cases hpos : Double.positional (d.exponent + (Nat.toDigits 10 d.digits).length - 1)
  · by_cases hneg : d.exponent + (Nat.toDigits 10 d.digits).length - 1 < 0
    · -- the zeros in front count for nothing
      unfold literal Literal.significand
      dsimp only
      rw [if_pos hpos, if_pos hneg]
      rw [List.singleton_append, Nat.ofDigitChars_cons, Nat.ofDigitChars_append,
        Nat.ofDigitChars_replicate_zero]
      simp only [Nat.sub_self, Nat.mul_zero, Nat.add_zero, hdigits]
      omega
    · have hlead : d.exponent + (Nat.toDigits 10 d.digits).length - 1 ≤ 15 := by
        simp only [Double.positional, decide_eq_true_eq] at hpos
        exact hpos.2
      have hlength : d.literal.whole.length + d.literal.fraction.length ≤ 19 := by
        unfold literal
        dsimp only
        rw [if_pos hpos, if_neg hneg]
        simp only [List.length_append, List.length_take, List.length_replicate]
        split
        · rw [List.length_singleton]
          omega
        · rw [List.length_drop]
          omega
      exact Nat.lt_of_lt_of_le (literal_proper h0).significand_lt
        (Nat.le_trans (Nat.pow_le_pow_right (by decide) hlength) (by decide))
  · unfold literal Literal.significand
    dsimp only
    rw [if_neg hpos, List.take_append_drop, hdigits]
    omega

theorem literal_of_positional
    (h : Double.positional (d.exponent + (Nat.toDigits 10 d.digits).length - 1)) :
    d.literal.exponent = none ∧ d.literal.fraction ≠ [] := by
  have hne : Nat.toDigits 10 d.digits ≠ [] := Nat.toDigits_ne_nil
  unfold literal
  dsimp only
  rw [if_pos h]
  split
  · exact ⟨rfl, List.append_ne_nil_of_right_ne_nil _ hne⟩
  · refine ⟨rfl, ?_⟩
    dsimp only
    split
    · exact List.cons_ne_nil _ _
    · rename_i hne
      exact fun h => hne (List.isEmpty_iff.2 h)

theorem literal_of_not_positional
    (h : ¬Double.positional (d.exponent + (Nat.toDigits 10 d.digits).length - 1)) :
    d.literal = ⟨(Nat.toDigits 10 d.digits).take 1, (Nat.toDigits 10 d.digits).drop 1,
      some (decide (d.exponent + (Nat.toDigits 10 d.digits).length - 1 < 0),
        (d.exponent + (Nat.toDigits 10 d.digits).length - 1).natAbs)⟩ :=
  if_neg h

/-- A literal without exponent has digits after its point, and so is divided. -/
theorem literal_scale (d : Decimal) :
    d.literal.scale < 0 ∨ d.literal.scale = d.exponent ∧ d.literal.significand = d.digits := by
  have hlen : 0 < (Nat.toDigits 10 d.digits).length := Nat.length_toDigits_pos
  by_cases h : Double.positional (d.exponent + (Nat.toDigits 10 d.digits).length - 1)
  · obtain ⟨he, hf⟩ := literal_of_positional h
    have := List.length_pos_iff.2 hf
    refine .inl ?_
    unfold Literal.scale
    rw [he]
    dsimp only
    omega
  · rw [literal_of_not_positional h]
    refine .inr ⟨?_, ?_⟩
    · unfold Literal.scale
      simp only [List.length_drop, decide_eq_true_eq]
      split
      · omega
      · omega
    · unfold Literal.significand
      rw [List.take_append_drop]
      exact Nat.ofDigitChars_ten_toDigits

theorem literal_exponent {n : Nat} (h : d.literal.exponent = some (false, n)) :
    (n : Int) = d.exponent + (Nat.toDigits 10 d.digits).length - 1 := by
  by_cases hp : Double.positional (d.exponent + (Nat.toDigits 10 d.digits).length - 1)
  · rw [(literal_of_positional hp).1] at h
    cases h
  · rw [literal_of_not_positional hp] at h
    simp only [Option.some.injEq, Prod.mk.injEq, decide_eq_false_iff_not] at h
    omega

theorem literal_isDouble (d : Decimal) :
    ¬(d.literal.fraction.isEmpty ∧ d.literal.exponent.isNone) := by
  by_cases h : Double.positional (d.exponent + (Nat.toDigits 10 d.digits).length - 1)
  · simp [(literal_of_positional h).2]
  · simp [literal_of_not_positional h]

end Decimal

/-! ## Doubles read back -/

namespace Double

/-- The sum of the magnitudes on either side of a midpoint, up to the three largest magnitudes. -/
theorem unitsOf_add_le {code : Nat} (h : code + 4 ≤ infinity) :
    unitsOf code + unitsOf (code + 1) ≤ (2 ^ 54 - 7) * 2 ^ 970 * 2 ^ 1075 := by
  have h4 : unitsOf code ≤ unitsOf (2 ^ 53 - 4 + 2045 * 2 ^ 52) := by
    refine unitsOf_mono ?_
    unfold infinity at h
    omega
  have h3 : unitsOf (code + 1) ≤ unitsOf (2 ^ 53 - 3 + 2045 * 2 ^ 52) := by
    refine unitsOf_mono ?_
    unfold infinity at h
    omega
  rw [unitsOf_add_mul (by decide) (.inr (by decide))] at h4 h3
  calc unitsOf code + unitsOf (code + 1) ≤ (2 ^ 54 - 7) * 2 ^ 2045 := by
        generalize 2 ^ 2045 = unit at *
        omega
    _ = (2 ^ 54 - 7) * 2 ^ 970 * 2 ^ 1075 := mul_two_pow_eq _ 2045 970 1075 rfl

theorem le_of_scaled_le {a b units top m n : Nat} (hm : m = 0)
    (h : a * (b * 2 ^ n) ≤ units * 10 ^ m) (htop : units ≤ top * 2 ^ n) : a * b ≤ top := by
  subst hm
  rw [Nat.pow_zero, Nat.mul_one, ← Nat.mul_assoc] at h
  exact Nat.le_of_mul_le_mul_right (Nat.le_trans h htop) (Nat.two_pow_pos n)

theorem magnitude?_of_near {code : Nat} {d : Decimal} (h : Near code d) (hc : code + 4 ≤ infinity) :
    (∃ y, d.literal.magnitude? = some y) ∧
      ∀ n, d.literal.exponent = some (false, n) → n < 2 ^ 31 := by
  have hsig := Decimal.literal_significand_lt h.digits_pos h.digits_le
  have hmax (he : 0 ≤ d.exponent) : d.digits * 10 ^ d.exponent.toNat ≤ (2 ^ 54 - 7) * 2 ^ 970 := by
    have h0 : (-d.exponent).toNat = 0 := by omega
    exact le_of_scaled_le h0 h.le_midpoint (unitsOf_add_le hc)
  have hn : d.exponent.toNat ≤ maxPower := by
    rcases Int.le_total d.exponent 0 with hneg | hpos
    · omega
    · have hlt : 10 ^ d.exponent.toNat < 10 ^ (maxPower + 1) :=
        calc 10 ^ d.exponent.toNat ≤ d.digits * 10 ^ d.exponent.toNat :=
              Nat.le_mul_of_pos_left _ h.digits_pos
          _ ≤ (2 ^ 54 - 7) * 2 ^ 970 := hmax hpos
          _ < 10 ^ (maxPower + 1) := by decide +kernel
      have hexponent : d.exponent.toNat < maxPower + 1 :=
        (Nat.pow_lt_pow_iff_right (by decide : 1 < 10)).1 hlt
      exact Nat.le_of_lt_succ hexponent
  constructor
  · obtain ⟨x, hx⟩ := nearest?_isSome false Nat.one_pos
      (Nat.lt_trans hsig (show 2 ^ 64 < ceiling * 1 by decide +kernel))
    have hy : ∃ y, scale? 5 x d.literal.scale = some y := by
      rcases Decimal.literal_scale d with hneg | ⟨hs, hd⟩
      · exact scale?_of_neg 5 x hneg
      · rw [hs]
        rw [hd] at hx
        rcases Int.lt_or_le d.exponent 0 with hneg | hpos
        · exact scale?_of_neg 5 x hneg
        · exact scale?_of_nonneg hpos h.digits_pos hx (hmax hpos) hn
    obtain ⟨y, hy⟩ := hy
    exact ⟨y, by simp [Literal.magnitude?, hx, hy]⟩
  · intro n he
    have := Decimal.literal_exponent he
    have := Decimal.length_toDigits_le h.digits_le
    unfold maxPower at hn
    omega

/-- The largest magnitudes, whose texts are close to the limit. -/
def largest (k : Fin 3) : Double :=
  ⟨false, infinity - 1 - k, by unfold infinity; omega⟩

theorem ofScaled?_largest : ∀ (negative : Bool) (k : Fin 3),
    (ofScaled? negative ((largest k).literal.whole.map Digits.value)
      ((largest k).literal.fraction.map Digits.value) (largest k).literal.part).isSome = true := by
  decide +kernel

/-- The literal of a double depends on its magnitude alone. -/
theorem literal_congr {x y : Double} (h : x.code = y.code) : x.literal = y.literal := by
  unfold literal shortest units
  rw [h]

theorem literal_cases (x : Double) :
    x.literal = ⟨['0'], ['0'], none⟩ ∨ Near x.code x.shortest ∧ x.literal = x.shortest.literal := by
  rcases Nat.eq_zero_or_pos x.code with h0 | hpos
  · exact .inl (if_pos h0)
  · have hl : x.literal = x.shortest.literal := if_neg (Nat.ne_of_gt hpos)
    rcases shortest_near hpos with hzero | hnear
    · refine .inl ?_
      rw [hl, hzero]
      rfl
    · exact .inr ⟨hnear, hl⟩

theorem literal_proper (x : Double) : x.literal.Proper := by
  rcases x.literal_cases with h | ⟨hnear, h⟩
  · rw [h]
    exact ⟨by simp, by simp, by simp, by simp⟩
  · rw [h]
    exact Decimal.literal_proper hnear.digits_pos

theorem ofScaled?_literal_self (negative : Bool) (x : Double) :
    ∃ y, ofScaled? negative (x.literal.whole.map Digits.value) (x.literal.fraction.map Digits.value)
      x.literal.part = some y := by
  rcases x.literal_cases with h | ⟨hnear, h⟩
  · rw [h]
    cases negative with
    | true => exact ⟨zero true, by decide +kernel⟩
    | false => exact ⟨zero false, by decide +kernel⟩
  · rcases Nat.lt_or_ge infinity (x.code + 4) with hbig | hsmall
    · have hfinite := x.finite
      have hk : infinity - 1 - x.code < 3 := by
        unfold infinity at *
        omega
      have hcode : x.code = (largest ⟨infinity - 1 - x.code, hk⟩).code := by
        show x.code = infinity - 1 - (infinity - 1 - x.code)
        unfold infinity at *
        omega
      rw [literal_congr hcode]
      exact Option.isSome_iff_exists.1 (ofScaled?_largest negative _)
    · obtain ⟨hy, he⟩ := magnitude?_of_near hnear hsmall
      rw [h]
      exact ofScaled?_literal (Decimal.literal_significand_lt hnear.digits_pos hnear.digits_le) he hy

theorem toList_text (x : Double) : x.text.toList = x.literal.signed x.negative := by
  unfold text Literal.signed
  split
  · rw [String.toList_append, toList_magnitudeText]
    rfl
  · exact toList_magnitudeText x

end Double

/-! ## Numbers read back -/

namespace Json

/-- The number that the text of a number is read as. -/
def respelled (n : Number) : Number :=
  match readNumber (printNumber n) with
  | some (m, _) => m
  | none => n

theorem stops_nil : Stops [] := by
  intro c hc
  cases hc

theorem numberOf?_double (x : Double) :
    ∃ y, numberOf? x.negative x.literal = some (.double y) := by
  have hdouble : ¬(x.literal.fraction.isEmpty ∧ x.literal.exponent.isNone) := by
    rcases x.literal_cases with h | ⟨-, h⟩
    · simp [h]
    · rw [h]
      exact Decimal.literal_isDouble _
  obtain ⟨y, hy⟩ := Double.ofScaled?_literal_self x.negative x
  exact ⟨y, by rw [numberOf?, if_neg hdouble, hy]; rfl⟩

theorem readNumber_double (x : Double) :
    ∃ y, ∀ rest, Stops rest → readNumber (x.text.toList ++ rest) = some (.double y, rest) := by
  obtain ⟨y, hy⟩ := numberOf?_double x
  refine ⟨y, fun rest hr => ?_⟩
  rw [Double.toList_text, readNumber_signed x.literal_proper hr, hy]
  rfl

/-- The literal of an integer. -/
def integerLiteral (n : Integer) : Literal :=
  ⟨Nat.toDigits 10 n.val.natAbs, [], none⟩

theorem integerLiteral_proper (n : Integer) : (integerLiteral n).Proper where
  whole := Digits.isDigit_toDigits
  fraction := by simp [integerLiteral]
  whole_ne_nil := Nat.toDigits_ne_nil
  leading := by
    intro ds hds
    have hdigits : Nat.toDigits 10 n.val.natAbs = '0' :: ds := hds
    cases ds with
    | nil => rfl
    | cons d ds => exact absurd rfl (Digits.toDigits_head hdigits)

theorem toList_toString (n : Integer) :
    (toString n.val).toList = (integerLiteral n).signed (decide (n.val < 0)) := by
  obtain ⟨val, h⟩ := n
  cases val with
  | ofNat k =>
    have hneg : decide ((Int.ofNat k : Int) < 0) = false := by simp
    rw [hneg]
    show (Nat.repr k).toList = _
    simp [Literal.signed, Literal.chars, Literal.exponentChars, integerLiteral, Nat.toList_repr]
  | negSucc k =>
    have hneg : decide ((Int.negSucc k : Int) < 0) = true := by simp
    rw [hneg]
    show ("-" ++ Nat.repr (k + 1)).toList = _
    simp [Literal.signed, Literal.chars, Literal.exponentChars, integerLiteral, Nat.toList_repr]

theorem integral?_toDigits (n : Integer) :
    integral? (decide (n.val < 0)) ((Nat.toDigits 10 n.val.natAbs).map Digits.value) = some (.int n) := by
  obtain ⟨val, h⟩ := n
  unfold integral?
  simp only [Digits.toNat_toDigits, decide_eq_true_eq]
  have hval : (if val < 0 then -(val.natAbs : Int) else val.natAbs) = val := by
    split
    · omega
    · omega
  rw [dif_pos]
  · simp only [hval]
  · rw [hval]
    refine ⟨h, ?_⟩
    omega
theorem readNumber_int (n : Integer) {rest : List Char} (hr : Stops rest) :
    readNumber ((toString n.val).toList ++ rest) = some (.int n, rest) := by
  rw [toList_toString, readNumber_signed (integerLiteral_proper n) hr]
  simp only [numberOf?, integerLiteral, List.isEmpty_nil, Option.isNone_none, and_self, if_true,
    integral?_toDigits]
  rfl

theorem readNumber_printNumber (n : Number) {rest : List Char} (hr : Stops rest) :
    readNumber (printNumber n ++ rest) = some (respelled n, rest) := by
  cases n with
  | int n =>
    have h := readNumber_int n stops_nil
    rw [List.append_nil] at h
    simp only [respelled, printNumber, h, readNumber_int n hr]
  | double x =>
    obtain ⟨y, hy⟩ := readNumber_double x
    have h := hy [] stops_nil
    rw [List.append_nil] at h
    simp only [respelled, printNumber, h, hy rest hr]

@[simp] theorem respelled_int (n : Integer) : respelled (.int n) = .int n := by
  have h := readNumber_int n stops_nil
  rw [List.append_nil] at h
  simp only [respelled, printNumber, h]

end Json

end Exchange
