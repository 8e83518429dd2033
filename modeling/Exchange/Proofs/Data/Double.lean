-- SUMMARY: Rounding to the nearest double: how far it goes at most, when the result is finite, and which whole numbers stay.
import Exchange.Data.Decimal

/-!
# Rounding to doubles

`spacing` finds the power of two that the doubles around a quotient are apart.
From its two bounds follow the facts that reading numbers rests on: a
quotient below `Double.ceiling` rounds to a finite double, and rounding a whole
number up adds at most one part in `2 ^ 53`. A whole number below `2 ^ 53` is not
changed, and no other is rounded to one of these (`min_floor_nearest?`).
-/

namespace Exchange.Double

/-- Splits a power of two whose exponent is a numeral without computing it. -/
theorem two_pow_eq (a b c : Nat) (h : b + c = a) : 2 ^ a = 2 ^ b * 2 ^ c := by
  rw [← h, Nat.pow_add]

theorem mul_two_pow_eq (n a b c : Nat) (h : b + c = a) : n * 2 ^ a = n * 2 ^ b * 2 ^ c := by
  rw [two_pow_eq a b c h, Nat.mul_assoc]

theorem two_pow_le (a : Nat) {b : Nat} (h : a ≤ b) : 2 ^ a ≤ 2 ^ b :=
  Nat.pow_le_pow_right (by decide) h

theorem le_div_two_pow (n a : Nat) {b : Nat} (h : n * 2 ^ a ≤ b) : n ≤ b / 2 ^ a :=
  (Nat.le_div_iff_mul_le (Nat.two_pow_pos a)).2 h

theorem mul_two_pow_div (n a : Nat) : n * 2 ^ a / 2 ^ a = n :=
  Nat.mul_div_cancel n (Nat.two_pow_pos a)

/-! ## Spacing -/

theorem lt_mul_two_pow_spacing {num den : Nat} (hd : 0 < den) :
    num * 2 ^ 1021 < den * 2 ^ spacing num den := by
  have hnum : num < 2 ^ (num.log2 + 1) := Nat.lt_log2_self
  have hden : 2 ^ den.log2 ≤ den := Nat.log2_self_le (by omega)
  have h1021 : num * 2 ^ 1021 < 2 ^ (num.log2 + 1022) := by
    calc num * 2 ^ 1021 < 2 ^ (num.log2 + 1) * 2 ^ 1021 :=
          Nat.mul_lt_mul_of_pos_right hnum (Nat.two_pow_pos _)
      _ = 2 ^ (num.log2 + 1022) := (two_pow_eq _ _ _ (by omega)).symm
  -- where the denominator alone outweighs the numerator, the spacing does not matter
  have hwide (k : Nat) (h : num.log2 + 1022 ≤ den.log2) : num * 2 ^ 1021 < den * 2 ^ k := by
    calc num * 2 ^ 1021 < 2 ^ (num.log2 + 1022) := h1021
      _ ≤ 2 ^ den.log2 := Nat.pow_le_pow_right (by decide) h
      _ ≤ den := hden
      _ ≤ den * 2 ^ k := Nat.le_mul_of_pos_right _ (Nat.two_pow_pos _)
  unfold spacing
  dsimp only
  split
  · rename_i hlt
    by_cases h : num.log2 + 1022 ≤ den.log2
    · exact hwide _ h
    · have hs : num.log2 + 1022 - den.log2 - 1 + den.log2 = num.log2 + 1021 := by omega
      refine Nat.lt_of_mul_lt_mul_right (a := 2 ^ den.log2) ?_
      calc num * 2 ^ 1021 * 2 ^ den.log2 = num * 2 ^ den.log2 * 2 ^ 1021 := Nat.mul_right_comm ..
        _ < den * 2 ^ num.log2 * 2 ^ 1021 := Nat.mul_lt_mul_of_pos_right hlt (Nat.two_pow_pos _)
        _ = den * 2 ^ (num.log2 + 1021) := by rw [two_pow_eq (num.log2 + 1021) num.log2 1021 rfl, Nat.mul_assoc]
        _ = den * 2 ^ (num.log2 + 1022 - den.log2 - 1) * 2 ^ den.log2 := by
          rw [← hs, Nat.pow_add, Nat.mul_assoc]
  · by_cases h : num.log2 + 1022 ≤ den.log2
    · exact hwide _ h
    · have hs : den.log2 + (num.log2 + 1022 - den.log2) = num.log2 + 1022 := by omega
      calc num * 2 ^ 1021 < 2 ^ (num.log2 + 1022) := h1021
        _ = 2 ^ den.log2 * 2 ^ (num.log2 + 1022 - den.log2) := by rw [← Nat.pow_add, hs]
        _ ≤ den * 2 ^ (num.log2 + 1022 - den.log2) := Nat.mul_le_mul_right _ hden

theorem mul_two_pow_spacing_le {num den : Nat} (hn : 0 < num) (hs : 0 < spacing num den) :
    den * 2 ^ spacing num den ≤ num * 2 ^ 1022 := by
  have hnum : 2 ^ num.log2 ≤ num := Nat.log2_self_le (by omega)
  have hden : den < 2 ^ (den.log2 + 1) := Nat.lt_log2_self
  unfold spacing at hs ⊢
  dsimp only at hs ⊢
  split
  · rename_i hlt
    rw [if_pos hlt] at hs
    have he : den.log2 + 1 + (num.log2 + 1022 - den.log2 - 1) = num.log2 + 1022 := by omega
    calc den * 2 ^ (num.log2 + 1022 - den.log2 - 1)
        ≤ 2 ^ (den.log2 + 1) * 2 ^ (num.log2 + 1022 - den.log2 - 1) :=
          Nat.mul_le_mul_right _ (Nat.le_of_lt hden)
      _ = 2 ^ num.log2 * 2 ^ 1022 := by rw [← Nat.pow_add, he, two_pow_eq (num.log2 + 1022) num.log2 1022 rfl]
      _ ≤ num * 2 ^ 1022 := Nat.mul_le_mul_right _ hnum
  · rename_i hge
    rw [if_neg hge] at hs
    have he : num.log2 + 1022 - den.log2 + den.log2 = num.log2 + 1022 := by omega
    refine Nat.le_of_mul_le_mul_right (c := 2 ^ den.log2) ?_ (Nat.two_pow_pos _)
    calc den * 2 ^ (num.log2 + 1022 - den.log2) * 2 ^ den.log2
        = den * 2 ^ num.log2 * 2 ^ 1022 := by
          rw [Nat.mul_assoc, ← Nat.pow_add, he, two_pow_eq (num.log2 + 1022) num.log2 1022 rfl, Nat.mul_assoc]
      _ ≤ num * 2 ^ den.log2 * 2 ^ 1022 := Nat.mul_le_mul_right _ (Nat.le_of_not_lt hge)
      _ = num * 2 ^ 1022 * 2 ^ den.log2 := Nat.mul_right_comm ..

/-! ## Rounding -/

theorem roundHalfEven_bounds (num : Nat) {den : Nat} (hd : 0 < den) :
    2 * (den * roundHalfEven num den) ≤ 2 * num + den ∧ num / den ≤ roundHalfEven num den := by
  have hdiv := Nat.div_add_mod num den
  have hmod := Nat.mod_lt num hd
  unfold roundHalfEven
  dsimp only
  split
  · constructor
    · omega
    · omega
  · split
    · rw [Nat.mul_add, Nat.mul_one]
      constructor
      · omega
      · omega
    · split
      · constructor
        · omega
        · omega
      · rw [Nat.mul_add, Nat.mul_one]
        constructor
        · omega
        · omega

theorem roundHalfEven_mul (k : Nat) {den : Nat} (hd : 0 < den) : roundHalfEven (k * den) den = k := by
  have hlt : 2 * (k * den % den) < den := by rwa [Nat.mul_mod_left]
  rw [roundHalfEven, if_pos hlt, Nat.mul_div_cancel _ hd]

/-! ## Codes and units -/

/-- The code of a significand of at most 53 bits, or of `2 ^ 53`, at a spacing of `2 ^ s` units. -/
theorem unitsOf_add_mul {r s : Nat} (hr : r ≤ 2 ^ 53) (hs : s = 0 ∨ 2 ^ 52 ≤ r) :
    unitsOf (r + s * 2 ^ 52) = r * 2 ^ s := by
  unfold unitsOf
  dsimp only
  rcases Nat.lt_or_ge r (2 ^ 52) with hlow | hlow
  · obtain rfl : s = 0 := by omega
    rw [Nat.zero_mul, Nat.add_zero, Nat.div_eq_of_lt hlow, Nat.mod_eq_of_lt hlow, if_pos rfl,
      Nat.pow_zero, Nat.mul_one]
  · rcases Nat.lt_or_eq_of_le hr with hr | rfl
    · have hq : (r + s * 2 ^ 52) / 2 ^ 52 = s + 1 := by omega
      have hm : (r + s * 2 ^ 52) % 2 ^ 52 = r - 2 ^ 52 := by omega
      rw [hq, hm, if_neg (by omega), Nat.add_sub_cancel, Nat.add_sub_cancel' hlow]
    · have hq : (2 ^ 53 + s * 2 ^ 52) / 2 ^ 52 = s + 1 + 1 := by omega
      have hm : (2 ^ 53 + s * 2 ^ 52) % 2 ^ 52 = 0 := by omega
      rw [hq, hm, if_neg (by omega), Nat.add_sub_cancel, Nat.add_zero, Nat.pow_succ]
      omega

theorem unitsOf_mono {a b : Nat} (h : a ≤ b) : unitsOf a ≤ unitsOf b := by
  have hq : a / 2 ^ 52 ≤ b / 2 ^ 52 := Nat.div_le_div_right h
  have ha : a % 2 ^ 52 < 2 ^ 52 := Nat.mod_lt _ (by decide)
  unfold unitsOf
  dsimp only
  rcases Nat.lt_or_eq_of_le hq with hlt | heq
  · rw [if_neg (c := b / 2 ^ 52 = 0) (by omega)]
    split
    · calc a % 2 ^ 52 ≤ (2 ^ 52 + b % 2 ^ 52) * 1 := by omega
        _ ≤ (2 ^ 52 + b % 2 ^ 52) * 2 ^ (b / 2 ^ 52 - 1) :=
          Nat.mul_le_mul_left _ (Nat.one_le_two_pow)
    · rename_i hne
      calc (2 ^ 52 + a % 2 ^ 52) * 2 ^ (a / 2 ^ 52 - 1)
          ≤ 2 ^ 52 * 2 * 2 ^ (a / 2 ^ 52 - 1) := Nat.mul_le_mul_right _ (by omega)
        _ = 2 ^ 52 * 2 ^ (a / 2 ^ 52 - 1 + 1) := by rw [Nat.mul_assoc, ← Nat.pow_succ']
        _ ≤ (2 ^ 52 + b % 2 ^ 52) * 2 ^ (b / 2 ^ 52 - 1) :=
          Nat.mul_le_mul (by omega) (Nat.pow_le_pow_right (by decide) (by omega))
  · have hm : a % 2 ^ 52 ≤ b % 2 ^ 52 := by omega
    rw [heq]
    split
    · exact hm
    · exact Nat.mul_le_mul_right _ (by omega)

/-! ## The nearest double -/

/-- Quotients from here on round to infinity. -/
def ceiling : Nat := (2 ^ 54 - 1) * 2 ^ 970

theorem ceiling_le : ceiling ≤ 2 ^ 1024 := by
  rewrite [two_pow_eq 1024 54 970 rfl, ceiling]
  generalize 2 ^ 970 = unit
  omega

theorem le_ceiling : 2 ^ 53 ≤ ceiling := by
  decide +kernel

theorem ceiling_mul (k : Nat) : ceiling * k = (2 ^ 54 - 1) * (2 ^ 970 * k) := by
  rewrite [ceiling]
  generalize 2 ^ 970 = unit
  exact Nat.mul_assoc ..

section Nearest

variable {num den : Nat}

theorem nearestCode_eq (hn : 0 < num) :
    nearestCode num den = roundHalfEven (num * 2 ^ 1074) (den * 2 ^ spacing num den) +
      spacing num den * 2 ^ 52 := by
  rw [nearestCode, if_neg (Nat.ne_of_gt hn)]

theorem eq_of_nearest? {negative : Bool} {x : Double} (h : nearest? negative num den = some x) :
    x.negative = negative ∧ x.code = nearestCode num den := by
  unfold nearest? at h
  dsimp only at h
  split at h
  · cases h
    exact ⟨rfl, rfl⟩
  · cases h

theorem significand_le (num : Nat) (hd : 0 < den) :
    roundHalfEven (num * 2 ^ 1074) (den * 2 ^ spacing num den) ≤ 2 ^ 53 := by
  have hD : 0 < den * 2 ^ spacing num den := Nat.mul_pos hd (Nat.two_pow_pos _)
  have hround := (roundHalfEven_bounds (num * 2 ^ 1074) hD).1
  have hlt : num * 2 ^ 1074 < den * 2 ^ spacing num den * 2 ^ 53 := by
    calc num * 2 ^ 1074 = num * 2 ^ 1021 * 2 ^ 53 := mul_two_pow_eq num 1074 1021 53 rfl
      _ < den * 2 ^ spacing num den * 2 ^ 53 :=
        Nat.mul_lt_mul_of_pos_right (lt_mul_two_pow_spacing hd) (Nat.two_pow_pos _)
  generalize den * 2 ^ spacing num den = D at *
  generalize roundHalfEven (num * 2 ^ 1074) D = r at *
  generalize num * 2 ^ 1074 = N at *
  refine Nat.le_of_not_lt fun h => ?_
  have hmul : D * (2 ^ 53 + 1) ≤ D * r := Nat.mul_le_mul_left _ (by omega)
  rw [Nat.mul_add, Nat.mul_one] at hmul
  omega

theorem le_significand (hn : 0 < num) (hd : 0 < den) (hs : 0 < spacing num den) :
    2 ^ 52 ≤ roundHalfEven (num * 2 ^ 1074) (den * 2 ^ spacing num den) := by
  have hD : 0 < den * 2 ^ spacing num den := Nat.mul_pos hd (Nat.two_pow_pos _)
  have hquotient := (roundHalfEven_bounds (num * 2 ^ 1074) hD).2
  refine Nat.le_trans ?_ hquotient
  rw [Nat.le_div_iff_mul_le hD, Nat.mul_comm]
  calc den * 2 ^ spacing num den * 2 ^ 52
      ≤ num * 2 ^ 1022 * 2 ^ 52 := Nat.mul_le_mul_right _ (mul_two_pow_spacing_le hn hs)
    _ = num * 2 ^ 1074 := (mul_two_pow_eq num 1074 1022 52 rfl).symm

/-- Below the ceiling the spacing is at most that of the largest doubles. -/
theorem spacing_le_of_lt (hn : 0 < num) (h : num < ceiling * den) : spacing num den ≤ 2045 := by
  rcases Nat.eq_zero_or_pos (spacing num den) with h0 | hs
  · omega
  · have hle : den * 2 ^ spacing num den < den * 2 ^ 2046 := by
      calc den * 2 ^ spacing num den ≤ num * 2 ^ 1022 := mul_two_pow_spacing_le hn hs
        _ < ceiling * den * 2 ^ 1022 := Nat.mul_lt_mul_of_pos_right h (Nat.two_pow_pos 1022)
        _ ≤ den * 2 ^ 2046 := by
          rewrite [mul_two_pow_eq den 2046 1024 1022 rfl, Nat.mul_comm ceiling den]
          generalize 2 ^ 1022 = k
          exact Nat.mul_le_mul_right k (Nat.mul_le_mul_left den ceiling_le)
    have := (Nat.pow_lt_pow_iff_right (a := 2) (by decide)).1 (Nat.lt_of_mul_lt_mul_left hle)
    omega

theorem nearestCode_lt_infinity (hd : 0 < den) (h : num < ceiling * den) :
    nearestCode num den < infinity := by
  rcases Nat.eq_zero_or_pos num with rfl | hn
  · rw [nearestCode, if_pos rfl]
    decide
  · have hr := significand_le num hd
    have hround := (roundHalfEven_bounds (num * 2 ^ 1074)
      (Nat.mul_pos hd (Nat.two_pow_pos (spacing num den)))).1
    have hs := spacing_le_of_lt hn h
    rw [nearestCode_eq hn]
    rcases Nat.lt_or_eq_of_le hs with hs | hs
    · unfold infinity
      omega
    · rw [hs] at hr hround ⊢
      have hlt : 2 * (num * 2 ^ 1074) < (2 ^ 54 - 1) * (den * 2 ^ 2045) := by
        calc 2 * (num * 2 ^ 1074) = num * 2 ^ 1075 := by
              rw [two_pow_eq 1075 1 1074 rfl, Nat.pow_one, Nat.mul_left_comm]
          _ < ceiling * den * 2 ^ 1075 := Nat.mul_lt_mul_of_pos_right h (Nat.two_pow_pos _)
          _ = (2 ^ 54 - 1) * (den * (2 ^ 970 * 2 ^ 1075)) := by
            rewrite [Nat.mul_assoc, ceiling_mul]
            generalize 2 ^ 970 = unit
            exact congrArg _ (Nat.mul_left_comm ..)
          _ = (2 ^ 54 - 1) * (den * 2 ^ 2045) := by rw [two_pow_eq 2045 970 1075 rfl]
      generalize roundHalfEven (num * 2 ^ 1074) (den * 2 ^ 2045) = r at *
      generalize den * 2 ^ 2045 = D at *
      generalize num * 2 ^ 1074 = N at *
      have hr' : r < 2 ^ 53 := by
        refine Nat.lt_of_not_le fun hge => ?_
        have hmul : D * 2 ^ 53 ≤ D * r := Nat.mul_le_mul_left _ (by omega)
        omega
      unfold infinity
      omega

/-- The result is the rounded significand at its spacing. -/
theorem units_of_nearest? {negative : Bool} {x : Double} (hd : 0 < den) (hn : 0 < num)
    (h : nearest? negative num den = some x) :
    x.units = roundHalfEven (num * 2 ^ 1074) (den * 2 ^ spacing num den) * 2 ^ spacing num den := by
  rw [units, (eq_of_nearest? h).2, nearestCode_eq hn]
  refine unitsOf_add_mul (significand_le num hd) ?_
  rcases Nat.eq_zero_or_pos (spacing num den) with h0 | hs
  · exact .inl h0
  · exact .inr (le_significand hn hd hs)

theorem units_le_of_nearest? {negative : Bool} {x : Double} (hd : 0 < den) (hn : 0 < num)
    (h : nearest? negative num den = some x) :
    2 * (den * x.units) ≤ 2 * (num * 2 ^ 1074) + den * 2 ^ spacing num den := by
  have hround := (roundHalfEven_bounds (num * 2 ^ 1074)
    (Nat.mul_pos hd (Nat.two_pow_pos (spacing num den)))).1
  rw [units_of_nearest? hd hn h]
  calc 2 * (den * (roundHalfEven (num * 2 ^ 1074) (den * 2 ^ spacing num den) * 2 ^ spacing num den))
      = 2 * (den * 2 ^ spacing num den *
          roundHalfEven (num * 2 ^ 1074) (den * 2 ^ spacing num den)) := by
        rw [Nat.mul_comm (roundHalfEven _ _), Nat.mul_assoc]
    _ ≤ 2 * (num * 2 ^ 1074) + den * 2 ^ spacing num den := hround

end Nearest

theorem nearest?_isSome (negative : Bool) {num den : Nat} (hd : 0 < den) (h : num < ceiling * den) :
    ∃ x, nearest? negative num den = some x := by
  rw [nearest?]
  exact ⟨_, dif_pos (nearestCode_lt_infinity hd h)⟩

/-! ## Whole numbers -/

section Whole

variable {negative : Bool} {n : Nat} {x : Double}

theorem spacing_one (hn : 0 < n) : spacing n 1 = n.log2 + 1022 := by
  have hlog : 2 ^ n.log2 ≤ n := Nat.log2_self_le (Nat.ne_of_gt hn)
  have h1 : Nat.log2 1 = 0 := rfl
  unfold spacing
  dsimp only
  rw [h1, Nat.pow_zero, Nat.mul_one, Nat.one_mul, Nat.sub_zero, if_neg (Nat.not_lt.2 hlog)]

theorem spacing_one_pos (hn : 0 < n) : 0 < spacing n 1 := by
  rw [spacing_one hn]
  exact Nat.succ_pos _

/-- Rounding a whole number to a double adds at most one part in `2 ^ 53`. -/
theorem units_nearest?_one_le (hn : 0 < n) (h : nearest? negative n 1 = some x) :
    x.units * 2 ^ 53 ≤ n * 2 ^ 1074 * (2 ^ 53 + 1) := by
  have hle := units_le_of_nearest? (by decide) hn h
  have hspacing := mul_two_pow_spacing_le hn (spacing_one_pos hn)
  have h1074 := mul_two_pow_eq n 1074 1022 52 rfl
  rw [Nat.one_mul] at hle hspacing
  generalize 2 ^ spacing n 1 = S at *
  generalize n * 2 ^ 1022 = M at *
  generalize n * 2 ^ 1074 = N at *
  omega

/-- Below `2 ^ 53` the doubles are at most one apart, so a whole number is one of them. -/
theorem units_nearest?_of_lt (hlt : n < 2 ^ 53) (h : nearest? negative n 1 = some x) :
    x.units = n * 2 ^ 1074 := by
  rcases Nat.eq_zero_or_pos n with h0 | hn
  · have hcode : x.code = 0 := by rw [(eq_of_nearest? h).2, nearestCode, if_pos h0]
    exact (congrArg unitsOf hcode).trans (Nat.mul_eq_zero.2 (.inl h0)).symm
  · have hlog : n.log2 < 53 := (Nat.log2_lt (Nat.ne_of_gt hn)).2 hlt
    have hs := spacing_one hn
    have hmultiple : n * 2 ^ 1074 = n * 2 ^ (1074 - spacing n 1) * 2 ^ spacing n 1 :=
      mul_two_pow_eq n 1074 (1074 - spacing n 1) (spacing n 1) (by omega)
    rw [units_of_nearest? (by decide) hn h, Nat.one_mul, hmultiple, roundHalfEven_mul _ (Nat.two_pow_pos _)]

/-- From `2 ^ 53` on a whole number is not rounded to less than that. -/
theorem le_units_nearest?_of_le (hle : 2 ^ 53 ≤ n) (h : nearest? negative n 1 = some x) :
    2 ^ 53 * 2 ^ 1074 ≤ x.units := by
  have hn : 0 < n := Nat.lt_of_lt_of_le (by decide) hle
  have hlog : 53 ≤ n.log2 := (Nat.le_log2 (Nat.ne_of_gt hn)).2 hle
  have hs : 2 ^ 1075 ≤ 2 ^ spacing n 1 := by
    rw [spacing_one hn]
    exact two_pow_le 1075 (by omega)
  have hunits := Nat.mul_le_mul (le_significand hn Nat.one_pos (spacing_one_pos hn)) hs
  rw [← units_of_nearest? (by decide) hn h] at hunits
  refine Nat.le_trans (Nat.le_of_eq ?_) hunits
  rewrite [two_pow_eq 1075 1 1074 rfl]
  generalize 2 ^ 1074 = unit
  omega

/-- Rounding keeps a whole number below `2 ^ 53`, and no other is rounded to one of these. -/
theorem min_floor_nearest? (h : nearest? negative n 1 = some x) : min x.floor (2 ^ 53) = min n (2 ^ 53) := by
  unfold floor
  rcases Nat.lt_or_ge n (2 ^ 53) with hlt | hle
  · rw [units_nearest?_of_lt hlt h, mul_two_pow_div n 1074]
  · have hfloor := le_div_two_pow (2 ^ 53) 1074 (le_units_nearest?_of_le hle h)
    rw [Nat.min_eq_right hfloor, Nat.min_eq_right hle]

theorem le_of_nearest?_eq_none (h : nearest? negative n 1 = none) : 2 ^ 53 ≤ n := by
  refine Nat.le_of_not_lt fun hlt => ?_
  have hceiling : n < ceiling * 1 := (Nat.mul_one ceiling).symm ▸ Nat.lt_of_lt_of_le hlt le_ceiling
  obtain ⟨x, hx⟩ := nearest?_isSome negative Nat.one_pos hceiling
  cases h.symm.trans hx

end Whole

end Exchange.Double
