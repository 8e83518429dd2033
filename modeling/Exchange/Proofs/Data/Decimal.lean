-- SUMMARY: The shortest decimal of a double: its digits fit sixty-four bits, and it stays near the double.
import Exchange.Proofs.Data.Double

/-!
# The shortest decimal

`shortest` looks for a decimal on seventeen grids below the leading digit. What
it finds lies between the midpoints on either side of the double, so it is not
zero, has at most eighteen digits, and is at most the midpoint above.
-/

namespace Exchange.Double

/-! ## The leading digit -/

/-- `num / den` is below `10 ^ exponent`. -/
def Below (num den : Nat) (exponent : Int) : Prop :=
  num * 10 ^ (-exponent).toNat < den * 10 ^ exponent.toNat

theorem lt_ten_pow_digitCount (n : Nat) : n < 10 ^ digitCount n :=
  (Nat.length_toDigits_le_iff (by decide) Nat.length_toDigits_pos).1 (Nat.le_refl _)

theorem leadingZeros_lt {den : Nat} (fuel : Nat) {num k : Nat} (h : k < leadingZeros den fuel num) :
    num * 10 ^ k < den := by
  induction fuel generalizing num k with
  | zero => exact absurd h (Nat.not_lt_zero k)
  | succ fuel ih =>
    unfold leadingZeros at h
    split at h
    · exact absurd h (Nat.not_lt_zero k)
    · rename_i hlt
      cases k with
      | zero => omega
      | succ k =>
        rw [Nat.pow_succ', ← Nat.mul_assoc]
        exact ih (Nat.lt_of_succ_lt_succ h)

theorem leadingZeros_pos {num den fuel : Nat} (h : num < den) : 0 < leadingZeros den (fuel + 1) num := by
  rw [leadingZeros, if_neg (Nat.not_le_of_lt h)]
  exact Nat.succ_pos _

theorem below_leadingExponent (num : Nat) {den : Nat} (hd : 0 < den) :
    Below num den (leadingExponent num den + 1) := by
  unfold leadingExponent Below
  split
  · have hq := lt_ten_pow_digitCount (num / den)
    have hz : (-((digitCount (num / den) : Int) - 1 + 1)).toNat = 0 := by omega
    have he : ((digitCount (num / den) : Int) - 1 + 1).toNat = digitCount (num / den) := by omega
    rw [hz, he, Nat.pow_zero, Nat.mul_one, Nat.mul_comm]
    exact (Nat.div_lt_iff_lt_mul hd).1 hq
  · rename_i hlt
    have hpos : 0 < leadingZeros den 400 num := leadingZeros_pos (Nat.lt_of_not_le hlt)
    have hz : (-(leadingZeros den 400 num : Int) + 1).toNat = 0 := by omega
    have he : (-(-(leadingZeros den 400 num : Int) + 1)).toNat = leadingZeros den 400 num - 1 := by omega
    rw [hz, he, Nat.pow_zero, Nat.mul_one]
    exact leadingZeros_lt 400 (Nat.sub_lt hpos Nat.one_pos)

/-- On a grid of finer spacing there are more steps below the bound. -/
theorem Below.on_grid {num den : Nat} {exponent : Int} (h : Below num den exponent) (n : Nat) :
    num * 10 ^ (-(exponent - n)).toNat < 10 ^ (exponent - n).toNat * den * 10 ^ n := by
  unfold Below at h
  rcases Int.le_total exponent 0 with hneg | hpos
  · have h0 : exponent.toNat = 0 := by omega
    have h1 : (exponent - n).toNat = 0 := by omega
    have h2 : (-(exponent - n)).toNat = (-exponent).toNat + n := by omega
    rw [h0, Nat.pow_zero, Nat.mul_one] at h
    rw [h1, h2, Nat.pow_zero, Nat.one_mul, Nat.pow_add, ← Nat.mul_assoc]
    exact Nat.mul_lt_mul_of_pos_right h (Nat.pow_pos (by decide))
  · have h0 : (-exponent).toNat = 0 := by omega
    rw [h0, Nat.pow_zero, Nat.mul_one] at h
    rcases Int.le_total (exponent - n) 0 with hn | hn
    · have h1 : (exponent - n).toNat = 0 := by omega
      have h2 : n = exponent.toNat + (-(exponent - n)).toNat := by omega
      rw [h1, Nat.pow_zero, Nat.one_mul]
      calc num * 10 ^ (-(exponent - n)).toNat
          < den * 10 ^ exponent.toNat * 10 ^ (-(exponent - n)).toNat :=
            Nat.mul_lt_mul_of_pos_right h (Nat.pow_pos (by decide))
        _ = den * 10 ^ n := by rw [Nat.mul_assoc, ← Nat.pow_add, ← h2]
    · have h1 : (-(exponent - n)).toNat = 0 := by omega
      have h2 : exponent.toNat = (exponent - n).toNat + n := by omega
      rw [h1, Nat.pow_zero, Nat.mul_one]
      calc num < den * 10 ^ exponent.toNat := h
        _ = 10 ^ (exponent - n).toNat * den * 10 ^ n := by
          rw [h2, Nat.pow_add, ← Nat.mul_assoc, Nat.mul_comm den]

/-! ## What the search finds -/

/-- A decimal that may stand for the magnitude with a code: not zero, of at most eighteen digits,
and at most the midpoint above the magnitude. -/
structure Near (code : Nat) (d : Decimal) : Prop where
  digits_pos : 0 < d.digits
  digits_le : d.digits ≤ 10 ^ 17
  le_midpoint : d.digits * (10 ^ d.exponent.toNat * 2 ^ 1075) ≤
    (unitsOf code + unitsOf (code + 1)) * 10 ^ (-d.exponent).toNat

theorem unitsOf_pos {code : Nat} (h : 0 < code) : 0 < unitsOf code :=
  Nat.lt_of_lt_of_le (by decide) (unitsOf_mono (a := 1) h)

theorem near_of_onGrid? {code n : Nat} {exponent : Int} {d : Decimal} (hc : 0 < code) (hn : n ≤ 16)
    (hb : Below (2 * unitsOf code) (2 ^ 1075) (exponent + n + 1))
    (h : onGrid? code exponent = some d) : Near code d := by
  have hgrid := hb.on_grid (n + 1)
  have he : exponent + n + 1 - (n + 1 : Nat) = exponent := by omega
  rw [he] at hgrid
  have hleast : 0 < (unitsOf (code - 1) + unitsOf code) * 10 ^ (-exponent).toNat :=
    Nat.mul_pos (Nat.add_pos_right _ (unitsOf_pos hc)) (Nat.pow_pos (by decide))
  have hten : 10 ^ (n + 1) ≤ 10 ^ 17 := Nat.pow_le_pow_right (by decide) (by omega)
  unfold onGrid? at h
  dsimp only at h
  generalize hunit : 10 ^ exponent.toNat * 2 ^ 1075 = unit at *
  generalize hleast' : (unitsOf (code - 1) + unitsOf code) * 10 ^ (-exponent).toNat = least at *
  generalize hmost : (unitsOf code + unitsOf (code + 1)) * 10 ^ (-exponent).toNat = most at *
  generalize hvalue : 2 * unitsOf code * 10 ^ (-exponent).toNat = value at *
  have hbelow : value / unit < 10 ^ (n + 1) := by
    have hpos : 0 < unit := by
      rewrite [← hunit]
      exact Nat.mul_pos (Nat.pow_pos (by decide)) (Nat.two_pow_pos 1075)
    rw [Nat.div_lt_iff_lt_mul hpos, Nat.mul_comm]
    exact hgrid
  -- whichever neighbour was taken, it lies between the midpoints
  have hnear (k : Nat) (hk : k ≤ value / unit + 1)
      (hin : (if code % 2 = 0 then decide (least ≤ k * unit ∧ k * unit ≤ most)
        else decide (least < k * unit ∧ k * unit < most)) = true) : Near code ⟨k, exponent⟩ := by
    have hbetween : least ≤ k * unit ∧ k * unit ≤ most := by
      split at hin
      · simpa using hin
      · have := of_decide_eq_true hin
        exact ⟨Nat.le_of_lt this.1, Nat.le_of_lt this.2⟩
    refine ⟨?_, ?_, ?_⟩
    · refine Nat.pos_of_ne_zero fun h0 => ?_
      obtain rfl : k = 0 := h0
      omega
    · show k ≤ 10 ^ 17
      omega
    · rw [hunit, hmost]
      exact hbetween.2
  split at h
  · rename_i hin hin'
    split at h
    · cases h
      exact hnear _ (Nat.le_succ _) hin
    · cases h
      exact hnear _ (Nat.le_refl _) hin'
  · rename_i hin _
    cases h
    exact hnear _ (Nat.le_succ _) hin
  · rename_i _ hin
    cases h
    exact hnear _ (Nat.le_refl _) hin
  · cases h

theorem Near.trimZeros {code : Nat} (fuel : Nat) {d : Decimal} (h : Near code d) :
    Near code (trimZeros fuel d) := by
  induction fuel generalizing d with
  | zero => exact h
  | succ fuel ih =>
    unfold Double.trimZeros
    split
    · rename_i hzero
      refine ih ⟨?_, ?_, ?_⟩
      · have := h.digits_pos
        dsimp only
        omega
      · exact Nat.le_trans (Nat.div_le_self _ _) h.digits_le
      · have hd : d.digits = d.digits / 10 * 10 := by omega
        have hle := h.le_midpoint
        dsimp only
        generalize 2 ^ 1075 = half at hle ⊢
        rcases Int.lt_or_le d.exponent 0 with hneg | hpos
        · have h0 : d.exponent.toNat = 0 := by omega
          have h1 : (d.exponent + 1).toNat = 0 := by omega
          have h2 : (-d.exponent).toNat = (-(d.exponent + 1)).toNat + 1 := by omega
          rw [h0, hd, h2, Nat.pow_succ, Nat.mul_right_comm, ← Nat.mul_assoc (_ + _)] at hle
          rw [h1]
          exact Nat.le_of_mul_le_mul_right hle (by decide)
        · have h1 : (d.exponent + 1).toNat = d.exponent.toNat + 1 := by omega
          have h2 : (-d.exponent).toNat = (-(d.exponent + 1)).toNat := by omega
          rw [h1, Nat.pow_succ, ← h2]
          calc d.digits / 10 * (10 ^ d.exponent.toNat * 10 * half)
              = d.digits / 10 * 10 * (10 ^ d.exponent.toNat * half) := by
                rw [Nat.mul_comm _ 10, Nat.mul_assoc 10, Nat.mul_assoc (d.digits / 10)]
            _ = d.digits * (10 ^ d.exponent.toNat * half) := by rw [← hd]
            _ ≤ _ := hle
    · exact h

/-- A search that finds nothing gives zero; whatever it finds is near. -/
theorem shortest_near {x : Double} (hc : 0 < x.code) : x.shortest = ⟨0, 0⟩ ∨ Near x.code x.shortest := by
  unfold shortest
  dsimp only
  split
  · rename_i d hd
    obtain ⟨n, hn, hgrid⟩ := List.exists_of_findSome?_eq_some hd
    have hb := below_leadingExponent (2 * x.units) (Nat.two_pow_pos 1075)
    refine .inr (Near.trimZeros 20 (near_of_onGrid? (n := n) hc ?_ ?_ hgrid))
    · exact Nat.le_of_lt_succ (List.mem_range.1 hn)
    · have he : leadingExponent (2 * x.units) (2 ^ 1075) - n + n + 1 =
          leadingExponent (2 * x.units) (2 ^ 1075) + 1 := by omega
      rw [he]
      exact hb
  · exact .inl rfl

end Exchange.Double
