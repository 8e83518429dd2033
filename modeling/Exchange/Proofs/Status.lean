-- SUMMARY: Statuses of whole numbers: rounding to a double moves none into or out of the range of statuses.
import Exchange.Proofs.Data.Double
import Exchange.Status

/-!
# Statuses of whole numbers

A whole number may be changed on its way to a status, since it is taken as a
double first. It is changed far above the range of statuses only, and stays
above it, so its status is that of the number as it was (`ofDouble?_nearest?`).
-/

namespace Exchange.Status

/-- A number has a status exactly if it is that of the status, and not zero. -/
theorem ofInt?_eq_some_iff {n : Int} {s : Status} : ofInt? n = some s ↔ n = s.toNat ∧ s.code ≠ 0 := by
  have hlt : s.toNat < 65536 := s.code.toNat_lt
  have hzero : s.code = 0 ↔ s.toNat = 0 := UInt16.toNat_inj.symm
  unfold ofInt?
  constructor
  · intro h
    split at h
    · rename_i hrange
      cases h
      have hbound : n.toNat < 65536 := by omega
      have hnumber : toNat ⟨UInt16.ofNat n.toNat⟩ = n.toNat := UInt16.toNat_ofNat_of_lt' hbound
      rw [hnumber] at hzero ⊢
      exact ⟨by omega, fun h0 => by have := hzero.1 h0; omega⟩
    · cases h
  · rintro ⟨rfl, hne⟩
    have := mt hzero.2 hne
    rw [if_pos (by omega), Int.toNat_natCast, toNat, UInt16.ofNat_toNat]

theorem exists_ofInt? {n : Int} (h : 1 ≤ n ∧ n ≤ 65535) : ∃ s, ofInt? n = some s ∧ (s.toNat : Int) = n := by
  have hsome : ofInt? n = some ⟨UInt16.ofNat n.toNat⟩ := if_pos h
  exact ⟨_, hsome, (ofInt?_eq_some_iff.1 hsome).1.symm⟩

theorem ofInt?_eq_none {n : Int} (h : ¬ (1 ≤ n ∧ n ≤ 65535)) : ofInt? n = none :=
  if_neg h

/-- A whole number and the double nearest to it have the same status. -/
theorem ofDouble?_nearest? (negative : Bool) (n : Nat) :
    (Double.nearest? negative n 1).bind ofDouble? = ofInt? (if negative then -n else n) := by
  cases hx : Double.nearest? negative n 1 with
  | none =>
    have hle := Double.le_of_nearest?_eq_none hx
    refine (ofInt?_eq_none ?_).symm
    split <;> omega
  | some x =>
    have hmin := Double.min_floor_nearest? hx
    rw [Option.bind_some, ofDouble?, Double.trunc, (Double.eq_of_nearest? hx).1]
    -- either the whole number is the double, or both are past the range
    rcases Nat.lt_or_ge n (2 ^ 53) with hlt | hle
    · have hfloor : x.floor = n := by omega
      rw [hfloor]
    · have hfloor : 2 ^ 53 ≤ x.floor := by omega
      rw [ofInt?_eq_none, ofInt?_eq_none]
      · split <;> omega
      · split <;> omega

/-- Digits without a fraction have the status of the number that they spell. -/
theorem ofDouble?_ofDecimal? (negative : Bool) (n : Nat) :
    (Double.ofDecimal? negative ⟨n, 0⟩).bind ofDouble? = ofInt? (if negative then -n else n) := by
  unfold Double.ofDecimal?
  dsimp only
  split
  · rename_i hzero
    obtain rfl : n = 0 := hzero.resolve_right (by omega)
    exact ofDouble?_nearest? negative 0
  · split
    · rename_i hlead
      -- a number below the bound has five digits
      have hlarge : ¬ n < 10 ^ 5 := fun hlt => by
        have hcount : Double.digitCount n ≤ 5 := (Nat.length_toDigits_le_iff (by decide) (by decide)).2 hlt
        omega
      rw [Option.bind_none, ofInt?_eq_none]
      split <;> omega
    · rw [Int.neg_zero, Int.toNat_zero, Nat.pow_zero, Nat.mul_one, ofDouble?_nearest?]

theorem coerce_int (n : Integer) : coerce (.number (.int n)) = ofInt? n.val := by
  have hsign : (if decide (n.val < 0) then -(n.val.natAbs : Int) else n.val.natAbs) = n.val := by
    simp only [decide_eq_true_eq]
    split
    · omega
    · omega
  rw [coerce, numeric?, Number.toDouble?, Double.ofInt?, ofDouble?_nearest?, hsign]

end Exchange.Status
