-- SUMMARY: Generated identifiers are distinct as long as their number fits twelve hexadecimal digits.
import Exchange.Ident

/-!
# Generated identifiers

The digits of a number below `16 ^ width` determine it, so the sids that one
manager issues are distinct until the digits run out, and so are the ids of
connections. Sids of different managers are apart in their first digits.
-/

namespace Exchange

theorem Ident.digitChar_inj : ∀ a < 16, ∀ b < 16, Nat.digitChar a = Nat.digitChar b → a = b := by
  decide

theorem Ident.hexDigits_inj {width a b : Nat} (ha : a < 16 ^ width) (hb : b < 16 ^ width)
    (h : hexDigits width a = hexDigits width b) : a = b := by
  induction width generalizing a b with
  | zero => simp_all
  | succ width ih =>
    obtain ⟨hinit, hlast⟩ := List.append_inj' h rfl
    have hdigit := digitChar_inj _ (Nat.mod_lt a (by decide)) _ (Nat.mod_lt b (by decide)) (List.singleton_inj.1 hlast)
    have hrest : a / 16 = b / 16 := by
      apply ih _ _ hinit
      · exact Nat.div_lt_of_lt_mul (by rwa [Nat.pow_succ'] at ha)
      · exact Nat.div_lt_of_lt_mul (by rwa [Nat.pow_succ'] at hb)
    omega

@[simp] theorem Ident.length_hexDigits (width n : Nat) : (hexDigits width n).length = width := by
  induction width generalizing n with
  | zero => rfl
  | succ width ih => simp [hexDigits, ih]

theorem Ident.generated_inj {family a b : Nat} (ha : a < 16 ^ 12) (hb : b < 16 ^ 12)
    (h : generated family a = generated family b) : a = b := by
  apply hexDigits_inj ha hb
  simpa [generated] using congrArg String.toList h

theorem Ident.family_eq_of_generated {family family' a b : Nat} (hf : family < 16 ^ 8) (hf' : family' < 16 ^ 8)
    (h : generated family a = generated family' b) : family = family' := by
  apply hexDigits_inj hf hf'
  have htext := congrArg String.toList h
  simp only [generated, String.toList_append, String.toList_ofList, List.append_assoc] at htext
  exact (List.append_inj htext (by simp)).1

theorem Sid.nth_inj {manager a b : Nat} (ha : a < 16 ^ 12) (hb : b < 16 ^ 12)
    (h : Sid.nth manager a = Sid.nth manager b) : a = b :=
  Ident.generated_inj ha hb (congrArg Sid.text h)

/-- A sid tells which manager issued it, unless there are very many managers. -/
theorem Sid.manager_eq_of_nth {manager manager' a b : Nat} (hm : manager < 16 ^ 7) (hm' : manager' < 16 ^ 7)
    (h : Sid.nth manager a = Sid.nth manager' b) : manager = manager' := by
  have hfamily := Ident.family_eq_of_generated (by omega) (by omega) (congrArg Sid.text h)
  omega

theorem ConnectionId.nth_inj {a b : Nat} (ha : a < 16 ^ 12) (hb : b < 16 ^ 12)
    (h : ConnectionId.nth a = ConnectionId.nth b) : a = b :=
  Ident.generated_inj ha hb (congrArg ConnectionId.text h)

/-- The sids of a manager are distinct up to the `n`th. -/
def Sid.Distinct (manager n : Nat) : Prop :=
  ∀ i ≤ n, ∀ j ≤ n, Sid.nth manager i = Sid.nth manager j → i = j

theorem Sid.distinct_of_lt {manager n : Nat} (h : n < 16 ^ 12) : Sid.Distinct manager n := by
  intro i hi j hj
  exact Sid.nth_inj (Nat.lt_of_le_of_lt hi h) (Nat.lt_of_le_of_lt hj h)

/-- The next sid is none of those before it. -/
theorem Sid.Distinct.ne_next {manager n k : Nat} (h : Sid.Distinct manager (n + 1)) (hk : k ≤ n) :
    Sid.nth manager k ≠ Sid.nth manager (n + 1) := by
  intro hsid
  have hsame := h k (Nat.le_succ_of_le hk) (n + 1) (Nat.le_refl _) hsid
  omega

theorem Sid.Distinct.mono {manager m n : Nat} (h : Sid.Distinct manager n) (hmn : m ≤ n) :
    Sid.Distinct manager m := by
  intro i hi j hj
  exact h i (Nat.le_trans hi hmn) j (Nat.le_trans hj hmn)

end Exchange
