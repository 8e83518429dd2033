-- SUMMARY: Runs of digits at the front of a text, and number literals as the pieces that readers take off.
import Exchange.Data.Json.Printer
import Exchange.Data.Json.Reader

/-!
# Digits and literals

A reader of digits stops where the digits end. A `Literal` is a JSON number cut
into its pieces; `readNumber` takes exactly these pieces off a text, whatever
follows that could not be part of the number (`Json.Stops`).
-/

namespace Exchange

/-! ## Runs of digits -/

namespace Digits

/-- The text does not start with a digit. -/
def Stops (cs : List Char) : Prop :=
  ∀ c ∈ cs.head?, c.isDigit = false

theorem stops_cons {c : Char} {cs : List Char} (h : c.isDigit = false) : Stops (c :: cs) := by
  intro d hd
  cases hd
  exact h

theorem eq_zero_of_value {c : Char} (hc : c.isDigit = true) (h : value c = 0) : c = '0' := by
  simp only [Char.isDigit, Bool.and_eq_true, decide_eq_true_eq] at hc
  have h48 : 48 ≤ c.toNat := hc.1
  have hsub : c.toNat - 48 = 0 := h
  have hcode : c.toNat = '0'.toNat := by
    show c.toNat = 48
    omega
  exact Char.toNat_inj.1 hcode

theorem read_append {ds rest : List Char} (hd : ∀ c ∈ ds, c.isDigit = true) (hr : Stops rest) :
    read (ds ++ rest) = (ds.map value, rest) := by
  have hrest : rest.takeWhile Char.isDigit = [] ∧ rest.dropWhile Char.isDigit = rest := by
    cases rest with
    | nil => exact ⟨rfl, rfl⟩
    | cons c rest => simp [hr c rfl]
  rw [read, List.takeWhile_append_of_pos hd, List.dropWhile_append_of_pos hd, hrest.1, hrest.2,
    List.append_nil]

theorem toNat_map_value (ds : List Char) : toNat (ds.map value) = Nat.ofDigitChars 10 ds 0 := by
  rw [toNat, List.foldl_map]
  rfl

@[simp] theorem toNat_toDigits (n : Nat) : toNat ((Nat.toDigits 10 n).map value) = n := by
  rw [toNat_map_value, Nat.ofDigitChars_ten_toDigits]

theorem isDigit_toDigits {n : Nat} : ∀ c ∈ Nat.toDigits 10 n, c.isDigit = true :=
  fun _ hc => Nat.isDigit_of_mem_toDigits (by decide) (by decide) hc

theorem value_le {c : Char} (h : c.isDigit = true) : value c ≤ 9 := by
  simp only [Char.isDigit, Bool.and_eq_true, decide_eq_true_eq] at h
  have h9 : c.toNat ≤ 57 := h.2
  unfold value
  omega

theorem ofDigitChars_lt {ds : List Char} (h : ∀ c ∈ ds, c.isDigit = true) :
    Nat.ofDigitChars 10 ds 0 < 10 ^ ds.length := by
  induction ds with
  | nil => simp
  | cons c ds ih =>
    have hc : c.toNat - '0'.toNat ≤ 9 := value_le (h c List.mem_cons_self)
    have := ih fun c hc => h c (List.mem_cons_of_mem _ hc)
    rw [Nat.ofDigitChars_cons, Nat.ofDigitChars_eq_ofDigitChars_zero, List.length_cons,
      Nat.pow_succ, Nat.mul_zero, Nat.zero_add]
    calc 10 ^ ds.length * (c.toNat - '0'.toNat) + Nat.ofDigitChars 10 ds 0
        < 10 ^ ds.length * (c.toNat - '0'.toNat) + 10 ^ ds.length := by omega
      _ = 10 ^ ds.length * (c.toNat - '0'.toNat + 1) := by rw [Nat.mul_add, Nat.mul_one]
      _ ≤ 10 ^ ds.length * 10 := Nat.mul_le_mul_left _ (by omega)

/-- Of several digits of a number the first is not zero. -/
theorem toDigits_head {n : Nat} {d e : Char} {ds : List Char} (h : Nat.toDigits 10 n = d :: e :: ds) :
    d ≠ '0' := by
  rintro rfl
  have hn : Nat.ofDigitChars 10 ('0' :: e :: ds) 0 = n := h ▸ Nat.ofDigitChars_ten_toDigits
  -- without its first digit the text would still spell `n`, in fewer digits than `n` has
  have hlt : n < 10 ^ (ds.length + 1) := by
    have hthis : Nat.ofDigitChars 10 (e :: ds) 0 < 10 ^ (e :: ds).length :=
      ofDigitChars_lt fun c hc => isDigit_toDigits (n := n) c (h ▸ List.mem_cons_of_mem _ hc)
    rw [Nat.ofDigitChars_cons] at hn
    simpa [← hn] using hthis
  have hle := (Nat.length_toDigits_le_iff (n := n) (b := 10) (by decide) (Nat.succ_pos ds.length)).2 hlt
  rw [h] at hle
  simp only [List.length_cons] at hle
  omega

theorem toDigits_eq_zero_cons {n : Nat} {ds : List Char} (h : Nat.toDigits 10 n = '0' :: ds) : n = 0 := by
  cases ds with
  | nil =>
    have hn : Nat.ofDigitChars 10 ['0'] 0 = n := h ▸ Nat.ofDigitChars_ten_toDigits
    exact hn.symm
  | cons e ds => exact absurd rfl (toDigits_head h)

end Digits

/-! ## Literals -/

/-- A number without its sign: digits before and after the point, and an exponent. -/
structure Literal where
  whole : List Char
  fraction : List Char
  exponent : Option (Bool × Nat)

namespace Literal

def exponentChars : Option (Bool × Nat) → List Char
  | none => []
  | some (negative, n) => 'e' :: (if negative then '-' else '+') :: Nat.toDigits 10 n

def chars (l : Literal) : List Char :=
  l.whole ++ ((if l.fraction.isEmpty then [] else '.' :: l.fraction) ++ exponentChars l.exponent)

/-- The text of a literal with its sign. -/
def signed (negative : Bool) (l : Literal) : List Char :=
  if negative then '-' :: l.chars else l.chars

/-- The number that the digits spell, the point aside. -/
def significand (l : Literal) : Nat :=
  Nat.ofDigitChars 10 (l.whole ++ l.fraction) 0

/-- The power of ten that the significand is multiplied by. -/
def scale (l : Literal) : Int :=
  (match l.exponent with
    | none => 0
    | some (negative, n) => if negative then -(n : Int) else n) - l.fraction.length

/-- What a JSON number may look like. -/
structure Proper (l : Literal) : Prop where
  whole : ∀ c ∈ l.whole, c.isDigit = true
  fraction : ∀ c ∈ l.fraction, c.isDigit = true
  whole_ne_nil : l.whole ≠ []
  leading : ∀ ds, l.whole = '0' :: ds → ds = []

theorem Proper.significand_lt {l : Literal} (h : l.Proper) :
    l.significand < 10 ^ (l.whole.length + l.fraction.length) := by
  rw [← List.length_append]
  refine Digits.ofDigitChars_lt fun c hc => ?_
  rcases List.mem_append.1 hc with hc | hc
  · exact h.whole c hc
  · exact h.fraction c hc

def part (l : Literal) : Option Double.ExponentPart :=
  l.exponent.map fun e => ⟨e.1, e.2⟩

end Literal

/-- The text does not start with what could go on a number. -/
def Json.Stops (cs : List Char) : Prop :=
  ∀ c ∈ cs.head?, c.isDigit = false ∧ c ≠ '.' ∧ c ≠ 'e' ∧ c ≠ 'E'

namespace Digits

theorem Stops.of_json {cs : List Char} (h : Json.Stops cs) : Stops cs :=
  fun c hc => (h c hc).1

theorem readExponent_chars {e : Option (Bool × Nat)} {rest : List Char} (hr : Json.Stops rest) :
    readExponent (Literal.exponentChars e ++ rest) = some (e.map fun e => ⟨e.1, e.2⟩, rest) := by
  cases e with
  | none =>
    cases rest with
    | nil => rfl
    | cons c rest =>
      obtain ⟨-, -, he, hE⟩ := hr c rfl
      simp [Literal.exponentChars, readExponent, he, hE]
  | some e =>
    obtain ⟨negative, n⟩ := e
    have hread := read_append (isDigit_toDigits (n := n)) (Stops.of_json hr)
    have hne : (Nat.toDigits 10 n).map value ≠ [] := by simp
    have hsign : readSign ((if negative then '-' else '+') :: (Nat.toDigits 10 n ++ rest)) =
        (negative, Nat.toDigits 10 n ++ rest) := by
      cases negative <;> rfl
    simp only [Literal.exponentChars, List.cons_append, readExponent, true_or, if_true, hsign, hread]
    cases hds : (Nat.toDigits 10 n).map value with
    | nil => exact absurd hds hne
    | cons d ds => simp [← hds]

end Digits

namespace Json

theorem readFraction_chars {ds rest : List Char} (hd : ∀ c ∈ ds, c.isDigit = true)
    (hr : Digits.Stops rest) (hp : ∀ c ∈ rest.head?, c ≠ '.') :
    readFraction ((if ds.isEmpty then [] else '.' :: ds) ++ rest) =
      some (if ds.isEmpty then none else some (ds.map Digits.value), rest) := by
  cases ds with
  | nil =>
    cases rest with
    | nil => rfl
    | cons c rest =>
      have hc : c ≠ '.' := hp c rfl
      simp only [List.isEmpty_nil, if_true, List.nil_append, readFraction]
      split
      · rename_i heq
        exact absurd (List.cons.inj heq).1 hc
      · rfl
  | cons d ds =>
    simp only [List.isEmpty_cons, Bool.false_eq_true, if_false, List.cons_append, readFraction]
    rw [← List.cons_append, Digits.read_append hd hr]
    rfl

/-- The number that a literal is read as. -/
def numberOf? (negative : Bool) (l : Literal) : Option Number :=
  if l.fraction.isEmpty ∧ l.exponent.isNone then integral? negative (l.whole.map Digits.value)
  else
    (Double.ofScaled? negative (l.whole.map Digits.value) (l.fraction.map Digits.value) l.part).map
      .double

theorem readMagnitude_chars (negative : Bool) {l : Literal} (hl : l.Proper) {rest : List Char}
    (hr : Stops rest) :
    readMagnitude negative (l.chars ++ rest) = (numberOf? negative l).map (·, rest) := by
  -- what follows the digits of either part cannot go on them
  have hexp : Digits.Stops (Literal.exponentChars l.exponent ++ rest) := by
    cases l.exponent with
    | none => exact Digits.Stops.of_json hr
    | some e => exact Digits.stops_cons (by decide)
  have hpoint : ∀ c ∈ (Literal.exponentChars l.exponent ++ rest).head?, c ≠ '.' := by
    cases l.exponent with
    | none => exact fun c hc => (hr c hc).2.1
    | some e =>
      intro c hc
      cases hc
      decide
  have hfrac : Digits.Stops ((if l.fraction.isEmpty then [] else '.' :: l.fraction) ++
      (Literal.exponentChars l.exponent ++ rest)) := by
    cases l.fraction with
    | nil => exact hexp
    | cons d ds => exact Digits.stops_cons (by decide)
  have hread := Digits.read_append hl.whole hfrac
  have hfraction := readFraction_chars hl.fraction hexp hpoint
  have hexponent := Digits.readExponent_chars (e := l.exponent) hr
  unfold readMagnitude
  simp only [Literal.chars, List.append_assoc, hread]
  cases hw : l.whole.map Digits.value with
  | nil => exact absurd (List.map_eq_nil_iff.1 hw) hl.whole_ne_nil
  | cons d ds =>
    split
    · rename_i heq
      cases heq
    · rename_i heq
      obtain ⟨rfl, rfl⟩ := List.cons.inj heq
      obtain ⟨c, cs, hc, hv, hcs⟩ := List.map_eq_cons_iff.1 hw
      have h0 : c = '0' := Digits.eq_zero_of_value (hl.whole c (hc ▸ List.mem_cons_self)) hv
      have := hl.leading cs (h0 ▸ hc)
      simp [this] at hcs
    · rename_i h1 h2
      simp only [hfraction, Option.bind_eq_bind, Option.bind_some, hexponent, numberOf?, hw, Literal.part]
      cases hf : l.fraction with
      | nil =>
        cases he : l.exponent with
        | none => cases integral? negative (d :: ds) <;> rfl
        | some e =>
          simp only [List.isEmpty_nil, if_true, Option.map_some, Option.isNone_some, Bool.false_eq_true,
            and_false, if_false, Option.getD_none, List.map_nil]
          cases Double.ofScaled? negative (d :: ds) [] (some ⟨e.1, e.2⟩) <;> rfl
      | cons f fs =>
        simp only [List.isEmpty_cons, Bool.false_eq_true, if_false, false_and, Option.getD_some]
        cases Double.ofScaled? negative (d :: ds) (List.map Digits.value (f :: fs))
          (l.exponent.map fun e => ⟨e.1, e.2⟩) <;> rfl

theorem readNumber_signed {negative : Bool} {l : Literal} (hl : l.Proper) {rest : List Char}
    (hr : Stops rest) :
    readNumber (l.signed negative ++ rest) = (numberOf? negative l).map (·, rest) := by
  cases negative with
  | true => exact readMagnitude_chars true hl hr
  | false =>
    have h := readMagnitude_chars false hl hr
    cases hw : l.whole with
    | nil => exact absurd hw hl.whole_ne_nil
    | cons d ds =>
      have hd : d ≠ '-' := by
        rintro rfl
        have := hl.whole '-' (hw ▸ List.mem_cons_self)
        simp at this
      simp only [Literal.signed, Bool.false_eq_true, if_false]
      rw [← h]
      simp only [Literal.chars, hw, List.cons_append]
      unfold readNumber
      split
      · rename_i heq
        exact absurd (List.cons.inj heq).1 hd
      · rfl

end Json

end Exchange
