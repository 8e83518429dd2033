-- SUMMARY: The status that a value is coerced to is its exact value without the fraction, if that is in range.
import Exchange.Envelope.Reply
import Exchange.Proofs.Codec
import Exchange.Proofs.Data.Digits
import Exchange.Proofs.Status
import Mathlib.Data.Rat.Floor
import Mathlib.Tactic.Positivity

/-!
# Coercion of exact values

Numbers have exact values, and so have numerals: texts of decimal digits, with a
sign or without, between blanks. Coercion rounds such a value to a double and
drops its fraction; what comes out is the value itself without its fraction, or
nothing where no status has that number (`coerce_truncates`).
-/

namespace Exchange

/-! ## Exact values -/

/-- A number without its fraction. -/
def truncated (q : ℚ) : ℤ :=
  if 0 ≤ q then ⌊q⌋ else ⌈q⌉

theorem truncated_of_nonneg {q : ℚ} (h : 0 ≤ q) : truncated q = ⌊q⌋ :=
  if_pos h

theorem truncated_neg {q : ℚ} (h : 0 ≤ q) : truncated (-q) = -⌊q⌋ := by
  unfold truncated
  split
  · rename_i hneg
    obtain rfl : q = 0 := le_antisymm (neg_nonneg.mp hneg) h
    simp
  · exact Int.ceil_neg

@[simp] theorem truncated_intCast (n : ℤ) : truncated n = n := by
  unfold truncated
  split
  · exact Int.floor_intCast n
  · exact Int.ceil_intCast n

namespace Double

/-- The magnitude that the bits spell: a fraction in units of `2 ^ -52`, on top of one unless the exponent is the least,
times a power of two. -/
def magnitude (x : Double) : ℚ :=
  let exponent : ℕ := x.code / 2 ^ 52
  let fraction : ℕ := x.code % 2 ^ 52
  if exponent = 0 then 2 ^ (-1022 : ℤ) * (fraction / 2 ^ 52)
  else 2 ^ ((exponent : ℤ) - 1023) * (1 + fraction / 2 ^ 52)

def exact (x : Double) : ℚ :=
  if x.negative then -x.magnitude else x.magnitude

theorem magnitude_eq (x : Double) : x.magnitude = x.units / 2 ^ (1022 + 52) := by
  rw [pow_add]
  unfold magnitude units unitsOf
  dsimp only
  generalize x.code % 2 ^ 52 = fraction
  generalize x.code / 2 ^ 52 = exponent
  cases exponent with
  | zero =>
    have hleast : (2 : ℚ) ^ (-1022 : ℤ) = 1 / 2 ^ 1022 := by
      rw [zpow_neg, one_div]
      rfl
    rw [if_pos rfl, if_pos rfl, hleast, div_mul_div_comm, one_mul]
  | succ e =>
    have hpower : (2 : ℚ) ^ (((e + 1 : ℕ) : ℤ) - 1023) = 2 ^ e / 2 ^ 1022 := by
      have he : ((e + 1 : ℕ) : ℤ) - 1023 = (e : ℤ) - (1022 : ℕ) := by omega
      rw [he, zpow_sub₀ two_ne_zero, zpow_natCast, zpow_natCast]
    have hsignificand : (1 : ℚ) + fraction / 2 ^ 52 = (2 ^ 52 + fraction : ℕ) / 2 ^ 52 := by
      rw [Nat.cast_add, add_div, Nat.cast_pow, Nat.cast_two, div_self (by positivity)]
    rw [if_neg (Nat.succ_ne_zero e), if_neg (Nat.succ_ne_zero e), Nat.add_sub_cancel, hpower, hsignificand,
      div_mul_div_comm, Nat.cast_mul, Nat.cast_pow, Nat.cast_two, mul_comm (2 ^ e : ℚ)]

theorem magnitude_nonneg (x : Double) : 0 ≤ x.magnitude := by
  rw [magnitude_eq]
  positivity

theorem truncated_exact (x : Double) : truncated x.exact = x.trunc := by
  have hfloor : ⌊x.magnitude⌋ = x.floor := by
    rw [magnitude_eq, ← Nat.cast_two, ← Nat.cast_pow, Rat.floor_natCast_div_natCast, floor, Int.natCast_ediv]
  unfold exact trunc
  split
  · rw [truncated_neg x.magnitude_nonneg, hfloor]
  · rw [truncated_of_nonneg x.magnitude_nonneg, hfloor]

end Double

/-- The exact value of a number. -/
def Number.exact : Number → ℚ
  | .int n => n.val
  | .double x => x.exact

/-! ## Numerals -/

namespace Blank

theorem dropWhile_append {blanks cs : List Char} (hblanks : ∀ c ∈ blanks, isBlank c = true)
    (hcs : ∀ c ∈ cs.head?, isBlank c = false) : (blanks ++ cs).dropWhile isBlank = cs := by
  rw [List.dropWhile_append_of_pos hblanks]
  cases cs with
  | nil => rfl
  | cons c cs => exact List.dropWhile_cons_of_neg (by simp [hcs c rfl])

/-- What has no blanks is all that is left when the blanks around it are removed. -/
theorem trim_append {before cs after : List Char} (hbefore : ∀ c ∈ before, isBlank c = true)
    (hafter : ∀ c ∈ after, isBlank c = true) (hne : cs ≠ []) (hcs : ∀ c ∈ cs, isBlank c = false) :
    trim (before ++ (cs ++ after)) = cs := by
  have hhead : ∀ c ∈ (cs ++ after).head?, isBlank c = false := by
    obtain ⟨c, rest, rfl⟩ := List.exists_cons_of_ne_nil hne
    intro d hd
    cases hd
    exact hcs _ List.mem_cons_self
  have hlast : ∀ c ∈ cs.reverse.head?, isBlank c = false :=
    fun c hc => hcs c (List.mem_reverse.mp (List.mem_of_mem_head? hc))
  rw [trim, dropWhile_append hbefore hhead, List.reverse_append,
    dropWhile_append (fun c hc => hafter c (List.mem_reverse.mp hc)) hlast, List.reverse_reverse]

theorem not_isBlank_of_isDigit {c : Char} (h : c.isDigit = true) : isBlank c = false := by
  simp only [Char.isDigit, Bool.and_eq_true, decide_eq_true_eq] at h
  have hleast : 48 ≤ c.toNat := h.1
  have hmost : c.toNat ≤ 57 := h.2
  simp only [isBlank, ranges, List.any_cons, List.any_nil, Bool.or_false, Bool.or_eq_false_iff,
    Bool.and_eq_false_iff, decide_eq_false_iff_not]
  omega

end Blank

inductive Numeral.Sign where
  | none
  | plus
  | minus

namespace Numeral.Sign

def chars : Numeral.Sign → List Char
  | none => []
  | plus => ['+']
  | minus => ['-']

def negative : Numeral.Sign → Bool
  | minus => true
  | _ => false

/-- The number with a sign in front of its digits. -/
def apply (sign : Numeral.Sign) (n : ℕ) : ℤ :=
  if sign.negative then -n else n

theorem not_isBlank (sign : Numeral.Sign) : ∀ c ∈ sign.chars, Blank.isBlank c = false := by
  cases sign with
  | none => simp [chars]
  | plus => simpa [chars] using by decide
  | minus => simpa [chars] using by decide

theorem readSign_append (sign : Numeral.Sign) {ds : List Char} (hne : ds ≠ [])
    (hd : ∀ c ∈ ds, c.isDigit = true) : Digits.readSign (sign.chars ++ ds) = (sign.negative, ds) := by
  cases sign with
  | none =>
    obtain ⟨d, ds, rfl⟩ := List.exists_cons_of_ne_nil hne
    have hd := hd d List.mem_cons_self
    simp only [chars, List.nil_append]
    unfold Digits.readSign
    split
    · rename_i heq
      cases heq
      exact absurd hd (by decide)
    · rename_i heq
      cases heq
      exact absurd hd (by decide)
    · rfl
  | plus => rfl
  | minus => rfl

end Numeral.Sign

/-- Decimal digits behind a sign or none, with blanks on both sides. -/
structure Numeral where
  before : List Char
  sign : Numeral.Sign
  digits : List Char
  after : List Char
  before_blank : ∀ c ∈ before, Blank.isBlank c = true
  digits_ne_nil : digits ≠ []
  digits_digit : ∀ c ∈ digits, c.isDigit = true
  after_blank : ∀ c ∈ after, Blank.isBlank c = true

namespace Numeral

def text (t : Numeral) : String :=
  String.ofList (t.before ++ (t.sign.chars ++ t.digits ++ t.after))

/-- The number that a numeral spells. -/
def value (t : Numeral) : ℤ :=
  t.sign.apply (Nat.ofDigitChars 10 t.digits 0)

theorem trim_text (t : Numeral) : Blank.trim t.text.toList = t.sign.chars ++ t.digits := by
  rw [text, String.toList_ofList]
  refine Blank.trim_append t.before_blank t.after_blank (by simp [t.digits_ne_nil]) fun c hc => ?_
  rcases List.mem_append.mp hc with hc | hc
  · exact t.sign.not_isBlank c hc
  · exact Blank.not_isBlank_of_isDigit (t.digits_digit c hc)

theorem parse?_eq (t : Numeral) :
    Decimal.parse? (t.sign.chars ++ t.digits) = some (t.sign.negative, ⟨Nat.ofDigitChars 10 t.digits 0, 0⟩) := by
  have hread : Digits.read (t.digits ++ []) = (t.digits.map Digits.value, []) :=
    Digits.read_append t.digits_digit fun c hc => nomatch hc
  rw [List.append_nil] at hread
  unfold Decimal.parse?
  simp [t.sign.readSign_append t.digits_ne_nil t.digits_digit, hread, t.digits_ne_nil, Digits.readExponent,
    Digits.toNat_map_value]

end Numeral

/-! ## Coercion -/

namespace Status

/-- The exact value of a number, and of a text that is a numeral. -/
inductive Denotes : Value → ℚ → Prop where
  | number (n : Number) : Denotes (.number n) n.exact
  | numeral (t : Numeral) : Denotes (.text t.text) t.value

theorem coerce_numeral (t : Numeral) : coerce (.text t.text) = ofInt? t.value := by
  rw [coerce, numeric?, t.trim_text, t.parse?_eq]
  exact ofDouble?_ofDecimal? t.sign.negative _

theorem coerce_eq {v : Value} {q : ℚ} (h : Denotes v q) : coerce v = ofInt? (truncated q) := by
  cases h with
  | number n =>
    cases n with
    | int n => rw [coerce_int, Number.exact, truncated_intCast]
    | double x =>
      rw [Number.exact, x.truncated_exact]
      rfl
  | numeral t => rw [coerce_numeral, truncated_intCast]

/-- Whatever the value, zero is no status of it. -/
theorem coerce_ne_zero (v : Value) : coerce v ≠ some ⟨0⟩ := by
  intro h
  obtain ⟨x, -, hx⟩ := Option.bind_eq_some_iff.mp h
  exact (ofInt?_eq_some_iff.mp hx).2 rfl

end Status

namespace Reply

theorem status_of_fields? {members : List (String × Value)} {r : Reply} (h : fields? members = some r) :
    r.status = statusOf members := by
  simp only [fields?, Option.bind_eq_bind, Option.bind_eq_some_iff] at h
  obtain ⟨_, -, _, -, _, -, _, -, _, -, _, -, h⟩ := h
  cases h
  rfl

/-- The status of a frame that is read is what its status field is coerced to. -/
theorem status_of_decode {frame : Frame} {r : Reply} (h : decode frame = .ok r) :
    ∃ members, Codec.decodeValue frame = .ok (.object members) ∧ r.status = statusOf members := by
  unfold decode at h
  cases hvalue : Codec.decodeValue frame with
  | error error =>
    rw [hvalue] at h
    cases h
  | ok v =>
    rw [hvalue] at h
    cases v with
    | object members =>
      refine ⟨members, rfl, ?_⟩
      cases hfields : fields? members with
      | none => simp [ofValue, hfields, Except.mapError, bind, Except.bind] at h
      | some r' =>
        obtain rfl : r' = r := by simpa [ofValue, hfields, Except.mapError, bind, Except.bind] using h
        exact status_of_fields? hfields
    | null | bool | number | text | list => cases h

end Reply

namespace Status

/-- Coercion drops the fraction of an exact value and takes nothing else off it: the status has that number, and there is
none where it is not from `1` to `65535`. So no value, and no frame that is read, has the status zero. -/
theorem coerce_truncates :
    (∀ v q, Denotes v q →
      if 1 ≤ truncated q ∧ truncated q ≤ 65535 then ∃ s, coerce v = some s ∧ (s.toNat : ℤ) = truncated q
      else coerce v = none) ∧
      (∀ v, coerce v ≠ some ⟨0⟩) ∧
      ∀ frame r, Reply.decode frame = .ok r → r.status ≠ some ⟨0⟩ := by
  refine ⟨fun v q h => ?_, coerce_ne_zero, fun frame r h hzero => ?_⟩
  · rw [coerce_eq h]
    split
    · rename_i hrange
      exact exists_ofInt? hrange
    · rename_i hrange
      exact ofInt?_eq_none hrange
  · obtain ⟨members, -, hstatus⟩ := Reply.status_of_decode h
    rw [hzero] at hstatus
    obtain ⟨v, -, hv⟩ := Option.bind_eq_some_iff.mp hstatus.symm
    exact coerce_ne_zero v hv

/-- A numeral of what would be 404 in sixteen bits. -/
def overlong : Numeral where
  before := ['\t']
  sign := .plus
  digits := ['0', '6', '5', '9', '4', '0']
  after := [' ']
  before_blank := List.all_eq_true.mp rfl
  digits_ne_nil := by decide
  digits_digit := List.all_eq_true.mp rfl
  after_blank := List.all_eq_true.mp rfl

def spelledNotFound : Numeral where
  before := []
  sign := .none
  digits := ['4', '0', '4']
  after := ['\n']
  before_blank := List.all_eq_true.mp rfl
  digits_ne_nil := by decide
  digits_digit := List.all_eq_true.mp rfl
  after_blank := List.all_eq_true.mp rfl

/-- A frame whose status would be zero in sixteen bits. -/
def overflowing : Frame :=
  ⟨.text, Codec.encodeValue (.object [("status", .number (.int ⟨65536, by decide⟩))]) .text⟩

theorem decode_overflowing : ∃ r, Reply.decode overflowing = .ok r := by
  have hvalue : Codec.decodeValue overflowing = .ok (.object [("status", .number (.int ⟨65536, by decide⟩))]) :=
    (Codec.decodeValue_text _).trans (if_pos (by decide))
  unfold Reply.decode
  rw [hvalue]
  exact ⟨_, rfl⟩

/-- Nothing is wrapped around: not a numeral past the range, and not the status of a frame. -/
theorem coerce_truncates_past_range :
    (overlong.text = "\t+065940 " ∧ Denotes (.text overlong.text) (65940 : ℤ) ∧ coerce (.text overlong.text) = none) ∧
      (spelledNotFound.text = "404\n" ∧ Denotes (.text spelledNotFound.text) (404 : ℤ) ∧
        ∃ s, coerce (.text spelledNotFound.text) = some s ∧ (s.toNat : ℤ) = 404) ∧
      ∃ r, Reply.decode overflowing = .ok r ∧ r.status ≠ some ⟨0⟩ := by
  have hoverlong : Denotes (.text overlong.text) (65940 : ℤ) := .numeral overlong
  have hnotFound : Denotes (.text spelledNotFound.text) (404 : ℤ) := .numeral spelledNotFound
  obtain ⟨htruncates, -, hframe⟩ := coerce_truncates
  obtain ⟨r, hr⟩ := decode_overflowing
  refine ⟨⟨by decide, hoverlong, ?_⟩, ⟨by decide, hnotFound, ?_⟩, r, hr, hframe overflowing r hr⟩
  · have hnone := htruncates _ _ hoverlong
    rwa [truncated_intCast, if_neg (by decide)] at hnone
  · have hsome := htruncates _ _ hnotFound
    rwa [truncated_intCast, if_pos (by decide)] at hsome

end Status

end Exchange
