-- SUMMARY: The text of an IPv6 address is read back as the address, and what is read is an address.
import Mathlib.Data.Bool.AllAny
import Mathlib.Data.List.Basic
import Mathlib.Tactic.Ring
import Exchange.Data.CodePoints
import Exchange.Proofs.Data.Digits
import Exchange.Proofs.Route.Paths
import Exchange.Url.Host

/-!
# Addresses and their texts

An address has eight pieces of sixteen bits. Its text leaves out the longest run
of zeros, if that has two pieces at least, and writes the last two pieces of a
mapped IPv4 address with dots. The reader takes one piece after the other, so
each part of the text is read by itself (`readPieces_colonText`,
`readPieces_dottedText`), and fills in the zeros that are missing at the end.
-/

namespace Exchange.Url

open CodePoints (hexadecimal)

/-! ## Hexadecimal pieces -/

/-- All characters are hexadecimal digits. -/
def IsHex (cs : List Char) : Prop :=
  ∀ c ∈ cs, (hexDigit? c).isSome

/-- The text does not start with a hexadecimal digit. -/
def HexStops (cs : List Char) : Prop :=
  ∀ c ∈ cs.head?, hexDigit? c = none

theorem hexDigit?_digitChar : ∀ d < 16, hexDigit? (Nat.digitChar d) = some d := by
  decide

/-- A hexadecimal digit stands in one of three ranges, and its place there is its value. -/
theorem hexDigit?_eq_some {c : Char} {d : Nat} (h : hexDigit? c = some d) :
    0x30 ≤ c.toNat ∧ c.toNat ≤ 0x39 ∧ d + 0x30 = c.toNat ∨ 0x61 ≤ c.toNat ∧ c.toNat ≤ 0x66 ∧ d + 0x57 = c.toNat ∨
      0x41 ≤ c.toNat ∧ c.toNat ≤ 0x46 ∧ d + 0x37 = c.toNat := by
  unfold hexDigit? Bytes.hexValue? at h
  split at h
  · rename_i hc
    obtain ⟨hlow, hhigh⟩ : 0x30 ≤ c.toNat ∧ c.toNat ≤ 0x39 := hc
    cases h
    omega
  split at h
  · rename_i hc
    obtain ⟨hlow, hhigh⟩ : 0x61 ≤ c.toNat ∧ c.toNat ≤ 0x66 := hc
    cases h
    omega
  split at h
  · rename_i hc
    obtain ⟨hlow, hhigh⟩ : 0x41 ≤ c.toNat ∧ c.toNat ≤ 0x46 := hc
    cases h
    omega
  · cases h

theorem hexDigit?_lt {c : Char} {d : Nat} (h : hexDigit? c = some d) : d < 16 := by
  have hrange := hexDigit?_eq_some h
  omega

theorem isSome_hexDigit?_of_isDigit {c : Char} (h : c.isDigit = true) : (hexDigit? c).isSome := by
  simp only [Char.isDigit, Bool.and_eq_true, decide_eq_true_eq] at h
  have hc : '0' ≤ c ∧ c ≤ '9' := h
  rw [hexDigit?, Bytes.hexValue?, if_pos hc]
  rfl

theorem space_lt_of_isSome_hexDigit? {c : Char} (h : (hexDigit? c).isSome) : 0x20 < c.toNat := by
  obtain ⟨d, hd⟩ := Option.isSome_iff_exists.mp h
  have hrange := hexDigit?_eq_some hd
  omega

theorem foldl_hexadecimal (ds : List Char) (n : Nat) :
    ds.foldl (fun n c => 16 * n + (Bytes.hexValue? c).getD 0) n = n * 16 ^ ds.length + hexadecimal ds := by
  induction ds generalizing n with
  | nil => simp [hexadecimal]
  | cons c ds ih =>
    have hcons : hexadecimal (c :: ds) =
        (16 * 0 + (Bytes.hexValue? c).getD 0) * 16 ^ ds.length + hexadecimal ds := ih _
    rw [List.foldl_cons, ih, hcons, List.length_cons]
    ring

theorem hexadecimal_append (a b : List Char) :
    hexadecimal (a ++ b) = hexadecimal a * 16 ^ b.length + hexadecimal b := by
  rw [hexadecimal, List.foldl_append, foldl_hexadecimal b]
  rfl

theorem hexadecimal_singleton {c : Char} {d : Nat} (h : hexDigit? c = some d) : hexadecimal [c] = d := by
  have hc : Bytes.hexValue? c = some d := h
  simp [hexadecimal, hc]

theorem isHex_hexText (n : Nat) : IsHex (hexText n) := by
  induction n using Nat.strongRecOn with
  | ind n ih =>
    intro c hc
    by_cases hn : n < 16
    · rw [hexText, Nat.toDigits_of_lt_base hn, List.mem_singleton] at hc
      rw [hc, hexDigit?_digitChar n hn]
      rfl
    · rw [hexText, Nat.toDigits_of_base_le (by decide) (Nat.le_of_not_lt hn), List.mem_append, List.mem_singleton] at hc
      rcases hc with hc | rfl
      · exact ih (n / 16) (by omega) c hc
      · rw [hexDigit?_digitChar _ (Nat.mod_lt n (by decide))]
        rfl

theorem hexadecimal_hexText (n : Nat) : hexadecimal (hexText n) = n := by
  induction n using Nat.strongRecOn with
  | ind n ih =>
    by_cases hn : n < 16
    · rw [hexText, Nat.toDigits_of_lt_base hn, hexadecimal_singleton (hexDigit?_digitChar n hn)]
    · have hlast := hexadecimal_singleton (hexDigit?_digitChar _ (Nat.mod_lt n (by decide)))
      have hrest : hexadecimal (Nat.toDigits 16 (n / 16)) = n / 16 := ih (n / 16) (by omega)
      rw [hexText, Nat.toDigits_of_base_le (by decide) (Nat.le_of_not_lt hn), hexadecimal_append, hlast, hrest,
        List.length_singleton]
      omega

theorem hexText_ne_nil (n : Nat) : hexText n ≠ [] :=
  Nat.toDigits_ne_nil

theorem length_hexText_le {n : Nat} (h : n < 65536) : (hexText n).length ≤ 4 :=
  (Nat.length_toDigits_le_iff (by decide) (by decide)).mpr h

/-- The digits are read up to where they stop. -/
theorem readHex_append {ds rest : List Char} {count : Nat} (hd : IsHex ds) (hlength : ds.length ≤ count)
    (hrest : HexStops rest) : readHex count (ds ++ rest) = (hexadecimal ds, ds.length, rest) := by
  induction ds generalizing count with
  | nil =>
    cases count with
    | zero => rfl
    | succ count =>
      cases rest with
      | nil => rfl
      | cons c rest =>
        rw [List.nil_append, readHex, hrest c rfl]
        rfl
  | cons c ds ih =>
    obtain ⟨count, rfl⟩ : ∃ k, count = k + 1 := ⟨count - 1, by simp at hlength; omega⟩
    obtain ⟨d, hd'⟩ := Option.isSome_iff_exists.mp (hd c List.mem_cons_self)
    have hrec : readHex count (ds ++ rest) = (hexadecimal ds, ds.length, rest) :=
      ih (fun c hc => hd c (List.mem_cons_of_mem _ hc)) (by simpa using hlength)
    have hvalue : hexadecimal (c :: ds) = d * 16 ^ ds.length + hexadecimal ds := by
      rw [← hexadecimal_singleton hd', ← hexadecimal_append, List.singleton_append]
    rw [List.cons_append, readHex, hd']
    simp only [hrec, hvalue, List.length_cons]

theorem readHex_lt (count : Nat) (cs : List Char) : (readHex count cs).1 < 16 ^ (readHex count cs).2.1 := by
  induction count generalizing cs with
  | zero => simp [readHex]
  | succ count ih =>
    cases cs with
    | nil => simp [readHex]
    | cons c rest =>
      rw [readHex]
      split
      · rename_i d hd
        rcases hread : readHex count rest with ⟨n, k, left⟩
        have hrest : n < 16 ^ k := by simpa [hread] using ih rest
        calc d * 16 ^ k + n < d * 16 ^ k + 16 ^ k := Nat.add_lt_add_left hrest _
          _ = (d + 1) * 16 ^ k := (Nat.succ_mul d _).symm
          _ ≤ 16 * 16 ^ k := Nat.mul_le_mul_right _ (hexDigit?_lt hd)
          _ = 16 ^ (k + 1) := (Nat.pow_succ').symm
      · exact Nat.one_pos

theorem readHex_count_le (count : Nat) (cs : List Char) : (readHex count cs).2.1 ≤ count := by
  induction count generalizing cs with
  | zero => simp [readHex]
  | succ count ih =>
    cases cs with
    | nil => simp [readHex]
    | cons c rest =>
      rw [readHex]
      split
      · exact Nat.succ_le_succ (ih rest)
      · exact Nat.zero_le _

theorem readHex_four_lt (cs : List Char) : (readHex 4 cs).1 < 65536 :=
  calc (readHex 4 cs).1 < 16 ^ (readHex 4 cs).2.1 := readHex_lt 4 cs
    _ ≤ 16 ^ 4 := Nat.pow_le_pow_right (by decide) (readHex_count_le 4 cs)

/-! ## Dotted pieces -/

theorem dottedNumber?_toDigits {n : Nat} (h : n < 256) : dottedNumber? (Nat.toDigits 10 n) = some n := by
  have hdigits : ∀ c ∈ Nat.toDigits 10 n, c.isDigit = true := Digits.isDigit_toDigits
  have hlength : (Nat.toDigits 10 n).length ≤ 3 :=
    (Nat.length_toDigits_le_iff (by decide) (by decide)).mpr (Nat.lt_trans h (by decide))
  have hvalue : (Nat.toDigits 10 n).foldl (fun n c => 10 * n + (c.toNat - 48)) 0 = n := Nat.ofDigitChars_ten_toDigits
  unfold dottedNumber?
  split
  · rename_i hnil
    exact absurd hnil Nat.toDigits_ne_nil
  · rename_i hzero
    rw [Digits.toDigits_eq_zero_cons hzero]
  · rename_i ds hds hzero
    -- a zero in front is the only digit
    obtain rfl := Digits.toDigits_eq_zero_cons hzero
    exact absurd (List.cons.inj hzero).2.symm hds
  · rw [hvalue, if_pos ⟨hlength, List.all_eq_true.mpr hdigits⟩]
    exact if_pos (Nat.le_of_lt_succ h)

theorem dottedNumber?_le {cs : List Char} {n : Nat} (h : dottedNumber? cs = some n) : n ≤ 255 := by
  unfold dottedNumber? at h
  split at h
  · cases h
  · cases h
    decide
  · cases h
  · split at h
    · simp only at h
      split at h
      · rename_i hle
        cases h
        exact hle
      · cases h
    · cases h

theorem dottedText_eq (p q : Nat) :
    dottedText p q = Nat.toDigits 10 (p / 256) ++ '.' :: (Nat.toDigits 10 (p % 256) ++
      '.' :: (Nat.toDigits 10 (q / 256) ++ '.' :: Nat.toDigits 10 (q % 256))) := by
  simp [dottedText]

theorem dottedPieces?_dottedText {p q : Nat} (hp : p < 65536) (hq : q < 65536) :
    dottedPieces? (dottedText p q) = some [p, q] := by
  have hpoint (n : Nat) : '.' ∉ Nat.toDigits 10 n := fun hmem => absurd (Digits.isDigit_toDigits _ hmem) (by decide)
  have hparts : cutAt '.' (dottedText p q) = [Nat.toDigits 10 (p / 256), Nat.toDigits 10 (p % 256),
      Nat.toDigits 10 (q / 256), Nat.toDigits 10 (q % 256)] := by
    rw [dottedText_eq, cutAt_append_sep, cutAt_append_sep, cutAt_append_sep, cutAt_of_not_mem (hpoint _),
      cutAt_of_not_mem (hpoint _), cutAt_of_not_mem (hpoint _), cutAt_of_not_mem (hpoint _)]
    rfl
  have hlow (n : Nat) : n % 256 < 256 := Nat.mod_lt n (by decide)
  have hhigh {n : Nat} (hn : n < 65536) : n / 256 < 256 := by omega
  have hnumbers : (cutAt '.' (dottedText p q)).mapM dottedNumber? =
      some [p / 256, p % 256, q / 256, q % 256] := by
    simp [hparts, dottedNumber?_toDigits (hlow _), dottedNumber?_toDigits (hhigh hp), dottedNumber?_toDigits (hhigh hq)]
  rw [dottedPieces?, hnumbers]
  simp only [Nat.div_add_mod]

theorem le_of_mapM_dottedNumber? {parts : List (List Char)} {numbers : List Nat}
    (h : parts.mapM dottedNumber? = some numbers) : ∀ n ∈ numbers, n ≤ 255 := by
  induction parts generalizing numbers with
  | nil =>
    cases h
    simp
  | cons part parts ih =>
    rw [List.mapM_cons] at h
    obtain ⟨first, hfirst, h⟩ := Option.bind_eq_some_iff.mp h
    obtain ⟨rest, hrest, h⟩ := Option.bind_eq_some_iff.mp h
    cases h
    exact List.forall_mem_cons.mpr ⟨dottedNumber?_le hfirst, ih hrest⟩

theorem dottedPieces?_eq_some {cs : List Char} {pieces : List Nat} (h : dottedPieces? cs = some pieces) :
    pieces.length = 2 ∧ ∀ p ∈ pieces, p < 65536 := by
  unfold dottedPieces? at h
  split at h
  · rename_i a b c d hnumbers
    have hle := le_of_mapM_dottedNumber? hnumbers
    cases h
    simp only [List.forall_mem_cons] at hle
    refine ⟨rfl, List.forall_mem_cons.mpr ⟨by omega, List.forall_mem_cons.mpr ⟨by omega, by simp⟩⟩⟩
  · cases h

/-! ## Pieces one after the other -/

theorem colonText_ne_nil {l : List Nat} (h : l ≠ []) : colonText l ≠ [] := by
  obtain ⟨n, rest, rfl⟩ := List.exists_cons_of_ne_nil h
  cases rest with
  | nil => exact hexText_ne_nil n
  | cons m rest => simp [colonText]

namespace Pieces

theorem push_push (p : Pieces) (a b : List Nat) : (p.push a).push b = p.push (a ++ b) := by
  obtain ⟨before, after⟩ := p
  cases after <;> simp [push]

theorem count_push (p : Pieces) (a : List Nat) : (p.push a).count = p.count + a.length := by
  obtain ⟨before, after⟩ := p
  cases after with
  | none => simp [push, count]
  | some after =>
    simp only [push, count, List.length_append]
    omega

/-- No more than eight pieces of sixteen bits are read. -/
structure Sound (p : Pieces) : Prop where
  count_le : p.count ≤ 8
  before_lt : ∀ n ∈ p.before, n < 65536
  after_lt : ∀ after, p.after = some after → ∀ n ∈ after, n < 65536

theorem Sound.push {p : Pieces} (h : p.Sound) {a : List Nat} (hcount : p.count + a.length ≤ 8)
    (ha : ∀ n ∈ a, n < 65536) : (p.push a).Sound := by
  refine ⟨by rwa [count_push], ?_, ?_⟩
  · obtain ⟨before, after⟩ := p
    cases after with
    | none => exact List.forall_mem_append.mpr ⟨h.before_lt, ha⟩
    | some after => exact h.before_lt
  · obtain ⟨before, after⟩ := p
    cases after with
    | none => simp [Pieces.push]
    | some after =>
      intro all hall
      cases hall
      exact List.forall_mem_append.mpr ⟨h.after_lt after rfl, ha⟩

end Pieces

/-- What is read are at most eight pieces of sixteen bits, a gap for one of them included. -/
theorem sound_of_readPieces {fuel : Nat} {p q : Pieces} {cs : List Char} (hp : p.Sound)
    (h : readPieces fuel p cs = some q) : q.Sound := by
  induction fuel generalizing p cs with
  | zero =>
    cases cs with
    | nil =>
      cases h
      exact hp
    | cons c rest => cases h
  | succ fuel ih =>
    cases cs with
    | nil =>
      cases h
      exact hp
    | cons c rest =>
      rw [readPieces] at h
      split at h
      · cases h
      rename_i hcount
      have hcount : p.count + 1 ≤ 8 := Nat.lt_of_le_of_ne hp.count_le hcount
      have hone : (p.push [(readHex 4 (c :: rest)).1]).Sound :=
        hp.push hcount (by simpa using readHex_four_lt (c :: rest))
      split at h
      · split at h
        · cases h
        · rename_i hafter
          refine ih (p := { p with after := some [] }) ⟨?_, hp.before_lt, ?_⟩ h
          · simpa [Pieces.count, hafter] using hcount
          · intro after hsome
            cases hsome
            simp
      · simp only at h
        split at h
        · cases h
          exact hone
        · split at h
          · cases h
          · rename_i hdot
            obtain ⟨pieces, hpieces, rfl⟩ := Option.map_eq_some_iff.mp h
            obtain ⟨hlength, hlt⟩ := dottedPieces?_eq_some hpieces
            exact hp.push (by omega) hlt
        · split at h
          · cases h
          · exact ih hone h
        · cases h

section Reading

variable {p : Pieces} {fuel : Nat}

/-- A run of digits is taken off at once, and is a piece if nothing, or a colon and more, comes after it. Before a
point the text is read again as two dotted pieces. -/
theorem readPieces_append (fuel : Nat) (hp : p.count ≠ 8) {ds : List Char} (hne : ds ≠ []) (hd : IsHex ds) (hlength : ds.length ≤ 4) :
    readPieces (fuel + 1) p ds = some (p.push [hexadecimal ds]) ∧
    (∀ rest ≠ [], readPieces (fuel + 1) p (ds ++ ':' :: rest) = readPieces fuel (p.push [hexadecimal ds]) rest) ∧
    (p.count ≤ 6 → ∀ rest, readPieces (fuel + 1) p (ds ++ '.' :: rest) =
      (dottedPieces? (ds ++ '.' :: rest)).map p.push) := by
  have hread (left : List Char) (hleft : HexStops left) := readHex_append hd hlength hleft
  obtain ⟨c, cs, rfl⟩ := List.exists_cons_of_ne_nil hne
  have hc : c ≠ ':' := by
    rintro rfl
    exact absurd (hd ':' List.mem_cons_self) (by decide)
  refine ⟨?_, fun rest hrest => ?_, fun hcount rest => ?_⟩
  · have hnil := hread [] fun c hc => by cases hc
    rw [List.append_nil] at hnil
    rw [readPieces, if_neg hp, if_neg hc, hnil]
  · have hcolon := hread (':' :: rest) fun c hc => by cases hc; rfl
    rw [List.cons_append] at hcolon ⊢
    rw [readPieces, if_neg hp, if_neg hc, hcolon]
    simp [hrest]
  · have hpoint := hread ('.' :: rest) fun c hc => by cases hc; rfl
    rw [List.cons_append] at hpoint ⊢
    rw [readPieces, if_neg hp, if_neg hc, hpoint]
    simp [Nat.not_lt.mpr hcount]

theorem readPieces_hexText (fuel : Nat) (hp : p.count ≠ 8) {n : Nat} (hn : n < 65536) :
    readPieces (fuel + 1) p (hexText n) = some (p.push [n]) ∧
    ∀ rest ≠ [], readPieces (fuel + 1) p (hexText n ++ ':' :: rest) = readPieces fuel (p.push [n]) rest := by
  obtain ⟨hend, hcolon, -⟩ := readPieces_append fuel hp (hexText_ne_nil n) (isHex_hexText n) (length_hexText_le hn)
  rw [hexadecimal_hexText] at hend hcolon
  exact ⟨hend, hcolon⟩

/-- Two pieces that are written with dots. -/
theorem readPieces_dottedText (fuel : Nat) (hp : p.count ≤ 6) {x y : Nat} (hx : x < 65536) (hy : y < 65536) :
    readPieces (fuel + 1) p (dottedText x y) = some (p.push [x, y]) := by
  obtain ⟨rest, htext⟩ : ∃ rest, dottedText x y = Nat.toDigits 10 (x / 256) ++ '.' :: rest :=
    ⟨_, dottedText_eq x y⟩
  have hlength : (Nat.toDigits 10 (x / 256)).length ≤ 4 :=
    (Nat.length_toDigits_le_iff (by decide) (by decide)).mpr (by omega)
  obtain ⟨-, -, hpoint⟩ := readPieces_append (p := p) fuel (by omega) Nat.toDigits_ne_nil
    (fun c hc => isSome_hexDigit?_of_isDigit (Digits.isDigit_toDigits c hc)) hlength
  rw [htext, hpoint hp, ← htext, dottedPieces?_dottedText hx hy]
  rfl

/-- Pieces with colons between them. -/
theorem readPieces_colonText {l : List Nat} (hne : l ≠ []) (hl : ∀ n ∈ l, n < 65536) (hp : p.count + l.length ≤ 8) :
    readPieces (fuel + l.length) p (colonText l) = some (p.push l) := by
  induction l generalizing p with
  | nil => exact absurd rfl hne
  | cons n l ih =>
    obtain ⟨hn, hl⟩ := List.forall_mem_cons.mp hl
    rw [List.length_cons] at hp
    cases l with
    | nil => exact (readPieces_hexText _ (by omega) hn).1
    | cons m l =>
      have hcount : (p.push [n]).count + (m :: l).length ≤ 8 := by
        rw [Pieces.count_push, List.length_singleton]
        omega
      rw [colonText, List.length_cons, ← Nat.add_assoc,
        (readPieces_hexText _ (by omega) hn).2 _ (colonText_ne_nil (List.cons_ne_nil m l)),
        ih (List.cons_ne_nil m l) hl hcount, Pieces.push_push, List.singleton_append]

/-- Pieces with colons between them, before a gap. -/
theorem readPieces_colonText_gap {l : List Nat} (hne : l ≠ []) (hl : ∀ n ∈ l, n < 65536) (hp : p.count + l.length < 8)
    (hafter : p.after = none) (rest : List Char) :
    readPieces (fuel + 1 + l.length) p (colonText l ++ ':' :: ':' :: rest) =
      readPieces fuel { p.push l with after := some [] } rest := by
  induction l generalizing p with
  | nil => exact absurd rfl hne
  | cons n l ih =>
    obtain ⟨hn, hl⟩ := List.forall_mem_cons.mp hl
    rw [List.length_cons] at hp
    have hpush : (p.push [n]).after = none := by
      obtain ⟨before, after⟩ := p
      cases hafter
      rfl
    have hcount : (p.push [n]).count = p.count + 1 := Pieces.count_push p [n]
    cases l with
    | nil =>
      rw [colonText, List.length_singleton, (readPieces_hexText _ (by omega) hn).2 _ (List.cons_ne_nil _ _), readPieces,
        if_neg (by omega), if_pos rfl, hpush]
    | cons m l =>
      rw [colonText, List.length_cons, ← Nat.add_assoc, List.append_assoc, List.cons_append,
        (readPieces_hexText _ (by omega) hn).2 _ (by simp), ih (List.cons_ne_nil m l) hl (by rw [hcount]; omega) hpush,
        Pieces.push_push, List.singleton_append]

end Reading

/-! ## Whole addresses -/

/-- Eight pieces of sixteen bits. -/
structure IsAddress (pieces : List Nat) : Prop where
  length_eq : pieces.length = 8
  lt : ∀ n ∈ pieces, n < 65536

/-- The address that pieces make, zeros in the gap. -/
def Pieces.address? (p : Pieces) : Option (List Nat) :=
  match p.after with
  | none => if p.before.length = 8 then some p.before else none
  | some after => some (p.before ++ List.replicate (8 - p.before.length - after.length) 0 ++ after)

theorem Pieces.Sound.isAddress {p : Pieces} (hp : p.Sound) {pieces : List Nat} (h : p.address? = some pieces) :
    IsAddress pieces := by
  obtain ⟨before, after⟩ := p
  cases after with
  | none =>
    simp only [address?] at h
    split at h
    · rename_i hlength
      cases h
      exact ⟨hlength, hp.before_lt⟩
    · cases h
  | some after =>
    cases h
    have hcount : before.length + (after.length + 1) ≤ 8 := hp.count_le
    refine ⟨?_, ?_⟩
    · simp only [List.length_append, List.length_replicate]
      omega
    · have hzeros : ∀ n ∈ List.replicate (8 - before.length - after.length) 0, n < 65536 := by
        intro n hn
        rw [List.eq_of_mem_replicate hn]
        decide
      exact List.forall_mem_append.mpr
        ⟨List.forall_mem_append.mpr ⟨hp.before_lt, hzeros⟩, hp.after_lt after rfl⟩

theorem readAddress_colons (rest : List Char) :
    readAddress (':' :: ':' :: rest) =
      (readPieces (rest.length + 2) ⟨[], some []⟩ rest).bind Pieces.address? :=
  rfl

theorem readAddress_of_ne {cs : List Char} (hc : cs.head? ≠ some ':') (hlength : 2 ≤ cs.length) :
    readAddress cs = (readPieces cs.length ⟨[], none⟩ cs).bind Pieces.address? := by
  unfold readAddress
  split
  · exact absurd hlength (by simp)
  · exact absurd hlength (by simp)
  · exact absurd rfl hc
  · exact absurd rfl hc
  · rfl

theorem isAddress_of_readPieces {p : Pieces} (hp : p.Sound) {fuel : Nat} {cs : List Char} {pieces : List Nat}
    (h : (readPieces fuel p cs).bind Pieces.address? = some pieces) : IsAddress pieces := by
  obtain ⟨q, hq, hpieces⟩ := Option.bind_eq_some_iff.mp h
  exact (sound_of_readPieces hp hq).isAddress hpieces

theorem isAddress_of_readAddress {cs : List Char} {pieces : List Nat} (h : readAddress cs = some pieces) :
    IsAddress pieces := by
  have hnone : Pieces.Sound ⟨[], none⟩ := ⟨by decide, by simp, by simp⟩
  have hgap : Pieces.Sound ⟨[], some []⟩ := ⟨by decide, by simp, by simp⟩
  unfold readAddress at h
  dsimp only at h
  split at h
  · cases h
  · cases h
  · exact isAddress_of_readPieces hgap h
  · cases h
  · exact isAddress_of_readPieces hnone h

/-! ### Zeros -/

theorem replicate_zeroRun (pieces : List Nat) :
    ∃ after, pieces = List.replicate (zeroRun pieces) 0 ++ after := by
  refine ⟨pieces.dropWhile (· = 0), ?_⟩
  have hzeros : pieces.takeWhile (· = 0) = List.replicate (zeroRun pieces) 0 := by
    rw [List.eq_replicate_iff]
    exact ⟨rfl, fun n hn => by simpa using List.all_eq_true.mp List.all_takeWhile n hn⟩
  rw [← hzeros, List.takeWhile_append_dropWhile]

/-- The longest run of zeros stands where it is said to. -/
theorem longestZeros_eq (start : Nat) (pieces : List Nat) :
    ∃ before after, pieces = before ++ List.replicate (longestZeros start pieces).2 0 ++ after ∧
      (longestZeros start pieces).1 = start + before.length := by
  induction pieces generalizing start with
  | nil => exact ⟨[], [], rfl, rfl⟩
  | cons p rest ih =>
    rw [longestZeros]
    obtain ⟨before, after, hrest, hplace⟩ := ih (start + 1)
    simp only
    split
    · obtain ⟨after, hzeros⟩ := replicate_zeroRun (p :: rest)
      exact ⟨[], after, hzeros, rfl⟩
    · refine ⟨p :: before, after, ?_, ?_⟩
      · rw [List.cons_append, List.cons_append, ← hrest]
      · rw [hplace, List.length_cons]
        omega

/-! ### Texts -/

theorem length_le_colonText (l : List Nat) : l.length ≤ (colonText l).length := by
  induction l with
  | nil => exact Nat.zero_le _
  | cons n l ih =>
    have hn : 0 < (hexText n).length := List.length_pos_of_ne_nil (hexText_ne_nil n)
    cases l with
    | nil => exact hn
    | cons m l =>
      simp only [colonText, List.length_append, List.length_cons] at ih ⊢
      omega

theorem head?_colonText {l : List Nat} (h : l ≠ []) (rest : List Char) : (colonText l ++ rest).head? ≠ some ':' := by
  obtain ⟨n, l, rfl⟩ := List.exists_cons_of_ne_nil h
  obtain ⟨c, cs, hn⟩ := List.exists_cons_of_ne_nil (hexText_ne_nil n)
  have hhead : (colonText (n :: l) ++ rest).head? = some c := by
    cases l with
    | nil => rw [colonText, hn, List.cons_append, List.head?_cons]
    | cons m l => rw [colonText, hn, List.cons_append, List.cons_append, List.head?_cons]
  rw [hhead]
  rintro ⟨⟩
  exact absurd (isHex_hexText n ':' (hn ▸ List.mem_cons_self)) (by decide)

/-- The pieces behind a gap, if there are any. -/
theorem readPieces_behind {before after : List Nat} (hafter : ∀ n ∈ after, n < 65536)
    (hlength : before.length + after.length < 8) {fuel : Nat} (hfuel : after.length ≤ fuel) :
    readPieces fuel ⟨before, some []⟩ (colonText after) = some ⟨before, some after⟩ := by
  obtain ⟨fuel, rfl⟩ := Nat.exists_eq_add_of_le' hfuel
  by_cases hnil : after = []
  · subst hnil
    cases fuel <;> rfl
  · have hcount : Pieces.count ⟨before, some []⟩ + after.length ≤ 8 := by
      simp only [Pieces.count, List.length_nil]
      omega
    exact readPieces_colonText hnil hafter hcount

theorem readAddress_gap {before after : List Nat} (hbefore : ∀ n ∈ before, n < 65536) (hafter : ∀ n ∈ after, n < 65536)
    (hlength : before.length + after.length < 8) :
    readAddress (colonText before ++ ':' :: ':' :: colonText after) =
      some (before ++ List.replicate (8 - before.length - after.length) 0 ++ after) := by
  have hbehind := length_le_colonText after
  by_cases hnil : before = []
  · subst hnil
    have hread : readPieces ((colonText after).length + 2) ⟨[], some []⟩ (colonText after) = some ⟨[], some after⟩ :=
      readPieces_behind hafter hlength (by omega)
    rw [colonText, List.nil_append, readAddress_colons, hread]
    rfl
  · have hfront := length_le_colonText before
    have htext : (colonText before ++ ':' :: ':' :: colonText after).length =
        (colonText before).length + ((colonText after).length + 2) := List.length_append
    -- what the pieces do not need of the fuel
    obtain ⟨fuel, hfuel⟩ : ∃ fuel, (colonText before ++ ':' :: ':' :: colonText after).length =
        fuel + after.length + 1 + before.length :=
      ⟨(colonText before).length + (colonText after).length + 1 - after.length - before.length, by omega⟩
    have hcount : Pieces.count ⟨[], none⟩ + before.length < 8 := by
      simp only [Pieces.count, List.length_nil]
      omega
    rw [readAddress_of_ne (head?_colonText hnil _) (by omega), hfuel, readPieces_colonText_gap hnil hbefore hcount rfl]
    have hread : readPieces (fuel + after.length) ⟨before, some []⟩ (colonText after) = some ⟨before, some after⟩ :=
      readPieces_behind hafter hlength (Nat.le_add_left after.length fuel)
    simp only [Pieces.push, List.nil_append, hread]
    rfl

theorem readAddress_colonText {pieces : List Nat} (h : IsAddress pieces) : readAddress (colonText pieces) = some pieces := by
  have hlength := length_le_colonText pieces
  have hne : pieces ≠ [] := List.ne_nil_of_length_pos (by simp [h.length_eq])
  have hhead := head?_colonText hne []
  rw [List.append_nil] at hhead
  have hcount : Pieces.count ⟨[], none⟩ + pieces.length ≤ 8 := by simp [Pieces.count, h.length_eq]
  rw [h.length_eq] at hlength
  obtain ⟨fuel, hfuel⟩ := Nat.exists_eq_add_of_le' (length_le_colonText pieces)
  rw [readAddress_of_ne hhead (by omega), hfuel, readPieces_colonText hne h.lt hcount]
  simp [Pieces.push, Pieces.address?, h.length_eq]

/-- The text of a mapped IPv4 address. -/
theorem readAddress_mapped {x y : Nat} (hx : x < 65536) (hy : y < 65536) :
    readAddress ("::ffff:".toList ++ dottedText x y) = some [0, 0, 0, 0, 0, 0xffff, x, y] := by
  have htext : "::ffff:".toList ++ dottedText x y = ':' :: ':' :: (hexText 0xffff ++ ':' :: dottedText x y) := rfl
  have hne : dottedText x y ≠ [] := by simp [dottedText]
  have hfirst (fuel : Nat) := (readPieces_hexText (p := ⟨[], some []⟩) (fuel + 1) (by decide)
    (show 0xffff < 65536 by decide)).2 _ hne
  have hrest (fuel : Nat) := readPieces_dottedText (p := Pieces.push ⟨[], some []⟩ [0xffff]) fuel (by decide) hx hy
  rw [htext, readAddress_colons, hfirst, hrest]
  rfl

/-- The text of an address spells the address. -/
theorem readAddress_addressText {pieces : List Nat} (h : IsAddress pieces) :
    readAddress (addressText pieces) = some pieces := by
  unfold addressText
  split
  · rename_i x y
    exact readAddress_mapped (h.lt x (by simp)) (h.lt y (by simp))
  · obtain ⟨before, after, heq, hplace⟩ := longestZeros_eq 0 pieces
    generalize longestZeros 0 pieces = run at heq hplace
    obtain ⟨place, zeros⟩ := run
    simp only [Nat.zero_add] at heq hplace ⊢
    split
    · rename_i hzeros
      subst heq hplace
      have hlength : before.length + zeros + after.length = 8 := by simpa [Nat.add_assoc] using h.length_eq
      have htake : (before ++ List.replicate zeros 0 ++ after).take before.length = before := by simp
      have hdrop : (before ++ List.replicate zeros 0 ++ after).drop (before.length + zeros) = after := by
        rw [List.drop_left' (by simp)]
      have hgap : 8 - before.length - after.length = zeros := by omega
      have hbefore : ∀ n ∈ before, n < 65536 := fun n hn => h.lt n (by simp [hn])
      have hafter : ∀ n ∈ after, n < 65536 := fun n hn => h.lt n (by simp [hn])
      rw [htake, hdrop, readAddress_gap hbefore hafter (by omega), hgap]
    · exact readAddress_colonText h

/-! ### Characters -/

/-- The characters in the text of an address. -/
def InAddress (c : Char) : Prop :=
  c = ':' ∨ c = '.' ∨ (hexDigit? c).isSome

theorem inAddress_of_mem_colonText {l : List Nat} {c : Char} (h : c ∈ colonText l) : InAddress c := by
  induction l with
  | nil => cases h
  | cons n l ih =>
    cases l with
    | nil => exact .inr (.inr (isHex_hexText n c h))
    | cons m l =>
      rw [colonText, List.mem_append, List.mem_cons] at h
      rcases h with h | h | h
      · exact .inr (.inr (isHex_hexText n c h))
      · exact .inl h
      · exact ih h

theorem inAddress_of_mem_dottedText {x y : Nat} {c : Char} (h : c ∈ dottedText x y) : InAddress c := by
  have hdigit {n : Nat} (hc : c ∈ Nat.toDigits 10 n) : InAddress c :=
    .inr (.inr (isSome_hexDigit?_of_isDigit (Digits.isDigit_toDigits c hc)))
  have hpoint (hc : c = '.') : InAddress c := .inr (.inl hc)
  simp only [dottedText_eq, List.mem_append, List.mem_cons] at h
  rcases h with h | h | h | h | h | h | h
  · exact hdigit h
  · exact hpoint h
  · exact hdigit h
  · exact hpoint h
  · exact hdigit h
  · exact hpoint h
  · exact hdigit h

theorem inAddress_of_mem_addressText {pieces : List Nat} {c : Char} (h : c ∈ addressText pieces) : InAddress c := by
  unfold addressText at h
  split at h
  · have hprefix : ∀ d ∈ "::ffff:".toList, d = ':' ∨ d = '.' ∨ (hexDigit? d).isSome :=
      List.all_iff_forall_prop.mp (by decide)
    rcases List.mem_append.mp h with h | h
    · exact hprefix c h
    · exact inAddress_of_mem_dottedText h
  · simp only at h
    split at h
    · rw [List.mem_append, List.mem_cons, List.mem_cons] at h
      rcases h with h | h | h | h
      · exact inAddress_of_mem_colonText h
      · exact .inl h
      · exact .inl h
      · exact inAddress_of_mem_colonText h
    · exact inAddress_of_mem_colonText h

theorem colon_mem_addressText {pieces : List Nat} (h : IsAddress pieces) : ':' ∈ addressText pieces := by
  unfold addressText
  split
  · exact List.mem_append_left _ (by decide)
  · simp only
    split
    · simp
    · obtain ⟨n, rest, rfl⟩ := List.exists_cons_of_length_eq_add_one h.length_eq
      obtain ⟨m, rest, rfl⟩ := List.exists_cons_of_length_eq_add_one (Nat.succ.inj h.length_eq)
      simp [colonText]

end Exchange.Url
