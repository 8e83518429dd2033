-- SUMMARY: What UTF-8 writes, strict UTF-8 reads back.
import Exchange.Data.Utf8

/-!
# UTF-8 reads what it writes

One lemma reads the one to four bytes of a character off the front of a byte
string; texts follow by induction on their characters.
-/

namespace Exchange.Utf8

theorem scalar?_toNat {least : Nat} {c : Char} (h : least ≤ c.toNat) : scalar? least c.toNat = some c := by
  have hv : c.toNat.isValidChar := c.valid
  rw [scalar?, if_pos h, dif_pos hv]
  exact congrArg some (Char.ext rfl)

theorem continuation?_ofNat {n : Nat} (h : n < 64) :
    continuation? (UInt8.ofNat (0x80 + n)) = some n := by
  have hb : (UInt8.ofNat (0x80 + n)).toNat = 0x80 + n := by
    rw [UInt8.toNat_ofNat']
    omega
  rw [continuation?, hb, if_pos (by omega)]
  simp

theorem decode?_encodeChar_append (c : Char) (rest : Bytes) :
    decode? (encodeChar c ++ rest) = (decode? rest).map (c :: ·) := by
  have hlt : c.toNat < 0x110000 := by
    rcases c.valid with h | h
    · exact Nat.lt_trans h (by decide)
    · exact h.2
  have hlead {k : Nat} (hk : k < 256) : (UInt8.ofNat k).toNat = k := by
    rw [UInt8.toNat_ofNat']
    omega
  unfold encodeChar
  dsimp only
  split
  · rename_i h
    have hb := hlead (k := c.toNat) (by omega)
    rw [List.singleton_append, decode?.eq_def]
    simp only [hb, if_pos h, scalar?_toNat (Nat.zero_le _), Option.bind_eq_bind, Option.bind_some]
    cases decode? rest <;> rfl
  split
  · rename_i h1 h2
    have hb := hlead (k := 0xc0 + c.toNat / 64) (by omega)
    have hx := continuation?_ofNat (n := c.toNat % 64) (by omega)
    have hn : 64 * (0xc0 + c.toNat / 64 - 0xc0) + c.toNat % 64 = c.toNat := by omega
    rw [List.cons_append, List.singleton_append, decode?, hb, if_neg (by omega), if_neg (by omega),
      if_pos (by omega)]
    simp only [hx, Option.bind_eq_bind, Option.bind_some, hn, scalar?_toNat (Nat.le_of_not_lt h1)]
    cases decode? rest <;> rfl
  split
  · rename_i h1 h2 h3
    have hb := hlead (k := 0xe0 + c.toNat / 4096) (by omega)
    have hx := continuation?_ofNat (n := c.toNat / 64 % 64) (by omega)
    have hy := continuation?_ofNat (n := c.toNat % 64) (by omega)
    have hn : 4096 * (0xe0 + c.toNat / 4096 - 0xe0) + 64 * (c.toNat / 64 % 64) + c.toNat % 64 =
        c.toNat := by omega
    rw [List.cons_append, List.cons_append, List.singleton_append, decode?, hb, if_neg (by omega),
      if_neg (by omega), if_neg (by omega), if_pos (by omega)]
    simp only [hx, hy, Option.bind_eq_bind, Option.bind_some, hn, scalar?_toNat (Nat.le_of_not_lt h2)]
    cases decode? rest <;> rfl
  · rename_i h1 h2 h3
    have hb := hlead (k := 0xf0 + c.toNat / 262144) (by omega)
    have hx := continuation?_ofNat (n := c.toNat / 4096 % 64) (by omega)
    have hy := continuation?_ofNat (n := c.toNat / 64 % 64) (by omega)
    have hz := continuation?_ofNat (n := c.toNat % 64) (by omega)
    have hn : 262144 * (0xf0 + c.toNat / 262144 - 0xf0) + 4096 * (c.toNat / 4096 % 64) +
        64 * (c.toNat / 64 % 64) + c.toNat % 64 = c.toNat := by omega
    rw [List.cons_append, List.cons_append, List.cons_append, List.singleton_append, decode?, hb,
      if_neg (by omega), if_neg (by omega), if_neg (by omega), if_neg (by omega), if_pos (by omega)]
    simp only [hx, hy, hz, Option.bind_eq_bind, Option.bind_some, hn,
      scalar?_toNat (Nat.le_of_not_lt h3)]
    cases decode? rest <;> rfl

@[simp] theorem decode?_encode (cs : List Char) : decode? (encode cs) = some cs := by
  induction cs with
  | nil => rfl
  | cons c cs ih =>
    rw [encode, List.flatMap_cons, decode?_encodeChar_append]
    rw [encode] at ih
    rw [ih]
    rfl

theorem encodeChar_ne_nil (c : Char) : encodeChar c ≠ [] := by
  unfold encodeChar
  dsimp only
  repeat' split
  all_goals exact List.cons_ne_nil _ _

/-- No character takes less than one byte. -/
theorem length_le_encode (cs : List Char) : cs.length ≤ (encode cs).length := by
  induction cs with
  | nil => exact Nat.zero_le _
  | cons c cs ih =>
    have hc : 0 < (encodeChar c).length := List.length_pos_iff.mpr (encodeChar_ne_nil c)
    simp only [encode, List.flatMap_cons, List.length_cons, List.length_append] at ih ⊢
    omega

theorem length_encode_of_ascii {cs : List Char} (h : ∀ c ∈ cs, c.toNat < 0x80) :
    (encode cs).length = cs.length := by
  induction cs with
  | nil => rfl
  | cons c cs ih =>
    obtain ⟨hc, hcs⟩ := List.forall_mem_cons.1 h
    have hone : (encodeChar c).length = 1 := by simp [encodeChar, hc]
    have ih := ih hcs
    simp only [encode, List.flatMap_cons, List.length_cons, List.length_append] at ih ⊢
    omega

@[simp] theorem toString?_ofString (s : String) : toString? (ofString s) = some s := by
  simp [toString?, ofString]

end Exchange.Utf8
