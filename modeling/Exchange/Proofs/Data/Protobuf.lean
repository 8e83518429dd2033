-- SUMMARY: The protobuf message of a value reads back as the value carried.
import Exchange.Data.Protobuf.Value
import Exchange.Proofs.Data.Carried
import Exchange.Proofs.Data.Utf8

/-!
# Protobuf messages read back

Varints, keys and blocks are read off the front of a byte string. What a
message of a value merges into follows one lemma a field; values, items,
members and entries are then read together, by induction on the supply of
steps, which the number of bytes bounds. The bytes of a value must be fewer
than `2 ^ 64`, and its depth within `Value.messageDepth`.
-/

namespace Exchange

@[simp] theorem Value.ofInt_val (n : Integer) : Value.ofInt n.val = .number (.int n) :=
  dif_pos n.bounded

theorem Value.itemsDepth_pos (items : List Value) : 1 ≤ messageDepth.itemsDepth items := by
  cases items with
  | nil => exact Nat.le_refl 1
  | cons v items =>
    rw [messageDepth.itemsDepth]
    omega

theorem Value.membersDepth_pos (members : List (String × Value)) :
    1 ≤ messageDepth.membersDepth members := by
  cases members with
  | nil => exact Nat.le_refl 1
  | cons m members =>
    rw [messageDepth.membersDepth]
    omega

namespace Protobuf

/-! ## Varints -/

theorem readDigits128_digits128 (fuel : Nat) {n : Nat} (h : n < 128 ^ (fuel + 1)) (rest : Bytes) :
    readDigits128 (fuel + 1) (digits128 (fuel + 1) n ++ rest) = some (n, rest) := by
  induction fuel generalizing n with
  | zero =>
    have hlt : n < 128 := by simpa using h
    have hb : (UInt8.ofNat n).toNat = n := by
      rw [UInt8.toNat_ofNat']
      omega
    rw [digits128, if_pos hlt, List.singleton_append, readDigits128, hb, if_pos hlt]
  | succ fuel ih =>
    rw [digits128]
    split
    · rename_i hlt
      have hb : (UInt8.ofNat n).toNat = n := by
        rw [UInt8.toNat_ofNat']
        omega
      rw [List.singleton_append, readDigits128, hb, if_pos hlt]
    · have hb : (UInt8.ofNat (128 + n % 128)).toNat = 128 + n % 128 := by
        rw [UInt8.toNat_ofNat']
        omega
      have hn : 128 + n % 128 - 128 + 128 * (n / 128) = n := by omega
      have hq : n / 128 < 128 ^ (fuel + 1) := Nat.div_lt_of_lt_mul (by rwa [Nat.pow_succ'] at h)
      rw [List.cons_append, readDigits128, hb, if_neg (by omega), ih hq]
      simp only [Option.bind_eq_bind, Option.bind_some, hn]

theorem readVarint_varint {n : Nat} (h : n < 2 ^ 64) (rest : Bytes) :
    readVarint (varint n ++ rest) = some (n, rest) := by
  rw [readVarint, varint, readDigits128_digits128 9 (Nat.lt_trans h (by decide))]
  simp only [Option.bind_eq_bind, Option.bind_some, if_pos h]

theorem varint_length_pos (n : Nat) : 0 < (varint n).length := by
  unfold varint digits128
  split
  · exact Nat.one_pos
  · exact Nat.succ_pos _

@[simp] theorem unzigzag_zigzag (n : Int) : unzigzag (zigzag n) = n := by
  unfold unzigzag zigzag
  split
  · split
    · omega
    · omega
  · split
    · omega
    · omega

/-! ## Keys and blocks -/

theorem readKey_key (number : Nat) (wire : WireType) (h0 : 0 < number) (h : number < 2 ^ 28)
    (rest : Bytes) : readKey (key number wire ++ rest) = some (number, wire, rest) := by
  have hwire : wire.toNat < 8 ∧ WireType.ofNat? wire.toNat = some wire := by
    cases wire <;> decide
  have hd : (8 * number + wire.toNat) / 8 = number := by omega
  have hm : (8 * number + wire.toNat) % 8 = wire.toNat := by omega
  rw [readKey, key, readVarint_varint (by omega)]
  simp only [Option.bind_eq_bind, Option.bind_some, hd, hm, hwire.2]
  rw [if_neg (by omega)]

theorem key_length_pos (number : Nat) (wire : WireType) : 0 < (key number wire).length :=
  varint_length_pos _

theorem readBlock_varint (body : Bytes) (h : body.length < 2 ^ 64) (rest : Bytes) :
    readBlock (varint body.length ++ (body ++ rest)) = some (body, rest) := by
  rw [readBlock, readVarint_varint h]
  simp [splitAt?]

theorem block_append (number : Nat) (body rest : Bytes) :
    block number body ++ rest = key number .length ++ (varint body.length ++ (body ++ rest)) := by
  simp only [block, List.append_assoc]

theorem length_block (number : Nat) (body : Bytes) :
    body.length + 2 ≤ (block number body).length := by
  have := key_length_pos number .length
  have := varint_length_pos body.length
  simp only [block, List.length_append]
  omega

theorem key_append_ne_nil (number : Nat) (wire : WireType) (rest : Bytes) :
    key number wire ++ rest ≠ [] :=
  List.append_ne_nil_of_left_ne_nil (List.length_pos_iff.1 (key_length_pos number wire)) _

/-! ## The fields of a value -/

theorem readNothing_nil (fuel depth : Nat) : readNothing fuel depth [] = some () := by
  cases fuel <;> rfl

@[simp] theorem mergeValue_nil (fuel depth : Nat) (sofar : Value) :
    mergeValue fuel depth sofar [] = some sofar := by
  rw [mergeValue]

@[simp] theorem mergeItems_nil (fuel depth : Nat) : mergeItems fuel depth [] = some [] := by
  rw [mergeItems]

@[simp] theorem mergeMembers_nil (fuel depth : Nat) (sofar : List (String × Value)) :
    mergeMembers fuel depth sofar [] = some sofar := by
  rw [mergeMembers]

@[simp] theorem mergeEntry_nil (fuel depth : Nat) (name : String) (sofar : Value) :
    mergeEntry fuel depth name sofar [] = some (name, sofar) := by
  rw [mergeEntry]

section Fields

variable {fuel depth : Nat} {sofar : Value} {body rest : Bytes}

theorem mergeValue_null :
    mergeValue (fuel + 1) (depth + 1) sofar (block 1 [] ++ rest) =
      mergeValue fuel (depth + 1) .null rest := by
  rw [block_append, mergeValue]
  · simp only [readKey_key 1 .length (by decide) (by decide),
      readBlock_varint [] (by decide), readNothing_nil, Option.bind_eq_bind, Option.bind_some]
  · exact key_append_ne_nil _ _ _

theorem mergeValue_bool (b : Bool) :
    mergeValue (fuel + 1) depth sofar (key 2 .varint ++ varint (if b then 1 else 0) ++ rest) =
      mergeValue fuel depth (.bool b) rest := by
  rw [List.append_assoc, mergeValue]
  · cases b with
    | true =>
      simp only [readKey_key 2 .varint (by decide) (by decide), if_true,
        readVarint_varint (n := 1) (by decide), Option.bind_eq_bind, Option.bind_some]
      rfl
    | false =>
      simp only [readKey_key 2 .varint (by decide) (by decide), Bool.false_eq_true, if_false,
        readVarint_varint (n := 0) (by decide), Option.bind_eq_bind, Option.bind_some]
      rfl
  · exact key_append_ne_nil _ _ _

theorem mergeValue_number (n : Number) :
    mergeValue (fuel + 1) depth sofar (writeNumber n ++ rest) =
      mergeValue fuel depth (.number n) rest := by
  cases n with
  | int n =>
    have hbound := n.bounded
    rw [writeNumber]
    split
    · rename_i h
      have hn : ((n.val.toNat : Nat) : Int) = n.val := Int.toNat_of_nonneg h
      rw [List.append_assoc, mergeValue]
      · simp only [readKey_key 4 .varint (by decide) (by decide),
          readVarint_varint (n := n.val.toNat) (by omega), Option.bind_eq_bind, Option.bind_some,
          unsigned, hn, Value.ofInt_val]
      · exact key_append_ne_nil _ _ _
    · rename_i h
      have hz : zigzag n.val < 2 ^ 64 := by
        unfold zigzag
        rw [if_neg h]
        omega
      rw [List.append_assoc, mergeValue]
      · simp only [readKey_key 3 .varint (by decide) (by decide), readVarint_varint hz,
          Option.bind_eq_bind, Option.bind_some, unzigzag_zigzag, Value.ofInt_val]
      · exact key_append_ne_nil _ _ _
  | double x =>
    have hsplit : splitAt? 8 (x.toBytesLE ++ rest) = some (x.toBytesLE, rest) := by
      have hlen : x.toBytesLE.length = 8 := Bytes.length_ofNatLE 8 _
      simp [splitAt?, hlen]
    have hvalue : doubleValue x.toBytesLE = .number (.double x) := by
      rw [doubleValue, Double.toBytesLE, Bytes.toNatLE_ofNatLE 8 _ x.bits_lt, Double.ofBits?_bits]
    rw [writeNumber, List.append_assoc, mergeValue]
    · simp only [readKey_key 5 .fixed64 (by decide) (by decide), hsplit, hvalue,
        Option.bind_eq_bind, Option.bind_some]
    · exact key_append_ne_nil _ _ _

theorem mergeValue_text (s : String) (h : (Utf8.ofString s).length < 2 ^ 64) :
    mergeValue (fuel + 1) depth sofar (block 6 (Utf8.ofString s) ++ rest) =
      mergeValue fuel depth (.text s) rest := by
  rw [block_append, mergeValue]
  · simp only [readKey_key 6 .length (by decide) (by decide), readBlock_varint _ h,
      Utf8.toString?_ofString, Option.bind_eq_bind, Option.bind_some]
  · exact key_append_ne_nil _ _ _

theorem mergeValue_list (h : body.length < 2 ^ 64) :
    mergeValue (fuel + 1) (depth + 1) sofar (block 7 body ++ rest) =
      (mergeItems fuel depth body).bind fun items =>
        mergeValue fuel (depth + 1) (.list (itemsSoFar sofar ++ items)) rest := by
  rw [block_append, mergeValue]
  · simp only [readKey_key 7 .length (by decide) (by decide), readBlock_varint _ h,
      Option.bind_eq_bind, Option.bind_some]
  · exact key_append_ne_nil _ _ _

theorem mergeValue_object (h : body.length < 2 ^ 64) :
    mergeValue (fuel + 1) (depth + 1) sofar (block 8 body ++ rest) =
      (mergeMembers fuel depth (membersSoFar sofar) body).bind fun members =>
        mergeValue fuel (depth + 1) (.object members) rest := by
  rw [block_append, mergeValue]
  · simp only [readKey_key 8 .length (by decide) (by decide), readBlock_varint _ h,
      Option.bind_eq_bind, Option.bind_some]
  · exact key_append_ne_nil _ _ _

theorem mergeItems_block (h : body.length < 2 ^ 64) :
    mergeItems (fuel + 1) (depth + 1) (block 1 body ++ rest) =
      (mergeValue fuel depth .null body).bind fun v =>
        (mergeItems fuel (depth + 1) rest).bind fun items => some (v :: items) := by
  rw [block_append, mergeItems]
  · simp only [readKey_key 1 .length (by decide) (by decide), readBlock_varint _ h,
      Option.bind_eq_bind, Option.bind_some]
  · exact key_append_ne_nil _ _ _

theorem mergeMembers_block {members : List (String × Value)} (h : body.length < 2 ^ 64) :
    mergeMembers (fuel + 1) (depth + 1) members (block 1 body ++ rest) =
      (mergeEntry fuel depth "" .null body).bind fun m =>
        mergeMembers fuel (depth + 1) (Members.insert m.1 m.2 members) rest := by
  rw [block_append, mergeMembers]
  · simp only [readKey_key 1 .length (by decide) (by decide), readBlock_varint _ h,
      Option.bind_eq_bind, Option.bind_some]
  · exact key_append_ne_nil _ _ _

theorem mergeEntry_key {name : String} (k : String) (h : (Utf8.ofString k).length < 2 ^ 64) :
    mergeEntry (fuel + 1) depth name sofar (block 1 (Utf8.ofString k) ++ rest) =
      mergeEntry fuel depth k sofar rest := by
  rw [block_append, mergeEntry]
  · simp only [readKey_key 1 .length (by decide) (by decide), readBlock_varint _ h,
      Utf8.toString?_ofString, Option.bind_eq_bind, Option.bind_some]
  · exact key_append_ne_nil _ _ _

theorem mergeEntry_value {name : String} (h : body.length < 2 ^ 64) :
    mergeEntry (fuel + 1) (depth + 1) name sofar (block 2 body ++ rest) =
      (mergeValue fuel depth sofar body).bind fun v => mergeEntry fuel (depth + 1) name v rest := by
  rw [block_append, mergeEntry]
  · simp only [readKey_key 2 .length (by decide) (by decide), readBlock_varint _ h,
      Option.bind_eq_bind, Option.bind_some]
  · exact key_append_ne_nil _ _ _

end Fields

/-! ## Values -/

/-- The key of an entry takes at most one step; the empty one is not written. -/
theorem mergeEntry_keyField (fuel depth : Nat) (k : String) (body : Bytes)
    (hf : (keyField k).length < fuel) (hlen : (keyField k).length < 2 ^ 64) :
    ∃ fuel', fuel ≤ fuel' + (keyField k).length ∧ fuel' ≤ fuel ∧
      mergeEntry fuel depth "" .null (keyField k ++ body) = mergeEntry fuel' depth k .null body := by
  unfold keyField at *
  split
  · rename_i hk
    have hk : k = "" := by simpa using hk
    exact ⟨fuel, Nat.le_refl _, Nat.le_refl _, by rw [hk]; rfl⟩
  · rename_i hk
    rw [if_neg hk] at hf hlen
    have hblock := length_block 1 (Utf8.ofString k)
    cases fuel with
    | zero => exact absurd hf (Nat.not_lt_zero _)
    | succ fuel => exact ⟨fuel, by omega, Nat.le_succ _, mergeEntry_key k (by omega)⟩

theorem write_length_pos (v : Value) : 0 < (write v).length := by
  have hblock (number : Nat) (body : Bytes) : 0 < (block number body).length :=
    Nat.lt_of_lt_of_le (Nat.succ_pos _) (length_block number body)
  have hkey (number : Nat) (wire : WireType) (body : Bytes) : 0 < (key number wire ++ body).length :=
    List.length_pos_iff.2 (key_append_ne_nil number wire body)
  cases v with
  | null | text | list | object => exact hblock _ _
  | bool b => exact hkey _ _ _
  | number n =>
    cases n with
    | int n =>
      rw [write, writeNumber]
      split
      · exact hkey _ _ _
      · exact hkey _ _ _
    | double x => exact hkey _ _ _

mutual

theorem mergeValue_write (v : Value) {fuel depth : Nat} (hf : (write v).length ≤ fuel)
    (hd : v.messageDepth ≤ depth) (hlen : (write v).length < 2 ^ 64) :
    mergeValue fuel depth .null (write v) = some (v.carried id) := by
  have hpos := write_length_pos v
  cases fuel with
  | zero => exact absurd hf (Nat.not_le_of_lt hpos)
  | succ fuel =>
    rw [← List.append_nil (write v)]
    match v with
    | .null =>
      obtain ⟨depth, rfl⟩ := Nat.exists_eq_add_of_le' hd
      exact mergeValue_null.trans (mergeValue_nil _ _ _)
    | .bool b => exact (mergeValue_bool b).trans (mergeValue_nil _ _ _)
    | .number n => exact (mergeValue_number n).trans (mergeValue_nil _ _ _)
    | .text s =>
      have hblock := length_block 6 (Utf8.ofString s)
      rw [write] at hlen
      exact (mergeValue_text s (by omega)).trans (mergeValue_nil _ _ _)
    | .list items =>
      have hblock := length_block 7 (writeItems items)
      rw [write] at hlen hf
      rw [Value.messageDepth] at hd
      obtain ⟨depth, rfl⟩ := Nat.exists_eq_add_of_le'
        (Nat.le_trans (Value.itemsDepth_pos items) hd)
      rw [write, mergeValue_list (by omega), mergeItems_write items (by omega) hd (by omega)]
      exact mergeValue_nil _ _ _
    | .object members =>
      have hblock := length_block 8 (writeMembers members)
      rw [write] at hlen hf
      rw [Value.messageDepth] at hd
      obtain ⟨depth, rfl⟩ := Nat.exists_eq_add_of_le'
        (Nat.le_trans (Value.membersDepth_pos members) hd)
      rw [write, mergeValue_object (by omega), mergeMembers_write members _ (by omega) hd (by omega)]
      exact mergeValue_nil _ _ _
termination_by fuel

theorem mergeItems_write (items : List Value) {fuel depth : Nat}
    (hf : (writeItems items).length ≤ fuel) (hd : Value.messageDepth.itemsDepth items ≤ depth + 1)
    (hlen : (writeItems items).length < 2 ^ 64) :
    mergeItems fuel depth (writeItems items) = some (Value.carried.carriedItems id items) := by
  match items with
  | [] => exact mergeItems_nil fuel depth
  | v :: items =>
    have hblock := length_block 1 (write v)
    simp only [writeItems, List.length_append] at hf hlen
    obtain ⟨hv, hitems⟩ := Nat.max_le.1 hd
    obtain ⟨depth, rfl⟩ := Nat.exists_eq_add_of_le' (show 1 ≤ depth by omega)
    cases fuel with
    | zero => omega
    | succ fuel =>
      rw [writeItems, mergeItems_block (by omega),
        mergeValue_write v (by omega) (by omega) (by omega),
        Option.bind_some, mergeItems_write items (by omega) hitems (by omega)]
      rfl
termination_by fuel

theorem mergeMembers_write (members sofar : List (String × Value)) {fuel depth : Nat}
    (hf : (writeMembers members).length ≤ fuel)
    (hd : Value.messageDepth.membersDepth members ≤ depth + 1)
    (hlen : (writeMembers members).length < 2 ^ 64) :
    mergeMembers fuel depth sofar (writeMembers members) =
      some ((Value.carried.carriedMembers id members).foldl
        (fun sorted m => Members.insert m.1 m.2 sorted) sofar) := by
  match members with
  | [] => exact mergeMembers_nil fuel depth sofar
  | (k, v) :: members =>
    have hblock := length_block 1 (keyField k ++ block 2 (write v))
    have hvalue := length_block 2 (write v)
    simp only [writeMembers, List.length_append] at hf hlen hblock
    obtain ⟨hv, hmembers⟩ := Nat.max_le.1 hd
    obtain ⟨depth, rfl⟩ := Nat.exists_eq_add_of_le' (show 2 ≤ depth by omega)
    cases fuel with
    | zero => omega
    | succ fuel =>
      obtain ⟨fuel', hle, hle', hkey⟩ := mergeEntry_keyField fuel (depth + 1) k
        (block 2 (write v)) (by omega) (by omega)
      cases fuel' with
      | zero => omega
      | succ fuel' =>
        have hentry : mergeEntry (fuel' + 1) (depth + 1) k .null (block 2 (write v)) =
            some (k, v.carried id) := by
          rw [← List.append_nil (block 2 (write v)), mergeEntry_value (by omega),
            mergeValue_write v (by omega) (by omega) (by omega), Option.bind_some, mergeEntry_nil]
        rw [writeMembers, mergeMembers_block (by simp only [List.length_append]; omega), hkey, hentry,
          Option.bind_some, mergeMembers_write members _ (by omega) hmembers (by omega)]
        rfl
termination_by fuel

end

/-- The message of a value is read as the value carried. -/
theorem read?_write {v : Value} (hd : v.messageDepth ≤ maxDepth) (hlen : (write v).length < 2 ^ 64) :
    read? (write v) = some (v.carried id) :=
  mergeValue_write v (Nat.le_succ _) hd hlen

end Protobuf

end Exchange
