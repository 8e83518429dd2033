-- SUMMARY: Payloads that are written and read once: the value that comes back, and when none does.
import Exchange.Envelope.Encoding
import Exchange.Proofs.Data.Depth

/-!
# Payloads read back

Either encoding gives a value back as `Value.carried` says, up to a nesting of
its own, and refuses it past that (`Codec.decodeValue_encodeValue`). Binary keeps
every number, so what it gives back is the value itself
(`Codec.binary_lossless`). Text respells doubles.

Binary writes a length in 64 bits, so its payloads are taken to be shorter than
`2 ^ 64` bytes.
-/

namespace Exchange

/-! ## Encodings -/

namespace Encoding

/-- What an encoding makes of a number. -/
def rounded : Encoding → Number → Number
  | .text => Json.respelled
  | .binary => id

/-- The nesting with which an encoding can be read. -/
def Admits : Encoding → Value → Prop
  | .text, v => v.nesting ≤ Json.maxDepth
  | .binary, v => v.messageDepth ≤ Protobuf.maxDepth

instance (encoding : Encoding) (v : Value) : Decidable (encoding.Admits v) :=
  match encoding with
  | .text => inferInstanceAs (Decidable (v.nesting ≤ Json.maxDepth))
  | .binary => inferInstanceAs (Decidable (v.messageDepth ≤ Protobuf.maxDepth))

@[simp] theorem rounded_int (encoding : Encoding) (n : Integer) :
    encoding.rounded (.int n) = .int n := by
  cases encoding with
  | text => exact Json.respelled_int n
  | binary => rfl

/-- The object that is written for members: in text as they stand, in binary in the order of keys. -/
def written : Encoding → List (String × Value) → Value
  | .text, members => .object members
  | .binary, members => .ofMembers members

end Encoding

/-- What a payload is refused as when it cannot be read. -/
def Codec.Error.unread : Encoding → Codec.Error
  | .text => .text
  | .binary => .binary

theorem Value.carried_id {v : Value} (h : v.Ordered) : v.carried id = v :=
  (carried_eq_self_iff h).2 fun _ _ => rfl

/-! ## Depth -/

namespace Value

/-- The largest of some depths. -/
def deepest (depths : List Nat) : Nat :=
  depths.foldr max 0

theorem itemsDepth_cons (v : Value) (items : List Value) :
    messageDepth.itemsDepth (v :: items) = 2 + deepest ((v :: items).map messageDepth) := by
  induction items generalizing v with
  | nil =>
    simp only [messageDepth.itemsDepth, List.map_cons, List.map_nil, deepest, List.foldr]
    omega
  | cons w items ih =>
    rw [messageDepth.itemsDepth, ih w]
    simp only [List.map_cons, deepest, List.foldr_cons]
    omega

theorem membersDepth_cons (m : String × Value) (members : List (String × Value)) :
    messageDepth.membersDepth (m :: members) =
      3 + deepest ((m :: members).map fun m => m.2.messageDepth) := by
  induction members generalizing m with
  | nil =>
    simp only [messageDepth.membersDepth, List.map_cons, List.map_nil, deepest, List.foldr]
    omega
  | cons n members ih =>
    rw [messageDepth.membersDepth, ih n]
    simp only [List.map_cons, deepest, List.foldr_cons]
    omega

/-- A list adds two messages around its deepest item, and an object three around its deepest member. -/
theorem messageDepth_eq (v : Value) : v.messageDepth =
    match v with
    | .bool _ | .number _ | .text _ => 0
    | .null | .list [] | .object [] => 1
    | .list items => 2 + deepest (items.map messageDepth)
    | .object members => 3 + deepest (members.map fun m => m.2.messageDepth) := by
  match v with
  | .null | .bool _ | .number _ | .text _ | .list [] | .object [] => rfl
  | .list (v :: items) => exact itemsDepth_cons v items
  | .object (m :: members) => exact membersDepth_cons m members

theorem membersDepth_le {members : List (String × Value)} {depth : Nat} :
    messageDepth.membersDepth members ≤ depth ↔
      1 ≤ depth ∧ ∀ m ∈ members, 3 + m.2.messageDepth ≤ depth := by
  induction members with
  | nil => simp [messageDepth.membersDepth]
  | cons m rest ih =>
    rw [messageDepth.membersDepth, Nat.max_le, ih, List.forall_mem_cons]
    constructor
    · rintro ⟨h, h1, hrest⟩
      exact ⟨h1, h, hrest⟩
    · rintro ⟨h1, h, hrest⟩
      exact ⟨h, h1, hrest⟩

/-- The order of keys costs no depth. -/
theorem messageDepth_ofMembers_le (members : List (String × Value)) :
    (ofMembers members).messageDepth ≤ (object members).messageDepth := by
  rw [ofMembers, messageDepth, messageDepth]
  obtain ⟨h1, h⟩ := membersDepth_le.1 (Nat.le_refl (messageDepth.membersDepth members))
  exact membersDepth_le.2 ⟨h1, fun m hm => h m (Members.mem_ofList hm)⟩

end Value

/-! ## Values -/

namespace Codec

theorem decodeValue_text (v : Value) :
    decodeValue ⟨.text, encodeValue v .text⟩ =
      if v.nesting ≤ Json.maxDepth then .ok (v.carried Json.respelled) else .error .text := by
  split
  · rename_i hnest
    simp only [decodeValue, encodeValue, Json.ofBytes?_encode_print hnest]
  · rename_i hdeep
    have hread : Json.ofBytes? (Utf8.encode (Json.print v)) = none := by
      simpa using mt (Json.ofBytes?_encode_print_isSome v).1 hdeep
    simp only [decodeValue, encodeValue, hread]

theorem decodeValue_binary {v : Value} (hlen : (encodeValue v .binary).length < 2 ^ 64) :
    decodeValue ⟨.binary, encodeValue v .binary⟩ =
      if v.messageDepth ≤ Protobuf.maxDepth then .ok (v.carried id) else .error .binary := by
  split
  · rename_i hdepth
    simp only [decodeValue, encodeValue, Protobuf.read?_write hdepth hlen]
  · rename_i hdeep
    have hread : Protobuf.read? (Protobuf.write v) = none := by
      simpa using mt (Protobuf.read?_write_isSome hlen).1 hdeep
    simp only [decodeValue, encodeValue, hread]

/-- A value comes back as the value carried if its nesting is admitted, and is refused if not. -/
theorem decodeValue_encodeValue {v : Value} {encoding : Encoding}
    (hlen : (encodeValue v encoding).length < 2 ^ 64) :
    decodeValue ⟨encoding, encodeValue v encoding⟩ =
      if encoding.Admits v then .ok (v.carried encoding.rounded) else .error (.unread encoding) := by
  cases encoding with
  | text => exact decodeValue_text v
  | binary => exact decodeValue_binary hlen

/-- A value that is nested just as deep as a message can be read comes back from the binary encoding as it
was, and one that is deeper is refused. -/
theorem binary_lossless {v : Value} (hordered : v.Ordered)
    (hlen : (encodeValue v .binary).length < 2 ^ 64) :
    decodeValue ⟨.binary, encodeValue v .binary⟩ =
        (if v.messageDepth ≤ Protobuf.maxDepth then .ok v else .error .binary) ∧
      v.messageDepth =
        match v with
        | .bool _ | .number _ | .text _ => 0
        | .null | .list [] | .object [] => 1
        | .list items => 2 + Value.deepest (items.map Value.messageDepth)
        | .object members => 3 + Value.deepest (members.map fun m => m.2.messageDepth) := by
  have hread := decodeValue_binary hlen
  rw [Value.carried_id hordered] at hread
  exact ⟨hread, v.messageDepth_eq⟩

/-- A null inside lists, `n` of them around one another. -/
def listed : Nat → Value
  | 0 => .null
  | n + 1 => .list [listed n]

theorem ordered_listed (n : Nat) : (listed n).Ordered := by
  induction n with
  | zero => exact .null
  | succ n ih => exact .list (List.forall_mem_singleton.2 ih)

theorem messageDepth_listed (n : Nat) : (listed n).messageDepth = 2 * n + 1 := by
  induction n with
  | zero => rfl
  | succ n ih =>
    simp only [listed, Value.messageDepth, Value.messageDepth.itemsDepth, ih]
    omega

/-- A null inside forty-nine lists comes back, and inside fifty it does not. -/
theorem fifty_lists_refused :
    decodeValue ⟨.binary, encodeValue (listed 49) .binary⟩ = .ok (listed 49) ∧
      decodeValue ⟨.binary, encodeValue (listed 50) .binary⟩ = .error .binary := by
  have h49 := (binary_lossless (ordered_listed 49) (by decide +kernel)).1
  have h50 := (binary_lossless (ordered_listed 50) (by decide +kernel)).1
  rw [messageDepth_listed, if_pos (by decide)] at h49
  rw [messageDepth_listed, if_neg (by decide)] at h50
  exact ⟨h49, h50⟩

/-! ## Members -/

theorem encodeMembers_eq (members : List (String × Value)) (encoding : Encoding) :
    encodeMembers members encoding = encodeValue (encoding.written members) encoding := by
  cases encoding <;> rfl

theorem carried_written (encoding : Encoding) (members : List (String × Value)) (f : Number → Number) :
    (encoding.written members).carried f =
      .object ((Members.ofList members).map fun m => (m.1, m.2.carried f)) := by
  cases encoding with
  | text => rw [Encoding.written, Value.carried_object, Members.ofList_map]
  | binary =>
    have hsorted := (Members.sorted_ofList members).map (Value.carried f)
    rw [Encoding.written, Value.ofMembers, Value.carried_object, Members.ofList_of_sorted hsorted]

theorem admits_written {encoding : Encoding} {members : List (String × Value)}
    (h : encoding.Admits (.object members)) : encoding.Admits (encoding.written members) := by
  cases encoding with
  | text => exact h
  | binary => exact Nat.le_trans (Value.messageDepth_ofMembers_le members) h

section Members

variable {members : List (String × Value)} {encoding : Encoding}

theorem decodeValue_encodeMembers (h : encoding.Admits (.object members))
    (hlen : (encodeMembers members encoding).length < 2 ^ 64) :
    decodeValue ⟨encoding, encodeMembers members encoding⟩ =
      .ok (.object ((Members.ofList members).map fun m => (m.1, m.2.carried encoding.rounded))) := by
  rw [encodeMembers_eq] at hlen ⊢
  rw [decodeValue_encodeValue hlen, if_pos (admits_written h), carried_written]

theorem decodeValue_encodeMembers_of_deep (hdeep : ¬encoding.Admits (encoding.written members))
    (hlen : (encodeMembers members encoding).length < 2 ^ 64) :
    decodeValue ⟨encoding, encodeMembers members encoding⟩ = .error (.unread encoding) := by
  rw [encodeMembers_eq] at hlen ⊢
  rw [decodeValue_encodeValue hlen, if_neg hdeep]

end Members

end Codec

end Exchange
