-- SUMMARY: Response frames and requests that are written and read once: what comes back, and when it does.
import Exchange.Envelope.Reply
import Exchange.Envelope.Request
import Exchange.Proofs.Codec
import Exchange.Proofs.Status

/-!
# Envelopes read back

`Reply.carried` is what one writing and one reading make of a response frame: a
status of zero and a null message are gone, values are as the encoding carries
them, and extra members are in order. `Reply.decode_encode` needs no more than
that no extra member bears a key of the frame's own and that the nesting is
admitted. A request loses null data (`Request.Envelope.decode_encode`).
-/

namespace Exchange

/-- A null counts as absent. -/
def Value.unlessNull : Option Value → Option Value
  | none | some .null => none
  | some v => some v

namespace Codec

/-! ## Fields -/

theorem get?_field (key k : String) (v : Option Value) :
    Members.get? key (field k v) = if k = key then v else none := by
  cases v with
  | none => simp [field]
  | some v => simp [field, Members.get?_cons]

section Carried

variable {key : String} {members : List (String × Value)} {f : Number → Number}

/-- A text that was written under a key is read. -/
theorem textField?_of_carried {s : Option String}
    (h : Members.get? key members = (s.map Value.text).map (Value.carried f)) :
    textField? key members = some s := by
  cases s with
  | none => simp [textField?, h]
  | some s => simp [textField?, h]

/-- A name that was written under a key is read, if it is known. -/
theorem nameField?_of_carried {α : Type} {read : String → Option α} {name : α → String}
    (hread : ∀ a, read (name a) = some a) {a : Option α}
    (h : Members.get? key members = (a.map fun a => Value.text (name a)).map (Value.carried f)) :
    nameField? read key members = some a := by
  cases a with
  | none => simp [nameField?, h]
  | some a => simp [nameField?, h, nameOf?, hread]

end Carried

theorem mem_flatMap_field {f : String → Option Value} {keys : List String} {m : String × Value} :
    m ∈ keys.flatMap (fun key => field key (f key)) ↔ m.1 ∈ keys ∧ f m.1 = some m.2 := by
  have hfield (key : String) : m ∈ field key (f key) ↔ m.1 = key ∧ f key = some m.2 := by
    cases hv : f key with
    | none => simp [field]
    | some v => simp [field, Prod.ext_iff, eq_comm]
  simp only [List.mem_flatMap, hfield]
  constructor
  · rintro ⟨key, hkey, rfl, hv⟩
    exact ⟨hkey, hv⟩
  · rintro ⟨hkey, hv⟩
    exact ⟨m.1, hkey, rfl, hv⟩

theorem get?_flatMap_field (f : String → Option Value) (keys : List String) (key : String) :
    Members.get? key (keys.flatMap fun k => field k (f k)).reverse =
      if key ∈ keys then f key else none := by
  induction keys with
  | nil => rfl
  | cons k keys ih =>
    have hfield : (field k (f k)).reverse = field k (f k) := by
      cases f k <;> rfl
    rw [List.flatMap_cons, List.reverse_append, Members.get?_append, hfield, get?_field, ih]
    by_cases hkey : k = key
    · subst hkey
      by_cases hmem : k ∈ keys
      · simp [hmem]
      · simp [hmem]
    · by_cases hmem : key ∈ keys
      · simp [hmem, hkey]
      · simp [hmem, hkey, Ne.symm hkey]

end Codec

/-! ## Replies -/

namespace Reply

/-- What a frame writes under a key of its own. -/
def owned? (r : Reply) : String → Option Value
  | "id" => r.id.map fun id => .text id.text
  | "status" => r.status.map fun s => .ofNat s.toNat
  | "statusCode" => r.statusCode.map .text
  | "message" => r.message
  | "type" => r.kind.map fun k => .text k.name
  | "fin" => if r.fin then some (.bool true) else none
  | "sid" => r.sid.map fun sid => .text sid.text
  | "topic" => r.topic.map .text
  | _ => none

theorem toMembers_eq (r : Reply) :
    r.toMembers = reserved.flatMap (fun key => Codec.field key (r.owned? key)) ++ r.extra := by
  cases hfin : r.fin with
  | true => simp [toMembers, reserved, owned?, hfin, Codec.textField, Codec.field, Function.comp_def]
  | false => simp [toMembers, reserved, owned?, hfin, Codec.textField, Codec.field, Function.comp_def]

theorem mem_toMembers {r : Reply} {m : String × Value} :
    m ∈ r.toMembers ↔ m.1 ∈ reserved ∧ r.owned? m.1 = some m.2 ∨ m ∈ r.extra := by
  rw [toMembers_eq, List.mem_append, Codec.mem_flatMap_field]

/-- No extra member bears a key of the frame's own. -/
def ExtraFree (r : Reply) : Prop :=
  ∀ m ∈ r.extra, isReserved m.1 = false

/-- An extra member stands before what the frame itself says under a key. -/
theorem get?_toMembers (r : Reply) (key : String) :
    Members.get? key (Members.ofList r.toMembers) =
      (Members.get? key r.extra.reverse).or (if key ∈ reserved then r.owned? key else none) := by
  rw [Members.get?_ofList_reverse, toMembers_eq, List.reverse_append, Members.get?_append,
    Codec.get?_flatMap_field]

theorem get?_ofList_toMembers {r : Reply} (h : r.ExtraFree) {key : String} (hk : key ∈ reserved) :
    Members.get? key (Members.ofList r.toMembers) = r.owned? key := by
  have hextra : Members.get? key r.extra.reverse = none := by
    refine Members.get?_eq_none_iff.2 fun hmem => ?_
    obtain ⟨m, hm, rfl⟩ := List.mem_map.1 hmem
    have hfree := h m (List.mem_reverse.1 hm)
    rw [isReserved, List.contains_iff_mem.2 hk] at hfree
    cases hfree
  rw [get?_toMembers, hextra, Option.none_or, if_pos hk]

theorem filter_ofList_toMembers {r : Reply} (h : r.ExtraFree) :
    (Members.ofList r.toMembers).filter (fun m => !isReserved m.1) = Members.ofList r.extra := by
  have hnamed : (reserved.flatMap fun key => Codec.field key (r.owned? key)).filter
      (fun m => !isReserved m.1) = [] := by
    refine List.filter_eq_nil_iff.2 fun m hm => ?_
    obtain ⟨hkey, -⟩ := Codec.mem_flatMap_field.1 hm
    rw [isReserved, List.contains_iff_mem.2 hkey]
    decide
  have hextra : r.extra.filter (fun m => !isReserved m.1) = r.extra :=
    List.filter_eq_self.2 fun m hm => by rw [h m hm]; rfl
  rw [Members.filter_ofList fun key => !isReserved key, toMembers_eq, List.filter_append, hnamed, hextra,
    List.nil_append]

/-- What one writing and one reading make of a frame. -/
def carried (encoding : Encoding) (r : Reply) : Reply :=
  { r with
    status := r.status.filter fun s => s.code ≠ 0
    message := Value.unlessNull (r.message.map (Value.carried encoding.rounded))
    extra := Members.ofList (r.extra.map fun m => (m.1, m.2.carried encoding.rounded)) }

/-- A status of zero reads as none, which counts as 500. -/
theorem effectiveStatus_carried (encoding : Encoding) (r : Reply) :
    (r.carried encoding).effectiveStatus =
      if r.effectiveStatus.code = 0 then .internalError else r.effectiveStatus := by
  unfold effectiveStatus carried
  cases r.status with
  | none => rfl
  | some s =>
    rw [Option.filter_some]
    by_cases h : s.code = 0
    · simp [Status.orInternal, h]
    · simp [Status.orInternal, h]

/-- A status is written as an integer. -/
theorem exists_ofNat_toNat (s : Status) :
    ∃ n : Integer, n.val = s.toNat ∧ Value.ofNat s.toNat = .number (.int n) := by
  have hlt : s.toNat < 65536 := s.code.toNat_lt
  have hbound : -2 ^ 63 ≤ (s.toNat : Int) ∧ (s.toNat : Int) < 2 ^ 64 := by omega
  exact ⟨⟨s.toNat, hbound⟩, rfl, Value.ofInt_val ⟨s.toNat, hbound⟩⟩

/-- Nothing that a frame writes for itself is nested, except its message. -/
theorem owned?_cases {r : Reply} {key : String} {v : Value} (h : r.owned? key = some v) :
    v.nesting = 0 ∨ key = "message" ∧ r.message = some v := by
  unfold owned? at h
  split at h
  case h_2 =>
    obtain ⟨s, -, rfl⟩ := Option.map_eq_some_iff.1 h
    obtain ⟨n, -, hn⟩ := exists_ofNat_toNat s
    rw [hn]
    exact .inl rfl
  case h_4 => exact .inr ⟨rfl, h⟩
  case h_6 =>
    split at h
    · cases h
      exact .inl rfl
    · cases h
  case h_9 => cases h
  all_goals
    obtain ⟨_, -, rfl⟩ := Option.map_eq_some_iff.1 h
    exact .inl rfl

theorem coerce_ofNat (encoding : Encoding) (s : Status) :
    Status.coerce ((Value.ofNat s.toNat).carried encoding.rounded) =
      if s.code ≠ 0 then some s else none := by
  obtain ⟨n, hval, hvalue⟩ := exists_ofNat_toNat s
  rw [hvalue, Value.carried_number, Encoding.rounded_int, Status.coerce_int, hval]
  split
  · rename_i hne
    exact Status.ofInt?_eq_some_iff.2 ⟨rfl, hne⟩
  · rename_i hzero
    have hcode : s.code = 0 := Decidable.not_not.1 hzero
    refine Status.ofInt?_eq_none ?_
    rw [Status.toNat, hcode]
    decide

section Fields

variable {members : List (String × Value)} {encoding : Encoding}

theorem statusOf_of_carried {s : Option Status}
    (h : Members.get? "status" members =
      (s.map fun s => Value.ofNat s.toNat).map (Value.carried encoding.rounded)) :
    statusOf members = s.filter fun s => s.code ≠ 0 := by
  unfold statusOf
  rw [h]
  cases s with
  | none => rfl
  | some s =>
    rw [Option.map_some, Option.map_some, Option.bind_some, coerce_ofNat, Option.filter_some]
    simp

theorem fin?_of_carried {b : Bool}
    (h : Members.get? "fin" members =
      (if b then some (Value.bool true) else none).map (Value.carried encoding.rounded)) :
    fin? members = some b := by
  unfold fin?
  rw [h]
  cases b with
  | false => rfl
  | true => rfl

theorem fields?_carried {r : Reply} (h : r.ExtraFree) (encoding : Encoding) :
    fields? ((Members.ofList r.toMembers).map fun m => (m.1, m.2.carried encoding.rounded)) =
      some (r.carried encoding) := by
  have hget (key : String) (hk : key ∈ reserved) :
      Members.get? key ((Members.ofList r.toMembers).map fun m => (m.1, m.2.carried encoding.rounded)) =
        (r.owned? key).map (Value.carried encoding.rounded) := by
    rw [Members.get?_map, get?_ofList_toMembers h hk]
  have hextra : ((Members.ofList r.toMembers).map fun m => (m.1, m.2.carried encoding.rounded)).filter
      (fun m => !isReserved m.1) = (r.carried encoding).extra := by
    rw [List.filter_map]
    exact (congrArg _ (filter_ofList_toMembers h)).trans (Members.ofList_map _ _).symm
  generalize (Members.ofList r.toMembers).map (fun m => (m.1, m.2.carried encoding.rounded)) = members at *
  have htext {key : String} {s : Option String} (hk : key ∈ reserved) (ho : r.owned? key = s.map .text) :
      Codec.textField? key members = some s :=
    Codec.textField?_of_carried (by rw [hget key hk, ho])
  have hid : Codec.textField? "id" members = some (r.id.map (·.text)) :=
    htext (by decide) (Option.map_map ..).symm
  have hcode : Codec.textField? "statusCode" members = some r.statusCode := htext (by decide) rfl
  have hsid : Codec.textField? "sid" members = some (r.sid.map (·.text)) :=
    htext (by decide) (Option.map_map ..).symm
  have htopic : Codec.textField? "topic" members = some r.topic := htext (by decide) rfl
  have hname (k : Kind) : (some ∘ Kind.ofName) k.name = some k := congrArg some (Kind.ofName_name k)
  have hkind : Codec.nameField? (some ∘ Kind.ofName) "type" members = some r.kind :=
    Codec.nameField?_of_carried hname (hget "type" (by decide))
  have hfin : fin? members = some r.fin := fin?_of_carried (hget "fin" (by decide))
  have hstatus := statusOf_of_carried (hget "status" (by decide))
  have hmessage : messageOf members = Value.unlessNull (r.message.map (Value.carried encoding.rounded)) := by
    unfold messageOf
    rw [hget "message" (by decide)]
    rfl
  unfold fields?
  simp only [hid, hcode, hkind, hfin, hsid, htopic, hstatus, hmessage, hextra, Option.bind_eq_bind,
    Option.bind_some]
  simp only [carried, Option.map_map, Function.comp_def, Option.map_id']

end Fields

/-- The frame can be read back. -/
structure Travels (encoding : Encoding) (r : Reply) : Prop where
  extra : r.ExtraFree
  nesting : encoding.Admits (.object r.toMembers)

instance (encoding : Encoding) (r : Reply) : Decidable (r.Travels encoding) :=
  decidable_of_iff ((∀ m ∈ r.extra, isReserved m.1 = false) ∧ encoding.Admits (.object r.toMembers))
    ⟨fun h => ⟨h.1, h.2⟩, fun h => ⟨h.extra, h.nesting⟩⟩

/-- A frame that was encoded decodes to the frame carried. -/
theorem decode_encode {r : Reply} {encoding : Encoding} (h : r.Travels encoding)
    (hlen : (r.encode encoding).payload.length < 2 ^ 64) :
    decode (r.encode encoding) = .ok (r.carried encoding) := by
  rw [decode, encode, Codec.decodeValue_encodeMembers h.nesting hlen]
  show (ofValue (.object _)).mapError Codec.Error.envelope = _
  rw [ofValue, fields?_carried h.extra encoding]
  rfl

/-! ### Values that are kept -/

/-- The values of a frame have their members in order. -/
structure Ordered (r : Reply) : Prop where
  message : ∀ v, r.message = some v → v.Ordered
  sorted : Members.Sorted r.extra
  extra : ∀ m ∈ r.extra, m.2.Ordered

/-- The numbers that a frame carries. -/
def numbers (r : Reply) : List Number :=
  (r.message.map Value.numbers).getD [] ++ r.extra.flatMap fun m => m.2.numbers

theorem unlessNull_carried_eq_iff {f : Number → Number} {message : Option Value}
    (h : ∀ v, message = some v → v.Ordered) :
    Value.unlessNull (message.map (Value.carried f)) = Value.unlessNull message ↔
      ∀ n ∈ (message.map Value.numbers).getD [], f n = n := by
  cases message with
  | none => simp
  | some v =>
    rw [Option.map_some, Option.map_some, Option.getD_some, ← Value.carried_eq_self_iff (h v rfl)]
    cases v with
    | null => simp
    | bool | number | text | list | object => simp [Value.unlessNull]

/-- The message and the extra members are kept just when the numbers are. -/
theorem values_carried_eq_iff {r : Reply} (h : r.Ordered) {encoding : Encoding} :
    (r.carried encoding).message = Value.unlessNull r.message ∧ (r.carried encoding).extra = r.extra ↔
      ∀ n ∈ r.numbers, encoding.rounded n = n := by
  have hextra : (r.carried encoding).extra = r.extra ↔
      ∀ n ∈ r.extra.flatMap (fun m => m.2.numbers), encoding.rounded n = n := by
    rw [carried, Members.ofList_of_sorted (h.sorted.map _)]
    exact Value.map_carried_members_eq_self fun m hm => Value.carried_eq_self_iff (h.extra m hm)
  rw [numbers, List.forall_mem_append, ← unlessNull_carried_eq_iff h.message, ← hextra]
  rfl

end Reply

/-! ## Requests -/

namespace Request.Envelope

/-- The keys of an envelope, in the order in which they are written. -/
def keys : List String :=
  ["version", "id", "path", "data", "type", "sid", "topic"]

/-- What an envelope writes under a key. -/
def owned? (e : Envelope) : String → Option Value
  | "version" => some (.text e.version)
  | "id" => e.id.map fun id => .text id.text
  | "path" => some (.text e.path)
  | "data" => e.data
  | "type" => e.kind.map fun k => .text k.name
  | "sid" => e.sid.map fun sid => .text sid.text
  | "topic" => e.topic.map .text
  | _ => none

theorem toMembers_eq (e : Envelope) :
    e.toMembers = keys.flatMap fun key => Codec.field key (e.owned? key) := by
  simp [toMembers, keys, owned?, Codec.textField, Codec.field, Function.comp_def]

theorem get?_ofList_toMembers (e : Envelope) {key : String} (hk : key ∈ keys) :
    Members.get? key (Members.ofList e.toMembers) = e.owned? key := by
  rw [Members.get?_ofList_reverse, toMembers_eq, Codec.get?_flatMap_field, if_pos hk]

theorem mem_toMembers {e : Envelope} {m : String × Value} :
    m ∈ e.toMembers ↔ m.1 ∈ keys ∧ e.owned? m.1 = some m.2 := by
  rw [toMembers_eq, Codec.mem_flatMap_field]

/-- No two members of an envelope have one key, so none of them is lost. -/
theorem mem_ofList_toMembers {e : Envelope} {m : String × Value} :
    m ∈ Members.ofList e.toMembers ↔ m ∈ e.toMembers := by
  refine ⟨Members.mem_ofList, fun hm => ?_⟩
  obtain ⟨hkey, howned⟩ := mem_toMembers.1 hm
  exact Members.mem_of_get? ((get?_ofList_toMembers e hkey).trans howned)

/-- Nothing that an envelope writes is nested, except its data. -/
theorem owned?_cases {e : Envelope} {key : String} {v : Value} (h : e.owned? key = some v) :
    v.nesting = 0 ∨ e.data = some v := by
  unfold owned? at h
  split at h
  case h_1 | h_3 =>
    cases h
    exact .inl rfl
  case h_4 => exact .inr h
  case h_8 => cases h
  all_goals
    obtain ⟨_, -, rfl⟩ := Option.map_eq_some_iff.1 h
    exact .inl rfl

/-- What one writing and one reading make of an envelope. -/
def carried (encoding : Encoding) (e : Envelope) : Envelope :=
  { e with data := Value.unlessNull (e.data.map (Value.carried encoding.rounded)) }

theorem ofValue_carried {e : Envelope} (hpath : e.path ≠ "") (encoding : Encoding) :
    ofValue (.object ((Members.ofList e.toMembers).map fun m => (m.1, m.2.carried encoding.rounded))) =
      .ok (e.carried encoding) := by
  have hget (key : String) (hk : key ∈ keys) :
      Members.get? key ((Members.ofList e.toMembers).map fun m => (m.1, m.2.carried encoding.rounded)) =
        (e.owned? key).map (Value.carried encoding.rounded) := by
    rw [Members.get?_map, get?_ofList_toMembers e hk]
  generalize (Members.ofList e.toMembers).map (fun m => (m.1, m.2.carried encoding.rounded)) = members at *
  have htext {key : String} {s : Option String} (hk : key ∈ keys) (ho : e.owned? key = s.map .text) :
      Codec.textField? key members = some s :=
    Codec.textField?_of_carried (by rw [hget key hk, ho])
  have hid : Codec.textField? "id" members = some (e.id.map (·.text)) :=
    htext (by decide) (Option.map_map ..).symm
  have hsid : Codec.textField? "sid" members = some (e.sid.map (·.text)) :=
    htext (by decide) (Option.map_map ..).symm
  have htopic : Codec.textField? "topic" members = some e.topic := htext (by decide) rfl
  have hkind : Codec.nameField? Kind.ofName? "type" members = some e.kind :=
    Codec.nameField?_of_carried Kind.ofName?_name (hget "type" (by decide))
  have hversion : version? members = some e.version := by
    unfold version?
    rw [hget "version" (by decide)]
    rfl
  have hdata : dataOf members = Value.unlessNull (e.data.map (Value.carried encoding.rounded)) := by
    unfold dataOf
    rw [hget "data" (by decide)]
    rfl
  have hfields : fields? e.path members = some (e.carried encoding) := by
    unfold fields?
    simp only [hversion, hid, hkind, hsid, htopic, hdata, Option.bind_eq_bind, Option.bind_some, carried,
      Option.map_map, Function.comp_def, Option.map_id']
  have hget_path : Members.get? "path" members = some (.text e.path) := hget "path" (by decide)
  have hempty : e.path.isEmpty = false := by simpa using hpath
  simp only [ofValue, hget_path, hempty, hfields, Bool.false_eq_true, if_false]

/-- An envelope that was encoded decodes to the envelope carried. -/
theorem decode_encode {e : Envelope} {encoding : Encoding} (hpath : e.path ≠ "")
    (hnest : encoding.Admits (.object e.toMembers))
    (hlen : (e.encode encoding).payload.length < 2 ^ 64) :
    decode (e.encode encoding) = .ok (e.carried encoding) := by
  rw [decode, encode, Codec.decodeValue_encodeMembers hnest hlen]
  show (ofValue (.object _)).mapError Codec.Error.envelope = _
  rw [ofValue_carried hpath encoding]
  rfl

end Request.Envelope

end Exchange
