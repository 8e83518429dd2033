-- SUMMARY: When a frame is read with what it says under its own keys, whatever its extra members are.
import Exchange.Proofs.Envelope.Encodings

/-!
# Extra members that mask a frame's own

A frame writes its extra members after its own, and of several members with one
key a reader takes the last. An extra member under a key that frames own
therefore masks what the frame says there. `Reply.Unmasked` is the exact
condition under which a frame is read with its own id, status and so on
(`Reply.readAsSent_iff`); an extra member under `id` is read as the id of the
frame (`Reply.id_of_decode`).
-/

namespace Exchange

/-! ## Fields that are read -/

namespace Codec

variable {key : String} {members : List (String × Value)}

theorem textField?_eq_some_iff {s : Option String} :
    textField? key members = some s ↔ Value.unlessNull (Members.get? key members) = s.map .text := by
  unfold textField?
  cases Members.get? key members with
  | none => cases s <;> simp [Value.unlessNull]
  | some v => cases v <;> cases s <;> simp [Value.unlessNull]

theorem nameField?_eq_some_iff {α : Type} {read : String → Option α} {a : Option α} :
    nameField? read key members = some a ↔
      (Value.unlessNull (Members.get? key members)).map (fun v => (nameOf? v).bind read) = a.map some := by
  unfold nameField?
  split
  · rename_i hget
    rw [hget]
    cases a <;> simp [Value.unlessNull]
  · rename_i hget
    rw [hget]
    cases a <;> simp [Value.unlessNull]
  · rename_i v hnull hget
    have hvalue : Value.unlessNull (some v) = some v := by
      cases v with
      | null => exact absurd rfl hnull
      | bool | number | text | list | object => rfl
    rw [hget, hvalue, Option.map_some]
    cases nameOf? v with
    | none => cases a <;> simp
    | some name => cases hread : read name <;> cases a <;> simp [hread]

end Codec

namespace Reply

theorem fin?_eq_some_iff {members : List (String × Value)} {b : Bool} :
    fin? members = some b ↔ (Members.get? "fin" members).getD (.bool false) = .bool b := by
  unfold fin?
  cases Members.get? "fin" members with
  | none => simp
  | some v => cases v <;> simp

/-- The frame without its extra members. -/
def own (r : Reply) : Reply :=
  { r with extra := [] }

/-- Read under a key of the frame's own, a value is what the frame says there. -/
def Says (r : Reply) (v : Option Value) : String → Prop
  | "status" => v.bind Status.coerce = r.status.filter fun s => s.code ≠ 0
  | "type" => (Value.unlessNull v).map (fun v => (Codec.nameOf? v).map Kind.ofName) = r.kind.map some
  | "fin" => v.getD (.bool false) = .bool r.fin
  | key => Value.unlessNull v = Value.unlessNull (r.owned? key)

/-- What members are read as under a frame's own keys is what the frame says there. -/
structure ReadFrom (members : List (String × Value)) (r : Reply) : Prop where
  id : Codec.textField? "id" members = some (r.id.map (·.text))
  status : statusOf members = r.status
  statusCode : Codec.textField? "statusCode" members = some r.statusCode
  message : messageOf members = r.message
  kind : Codec.nameField? (some ∘ Kind.ofName) "type" members = some r.kind
  fin : fin? members = some r.fin
  sid : Codec.textField? "sid" members = some (r.sid.map (·.text))
  topic : Codec.textField? "topic" members = some r.topic

section Fields

variable {members : List (String × Value)} {r : Reply}

theorem fields?_eq_some_iff :
    fields? members = some r ↔ r.ReadFrom members ∧ (members.filter fun m => !isReserved m.1) = r.extra := by
  simp only [fields?, Option.bind_eq_bind, Option.bind_eq_some_iff, Option.some.injEq]
  constructor
  · rintro ⟨id, hid, code, hcode, kind, hkind, fin, hfin, sid, hsid, topic, htopic, rfl⟩
    refine ⟨⟨?_, rfl, hcode, rfl, hkind, hfin, ?_, htopic⟩, rfl⟩
    · simp [hid, Function.comp_def]
    · simp [hsid, Function.comp_def]
  · rintro ⟨⟨hid, hstatus, hcode, hmessage, hkind, hfin, hsid, htopic⟩, hextra⟩
    refine ⟨_, hid, _, hcode, _, hkind, _, hfin, _, hsid, _, htopic, ?_⟩
    rw [hstatus, hmessage, hextra]
    simp [Function.comp_def]

theorem exists_fields?_iff (hextra : r.extra = []) :
    (∃ r', fields? members = some r' ∧ r'.own = r) ↔ r.ReadFrom members := by
  constructor
  · rintro ⟨r', hread, rfl⟩
    obtain ⟨⟨hid, hstatus, hcode, hmessage, hkind, hfin, hsid, htopic⟩, -⟩ := fields?_eq_some_iff.1 hread
    exact ⟨hid, hstatus, hcode, hmessage, hkind, hfin, hsid, htopic⟩
  · rintro ⟨hid, hstatus, hcode, hmessage, hkind, hfin, hsid, htopic⟩
    refine ⟨{ r with extra := members.filter fun m => !isReserved m.1 },
      fields?_eq_some_iff.2 ⟨⟨hid, hstatus, hcode, hmessage, hkind, hfin, hsid, htopic⟩, rfl⟩, ?_⟩
    rw [own, ← hextra]

/-- Members are read as a frame's own fields just when they say what the frame says under each of its keys. -/
theorem readFrom_iff :
    r.normal.own.ReadFrom members ↔ ∀ key ∈ reserved, r.Says (Members.get? key members) key := by
  have htext (key : String) (s : Option String) :
      Codec.textField? key members = some s ↔
        Value.unlessNull (Members.get? key members) = Value.unlessNull (s.map .text) := by
    rw [Codec.textField?_eq_some_iff]
    cases s <;> rfl
  have hid : Codec.textField? "id" members = some (r.id.map (·.text)) ↔
      r.Says (Members.get? "id" members) "id" := by
    rw [htext, Option.map_map]
    rfl
  have hsid : Codec.textField? "sid" members = some (r.sid.map (·.text)) ↔
      r.Says (Members.get? "sid" members) "sid" := by
    rw [htext, Option.map_map]
    rfl
  have hkind : Codec.nameField? (some ∘ Kind.ofName) "type" members = some r.kind ↔
      r.Says (Members.get? "type" members) "type" := by
    have hnames (v : Value) : (Codec.nameOf? v).bind (some ∘ Kind.ofName) = (Codec.nameOf? v).map Kind.ofName :=
      Option.map_eq_bind.symm
    simp only [Codec.nameField?_eq_some_iff, hnames]
    rfl
  simp only [reserved, List.forall_mem_cons]
  constructor
  · intro h
    exact ⟨hid.1 h.id, h.status, (htext _ _).1 h.statusCode, h.message, hkind.1 h.kind, fin?_eq_some_iff.1 h.fin,
      hsid.1 h.sid, (htext _ _).1 h.topic, List.forall_mem_nil _⟩
  · rintro ⟨h1, h2, h3, h4, h5, h6, h7, h8, -⟩
    exact ⟨hid.2 h1, h2, (htext _ _).2 h3, h4, hkind.2 h5, fin?_eq_some_iff.2 h6, hsid.2 h7, (htext _ _).2 h8⟩

end Fields

/-! ## What a frame is read as -/

/-- What a frame writes under a key of its own is what the frame says there; only in a message may the
encoding respell numbers. -/
theorem says_owned (r : Reply) (encoding : Encoding) {key : String} (hkey : key ∈ reserved)
    (hmessage : key ≠ "message") : r.Says ((r.owned? key).map (Value.carried encoding.rounded)) key := by
  simp only [reserved, List.mem_cons, List.not_mem_nil, or_false] at hkey
  rcases hkey with rfl | rfl | rfl | rfl | rfl | rfl | rfl | rfl
  · simp only [Says, owned?]
    cases r.id <;> rfl
  · simp only [Says, owned?]
    cases r.status with
    | none => rfl
    | some s =>
      rw [Option.map_some, Option.map_some, Option.bind_some, coerce_ofNat, Option.filter_some]
      simp only [decide_eq_true_eq]
  · simp only [Says, owned?]
    cases r.statusCode <;> rfl
  · exact absurd rfl hmessage
  · simp only [Says, owned?]
    cases r.kind with
    | none => rfl
    | some k => simp [Value.unlessNull, Codec.nameOf?]
  · simp only [Says, owned?]
    cases r.fin <;> rfl
  · simp only [Says, owned?]
    cases r.sid <;> rfl
  · simp only [Says, owned?]
    cases r.topic <;> rfl

/-- The frame can be read, no extra member says anything else under a key of the frame's own, and the encoding
keeps the numbers of the message, if that is not masked. -/
structure Unmasked (encoding : Encoding) (r : Reply) : Prop where
  nesting : encoding.Admits (encoding.written r.toMembers)
  extra : ∀ m ∈ r.extra, m.1 ∈ reserved → r.Says (some (m.2.carried encoding.rounded)) m.1
  message : "message" ∉ Members.keys r.extra →
    ∀ n ∈ (r.message.map Value.numbers).getD [], encoding.rounded n = n

section Own

variable {r : Reply} {encoding : Encoding}

/-- Under each of its keys a frame is read as its extra member there, or else as what it says itself. -/
theorem says_iff (h : r.Ordered) :
    (∀ key ∈ reserved, r.Says
        (((Members.get? key r.extra).or (r.owned? key)).map (Value.carried encoding.rounded)) key) ↔
      (∀ m ∈ r.extra, m.1 ∈ reserved → r.Says (some (m.2.carried encoding.rounded)) m.1) ∧
        ("message" ∉ Members.keys r.extra →
          ∀ n ∈ (r.message.map Value.numbers).getD [], encoding.rounded n = n) := by
  have hmessage : r.Says (r.message.map (Value.carried encoding.rounded)) "message" ↔
      ∀ n ∈ (r.message.map Value.numbers).getD [], encoding.rounded n = n := unlessNull_carried_eq_iff h.message
  constructor
  · intro hall
    refine ⟨fun m hm hkey => ?_, fun hnone => ?_⟩
    · have hget := hall m.1 hkey
      rwa [Members.get?_of_mem h.sorted.nodup hm] at hget
    · have hget := hall "message" (by decide)
      rw [Members.get?_eq_none_iff.2 hnone] at hget
      exact hmessage.1 hget
  · rintro ⟨hextra, hkept⟩ key hkey
    cases hget : Members.get? key r.extra with
    | some v => exact hextra (key, v) (Members.mem_of_get? hget) hkey
    | none =>
      rw [Option.none_or]
      by_cases hk : key = "message"
      · subst hk
        exact hmessage.2 (hkept (Members.get?_eq_none_iff.1 hget))
      · exact r.says_owned encoding hkey hk

/-- What a frame that can be read is read from: under each of its keys the extra member there, or else what the
frame itself says. -/
theorem exists_members (h : r.Ordered) (hnesting : encoding.Admits (encoding.written r.toMembers))
    (hlen : (r.encode encoding).payload.length < 2 ^ 64) :
    ∃ members, decode (r.encode encoding) = (ofValue (.object members)).mapError .envelope ∧
      ∀ key ∈ reserved, Members.get? key members =
        ((Members.get? key r.extra).or (r.owned? key)).map (Value.carried encoding.rounded) := by
  have hpayload := Codec.encodeMembers_eq r.toMembers encoding
  have hlen : (Codec.encodeMembers r.toMembers encoding).length < 2 ^ 64 := hlen
  rw [hpayload] at hlen
  refine ⟨(Members.ofList r.toMembers).map fun m => (m.1, m.2.carried encoding.rounded), ?_, fun key hkey => ?_⟩
  · rw [decode, encode, hpayload, Codec.decodeValue_encodeValue hlen, if_pos hnesting, Codec.carried_written]
    rfl
  · rw [Members.get?_map, get?_toMembers, Members.get?_reverse h.sorted.nodup, if_pos hkey]

theorem decode_eq_ok_iff {members : List (String × Value)} {r' : Reply} :
    (ofValue (.object members)).mapError Codec.Error.envelope = .ok r' ↔ fields? members = some r' := by
  rw [ofValue]
  cases fields? members with
  | none => exact iff_of_false (fun h => by cases h) (fun h => by cases h)
  | some q => exact ⟨fun h => congrArg some (Except.ok.inj h), fun h => congrArg Except.ok (Option.some.inj h)⟩

/-- Written and read, the frame says under its own keys what it said before. -/
def ReadAsSent (encoding : Encoding) (r : Reply) : Prop :=
  ∃ r', decode (r.encode encoding) = .ok r' ∧ r'.own = r.normal.own

theorem readAsSent_iff (h : r.Ordered) (hlen : (r.encode encoding).payload.length < 2 ^ 64) :
    r.ReadAsSent encoding ↔ r.Unmasked encoding := by
  by_cases hnesting : encoding.Admits (encoding.written r.toMembers)
  · obtain ⟨members, hdecode, hget⟩ := exists_members h hnesting hlen
    have hkeys : (∀ key ∈ reserved, r.Says (Members.get? key members) key) ↔ ∀ key ∈ reserved, r.Says
        (((Members.get? key r.extra).or (r.owned? key)).map (Value.carried encoding.rounded)) key :=
      forall₂_congr fun key hkey => by rw [hget key hkey]
    simp only [ReadAsSent, hdecode, decode_eq_ok_iff]
    rw [exists_fields?_iff rfl, readFrom_iff, hkeys, says_iff h]
    exact ⟨fun hall => ⟨hnesting, hall.1, hall.2⟩, fun hall => ⟨hall.extra, hall.message⟩⟩
  · refine iff_of_false ?_ fun hall => hnesting hall.nesting
    rintro ⟨r', hdecode, -⟩
    rw [decode, encode, Codec.decodeValue_encodeMembers_of_deep hnesting hlen] at hdecode
    cases hdecode

/-- An extra member under `id` decides whose answer the frame is. -/
theorem id_of_decode (h : r.Ordered) (hlen : (r.encode encoding).payload.length < 2 ^ 64) {r' : Reply}
    (hdecode : decode (r.encode encoding) = .ok r') :
    r'.id = match Members.get? "id" r.extra with
      | some v => v.asText?.map (⟨·⟩)
      | none => r.id := by
  by_cases hnesting : encoding.Admits (encoding.written r.toMembers)
  · obtain ⟨members, hmembers, hget⟩ := exists_members h hnesting hlen
    rw [hmembers, decode_eq_ok_iff] at hdecode
    have hid := (fields?_eq_some_iff.1 hdecode).1.id
    rw [Codec.textField?_eq_some_iff, hget "id" (by decide)] at hid
    have hinjective : Function.Injective fun id : RequestId => Value.text id.text := by
      rintro ⟨a⟩ ⟨b⟩ hname
      cases hname
      rfl
    have hread (id : Option RequestId)
        (hname : (id.map (·.text)).map Value.text = (r'.id.map (·.text)).map Value.text) : r'.id = id := by
      rw [Option.map_map, Option.map_map] at hname
      exact (Option.map_injective hinjective hname).symm
    cases hmask : Members.get? "id" r.extra with
    | none =>
      rw [hmask] at hid
      refine hread r.id (hid.symm.trans ?_).symm
      unfold owned?
      cases r.id <;> rfl
    | some v =>
      rw [hmask] at hid
      cases v with
      | null => exact hread none hid
      | text s => exact hread (some ⟨s⟩) hid
      | bool | number | list | object => cases hname : r'.id <;> simp [hname, Value.unlessNull] at hid
  · rw [decode, encode, Codec.decodeValue_encodeMembers_of_deep hnesting hlen] at hdecode
    cases hdecode

end Own

/-- Frames that are all read as they were sent, read. -/
theorem exists_read {encoding : Encoding} {frames : List Reply} (h : ∀ r ∈ frames, r.ReadAsSent encoding) :
    ∃ read : List Reply, (frames.map (·.encode encoding)).map decode = read.map .ok ∧
      read.map own = frames.map fun r => r.normal.own := by
  induction frames with
  | nil => exact ⟨[], rfl, rfl⟩
  | cons r frames ih =>
    obtain ⟨⟨r', hdecode, hown⟩, hrest⟩ := List.forall_mem_cons.1 h
    obtain ⟨read, hread, hsame⟩ := ih hrest
    refine ⟨r' :: read, ?_, ?_⟩
    · rw [List.map_cons, List.map_cons, List.map_cons, hdecode, hread]
    · rw [List.map_cons, List.map_cons, hown, hsame]

/-- Frames that are read as they were sent end where these did. -/
theorem last_alone_of_own {read frames : List Reply}
    (hown : read.map own = frames.map fun r => r.normal.own)
    (h : ∃ before last, frames = before ++ [last] ∧ (∀ r ∈ before, r.fin = false) ∧ last.fin = true) :
    ∃ before last, read = before ++ [last] ∧ (∀ r ∈ before, r.fin = false) ∧ last.fin = true := by
  obtain ⟨before, last, rfl, hbefore, hlast⟩ := h
  rw [List.map_append, List.map_singleton] at hown
  obtain ⟨readBefore, tail, rfl, hsame, htail⟩ := List.map_eq_append_iff.1 hown
  obtain ⟨readLast, rfl, hend⟩ := List.map_eq_singleton_iff.1 htail
  refine ⟨readBefore, readLast, rfl, fun r hr => ?_, (congrArg Reply.fin hend).trans hlast⟩
  obtain ⟨q, hq, hr⟩ := List.mem_map.1 (hsame ▸ List.mem_map_of_mem hr)
  exact (congrArg Reply.fin hr).symm.trans (hbefore q hq)

end Reply

end Exchange
