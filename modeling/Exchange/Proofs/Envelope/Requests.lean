-- SUMMARY: Which values are requests: what an object is read as, and which of its members is to blame where it is refused.
import Exchange.Proofs.Envelope.Masking

/-!
# Values that are requests

An object is refused for its path before any other member is looked at, and for
an ill-typed member only then. What is left is read member by member: the members
that the protocol does not name have no part in it, and a member that is absent,
or null, has its default. Only the version may not be null.
-/

namespace Exchange.Request

/-! ## Kinds -/

theorem Kind.ofName?_eq_some_iff {s : String} {k : Kind} : Kind.ofName? s = some k ↔ s = k.name := by
  constructor
  · intro h
    unfold ofName? at h
    split at h
    · cases h
      assumption
    · split at h
      · cases h
        assumption
      · split at h
        · cases h
          assumption
        · cases h
  · rintro rfl
    exact ofName?_name k

/-- A value spells a kind: by its name, or as an object with that one key and nothing under it. -/
def Kind.SpelledBy (k : Kind) (v : Value) : Prop :=
  v = .text k.name ∨ v = .object [(k.name, .null)]

theorem nameOf?_eq_some_iff {v : Value} {name : String} :
    Codec.nameOf? v = some name ↔ v = .text name ∨ v = .object [(name, .null)] := by
  constructor
  · intro h
    unfold Codec.nameOf? at h
    split at h
    · exact .inl (congrArg Value.text (Option.some.inj h))
    · exact .inr (by rw [Option.some.inj h])
    · cases h
  · rintro (rfl | rfl)
    · rfl
    · rfl

theorem Kind.spelledBy_iff {v : Value} {k : Kind} : k.SpelledBy v ↔ (Codec.nameOf? v).bind Kind.ofName? = some k := by
  rw [Option.bind_eq_some_iff]
  constructor
  · intro h
    exact ⟨k.name, nameOf?_eq_some_iff.mpr h, ofName?_name k⟩
  · rintro ⟨name, hname, hkind⟩
    obtain rfl := ofName?_eq_some_iff.mp hkind
    exact nameOf?_eq_some_iff.mp hname

namespace Envelope

/-! ## Members -/

/-- What an envelope says of the members of an object that it was read from. -/
structure ReadFrom (members : List (String × Value)) (e : Envelope) : Prop where
  version : Members.get? "version" members = some (.text e.version) ∨
    Members.get? "version" members = none ∧ e.version = protocolVersion
  id : Value.unlessNull (Members.get? "id" members) = e.id.map fun id => .text id.text
  path : Members.get? "path" members = some (.text e.path)
  data : Value.unlessNull (Members.get? "data" members) = e.data
  kind : match Value.unlessNull (Members.get? "type" members), e.kind with
    | none, none => True
    | some v, some k => k.SpelledBy v
    | _, _ => False
  sid : Value.unlessNull (Members.get? "sid" members) = e.sid.map fun sid => .text sid.text
  topic : Value.unlessNull (Members.get? "topic" members) = e.topic.map .text

/-- An object has a path that is a text and not empty. -/
def HasPath (members : List (String × Value)) : Prop :=
  ∃ path, Members.get? "path" members = some (.text path) ∧ path ≠ ""

/-- A member is not of its kind. -/
inductive IllTyped (members : List (String × Value)) : Prop where
  | version {v : Value} : Members.get? "version" members = some v → (∀ s, v ≠ .text s) → IllTyped members
  | text {key : String} {v : Value} : key ∈ ["id", "sid", "topic"] →
      Value.unlessNull (Members.get? key members) = some v → (∀ s, v ≠ .text s) → IllTyped members
  | kind {v : Value} : Value.unlessNull (Members.get? "type" members) = some v → (∀ k : Kind, ¬ k.SpelledBy v) →
      IllTyped members

variable {members : List (String × Value)} {path : String} {e : Envelope}

theorem version?_eq_some_iff {version : String} :
    version? members = some version ↔
      Members.get? "version" members = some (.text version) ∨
      Members.get? "version" members = none ∧ version = protocolVersion := by
  unfold version?
  cases Members.get? "version" members with
  | none => simp [eq_comm]
  | some v => cases v <;> simp

theorem version?_eq_none_iff :
    version? members = none ↔ ∃ v, Members.get? "version" members = some v ∧ ∀ s, v ≠ .text s := by
  unfold version?
  cases Members.get? "version" members with
  | none => simp
  | some v => cases v <;> simp

theorem textField?_eq_none_iff {key : String} :
    Codec.textField? key members = none ↔
      ∃ v, Value.unlessNull (Members.get? key members) = some v ∧ ∀ s, v ≠ .text s := by
  unfold Codec.textField?
  cases Members.get? key members with
  | none => simp [Value.unlessNull]
  | some v => cases v <;> simp [Value.unlessNull]

theorem dataOf_eq (members : List (String × Value)) : dataOf members = Value.unlessNull (Members.get? "data" members) :=
  rfl

theorem kindField?_eq_some_iff {kind : Option Kind} :
    Codec.nameField? Kind.ofName? "type" members = some kind ↔
      match Value.unlessNull (Members.get? "type" members), kind with
      | none, none => True
      | some v, some k => k.SpelledBy v
      | _, _ => False := by
  rw [Codec.nameField?_eq_some_iff]
  cases Value.unlessNull (Members.get? "type" members) with
  | none => cases kind <;> simp
  | some v =>
    cases kind with
    | none => simp
    | some k => simp [Kind.spelledBy_iff]

theorem kindField?_eq_none_iff :
    Codec.nameField? Kind.ofName? "type" members = none ↔
      ∃ v, Value.unlessNull (Members.get? "type" members) = some v ∧ ∀ k : Kind, ¬ k.SpelledBy v := by
  rw [Option.eq_none_iff_forall_ne_some]
  simp only [ne_eq, kindField?_eq_some_iff]
  cases Value.unlessNull (Members.get? "type" members) with
  | none => simp [Option.forall]
  | some v => simp [Option.forall]

/-! ## Objects -/

theorem fields?_eq_some_iff :
    fields? path members = some e ↔
      version? members = some e.version ∧ Codec.textField? "id" members = some (e.id.map (·.text)) ∧
      path = e.path ∧ dataOf members = e.data ∧ Codec.nameField? Kind.ofName? "type" members = some e.kind ∧
      Codec.textField? "sid" members = some (e.sid.map (·.text)) ∧ Codec.textField? "topic" members = some e.topic := by
  simp only [fields?, Option.bind_eq_bind, Option.bind_eq_some_iff, Option.some.injEq]
  constructor
  · rintro ⟨version, hversion, id, hid, kind, hkind, sid, hsid, topic, htopic, rfl⟩
    refine ⟨hversion, ?_, rfl, rfl, hkind, ?_, htopic⟩
    · simp [hid, Function.comp_def]
    · simp [hsid, Function.comp_def]
  · rintro ⟨hversion, hid, rfl, hdata, hkind, hsid, htopic⟩
    refine ⟨_, hversion, _, hid, _, hkind, _, hsid, _, htopic, ?_⟩
    simp [hdata, Function.comp_def]

theorem fields?_eq_some_iff_readFrom :
    fields? path members = some e ∧ Members.get? "path" members = some (.text path) ↔
      e.ReadFrom members ∧ path = e.path := by
  rw [fields?_eq_some_iff, version?_eq_some_iff, kindField?_eq_some_iff, dataOf_eq]
  simp only [Codec.textField?_eq_some_iff, Option.map_map]
  constructor
  · rintro ⟨⟨hversion, hid, rfl, hdata, hkind, hsid, htopic⟩, hpath⟩
    exact ⟨⟨hversion, hid, hpath, hdata, hkind, hsid, htopic⟩, rfl⟩
  · rintro ⟨h, rfl⟩
    exact ⟨⟨h.version, h.id, rfl, h.data, h.kind, h.sid, h.topic⟩, h.path⟩

theorem fields?_eq_none_iff (path : String) : fields? path members = none ↔ IllTyped members := by
  constructor
  · intro h
    simp only [fields?, Option.bind_eq_bind, Option.bind_eq_none_iff] at h
    cases hversion : version? members with
    | none =>
      obtain ⟨v, hv, hne⟩ := version?_eq_none_iff.mp hversion
      exact .version hv hne
    | some version =>
    cases hid : Codec.textField? "id" members with
    | none =>
      obtain ⟨v, hv, hne⟩ := textField?_eq_none_iff.mp hid
      exact .text (by simp) hv hne
    | some id =>
    cases hkind : Codec.nameField? Kind.ofName? "type" members with
    | none =>
      obtain ⟨v, hv, hne⟩ := kindField?_eq_none_iff.mp hkind
      exact .kind hv hne
    | some kind =>
    cases hsid : Codec.textField? "sid" members with
    | none =>
      obtain ⟨v, hv, hne⟩ := textField?_eq_none_iff.mp hsid
      exact .text (by simp) hv hne
    | some sid =>
    cases htopic : Codec.textField? "topic" members with
    | none =>
      obtain ⟨v, hv, hne⟩ := textField?_eq_none_iff.mp htopic
      exact .text (by simp) hv hne
    | some topic => exact absurd (h version hversion id hid kind hkind sid hsid topic htopic) (Option.some_ne_none _)
  · intro h
    rw [Option.eq_none_iff_forall_ne_some]
    intro e he
    obtain ⟨hversion, hid, -, -, hkind, hsid, htopic⟩ := fields?_eq_some_iff.mp he
    cases h with
    | version hv hne => simp [version?_eq_none_iff.mpr ⟨_, hv, hne⟩] at hversion
    | @text key v hkey hv hne =>
      have hnone : Codec.textField? key members = none := textField?_eq_none_iff.mpr ⟨v, hv, hne⟩
      simp only [List.mem_cons, List.not_mem_nil, or_false] at hkey
      rcases hkey with rfl | rfl | rfl
      · simp [hnone] at hid
      · simp [hnone] at hsid
      · simp [hnone] at htopic
    | kind hv hne => simp [kindField?_eq_none_iff.mpr ⟨_, hv, hne⟩] at hkind

theorem recoverId?_eq_some_iff {id : RequestId} :
    Codec.recoverId? members = some id ↔ Members.get? "id" members = some (.text id.text) := by
  obtain ⟨text⟩ := id
  unfold Codec.recoverId?
  cases Members.get? "id" members with
  | none => simp
  | some v => cases v <;> simp

/-! ## Values -/

theorem ofValue_of_not_hasPath (h : ¬ HasPath members) :
    ofValue (.object members) = .error (.invalidPath (Codec.recoverId? members)) := by
  unfold ofValue
  dsimp only
  split
  · rename_i path hpath
    have hempty : path = "" := Classical.byContradiction fun hne => h ⟨path, hpath, hne⟩
    rw [hempty]
    rfl
  · rfl

theorem ofValue_of_path (hpath : Members.get? "path" members = some (.text path)) (hne : path ≠ "") :
    ofValue (.object members) =
      match fields? path members with
      | some e => .ok e
      | none => .error (.malformed (Codec.recoverId? members)) := by
  simp only [ofValue, hpath]
  exact if_neg (mt String.isEmpty_iff.mp hne)

/-- An object is read as the one envelope that says what its members are, if the path is not empty. -/
theorem ofValue_eq_ok_iff : ofValue (.object members) = .ok e ↔ e.ReadFrom members ∧ e.path ≠ "" := by
  constructor
  · intro h
    have hpath : HasPath members := by
      by_cases hpath : HasPath members
      · exact hpath
      · rw [ofValue_of_not_hasPath hpath] at h
        cases h
    obtain ⟨path, hpath, hne⟩ := hpath
    rw [ofValue_of_path hpath hne] at h
    cases hfields : fields? path members with
    | none => simp [hfields] at h
    | some e' =>
      obtain rfl : e' = e := by simpa [hfields] using h
      obtain ⟨hread, rfl⟩ := fields?_eq_some_iff_readFrom.mp ⟨hfields, hpath⟩
      exact ⟨hread, hne⟩
  · rintro ⟨hread, hne⟩
    rw [ofValue_of_path hread.path hne, (fields?_eq_some_iff_readFrom.mpr ⟨hread, rfl⟩).1]

/-- An object with a path is refused for a member that is not of its kind, and is read if there is none. -/
theorem ofValue_of_hasPath (h : HasPath members) :
    (IllTyped members ∧ ofValue (.object members) = .error (.malformed (Codec.recoverId? members))) ∨
      (¬ IllTyped members ∧ ∃ e, ofValue (.object members) = .ok e) := by
  obtain ⟨path, hpath, hne⟩ := h
  rw [ofValue_of_path hpath hne, ← fields?_eq_none_iff path]
  cases hfields : fields? path members with
  | none => exact .inl ⟨rfl, rfl⟩
  | some e => exact .inr ⟨Option.some_ne_none e, e, rfl⟩

theorem ofValue_eq_notAnObject_iff {v : Value} : ofValue v = .error .notAnObject ↔ v.isObject = false := by
  cases v with
  | object members =>
    by_cases h : HasPath members
    · rcases ofValue_of_hasPath h with ⟨-, heq⟩ | ⟨-, e, heq⟩
      · simp [heq, Value.isObject]
      · simp [heq, Value.isObject]
    · simp [ofValue_of_not_hasPath h, Value.isObject]
  | null | bool | number | text | list => simp [ofValue, Value.isObject]

/-- What an object is: a request, or which of the two refusals, with the id that it bears. -/
theorem ofValue_object_cases (members : List (String × Value)) :
    (¬ HasPath members ∧ ofValue (.object members) = .error (.invalidPath (Codec.recoverId? members))) ∨
      (HasPath members ∧ IllTyped members ∧
        ofValue (.object members) = .error (.malformed (Codec.recoverId? members))) ∨
      (HasPath members ∧ ¬ IllTyped members ∧ ∃ e, ofValue (.object members) = .ok e) := by
  by_cases h : HasPath members
  · exact .inr ((ofValue_of_hasPath h).imp (⟨h, ·⟩) (⟨h, ·⟩))
  · exact .inl ⟨h, ofValue_of_not_hasPath h⟩

theorem requestId?_of_ofValue {error : Exchange.Envelope.Error} (h : ofValue (.object members) = .error error)
    (id : RequestId) : error.requestId? = some id ↔ Members.get? "id" members = some (.text id.text) := by
  rw [← recoverId?_eq_some_iff]
  rcases ofValue_object_cases members with ⟨-, heq⟩ | ⟨-, -, heq⟩ | ⟨-, -, e, heq⟩
  · obtain rfl := Except.error.inj (heq.symm.trans h)
    rfl
  · obtain rfl := Except.error.inj (heq.symm.trans h)
    rfl
  · cases heq.symm.trans h

end Envelope

end Exchange.Request
