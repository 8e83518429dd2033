-- SUMMARY: Text and binary payloads of the same content carry the same value, and response frames come back in normal form.
import Exchange.Proofs.Envelope

/-!
# What both encodings carry

Text holds the members of an envelope as they are written, those included that
an extra member replaces; a message holds the value that they come to. Of the
members that can be replaced only the message of a response frame is nested. So
text is read back if neither the value nor such a message is nested too deep, and
if its doubles are read back as themselves it then carries what binary carries
(`Codec.Content.encodings_agree`). A response frame comes back without a status
of zero and without a null message, and under the same condition on doubles it is
otherwise the frame that was sent (`Reply.decode_encode_normal_iff`).
-/

namespace Exchange

theorem Value.ordered_ofMembers {members : List (String × Value)} (h : ∀ m ∈ members, m.2.Ordered) :
    (ofMembers members).Ordered :=
  .object (Members.sorted_ofList members) fun m hm => h m (Members.mem_ofList hm)

/-- Binary keeps all numbers, and text those doubles that are read back from their digits. -/
theorem Encoding.keeps_iff {encoding : Encoding} {numbers : List Number} :
    (∀ n ∈ numbers, encoding.rounded n = n) ↔
      encoding = .binary ∨ ∀ x, Number.double x ∈ numbers → Json.respelled (.double x) = .double x := by
  cases encoding with
  | binary => simp [rounded]
  | text =>
    simp only [reduceCtorEq, false_or]
    constructor
    · intro h x hx
      exact h _ hx
    · intro h n hn
      cases n with
      | int n => exact rounded_int .text n
      | double x => exact h x hn

/-! ## Members that are lost -/

namespace Reply

variable {r : Reply}

theorem Ordered.toValue (h : r.Ordered) : r.toValue.Ordered := by
  refine Value.ordered_ofMembers fun m hm => ?_
  rcases mem_toMembers.1 hm with ⟨-, howned⟩ | hextra
  · rcases owned?_cases howned with hflat | ⟨-, hmessage⟩
    · exact Value.ordered_of_nesting_eq_zero hflat
    · exact h.message m.2 hmessage
  · exact h.extra m hextra

/-- The message of a frame, if an extra member takes its place. -/
def replaced? (r : Reply) : Option Value :=
  if "message" ∈ Members.keys r.extra then r.message else none

/-- What is written of a frame keeps within a limit of nesting just when its value does, and when the message that
is replaced in it, one level further down, does as well. -/
theorem nesting_toMembers_le (h : r.Ordered) {limit : Nat} :
    (Value.object r.toMembers).nesting ≤ limit ↔
      r.toValue.nesting ≤ limit ∧ ∀ v, r.replaced? = some v → v.nesting < limit := by
  have hnodup := h.sorted.nodup
  rw [Reply.toValue, Value.ofMembers, Value.nesting_object_le, Value.nesting_object_le]
  constructor
  · rintro ⟨hpos, hall⟩
    refine ⟨⟨hpos, fun m hm => hall m (Members.mem_ofList hm)⟩, fun v hv => ?_⟩
    have hmessage : r.message = some v := by
      rw [replaced?] at hv
      split at hv
      · exact hv
      · cases hv
    have hkey : "message" ∈ reserved := by decide
    exact hall ("message", v) (mem_toMembers.2 (.inl ⟨hkey, hmessage⟩))
  · rintro ⟨⟨hpos, hall⟩, hreplaced⟩
    refine ⟨hpos, fun m hm => ?_⟩
    have hfound (hget : Members.get? m.1 (Members.ofList r.toMembers) = some m.2) : m.2.nesting < limit :=
      hall (m.1, m.2) (Members.mem_of_get? hget)
    rcases mem_toMembers.1 hm with ⟨hkey, howned⟩ | hextra
    · rcases owned?_cases howned with hflat | ⟨hm1, hmessage⟩
      · omega
      · by_cases hin : "message" ∈ Members.keys r.extra
        · exact hreplaced m.2 (by rw [replaced?, if_pos hin, hmessage])
        · have hnone : Members.get? m.1 r.extra.reverse = none := by
            rw [Members.get?_reverse hnodup, hm1]
            exact Members.get?_eq_none_iff.2 hin
          exact hfound (by rw [get?_toMembers, hnone, Option.none_or, if_pos hkey, howned])
    · have hsome : Members.get? m.1 r.extra.reverse = some m.2 := by
        rw [Members.get?_reverse hnodup]
        exact Members.get?_of_mem hnodup hextra
      exact hfound (by rw [get?_toMembers, hsome, Option.some_or])

end Reply

/-! ## The same value in both -/

/-- What is put into a frame: a request, a response frame, or a value by itself. -/
inductive Codec.Content where
  | request (e : Request.Envelope)
  | reply (r : Reply)
  | plain (v : Value)

namespace Codec.Content

/-- The value that is written in an encoding. -/
def written (encoding : Encoding) : Content → Value
  | request e => encoding.written e.toMembers
  | reply r => encoding.written r.toMembers
  | plain v => v

/-- The value that this comes to: of several members with one key the last counts. -/
def value : Content → Value
  | request e => .ofMembers e.toMembers
  | reply r => r.toValue
  | plain v => v

/-- The message that is written and replaced; requests and plain values have none. -/
def replaced? : Content → Option Value
  | reply r => r.replaced?
  | request _ | plain _ => none

/-- The values inside have their members in order. -/
def Ordered : Content → Prop
  | request e => ∀ v, e.data = some v → v.Ordered
  | reply r => r.Ordered
  | plain v => v.Ordered

def encode (encoding : Encoding) : Content → Frame
  | request e => e.encode encoding
  | reply r => r.encode encoding
  | plain v => ⟨encoding, encodeValue v encoding⟩

variable {c : Content}

theorem encode_eq (c : Content) (encoding : Encoding) :
    c.encode encoding = ⟨encoding, encodeValue (c.written encoding) encoding⟩ := by
  cases c with
  | request e => exact congrArg (Frame.mk encoding) (encodeMembers_eq e.toMembers encoding)
  | reply r => exact congrArg (Frame.mk encoding) (encodeMembers_eq r.toMembers encoding)
  | plain v => rfl

theorem written_binary (c : Content) : c.written .binary = c.value := by
  cases c <;> rfl

/-- The order and the repetition of members make no difference to what is read. -/
theorem carried_written (c : Content) (encoding : Encoding) (f : Number → Number) :
    (c.written encoding).carried f = c.value.carried f := by
  have hmembers (members : List (String × Value)) :
      (encoding.written members).carried f = (Value.ofMembers members).carried f :=
    (Codec.carried_written encoding members f).trans (Codec.carried_written .binary members f).symm
  cases c with
  | request e => exact hmembers e.toMembers
  | reply r => exact hmembers r.toMembers
  | plain v => rfl

theorem Ordered.value (h : c.Ordered) : c.value.Ordered := by
  cases c with
  | request e =>
    refine Value.ordered_ofMembers fun m hm => ?_
    obtain ⟨-, howned⟩ := Request.Envelope.mem_toMembers.1 hm
    rcases Request.Envelope.owned?_cases howned with hflat | hdata
    · exact Value.ordered_of_nesting_eq_zero hflat
    · exact h m.2 hdata
  | reply r => exact Reply.Ordered.toValue h
  | plain v => exact h

/-- Repeated members make a difference to how deep the text is nested, and it lies in the message alone. -/
theorem nesting_written_le (h : c.Ordered) {limit : Nat} :
    (c.written .text).nesting ≤ limit ↔
      c.value.nesting ≤ limit ∧ ∀ v, c.replaced? = some v → v.nesting < limit := by
  have hnone {p : Prop} : p ↔ p ∧ ∀ v : Value, none = some v → v.nesting < limit :=
    (and_iff_left fun _ hv => nomatch hv).symm
  cases c with
  | request e =>
    refine Iff.trans ?_ hnone
    simp only [written, Encoding.written, value, Value.ofMembers, Value.nesting_object_le,
      Request.Envelope.mem_ofList_toMembers]
  | reply r => exact Reply.nesting_toMembers_le h
  | plain v => exact hnone

theorem decodeValue_encode_text (c : Content) :
    decodeValue (c.encode .text) =
      if (c.written .text).nesting ≤ Json.maxDepth then .ok (c.value.carried Json.respelled)
      else .error .text := by
  rw [encode_eq, decodeValue_text, carried_written]

theorem decodeValue_encode_binary (h : c.Ordered) (hlen : (c.encode .binary).payload.length < 2 ^ 64) :
    decodeValue (c.encode .binary) =
      if c.value.messageDepth ≤ Protobuf.maxDepth then .ok c.value else .error .binary := by
  rw [encode_eq, written_binary] at hlen ⊢
  rw [decodeValue_binary hlen, Value.carried_id h.value]

/-- If the digits of every double in the value read back as that double, text is read as the value just when
the value is nested no deeper than can be read, and neither is a message that is written and replaced. Where a
message can be read as well, binary is read as the value, and the two encodings then carry the same. -/
theorem encodings_agree (c : Content) (hordered : c.Ordered)
    (hdoubles : ∀ x, Number.double x ∈ c.value.numbers → Json.respelled (.double x) = .double x) :
    (decodeValue (c.encode .text) = .ok c.value ↔
        c.value.nesting ≤ Json.maxDepth ∧ ∀ v, c.replaced? = some v → v.nesting < Json.maxDepth) ∧
      (c.value.messageDepth ≤ Protobuf.maxDepth → (c.encode .binary).payload.length < 2 ^ 64 →
        decodeValue (c.encode .binary) = .ok c.value ∧
          (c.value.nesting ≤ Json.maxDepth → (∀ v, c.replaced? = some v → v.nesting < Json.maxDepth) →
            decodeValue (c.encode .text) = decodeValue (c.encode .binary))) := by
  have hkept : c.value.carried Json.respelled = c.value :=
    (Value.carried_eq_self_iff hordered.value).2 ((@Encoding.keeps_iff .text _).2 (.inr hdoubles))
  have htext : decodeValue (c.encode .text) = .ok c.value ↔
      c.value.nesting ≤ Json.maxDepth ∧ ∀ v, c.replaced? = some v → v.nesting < Json.maxDepth := by
    rw [decodeValue_encode_text, hkept, ← nesting_written_le hordered]
    simp
  refine ⟨htext, fun hdepth hlen => ?_⟩
  have hbinary : decodeValue (c.encode .binary) = .ok c.value := by
    rw [decodeValue_encode_binary hordered hlen, if_pos hdepth]
  refine ⟨hbinary, fun hnest hreplaced => ?_⟩
  rw [htext.2 ⟨hnest, hreplaced⟩, hbinary]

/-- The double `0.5`. -/
def half : Double :=
  ⟨false, 4602678819172646912, by decide⟩

/-- An error frame whose message holds a quote, a control character and a character past the first plane,
with an extra member that replaces its type. -/
def quoted : Reply where
  id := some ⟨"1"⟩
  message := some (.text "\"\x01𝄞")
  kind := some .error
  fin := true
  extra := [("detail", .list [.null, .number (.double half)]), ("type", .text "odd")]

/-- Both encodings carry the frame, with the type that it has been given. -/
theorem quoted_agrees :
    decodeValue (quoted.encode .text) = .ok quoted.toValue ∧
      decodeValue (quoted.encode .binary) = .ok quoted.toValue := by
  have hordered : quoted.Ordered := by
    refine ⟨fun v hv => ?_, ?_, ?_⟩
    · cases hv
      exact .text _
    · simp only [quoted, Members.sorted_cons, List.forall_mem_singleton]
      exact ⟨by decide, by simp, Members.sorted_nil⟩
    · simp only [quoted, List.forall_mem_cons]
      refine ⟨.list ?_, .text _, by simp⟩
      simp only [List.forall_mem_cons]
      exact ⟨.null, .number _, by simp⟩
  have hnumbers : quoted.toValue.numbers = [.double half] := by decide +kernel
  have hhalf : Json.respelled (.double half) = .double half := by decide +kernel
  have hdoubles : ∀ x, Number.double x ∈ quoted.toValue.numbers → Json.respelled (.double x) = .double x := by
    intro x hx
    rw [hnumbers, List.mem_singleton] at hx
    rw [hx, hhalf]
  have hreplaced : quoted.replaced? = none := by decide +kernel
  obtain ⟨htext, hbinary⟩ := encodings_agree (.reply quoted) hordered hdoubles
  refine ⟨htext.2 ⟨by decide +kernel, fun v hv => ?_⟩, (hbinary (by decide +kernel) (by decide +kernel)).1⟩
  rw [replaced?, hreplaced] at hv
  cases hv

/-- A frame with a message that is nested too deep for text, and an extra member that takes its place. -/
def buried : Reply where
  message := some (listed 130)
  extra := [("message", .bool true)]

/-- The value of the frame is shallow and holds no number, and binary carries it; its text is refused. -/
theorem buried_refused :
    (reply buried).Ordered ∧ (reply buried).value = .object [("message", .bool true)] ∧
      (reply buried).value.nesting ≤ Json.maxDepth ∧ (reply buried).value.messageDepth ≤ Protobuf.maxDepth ∧
      decodeValue ((reply buried).encode .binary) = .ok (reply buried).value ∧
      decodeValue ((reply buried).encode .text) = .error .text := by
  have hordered : (reply buried).Ordered := by
    refine ⟨fun v hv => ?_, ?_, ?_⟩
    · cases hv
      exact ordered_listed 130
    · exact Members.sorted_cons.2 ⟨by simp, Members.sorted_nil⟩
    · exact List.forall_mem_singleton.2 (.bool true)
  have hvalue : (reply buried).value = .object [("message", .bool true)] := rfl
  have hdeep : ¬((reply buried).written .text).nesting ≤ Json.maxDepth := by decide +kernel
  refine ⟨hordered, hvalue, by decide +kernel, by decide +kernel, ?_, ?_⟩
  · rw [decodeValue_encode_binary hordered (by decide +kernel), if_pos (by decide +kernel)]
  · rw [decodeValue_encode_text, if_neg hdeep]

end Codec.Content

/-! ## Response frames -/

namespace Reply

/-- The frame without a status of zero and without a null message. -/
def normal (r : Reply) : Reply :=
  { r with status := r.status.filter fun s => s.code ≠ 0, message := Value.unlessNull r.message }

theorem carried_eq_normal_iff {r : Reply} (h : r.Ordered) {encoding : Encoding} :
    r.carried encoding = r.normal ↔ ∀ n ∈ r.numbers, encoding.rounded n = n := by
  rw [← values_carried_eq_iff h]
  constructor
  · intro hsame
    rw [hsame]
    exact ⟨rfl, rfl⟩
  · rintro ⟨hmessage, hextra⟩
    calc r.carried encoding
        = { r.normal with message := (r.carried encoding).message, extra := (r.carried encoding).extra } := rfl
      _ = r.normal := by
        rw [hmessage, hextra]
        rfl

/-- A frame that was encoded can be decoded. In binary, and in text if the digits of every double in it read
back as that double, it comes back as it was but for a status of zero and a null message. -/
theorem decode_encode_normal_iff {r : Reply} (hordered : r.Ordered) {encoding : Encoding}
    (htravels : r.Travels encoding) (hlen : (r.encode encoding).payload.length < 2 ^ 64) :
    decode (r.encode encoding) = .ok (r.carried encoding) ∧
      (decode (r.encode encoding) = .ok r.normal ↔
        encoding = .binary ∨ ∀ x, Number.double x ∈ r.numbers → Json.respelled (.double x) = .double x) := by
  have hdecode := decode_encode htravels hlen
  refine ⟨hdecode, ?_⟩
  rw [hdecode, Except.ok.injEq, carried_eq_normal_iff hordered, Encoding.keeps_iff]

/-- The double that is written `3e+23`. -/
def large : Double :=
  ⟨false, 4958396687196483698, by decide⟩

/-- A frame with this double for its message. -/
def measured : Reply :=
  response (some (.number (.double large)))

/-- The double comes back from binary, and from text its neighbour does. -/
theorem measured_respelled :
    decode (measured.encode .binary) = .ok measured.normal ∧
      decode (measured.encode .text) ≠ .ok measured.normal := by
  have hordered : measured.Ordered := by
    refine ⟨fun v hv => ?_, .nil, fun m hm => ?_⟩
    · cases hv
      exact .number _
    · cases hm
  refine ⟨?_, fun hsame => ?_⟩
  · exact (decode_encode_normal_iff hordered (by decide +kernel) (by decide +kernel)).2.2 (.inl rfl)
  · have hkept := (decode_encode_normal_iff hordered (by decide +kernel) (by decide +kernel)).2.1 hsame
    rcases hkept with hbinary | hdoubles
    · cases hbinary
    · have hrespelled : Json.respelled (.double large) ≠ .double large := by decide +kernel
      exact hrespelled (hdoubles large List.mem_cons_self)

end Reply

end Exchange
