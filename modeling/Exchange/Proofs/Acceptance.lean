-- SUMMARY: What a session does with a frame: one request or one warning, and one rejection if the id is known.
import Exchange.Proofs.Envelope.Requests
import Exchange.Proofs.Limits

/-!
# Taking in frames

A frame is dispatched or it is reported, never both and never twice. A frame that
is reported is also rejected if it bears an id, in its own encoding; the rejection
goes the way of every other response frame.
-/

namespace Exchange

namespace Request.Envelope

/-! ## Decoding -/

theorem decode_of_refused {frame : Frame} {error : Codec.Error} (h : Codec.decodeValue frame = .error error) :
    decode frame = .error error ∧ error.requestId? = none := by
  refine ⟨?_, ?_⟩
  · unfold decode
    rw [h]
    rfl
  · unfold Codec.decodeValue at h
    split at h
    · split at h
      · cases h
      · cases h
        rfl
    · split at h
      · cases h
      · cases h
        rfl

theorem decode_of_value {frame : Frame} {v : Value} (h : Codec.decodeValue frame = .ok v) :
    decode frame = match ofValue v with
      | .ok e => .ok e
      | .error refusal => .error (.envelope refusal) := by
  unfold decode
  rw [h]
  show (ofValue v).mapError Codec.Error.envelope = _
  cases ofValue v with
  | ok e => rfl
  | error refusal => rfl

theorem decode_eq_ok_iff {frame : Frame} {e : Envelope} :
    decode frame = .ok e ↔ ∃ v, Codec.decodeValue frame = .ok v ∧ ofValue v = .ok e := by
  cases hvalue : Codec.decodeValue frame with
  | error error => simp [(decode_of_refused hvalue).1]
  | ok v => cases hread : ofValue v <;> simp [decode_of_value hvalue, hread]

/-- An id is recovered from an object that has a text for it, and from nothing else. -/
theorem requestId?_of_decode {frame : Frame} {error : Codec.Error} (h : decode frame = .error error) (id : RequestId) :
    error.requestId? = some id ↔
      ∃ members, Codec.decodeValue frame = .ok (.object members) ∧
        Members.get? "id" members = some (.text id.text) := by
  cases hvalue : Codec.decodeValue frame with
  | error refusal =>
    obtain ⟨hdecode, hnone⟩ := decode_of_refused hvalue
    obtain rfl : refusal = error := Except.error.inj (hdecode.symm.trans h)
    simp [hnone]
  | ok v =>
    rw [decode_of_value hvalue] at h
    cases hread : ofValue v with
    | ok e => simp [hread] at h
    | error refusal =>
      obtain rfl : .envelope refusal = error := by simpa [hread] using h
      cases v with
      | object members => simpa [Codec.Error.requestId?] using requestId?_of_ofValue hread id
      | null | bool | number | text | list =>
        obtain rfl : .notAnObject = refusal := Except.error.inj hread
        simp [Codec.Error.requestId?, Envelope.Error.requestId?]

end Request.Envelope

namespace Session

/-! ## One frame -/

variable {s : Session} {frame : Frame}

theorem push_counts (frame : Frame) : (s.push frame).1.events = s.events ∧ (s.push frame).1.jobs = s.jobs := by
  unfold push
  split <;> exact ⟨rfl, rfl⟩

theorem enqueue_counts (r : Reply) (encoding : Encoding) :
    (s.enqueue r encoding).1.events = s.events ∧ (s.enqueue r encoding).1.jobs = s.jobs := by
  unfold enqueue
  dsimp only
  split
  · exact push_counts _
  · exact push_counts _

theorem accept_of_ok {e : Request.Envelope} (h : Request.Envelope.decode frame = .ok e) :
    s.accept frame = ({ s with jobs := s.jobs + 1 }, some ⟨e.id, frame.encoding, e.contents.2⟩) := by
  unfold accept
  rw [h]
  rfl

theorem accept_of_error {error : Codec.Error} (h : Request.Envelope.decode frame = .error error) :
    s.accept frame =
      (match error.requestId? with
        | some id => ((s.tell (.warning error.message)).enqueue (rejection error id) frame.encoding).1
        | none => s.tell (.warning error.message), none) := by
  unfold accept
  rw [h]
  dsimp only
  cases error.requestId? with
  | none => rfl
  | some id => rfl

theorem accept_counts_of_error {error : Codec.Error} (h : Request.Envelope.decode frame = .error error) :
    (s.accept frame).1.events = s.events ++ [.warning error.message] ∧ (s.accept frame).1.jobs = s.jobs := by
  rw [accept_of_error h]
  cases error.requestId? with
  | none => exact ⟨rfl, rfl⟩
  | some id => exact enqueue_counts (s := s.tell (.warning error.message)) (rejection error id) frame.encoding

/-! ## Many frames -/

/-- The request of a frame, if it has one. -/
def job? (frame : Frame) : Option Job :=
  match Request.Envelope.decode frame with
  | .ok e => some ⟨e.id, frame.encoding, e.contents.2⟩
  | .error _ => none

/-- What a session tells of a frame that it discards. -/
def warning? (frame : Frame) : Option Event :=
  match Request.Envelope.decode frame with
  | .ok _ => none
  | .error error => some (.warning error.message)

theorem accept_account (frame : Frame) :
    (s.accept frame).2 = job? frame ∧ (s.accept frame).1.events = s.events ++ (warning? frame).toList ∧
      (s.accept frame).1.jobs = s.jobs + (job? frame).toList.length := by
  unfold job? warning?
  cases h : Request.Envelope.decode frame with
  | ok e => simp [accept_of_ok h]
  | error error =>
    obtain ⟨hevents, hjobs⟩ := accept_counts_of_error (s := s) h
    exact ⟨by rw [accept_of_error h], hevents, hjobs⟩

/-- Of frames that come one after another, some are dispatched and the others reported, each in its turn. -/
theorem acceptAll_account (frames : List Frame) :
    (s.acceptAll frames).2 = frames.filterMap job? ∧
      (s.acceptAll frames).1.events = s.events ++ frames.filterMap warning? ∧
      (s.acceptAll frames).1.jobs = s.jobs + (frames.filterMap job?).length := by
  induction frames generalizing s with
  | nil => simp [acceptAll]
  | cons frame rest ih =>
    obtain ⟨hjob, hevents, hcount⟩ := accept_account (s := s) frame
    obtain ⟨hjobs, hall, htotal⟩ := ih (s := (s.accept frame).1)
    refine ⟨?_, ?_, ?_⟩
    · cases h : job? frame with
      | none => simp [acceptAll, hjob, hjobs, h]
      | some job => simp [acceptAll, hjob, hjobs, h]
    · cases h : warning? frame with
      | none => simp [acceptAll, hall, hevents, h]
      | some warning => simp [acceptAll, hall, hevents, h]
    · cases h : job? frame with
      | none => simp [acceptAll, htotal, hcount, h]
      | some job =>
        simp only [acceptAll, htotal, hcount, h, Option.toList_some, List.length_singleton, List.filterMap_cons]
        simp only [List.length_cons]
        omega

/-! ## Requests and refusals -/

/-- The frame that rejects what is no request. -/
structure Rejects (r : Reply) (error : Codec.Error) (id : RequestId) : Prop where
  id : r.id = some id
  status : r.status = some .badRequest
  kind : r.kind = some .error
  message : r.message = some (.text error.message)
  fin : r.fin = true

theorem rejects_rejection (error : Codec.Error) (id : RequestId) : Rejects (rejection error id) error id :=
  ⟨rfl, rfl, rfl, rfl, rfl⟩

open Request.Envelope in
/-- Which values are requests, what the others are refused for and with which id, and what a session makes of either:
a request is dispatched without a warning; for anything else there is one warning, nothing is dispatched, and one
frame rejects it if an id was recovered. -/
theorem accept_exactly_requests :
    (∀ v, ofValue v = .error .notAnObject ↔ v.isObject = false) ∧
    (∀ members,
      ((∃ id, ofValue (.object members) = .error (.invalidPath id)) ↔ ¬ HasPath members) ∧
      ((∃ id, ofValue (.object members) = .error (.malformed id)) ↔ HasPath members ∧ IllTyped members) ∧
      ((∃ e, ofValue (.object members) = .ok e) ↔ HasPath members ∧ ¬ IllTyped members) ∧
      (∀ e, ofValue (.object members) = .ok e ↔ e.ReadFrom members ∧ e.path ≠ "") ∧
      ∀ error id, ofValue (.object members) = .error error →
        (error.requestId? = some id ↔ Members.get? "id" members = some (.text id.text))) ∧
    ∀ (s : Session) (frame : Frame),
      (∀ e, decode frame = .ok e ↔ ∃ v, Codec.decodeValue frame = .ok v ∧ ofValue v = .ok e) ∧
      (∀ e, decode frame = .ok e →
        s.accept frame = ({ s with jobs := s.jobs + 1 }, some ⟨e.id, frame.encoding, e.contents.2⟩)) ∧
      ∀ error, decode frame = .error error →
        (s.accept frame).2 = none ∧
        (s.accept frame).1.jobs = s.jobs ∧
        (s.accept frame).1.events = s.events ++ [.warning error.message] ∧
        (∀ id, error.requestId? = some id ↔ ∃ members, Codec.decodeValue frame = .ok (.object members) ∧
          Members.get? "id" members = some (.text id.text)) ∧
        (error.requestId? = none → (s.accept frame).1 = s.tell (.warning error.message)) ∧
        ∀ id, error.requestId? = some id → ∃ r, Rejects r error id ∧
          (s.accept frame).1 = ((s.tell (.warning error.message)).enqueue r frame.encoding).1 := by
  refine ⟨fun v => ofValue_eq_notAnObject_iff, fun members => ?_, fun s frame => ⟨fun e => decode_eq_ok_iff,
    fun e => accept_of_ok, fun error herror => ?_⟩⟩
  · have hid (error : Envelope.Error) (id : RequestId) (h : ofValue (.object members) = .error error) :
        error.requestId? = some id ↔ Members.get? "id" members = some (.text id.text) :=
      requestId?_of_ofValue h id
    have hread (e : Request.Envelope) : ofValue (.object members) = .ok e ↔ e.ReadFrom members ∧ e.path ≠ "" :=
      ofValue_eq_ok_iff
    rcases ofValue_object_cases members with ⟨hpath, heq⟩ | ⟨hpath, hill, heq⟩ | ⟨hpath, hill, e, heq⟩
    · exact ⟨by simp [heq, hpath], by simp [heq, hpath], by simp [heq, hpath], hread, hid⟩
    · exact ⟨by simp [heq, hpath], by simp [heq, hpath, hill], by simp [heq, hill], hread, hid⟩
    · exact ⟨by simp [heq, hpath], by simp [heq, hill], by simp [heq, hpath, hill], hread, hid⟩
  · obtain ⟨hevents, hjobs⟩ := accept_counts_of_error (s := s) herror
    refine ⟨by rw [accept_of_error herror], hjobs, hevents, requestId?_of_decode herror, fun hnone => ?_, fun id hid => ?_⟩
    · rw [accept_of_error herror, hnone]
    · exact ⟨rejection error id, rejects_rejection error id, by rw [accept_of_error herror, hid]⟩

/-- A session that has just begun, and a request of a kind that nobody knows. -/
def fresh : Session :=
  { router := ⟨0⟩, scope := ⟨0⟩, limit := 1000, wire := ⟨0⟩ }

def pokeMembers : List (String × Value) :=
  [("id", .text "7"), ("path", .text "/a"), ("type", .text "poke")]

def poke : Frame :=
  ⟨.text, Codec.encodeValue (.object pokeMembers) .text⟩

theorem decode_poke : Request.Envelope.decode poke = .error (.envelope (.malformed (some ⟨"7"⟩))) := by
  have hvalue : Codec.decodeValue poke = .ok (.object pokeMembers) :=
    (Codec.decodeValue_text (.object pokeMembers)).trans (if_pos (by decide))
  unfold Request.Envelope.decode
  rw [hvalue]
  rfl

/-- The request is refused for its kind, reported once, and rejected under its id. -/
theorem accept_exactly_requests_poke :
    (Request.Envelope.HasPath pokeMembers ∧ Request.Envelope.IllTyped pokeMembers) ∧
      (fresh.accept poke).2 = none ∧ (fresh.accept poke).1.events = [.warning "malformed envelope"] ∧
      ∃ r, Rejects r (.envelope (.malformed (some ⟨"7"⟩))) ⟨"7"⟩ ∧
        (fresh.accept poke).1 = ((fresh.tell (.warning "malformed envelope")).enqueue r .text).1 := by
  obtain ⟨-, hobject, hframe⟩ := accept_exactly_requests
  obtain ⟨hjob, -, hevents, -, -, hreject⟩ := (hframe fresh poke).2.2 _ decode_poke
  exact ⟨(hobject pokeMembers).2.1.mp ⟨_, rfl⟩, hjob, hevents, hreject ⟨"7"⟩ rfl⟩

end Session

end Exchange
