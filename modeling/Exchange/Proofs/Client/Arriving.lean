-- SUMMARY: Requests that a client has accepted: those that the session dispatches, and those that it only warns of.
import Exchange.Client.Remote
import Exchange.Proofs.Envelope

/-!
# Requests that arrive

A client sends any request with a path and an object for its data, however deep
the object is. The session dispatches it if the data can be read inside an
envelope. If not, no id can be recovered either: the session tells a warning,
nothing is queued, and the request stays pending at the client.
-/

namespace Exchange

/-! ## Nesting inside an envelope -/

/-- The depth at which data can be read inside an envelope. -/
def Encoding.AdmitsData : Encoding → Value → Prop
  | .text, v => v.nesting < Json.maxDepth
  | .binary, v => v.messageDepth + 3 ≤ Protobuf.maxDepth

instance (encoding : Encoding) (v : Value) : Decidable (encoding.AdmitsData v) :=
  match encoding with
  | .text => inferInstanceAs (Decidable (v.nesting < Json.maxDepth))
  | .binary => inferInstanceAs (Decidable (v.messageDepth + 3 ≤ Protobuf.maxDepth))

/-! ## Envelopes -/

namespace Request

/-- The frame in which a request is sent. -/
def frame (id : RequestId) (encoding : Encoding) (r : Request) : Frame :=
  (Envelope.enclose id r).encode encoding

/-- The request as it is read. -/
def carried (encoding : Encoding) (r : Request) : Request :=
  { r with data := r.data.carried encoding.rounded }

namespace Envelope

/-! The envelope adds a level around the data, and its other members are texts. -/

theorem nesting_enclose (id : RequestId) (r : Request) :
    (Value.object (enclose id r).toMembers).nesting = r.data.nesting + 1 := by
  obtain ⟨path, data, kind, sid, topic⟩ := r
  cases sid <;> cases topic <;>
    simp [toMembers, enclose, Codec.textField, Codec.field, Value.nesting, Value.nesting.membersNesting,
      Nat.add_comm]

theorem messageDepth_enclose (id : RequestId) (r : Request) :
    (Value.object (enclose id r).toMembers).messageDepth = r.data.messageDepth + 3 := by
  obtain ⟨path, data, kind, sid, topic⟩ := r
  cases sid <;> cases topic <;>
    simp [toMembers, enclose, Codec.textField, Codec.field, Value.messageDepth,
      Value.messageDepth.membersDepth] <;>
    omega

theorem le_messageDepth_enclose (id : RequestId) (r : Request) :
    r.data.messageDepth + 3 ≤ (Value.ofMembers (enclose id r).toMembers).messageDepth := by
  have hdata : Members.get? "data" (Members.ofList (enclose id r).toMembers) = some r.data :=
    get?_ofList_toMembers (enclose id r) (by decide)
  have hdepth : 3 + r.data.messageDepth ≤ _ :=
    (Value.membersDepth_le.1 (Nat.le_refl _)).2 _ (Members.mem_of_get? hdata)
  rw [Nat.add_comm]
  exact hdepth

theorem admits_enclose {encoding : Encoding} {r : Request} (h : encoding.AdmitsData r.data) (id : RequestId) :
    encoding.Admits (.object (enclose id r).toMembers) := by
  cases encoding with
  | text =>
    show _ ≤ _
    rw [nesting_enclose]
    exact h
  | binary =>
    show _ ≤ _
    rw [messageDepth_enclose]
    exact h

theorem not_admits_enclose {encoding : Encoding} {r : Request} (h : ¬encoding.AdmitsData r.data)
    (id : RequestId) : ¬encoding.Admits (encoding.written (enclose id r).toMembers) := by
  intro hadmits
  apply h
  cases encoding with
  | text =>
    have hnest : _ ≤ _ := hadmits
    rw [Encoding.written, nesting_enclose] at hnest
    exact hnest
  | binary => exact Nat.le_trans (le_messageDepth_enclose id r) hadmits

end Envelope

variable {encoding : Encoding} {id : RequestId} {r : Request}

theorem decode_frame (hpath : r.path ≠ "") (hnest : encoding.AdmitsData r.data)
    (hlen : (r.frame id encoding).payload.length < 2 ^ 64) :
    Envelope.decode (r.frame id encoding) = .ok ((Envelope.enclose id r).carried encoding) :=
  Envelope.decode_encode hpath (Envelope.admits_enclose hnest id) hlen

theorem decode_frame_of_deep (hdeep : ¬encoding.AdmitsData r.data)
    (hlen : (r.frame id encoding).payload.length < 2 ^ 64) :
    Envelope.decode (r.frame id encoding) = .error (.unread encoding) := by
  rw [Envelope.decode, frame, Envelope.encode,
    Codec.decodeValue_encodeMembers_of_deep (Envelope.not_admits_enclose hdeep id) hlen]
  rfl

theorem contents_carried (hdata : r.data.isObject = true) :
    ((Envelope.enclose id r).carried encoding).contents = (some id, r.carried encoding) := by
  obtain ⟨path, data, kind, sid, topic⟩ := r
  cases data with
  | object members => simp [Envelope.carried, Envelope.enclose, Envelope.contents, carried, Value.unlessNull]
  | null | bool | number | text | list => cases hdata

end Request

/-! ## What a session makes of an accepted request -/

namespace Client.Remote

theorem ok_of_request {c c' : Remote} {id : RequestId} {r : Request} {inbox : Ref .inbox}
    (h : c.request id r = (c', .ok inbox)) :
    r.path ≠ "" ∧ r.data.isObject = true ∧ c'.queue = c.queue ++ [r.frame id c.encoding] ∧
      c'.desk = (c.desk.insert id).1 := by
  unfold request validate at h
  by_cases hpath : r.path.isEmpty = true
  · rw [if_pos hpath] at h
    cases h
  by_cases hdata : r.data.isObject = true
  · by_cases hclosed : c.isClosed = true
    · simp [hpath, hdata, hclosed] at h
    · simp only [hpath, hdata, hclosed, Bool.not_true, Bool.false_eq_true, if_false] at h
      obtain ⟨rfl, -⟩ := Prod.mk.inj h
      refine ⟨?_, hdata, rfl, rfl⟩
      intro hempty
      exact hpath (by simp [hempty])
  · simp [hpath, hdata] at h

/-- A request that the client accepted is dispatched where it arrives if its data can be read inside
an envelope. If not, the session tells a warning and nothing else, and the request stays pending. -/
theorem request_arrives {c c' : Remote} {id : RequestId} {r : Request} {inbox : Ref .inbox} {s : Session}
    (h : c.request id r = (c', .ok inbox))
    (hfits : (r.frame id c.encoding).payload.length ≤ s.limit) (hlimit : s.limit < 2 ^ 64) :
    c'.queue = c.queue ++ [r.frame id c.encoding] ∧ (c'.desk.find? id).isSome ∧
      (c.encoding.AdmitsData r.data →
        s.accept (r.frame id c.encoding) =
          ({ s with jobs := s.jobs + 1 }, some ⟨some id, c.encoding, r.carried c.encoding⟩)) ∧
      (¬c.encoding.AdmitsData r.data →
        s.accept (r.frame id c.encoding) =
          (s.tell (.warning (Codec.Error.unread c.encoding).message), none)) := by
  obtain ⟨hpath, hdata, hqueue, hdesk⟩ := ok_of_request h
  have hlen := Nat.lt_of_le_of_lt hfits hlimit
  refine ⟨hqueue, ?_, ?_, ?_⟩
  · simp [hdesk, Desk.insert, Desk.find?]
  · intro hnest
    unfold Session.accept
    simp only [Request.decode_frame hpath hnest hlen, Request.contents_carried hdata]
    rfl
  · intro hdeep
    unfold Session.accept
    simp only [Request.decode_frame_of_deep hdeep hlen]
    cases c.encoding <;> rfl

/-- Objects inside one another, `n` of them around an empty one. -/
def nested : Nat → Value
  | 0 => .object []
  | n + 1 => .object [("a", nested n)]

theorem messageDepth_nested (n : Nat) : (nested n).messageDepth = 3 * n + 1 := by
  induction n with
  | zero => rfl
  | succ n ih =>
    simp only [nested, Value.messageDepth, Value.messageDepth.membersDepth, ih]
    omega

/-- A client that writes in binary, with nothing pending. -/
def fresh : Remote where
  encoding := .binary
  limit := 1024
  wire := ⟨0⟩

/-- A session with nothing under way. -/
def listening : Session where
  router := ⟨0⟩
  scope := ⟨0⟩
  limit := 1024
  wire := ⟨0⟩

/-- A call whose data are such objects. -/
def asking (n : Nat) : Request where
  path := "/ok"
  data := nested n

/-- Thirty-three objects inside one another are dispatched; with one more the request goes unanswered. -/
theorem thirtyFour_unanswered :
    listening.accept ((asking 32).frame ⟨"1"⟩ .binary) =
        ({ listening with jobs := 1 }, some ⟨some ⟨"1"⟩, .binary, (asking 32).carried .binary⟩) ∧
      listening.accept ((asking 33).frame ⟨"1"⟩ .binary) =
        (listening.tell (.warning "invalid binary payload"), none) ∧
      ((fresh.request ⟨"1"⟩ (asking 33)).1.desk.find? ⟨"1"⟩).isSome := by
  have hlimit : listening.limit < 2 ^ 64 := by decide
  have haccepted (n : Nat) :
      fresh.request ⟨"1"⟩ (asking n) = ((fresh.request ⟨"1"⟩ (asking n)).1, .ok ⟨0⟩) := by
    cases n <;> rfl
  obtain ⟨-, -, hdispatched, -⟩ := request_arrives (haccepted 32)
    (show ((asking 32).frame ⟨"1"⟩ .binary).payload.length ≤ listening.limit by decide +kernel) hlimit
  obtain ⟨-, hpending, -, hwarned⟩ := request_arrives (haccepted 33)
    (show ((asking 33).frame ⟨"1"⟩ .binary).payload.length ≤ listening.limit by decide +kernel) hlimit
  refine ⟨hdispatched ?_, hwarned ?_, hpending⟩
  · show (nested 32).messageDepth + 3 ≤ 100
    simp [messageDepth_nested]
  · show ¬(nested 33).messageDepth + 3 ≤ 100
    simp [messageDepth_nested]

end Client.Remote

end Exchange
