-- SUMMARY: Which frames a session queues past its limit, and when the limit ends the session.
import Exchange.Proofs.Serving

/-!
# The frame limit

A frame past the limit is replaced by one that stands in for it, and that one
is queued whatever its length. So the limit is kept exactly as long as each
frame that is offered for the queue, or else what stands in for it, is within
the limit (`Serving.placed_within_limit_iff`). A stand-in bears the id of its
request, which the caller chooses: under any limit there is a request of no
more bytes whose rejection does not fit (`Session.exists_request_past_limit`).
-/

namespace Exchange

namespace Session

/-- The frame, or else what stands in for it, is within the limit. -/
def Answerable (limit : Nat) (encoding : Encoding) (r : Reply) : Prop :=
  Fits limit encoding r ∨ Fits limit encoding (standIn limit encoding r)

instance (limit : Nat) (encoding : Encoding) : DecidablePred (Answerable limit encoding) :=
  fun r => inferInstanceAs (Decidable (Fits limit encoding r ∨ Fits limit encoding (standIn limit encoding r)))

/-- The frame that is queued for a reply. -/
def queuedFor (limit : Nat) (encoding : Encoding) (r : Reply) : Frame :=
  if Fits limit encoding r then r.encode encoding else (standIn limit encoding r).encode encoding

/-- All frames that wait are within the limit. -/
def Within (s : Session) : Prop :=
  ∀ frame ∈ s.queue, frame.payload.length ≤ s.limit

variable {s : Session} {encoding : Encoding} {r : Reply}

theorem length_queuedFor_le_iff (limit : Nat) (encoding : Encoding) (r : Reply) :
    (queuedFor limit encoding r).payload.length ≤ limit ↔ Answerable limit encoding r := by
  unfold queuedFor Answerable
  split
  · rename_i h
    exact iff_of_true h (.inl h)
  · rename_i h
    exact (or_iff_right h).symm

theorem queue_enqueue (h : s.isWriting = true) (r : Reply) (encoding : Encoding) :
    (s.enqueue r encoding).1.queue = s.queue ++ [queuedFor s.limit encoding r] := by
  unfold queuedFor
  by_cases hr : Fits s.limit encoding r
  · simp [enqueue_of_fits h hr, hr]
  · simp [enqueue_of_not_fits h hr, hr]

/-! ## The writer -/

/-- Frames can all be written just when they are within the limit, and their lengths within four bytes. -/
theorem records_eq_none_iff (limit : Nat) (frames : List Frame) :
    (records limit frames).2 = none ↔
      ∀ frame ∈ frames, frame.payload.length ≤ limit ∧ frame.payload.length < 2 ^ 32 := by
  induction frames with
  | nil => simp [records]
  | cons frame frames ih =>
    simp only [records, Framing.encode, List.forall_mem_cons]
    by_cases hlimit : limit < frame.payload.length
    · simp [hlimit, Nat.not_le_of_lt hlimit]
    · by_cases hlength : 2 ^ 32 ≤ frame.payload.length
      · simp [hlimit, hlength, Nat.not_lt_of_le hlength]
      · simp only [if_neg hlimit, if_neg hlength]
        exact ih.trans (and_iff_right ⟨Nat.le_of_not_lt hlimit, Nat.lt_of_not_le hlength⟩).symm

/-- A writer that comes to no frame past the limit does not fail. -/
theorem writer_of_write {e : Framing.Error} (h : s.Within) (hlimit : s.limit < 2 ^ 32)
    (hfailed : s.write.1.writer = .failed e) : s.writer = .failed e := by
  have hnone : (records s.limit s.queue).2 = none := by
    rw [records_eq_none_iff]
    intro frame hmem
    exact ⟨h frame hmem, Nat.lt_of_le_of_lt (h frame hmem) hlimit⟩
  unfold write at hfailed
  simp only [hnone] at hfailed
  split at hfailed
  · cases hfailed
  · exact hfailed

/-- A writer that comes to a frame past the limit fails. -/
theorem write_fails (h : ∃ frame ∈ s.queue, s.limit < frame.payload.length) :
    ∃ e, s.write.1.writer = .failed e := by
  obtain ⟨frame, hmem, hlong⟩ := h
  have hsome : (records s.limit s.queue).2 ≠ none := by
    intro hnone
    have := ((records_eq_none_iff s.limit s.queue).1 hnone frame hmem).1
    omega
  obtain ⟨e, he⟩ := Option.ne_none_iff_exists'.1 hsome
  refine ⟨e, ?_⟩
  unfold write
  dsimp only
  rw [he]

end Session

/-! ## What is offered for the queue -/

/-- The frame that rejects what is no request, where an id could be recovered. -/
def Session.rejection (e : Codec.Error) (id : RequestId) : Reply :=
  { (Failure.invalid e.message).toReply with id := some id }

/-- What a frame is answered with at once. -/
def Session.rejections (frame : Frame) : List (Encoding × Reply) :=
  match Request.Envelope.decode frame with
  | .ok _ => []
  | .error e => e.requestId?.toList.map fun id => (frame.encoding, rejection e id)

/-- What a request hands over in its next turn. -/
def Answer.nextOffer (a : Answer) : List (Encoding × Reply) :=
  if a.ended then [] else (a.left.take 1).map fun r => (a.encoding, { r with id := a.id })

theorem Session.queue_accept {s : Session} (h : s.isWriting = true) (frame : Frame) :
    (s.accept frame).1.queue =
      s.queue ++ (rejections frame).map fun o => queuedFor s.limit o.1 o.2 := by
  unfold accept rejections
  cases Request.Envelope.decode frame with
  | ok e => simp
  | error e =>
    have htell : (s.tell (.warning e.message)).isWriting = true := h
    dsimp only
    cases e.requestId? with
    | none => simp [tell]
    | some id => exact queue_enqueue htell (rejection e id) frame.encoding

theorem Session.queue_accept_of_not_isWriting {s : Session} (h : s.isWriting = false) (frame : Frame) :
    (s.accept frame).1.queue = s.queue := by
  unfold accept
  cases Request.Envelope.decode frame with
  | ok e => rfl
  | error e =>
    have htell : (s.tell (.warning e.message)).isWriting = false := h
    dsimp only
    cases e.requestId? with
    | none => rfl
    | some id => exact queue_enqueue_of_not_isWriting htell (rejection e id) frame.encoding

theorem Answer.queue_hand (a : Answer) {s : Session} (h : s.isWriting = true) :
    (a.hand s).1.queue = s.queue ++ a.nextOffer.map fun o => Session.queuedFor s.limit o.1 o.2 := by
  unfold hand nextOffer
  split
  · simp
  · split
    · rename_i hleft
      simp [hleft]
    · rename_i r left hleft
      have hqueue := Session.queue_enqueue h { r with id := a.id } a.encoding
      split
      · rename_i heq
        rw [heq] at hqueue
        simpa [hleft] using hqueue
      · rename_i heq
        rw [heq] at hqueue
        simpa [hleft] using hqueue

/-! ## Runs -/

namespace Serving

/-- What an act offers for the queue, while there is a writer to take it. -/
def offers (sv : Serving) (act : Act) : List (Encoding × Reply) :=
  if sv.session.isWriting then
    match act with
    | .accept frame _ => Session.rejections frame
    | .hand i => (sv.answers[i]?.map Answer.nextOffer).getD []
    | _ => []
  else []

/-- What the acts of a run offer for the queue. -/
def offered (sv : Serving) : List Act → List (Encoding × Reply)
  | [] => []
  | act :: acts => sv.offers act ++ (sv.step act).offered acts

/-- The frames that an act puts into the queue. -/
def places (sv : Serving) (act : Act) : List Frame :=
  (sv.step act).session.queue.drop sv.session.queue.length

/-- The frames that a run puts into the queue. -/
def placed (sv : Serving) : List Act → List Frame
  | [] => []
  | act :: acts => sv.places act ++ (sv.step act).placed acts

variable {sv : Serving} {act : Act}

theorem session_accept (sv : Serving) (frame : Frame) (result : Result (List Reply)) :
    (sv.step (.accept frame result)).session = (sv.session.accept frame).1 := by
  unfold step
  dsimp only
  split
  · rename_i heq
    rw [heq]
  · rename_i heq
    rw [heq]

/-- An act empties the queue, or puts into it one frame for each offer. -/
theorem queue_step (sv : Serving) (act : Act) :
    (sv.offers act = [] ∧ (sv.step act).session.queue = []) ∨
      (sv.step act).session.queue =
        sv.session.queue ++ (sv.offers act).map fun o => Session.queuedFor sv.session.limit o.1 o.2 := by
  cases act with
  | abort =>
    right
    simp [offers, step]
  | write =>
    left
    refine ⟨by simp [offers], ?_⟩
    simp only [step, Session.write]
    split
    · rfl
    · split
      · rfl
      · rfl
  | finish result =>
    left
    refine ⟨by simp [offers], ?_⟩
    simp only [step, Session.finish]
    split
    · rfl
    · rfl
  | accept frame result =>
    right
    rw [session_accept]
    cases hw : sv.session.isWriting with
    | true => simp [Session.queue_accept hw, offers, hw]
    | false => simp [Session.queue_accept_of_not_isWriting hw, offers, hw]
  | hand i =>
    right
    unfold step offers
    dsimp only
    cases sv.answers[i]? with
    | none => simp
    | some a =>
      cases hw : sv.session.isWriting with
      | true => simp [a.queue_hand hw]
      | false => simp [a.queue_hand_of_not_isWriting hw]

theorem places_eq (sv : Serving) (act : Act) :
    sv.places act = (sv.offers act).map fun o => Session.queuedFor sv.session.limit o.1 o.2 := by
  unfold places
  rcases sv.queue_step act with ⟨hoffers, hqueue⟩ | hqueue
  · simp [hoffers, hqueue]
  · simp [hqueue]

theorem placed_eq (sv : Serving) (acts : List Act) :
    sv.placed acts = (sv.offered acts).map fun o => Session.queuedFor sv.session.limit o.1 o.2 := by
  induction acts generalizing sv with
  | nil => rfl
  | cons act acts ih => simp only [placed, offered, places_eq, ih, step_limit, List.map_append]

theorem run_limit (sv : Serving) (acts : List Act) :
    (sv.run acts).session.limit = sv.session.limit := by
  induction acts generalizing sv with
  | nil => rfl
  | cons act acts ih => exact (ih (sv.step act)).trans (step_limit sv act)

/-- A queue within the limit stays so while each offer can be answered within it. -/
theorem within_step (h : sv.session.Within)
    (hoffers : ∀ o ∈ sv.offers act, Session.Answerable sv.session.limit o.1 o.2) :
    (sv.step act).session.Within := by
  unfold Session.Within
  rw [step_limit]
  rcases sv.queue_step act with ⟨-, hqueue⟩ | hqueue
  · simp [hqueue]
  · rw [hqueue]
    intro frame hmem
    rcases List.mem_append.1 hmem with hmem | hmem
    · exact h frame hmem
    · obtain ⟨o, ho, rfl⟩ := List.mem_map.1 hmem
      exact (Session.length_queuedFor_le_iff _ _ _).2 (hoffers o ho)

/-- Only writing makes the writer fail, and only at a frame past the limit. -/
theorem writer_of_step {e : Framing.Error} (h : sv.session.Within) (hlimit : sv.session.limit < 2 ^ 32)
    (hfailed : (sv.step act).session.writer = .failed e) : sv.session.writer = .failed e := by
  cases act with
  | abort => exact hfailed
  | write => exact Session.writer_of_write h hlimit hfailed
  | finish result =>
    simp only [step, Session.finish] at hfailed
    cases hw : sv.session.isWriting with
    | true =>
      cases result <;> simp [hw, Session.tell] at hfailed
    | false =>
      cases result <;> simp [hw, Session.tell] at hfailed
  | accept frame result =>
    rw [session_accept, (Session.accept_frame frame).2] at hfailed
    exact hfailed
  | hand i =>
    unfold step at hfailed
    dsimp only at hfailed
    split at hfailed
    · rwa [(Answer.hand_frame _ _).2.1] at hfailed
    · exact hfailed

theorem writer_of_run {e : Framing.Error} {acts : List Act} (h : sv.session.Within)
    (hlimit : sv.session.limit < 2 ^ 32)
    (hoffered : ∀ o ∈ sv.offered acts, Session.Answerable sv.session.limit o.1 o.2)
    (hfailed : (sv.run acts).session.writer = .failed e) : sv.session.writer = .failed e := by
  induction acts generalizing sv with
  | nil => exact hfailed
  | cons act acts ih =>
    obtain ⟨hact, hacts⟩ := List.forall_mem_append.1 hoffered
    have hstep : (sv.step act).session.writer = .failed e := by
      refine ih (within_step h hact) ?_ ?_ hfailed
      · rwa [step_limit]
      · rwa [step_limit]
    exact writer_of_step h hlimit hstep

/-- After an offer that cannot be answered within the limit the next writing fails. -/
theorem write_fails_of_offers {o : Encoding × Reply} (ho : o ∈ sv.offers act)
    (hlong : ¬Session.Answerable sv.session.limit o.1 o.2) :
    ∃ e, ((sv.step act).step .write).session.writer = .failed e := by
  rcases sv.queue_step act with ⟨hoffers, -⟩ | hqueue
  · rw [hoffers] at ho
    cases ho
  · apply Session.write_fails
    refine ⟨Session.queuedFor sv.session.limit o.1 o.2, ?_, ?_⟩
    · rw [hqueue]
      exact List.mem_append_right _ (List.mem_map.2 ⟨o, ho, rfl⟩)
    · rw [step_limit]
      exact Nat.lt_of_not_le (mt (Session.length_queuedFor_le_iff _ _ _).1 hlong)

/-- A run keeps the limit exactly as long as each offered frame, or else what stands in for it, is
within the limit. Then the writer does not fail; and an offer of another kind makes the next writing
fail. -/
theorem placed_within_limit_iff (hqueue : sv.session.queue = []) (acts : List Act) :
    ((∀ frame ∈ sv.placed acts, frame.payload.length ≤ sv.session.limit) ↔
        ∀ o ∈ sv.offered acts, Session.Answerable sv.session.limit o.1 o.2) ∧
      ((∀ o ∈ sv.offered acts, Session.Answerable sv.session.limit o.1 o.2) →
        sv.session.limit < 2 ^ 32 →
        ∀ e, (sv.run acts).session.writer = .failed e → sv.session.writer = .failed e) ∧
      ∀ act, (∃ o ∈ (sv.run acts).offers act, ¬Session.Answerable sv.session.limit o.1 o.2) →
        ∃ e, (((sv.run acts).step act).step .write).session.writer = .failed e := by
  refine ⟨?_, ?_, ?_⟩
  · rw [placed_eq, List.forall_mem_map]
    apply forall₂_congr
    intro o _
    exact Session.length_queuedFor_le_iff _ _ _
  · intro hoffered hlimit e
    have hwithin : sv.session.Within := by simp [Session.Within, hqueue]
    exact writer_of_run hwithin hlimit hoffered
  · rintro act ⟨o, ho, hlong⟩
    rw [← run_limit sv acts] at hlong
    exact write_fails_of_offers ho hlong

end Serving

/-! ## Requests that no limit admits an answer to -/

/-- A frame is longer than its id, the quotes and the key of the id, and the braces. -/
theorem Reply.length_id_lt {r : Reply} {id : RequestId} (hid : r.id = some id) (hstatus : r.status.isSome) :
    id.text.toList.length + 9 < (r.encode .text).payload.length := by
  obtain ⟨status, hstatus⟩ := Option.isSome_iff_exists.1 hstatus
  obtain ⟨members, hmembers⟩ : ∃ members,
      r.toMembers = ("id", .text id.text) :: ("status", .ofNat status.toNat) :: members := by
    simp [toMembers, Codec.textField, Codec.field, hid, hstatus]
  have hquote := Json.length_le_flatMap_escape id.text.toList
  have hkey : (Json.printText "id").length = 4 := by decide
  have hprint : id.text.toList.length + 9 < (Json.print (.object r.toMembers)).length := by
    rw [hmembers]
    simp only [Json.print, Json.printMembers, List.length_cons, List.length_append, List.length_nil, hkey]
    simp only [Json.printText, Json.quote, List.length_cons, List.length_append, List.length_nil]
    omega
  exact Nat.lt_of_lt_of_le hprint (Utf8.length_le_encode _)

/-- An id that fills the limit but for nine bytes leaves no room for any answer. -/
theorem Session.not_answerable_of_id {limit : Nat} {r : Reply} {id : RequestId} (hid : r.id = some id)
    (hstatus : r.status.isSome) (hlong : limit ≤ id.text.toList.length + 9) :
    ¬Answerable limit .text r := by
  rintro (hfits | hfits)
  · have := Reply.length_id_lt hid hstatus
    unfold Fits at hfits
    omega
  · have := Reply.length_id_lt (r := standIn limit .text r) hid rfl
    unfold Fits at hfits
    omega

namespace Session

/-- An id of `n` letters. -/
def longId (n : Nat) : RequestId :=
  ⟨String.ofList (List.replicate n 'a')⟩

/-- A frame that holds nothing but an id. -/
def idFrame (n : Nat) : Frame :=
  ⟨.text, Codec.encodeMembers [("id", .text (longId n).text)] .text⟩

theorem length_idFrame (n : Nat) : (idFrame n).payload.length = n + 9 := by
  have hkey : Json.printText "id" = ['"', 'i', 'd', '"'] := by decide
  have hletters : (List.replicate n 'a').flatMap Json.escape = List.replicate n 'a' := by
    simp [List.flatMap_replicate, Json.escape]
  have hprint : Json.print (.object [("id", .text (longId n).text)]) =
      ['\x7b', '"', 'i', 'd', '"', ':', '"'] ++ List.replicate n 'a' ++ ['"', '\x7d'] := by
    simp only [Json.print, Json.printMembers, hkey]
    simp [Json.printText, Json.quote, longId, hletters]
  have hascii : ∀ c ∈ Json.print (.object [("id", .text (longId n).text)]), c.toNat < 0x80 := by
    rw [hprint]
    intro c hc
    simp only [List.mem_append, List.mem_cons, List.mem_replicate, List.not_mem_nil, or_false] at hc
    rcases hc with ((rfl | rfl | rfl | rfl | rfl | rfl | rfl) | ⟨-, rfl⟩) | rfl | rfl
    all_goals decide
  have hlength := Utf8.length_encode_of_ascii hascii
  rw [hprint] at hlength
  simp only [idFrame, Codec.encodeMembers, hprint, hlength]
  simp

theorem decode_idFrame (n : Nat) (h : n + 9 < 2 ^ 64) :
    Request.Envelope.decode (idFrame n) = .error (.envelope (.invalidPath (some (longId n)))) := by
  have hnest : Encoding.text.Admits (.object [("id", .text (longId n).text)]) :=
    show 1 ≤ Json.maxDepth by decide
  have hvalue := Codec.decodeValue_encodeMembers hnest (by rw [← length_idFrame] at h; exact h)
  unfold Request.Envelope.decode idFrame
  rw [hvalue]
  rfl

/-- Whatever the limit, there is a frame of no more bytes that cannot be answered within it. -/
theorem exists_request_past_limit {limit : Nat} (hleast : 9 ≤ limit) (hlimit : limit < 2 ^ 64) :
    ∃ frame : Frame, frame.payload.length ≤ limit ∧
      ∃ o ∈ rejections frame, ¬Answerable limit o.1 o.2 := by
  obtain ⟨n, rfl⟩ := Nat.exists_eq_add_of_le' hleast
  have hshort : (idFrame n).payload.length ≤ n + 9 := Nat.le_of_eq (length_idFrame n)
  let r := rejection (.envelope (.invalidPath (some (longId n)))) (longId n)
  refine ⟨idFrame n, hshort, (.text, r), ?_, ?_⟩
  · unfold rejections
    rw [decode_idFrame n hlimit]
    exact List.mem_singleton.2 rfl
  · have hid : r.id = some (longId n) := rfl
    apply not_answerable_of_id hid rfl
    simp [longId]

end Session

/-- Under a limit of sixty bytes a request is answered, and the rejection of a frame of ten bytes is
past the limit. -/
theorem Serving.rejection_past_sixty :
    (idle 60).session.queue = [] ∧ (Session.idFrame 1).payload.length = 10 ∧
      ¬∀ frame ∈ (idle 60).placed
          [.accept (ping.encode .text) (.ok { status := .ok, body := .empty }), .hand 0, .hand 0,
            .accept (Session.idFrame 1) (.ok { status := .ok, body := .empty })],
        frame.payload.length ≤ 60 := by
  refine ⟨rfl, Session.length_idFrame 1, ?_⟩
  intro hwithin
  have hoffered := (placed_within_limit_iff (show (idle 60).session.queue = [] from rfl) _).1.1 hwithin
  revert hoffered
  decide +kernel

end Exchange
