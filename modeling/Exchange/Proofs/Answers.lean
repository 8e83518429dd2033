-- SUMMARY: What the frames that a session queues for a request are read as.
import Exchange.Proofs.Envelope.Masking
import Exchange.Proofs.Failures
import Exchange.Proofs.Serving

/-!
# Answers as they are read

A session queues the frames of a result with the id of the request, as they are.
The frame of a failure is never masked by its fields, and so what stands in for
a frame past the limit is read as it was sent. Frames of a stream may hold extra
members that mask their own (`Serving.answers_own_iff`).
-/

namespace Exchange

/-! ## Frames of failures -/

/-- Members that hold neither lists nor objects can be read. -/
theorem Encoding.admits_flat (encoding : Encoding) {members : List (String × Value)}
    (h : ∀ m ∈ members, m.2.nesting = 0 ∧ m.2.messageDepth = 0) : encoding.Admits (.object members) := by
  cases encoding with
  | text =>
    refine Value.nesting_object_le.2 ⟨by decide, fun m hm => ?_⟩
    rw [(h m hm).1]
    decide
  | binary =>
    refine Value.membersDepth_le.2 ⟨by decide, fun m hm => ?_⟩
    rw [(h m hm).2]
    decide

/-- No field of a failure masks what its frame says, reserved or not. -/
theorem Failure.unmasked_toReply (f : Failure) {id : Option RequestId} {encoding : Encoding}
    (hnesting : encoding.Admits (encoding.written ({ f.toReply with id } : Reply).toMembers)) :
    ({ f.toReply with id } : Reply).Unmasked encoding := by
  refine ⟨hnesting, fun m hm hkey => ?_, fun _ n hn => ?_⟩
  · have hfree := f.extraFree_toReply m hm
    rw [Reply.isReserved, List.contains_iff_mem.2 hkey] at hfree
    cases hfree
  · cases hn

namespace Session

variable (limit : Nat) (encoding : Encoding) (r : Reply)

theorem ordered_standIn : (standIn limit encoding r).Ordered := by
  have h := (Failure.ordered_withStatus .internalError
    (oversize limit (r.encode encoding).payload.length).message).toReply
  exact ⟨h.message, h.sorted, h.extra⟩

/-- What stands in for a frame is flat, so that it can always be read. -/
theorem admits_standIn : encoding.Admits (.object (standIn limit encoding r).toMembers) := by
  refine encoding.admits_flat fun m hm => ?_
  have hown : (standIn limit encoding r).toMembers = Codec.textField "id" (r.id.map (·.text)) ++
      [("status", .ofNat Status.internalError.toNat), ("statusCode", .text Status.internalError.text),
        ("message", .text (oversize limit (r.encode encoding).payload.length).message), ("type", .text "error"),
        ("fin", .bool true)] := by
    simp only [Reply.toMembers, List.append_assoc]
    rfl
  rw [hown, List.mem_append] at hm
  rcases hm with hm | hm
  · cases hid : r.id with
    | none =>
      rw [hid] at hm
      cases hm
    | some id =>
      rw [hid] at hm
      rw [List.mem_singleton.1 hm]
      exact ⟨rfl, rfl⟩
  · simp only [List.mem_cons, List.not_mem_nil, or_false] at hm
    rcases hm with rfl | rfl | rfl | rfl | rfl
    · obtain ⟨n, -, hvalue⟩ := Reply.exists_ofNat_toNat .internalError
      rw [hvalue]
      exact ⟨rfl, rfl⟩
    all_goals exact ⟨rfl, rfl⟩

theorem unmasked_standIn : (standIn limit encoding r).Unmasked encoding :=
  Failure.unmasked_toReply _ (Codec.admits_written (admits_standIn limit encoding r))

/-- What is handed over is a frame that fits, or stands in for one. -/
theorem mem_handed {limit : Nat} {encoding : Encoding} {frames : List Reply} {r : Reply}
    (h : r ∈ handed limit encoding frames) :
    r ∈ frames ∧ Fits limit encoding r ∨ ∃ q ∈ frames, r = standIn limit encoding q := by
  induction frames with
  | nil => cases h
  | cons q frames ih =>
    rw [handed] at h
    split at h
    · rename_i hq
      rcases List.mem_cons.1 h with rfl | h
      · exact .inl ⟨List.mem_cons_self, hq⟩
      · rcases ih h with ⟨hmem, hr⟩ | ⟨q', hq', hr⟩
        · exact .inl ⟨List.mem_cons_of_mem _ hmem, hr⟩
        · exact .inr ⟨q', List.mem_cons_of_mem _ hq', hr⟩
    · exact .inr ⟨q, List.mem_cons_self, List.mem_singleton.1 h⟩

end Session

/-! ## Answers -/

namespace Serving

variable {sv : Serving}

/-- What a session queues for a request is the beginning of what is handed over for it. -/
theorem exists_answered {frame : Frame} {e : Request.Envelope}
    (hreq : Request.Envelope.decode frame = .ok e) (result : Result (List Reply)) {acts : List Act}
    (hopen : ((sv.step (.accept frame result)).run acts).session.isWriting = true) :
    let frames := result.frames.map fun r => { r with id := e.id }
    let given := Session.handed sv.session.limit frame.encoding frames
    ∃ answered, answered <+: given ∧
      (sv.step (.accept frame result)).queuedBy sv.answers.length acts =
        answered.map (·.encode frame.encoding) ∧
      (frames.length < acts.countP (Act.isTurnOf sv.answers.length) → answered = given) := by
  intro frames given
  let a : Answer := { id := e.id, encoding := frame.encoding, left := result.frames }
  have hi : (sv.step (.accept frame result)).answers[sv.answers.length]? = some a := by
    rw [step_accept_of_decode sv hreq]
    exact List.getElem?_concat_length
  obtain ⟨a', -, hqueued, hturns⟩ := queuedBy_append_expected hi hopen
  have hexpected : a.expected sv.session.limit = given := rfl
  rw [step_limit, hexpected] at hqueued
  obtain ⟨answered, left, hsplit, hanswered, hleft⟩ := List.map_eq_append_iff.1 hqueued.symm
  refine ⟨answered, ⟨left, hsplit.symm⟩, hanswered.symm, fun henough => ?_⟩
  have hzero : a'.turns = 0 := by
    have hlength : frames.length = result.frames.length := List.length_map _
    have hfull : a.turns = result.frames.length + 1 := rfl
    omega
  rw [Answer.expected_of_turns _ hzero, List.map_nil, List.map_eq_nil_iff] at hleft
  rw [hsplit, hleft, List.append_nil]

/-- Each frame that a session queues for a request is read with all that it says under its own keys just when no
extra member masks it, and under the id of the request unless an extra member gives another. If no frame that
fits is masked, then all are read as they were sent, and the last alone ends the request. -/
theorem answers_own_iff {frame : Frame} {e : Request.Envelope}
    (hreq : Request.Envelope.decode frame = .ok e) {result : Result (List Reply)}
    (hordered : ∀ r ∈ result.frames, r.Ordered) {acts : List Act}
    (hopen : ((sv.step (.accept frame result)).run acts).session.isWriting = true)
    (hlen : ∀ f ∈ (sv.step (.accept frame result)).queuedBy sv.answers.length acts, f.payload.length < 2 ^ 64) :
    let encoding := frame.encoding
    let frames := result.frames.map fun r => { r with id := e.id }
    let given := Session.handed sv.session.limit encoding frames
    let queued := (sv.step (.accept frame result)).queuedBy sv.answers.length acts
    ∃ answered, answered <+: given ∧ queued = answered.map (·.encode encoding) ∧
      (frames.length < acts.countP (Act.isTurnOf sv.answers.length) → answered = given) ∧
      (∀ r ∈ answered, r.id = e.id ∧ (r.ReadAsSent encoding ↔ r.Unmasked encoding) ∧
        ∀ r', Reply.decode (r.encode encoding) = .ok r' →
          r'.id = match Members.get? "id" r.extra with
            | some v => v.asText?.map (⟨·⟩)
            | none => e.id) ∧
      ((∀ r ∈ frames, Session.Fits sv.session.limit encoding r → r.Unmasked encoding) →
        ∃ read : List Reply, queued.map Reply.decode = read.map .ok ∧
          read.map Reply.own = answered.map (fun r => r.normal.own) ∧ (∀ r ∈ read, r.id = e.id) ∧
          (answered = given → ∃ before last, read = before ++ [last] ∧ (∀ r ∈ before, r.fin = false) ∧
            last.fin = true)) := by
  intro encoding frames given queued
  obtain ⟨answered, hbegins, hqueued, henough⟩ := exists_answered hreq result hopen
  have hanswered (r : Reply) (hr : r ∈ answered) : r ∈ frames ∧ Session.Fits sv.session.limit encoding r ∨
      ∃ q ∈ frames, r = Session.standIn sv.session.limit encoding q :=
    Session.mem_handed (hbegins.subset hr)
  have hids (r : Reply) (hr : r ∈ frames) : r.id = e.id := by
    obtain ⟨q, -, rfl⟩ := List.mem_map.1 hr
    rfl
  have hid (r : Reply) (hr : r ∈ answered) : r.id = e.id := by
    rcases hanswered r hr with ⟨hmem, -⟩ | ⟨q, hq, rfl⟩
    · exact hids r hmem
    · exact hids q hq
  have hsorted (r : Reply) (hr : r ∈ answered) : r.Ordered := by
    rcases hanswered r hr with ⟨hmem, -⟩ | ⟨q, -, rfl⟩
    · obtain ⟨q, hq, rfl⟩ := List.mem_map.1 hmem
      exact ⟨(hordered q hq).message, (hordered q hq).sorted, (hordered q hq).extra⟩
    · exact Session.ordered_standIn _ _ q
  have hlength (r : Reply) (hr : r ∈ answered) : (r.encode encoding).payload.length < 2 ^ 64 :=
    hlen _ (hqueued ▸ List.mem_map_of_mem hr)
  have hiff (r : Reply) (hr : r ∈ answered) := Reply.readAsSent_iff (hsorted r hr) (hlength r hr)
  refine ⟨answered, hbegins, hqueued, henough, fun r hr => ⟨hid r hr, hiff r hr, fun r' hdecode => ?_⟩,
    fun hfitting => ?_⟩
  · rw [← hid r hr]
    exact Reply.id_of_decode (hsorted r hr) (hlength r hr) hdecode
  · have hread : ∀ r ∈ answered, r.ReadAsSent encoding := by
      intro r hr
      refine (hiff r hr).2 ?_
      rcases hanswered r hr with ⟨hmem, hfits⟩ | ⟨q, -, rfl⟩
      · exact hfitting r hmem hfits
      · exact Session.unmasked_standIn _ _ q
    obtain ⟨read, hdecode, hown⟩ := Reply.exists_read hread
    have hqueuedRead := (congrArg (List.map Reply.decode) hqueued).trans hdecode
    refine ⟨read, hqueuedRead, hown, fun r hr => ?_, fun hall => ?_⟩
    · obtain ⟨q, hq, hsame⟩ := List.mem_map.1 (hown ▸ List.mem_map_of_mem hr)
      exact (congrArg Reply.id hsame).symm.trans (hid q hq)
    · have hcomplete : Complete frames := result.complete_frames.map (fun _ => rfl) fun _ => rfl
      refine Reply.last_alone_of_own hown ?_
      rw [hall]
      exact (hcomplete.handed sv.session.limit encoding).eq_append_singleton

/-- A frame with extra members that mark it as the last, and as an answer to another request. -/
def impostor : Reply where
  message := some (.text "hello")
  extra := [("fin", .bool true), ("id", .text "b")]

/-- The result of a handler that sends this frame and ends its stream. -/
def impostorResult : Result (List Reply) :=
  .ok { status := .ok, body := .stream [impostor] }

/-- The frame goes out for the request `a` and is read as the last answer to `b`; another last one follows. -/
theorem impostor_answers_another :
    let sv := (idle 1000).step (.accept (ping.encode .text) impostorResult)
    let queued := sv.queuedBy 0 [.hand 0, .hand 0, .hand 0]
    (queued.map fun f => (Reply.decode f).toOption.map fun r => (r.id, r.fin)) =
        [some (some ⟨"b"⟩, true), some (some ⟨"a"⟩, true)] ∧
      ∃ r : Reply, r.encode .text ∈ queued ∧ r.id = some ⟨"a"⟩ ∧ r.fin = false ∧ ¬r.ReadAsSent .text := by
  intro sv queued
  refine ⟨by decide +kernel, ?_⟩
  have hreq : Request.Envelope.decode (ping.encode .text) = .ok ping :=
    Request.Envelope.decode_encode (by decide) (by decide +kernel) (by decide +kernel)
  have hframes : impostorResult.frames =
      [{ impostor with status := some .ok, kind := some .response },
        { Reply.finish with status := some .ok }] := rfl
  have hordered : ∀ r ∈ impostorResult.frames, r.Ordered := by
    rw [hframes, List.forall_mem_cons, List.forall_mem_singleton]
    refine ⟨⟨fun v hv => ?_, ?_, ?_⟩, ⟨fun v hv => ?_, .nil, List.forall_mem_nil _⟩⟩
    · cases hv
      exact .text _
    · exact List.pairwise_pair.2 (by decide)
    · exact List.forall_mem_cons.2 ⟨.bool _, List.forall_mem_singleton.2 (.text _)⟩
    · cases hv
  obtain ⟨answered, -, hqueued, hall, hread, -⟩ := @answers_own_iff (idle 1000) _ _ hreq impostorResult hordered
    [.hand 0, .hand 0, .hand 0] (by decide +kernel) (by decide +kernel)
  have hgiven := hall (by decide)
  rw [Session.handed_of_fits (by decide +kernel)] at hgiven
  have hmem : { impostor with id := some ⟨"a"⟩, status := some .ok, kind := some .response } ∈ answered := by
    rw [hgiven]
    exact List.mem_cons_self
  obtain ⟨hid, hiff, -⟩ := hread _ hmem
  refine ⟨_, ?_, hid, rfl, fun hsent => ?_⟩
  · have hqueued : queued = answered.map (·.encode .text) := hqueued
    rw [hqueued]
    exact List.mem_map_of_mem hmem
  · cases (hiff.1 hsent).extra ("fin", .bool true) List.mem_cons_self (by decide)

end Serving

end Exchange
