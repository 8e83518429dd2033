-- SUMMARY: Requests on one connection do not interfere: each hears its own frames, whatever the others do.
import Exchange.Proofs.Client.Desk
import Exchange.Proofs.Serving

/-!
# Requests on one connection

All requests of a session queue their frames in one queue, and all that is
written goes down one stream of bytes. `Ledger` holds the books of a run: the
frames written, the frames that wait, and what each request has still to hand
over make up, request by request, the frames of its result. A client that reads
the bytes in any chunks tells each pending request the frames of its own
(`Client.Remote.hears_own`).
-/

namespace Exchange

theorem Session.records_of_fits {limit : Nat} {frames : List Frame}
    (h : ∀ f ∈ frames, f.payload.length ≤ limit ∧ f.payload.length < 2 ^ 32) :
    records limit frames = (frames.flatMap Framing.recordOf, none) := by
  induction frames with
  | nil => rfl
  | cons f frames ih =>
    obtain ⟨⟨hlimit, hlen⟩, hrest⟩ := List.forall_mem_cons.1 h
    rw [records, Framing.encode_of_fits hlimit hlen]
    dsimp only
    rw [ih hrest, List.flatMap_cons]

namespace Serving

/-! ## What is asked of a session -/

/-- A frame that a session takes in, and what it results in if it is a request. -/
structure Asked where
  frame : Frame
  result : Result (List Reply)

namespace Asked

def id? (q : Asked) : Option RequestId :=
  match Request.Envelope.decode q.frame with
  | .ok e => e.id
  | .error _ => none

/-- The frames of the result with the id of the request. -/
def frames (q : Asked) : List Reply :=
  q.result.frames.map fun r => { r with id := q.id? }

/-- The frames as they are sent, in the encoding of the request. -/
def sent (q : Asked) : List Frame :=
  q.frames.map (·.encode q.frame.encoding)

/-- The request bears an id, and all of its frames can be written and read. -/
structure Sound (q : Asked) (limit : Nat) : Prop where
  id : q.id?.isSome
  travels : ∀ r ∈ q.frames, r.Travels q.frame.encoding
  length : ∀ r ∈ q.frames, (r.encode q.frame.encoding).payload.length ≤ limit

variable {q : Asked} {limit : Nat}

theorem Sound.decode (h : q.Sound limit) (hlimit : limit < 2 ^ 32) {f : Frame} (hf : f ∈ q.sent) :
    ∃ r, Reply.decode f = .ok r ∧ r.id = q.id? := by
  obtain ⟨r, hr, rfl⟩ := List.mem_map.1 hf
  have hlen := h.length r hr
  refine ⟨r.carried q.frame.encoding,
    Reply.decode_encode (h.travels r hr) (by omega), ?_⟩
  obtain ⟨r', -, rfl⟩ := List.mem_map.1 hr
  rfl

theorem Sound.length_of_mem (h : q.Sound limit) {f : Frame} (hf : f ∈ q.sent) :
    f.payload.length ≤ limit := by
  obtain ⟨r, hr, rfl⟩ := List.mem_map.1 hf
  exact h.length r hr

end Asked

/-- What an act asks of a session. -/
def Act.asks : Act → List Asked
  | .accept frame result => [⟨frame, result⟩]
  | .hand _ | .write | .finish _ | .abort => []

/-- What is asked of a session in a run, in order. -/
def asked (acts : List Act) : List Asked :=
  acts.flatMap Act.asks

/-- The bytes that an act writes. -/
def writes (sv : Serving) : Act → Bytes
  | .write => sv.session.write.2
  | _ => []

/-- The bytes that a run writes. -/
def written (sv : Serving) : List Act → Bytes
  | [] => []
  | act :: acts => sv.writes act ++ (sv.step act).written acts

/-! ## The books of a run -/

/-- The frames `sent` were written and the frames `waiting` are queued, each with the number of its
request. With what a request has still to hand over these are the frames of its result. -/
structure Ledger (sv : Serving) (asked : List Asked) (sent waiting : List (Nat × Frame)) : Prop where
  count : sv.answers.length = asked.length
  queue : sv.session.queue = waiting.map (·.2)
  known : ∀ e ∈ sent ++ waiting, e.1 < asked.length
  own : ∀ i q, asked[i]? = some q → ∃ a left, sv.answers[i]? = some a ∧
    a.encoding = q.frame.encoding ∧ numbered i (sent ++ waiting) ++ left = q.sent ∧
    (sv.session.isWriting = true → left = (a.expected sv.session.limit).map (·.encode a.encoding))

namespace Ledger

variable {sv : Serving} {asks : List Asked} {sent waiting : List (Nat × Frame)} {limit : Nat}

/-- Every frame in the books is one of its request. -/
theorem mem_sent (h : Ledger sv asks sent waiting) {e : Nat × Frame} (he : e ∈ sent ++ waiting) :
    ∃ q, asks[e.1]? = some q ∧ e.2 ∈ q.sent := by
  have hq := List.getElem?_eq_getElem (h.known e he)
  obtain ⟨a, left, -, -, hown, -⟩ := h.own _ _ hq
  refine ⟨_, hq, ?_⟩
  rw [← hown]
  exact List.mem_append_left _ (List.mem_map.2 ⟨e, List.mem_filter.2 ⟨he, by simp⟩, rfl⟩)

theorem length_le (h : Ledger sv asks sent waiting) (hsound : ∀ q ∈ asks, q.Sound limit)
    {e : Nat × Frame} (he : e ∈ sent ++ waiting) : e.2.payload.length ≤ limit := by
  obtain ⟨q, hq, hmem⟩ := h.mem_sent he
  exact (hsound q (List.mem_of_getElem? hq)).length_of_mem hmem

theorem accept (h : Ledger sv asks sent waiting) {frame : Frame} {result : Result (List Reply)}
    (hsound : Asked.Sound ⟨frame, result⟩ limit) (hlimit : limit ≤ sv.session.limit) :
    Ledger (sv.step (.accept frame result)) (asks ++ [⟨frame, result⟩]) sent waiting := by
  cases hreq : Request.Envelope.decode frame with
  | error e =>
    have hid := hsound.id
    simp [Asked.id?, hreq] at hid
  | ok e =>
    have hid : Asked.id? ⟨frame, result⟩ = e.id := by simp [Asked.id?, hreq]
    rw [step_accept_of_decode sv hreq]
    refine ⟨by simp [h.count], h.queue, ?_, ?_⟩
    · intro e he
      rw [List.length_append]
      exact Nat.lt_add_right _ (h.known e he)
    · intro i q hq
      rcases Nat.lt_trichotomy i asks.length with hi | rfl | hi
      · rw [List.getElem?_append_left hi] at hq
        obtain ⟨a, left, ha, hrest⟩ := h.own i q hq
        exact ⟨a, left, by rw [List.getElem?_append_left (h.count ▸ hi), ha], hrest⟩
      · rw [List.getElem?_concat_length] at hq
        cases hq
        have hnone : numbered asks.length (sent ++ waiting) = [] :=
          numbered_eq_nil fun e he => Nat.ne_of_lt (h.known e he)
        refine ⟨_, Asked.sent ⟨frame, result⟩, by rw [← h.count, List.getElem?_concat_length], rfl,
          by rw [hnone, List.nil_append], fun _ => ?_⟩
        have hfits : ∀ r ∈ result.frames.map (fun r => { r with id := e.id }),
            Session.Fits sv.session.limit frame.encoding r := by
          intro r hr
          rw [← hid] at hr
          exact Nat.le_trans (hsound.length r hr) hlimit
        simp only [Answer.expected, Bool.false_eq_true, if_false]
        rw [Session.handed_of_fits hfits, Asked.sent, Asked.frames, hid]
      · rw [List.getElem?_eq_none (by simp; omega)] at hq
        cases hq

/-- A turn queues the front of what is left; a closed queue takes nothing. -/
theorem exists_left_of_hand (a : Answer) (s : Session) {left : List Frame}
    (hleft : s.isWriting = true → left = (a.expected s.limit).map (·.encode a.encoding)) :
    ∃ frames rest, (a.hand s).1.queue = s.queue ++ frames ∧ frames ++ rest = left ∧
      (s.isWriting = true → rest = ((a.hand s).2.expected s.limit).map (·.encode a.encoding)) := by
  cases hw : s.isWriting with
  | false =>
    refine ⟨[], left, ?_, rfl, fun h => ?_⟩
    · rw [a.queue_hand_of_not_isWriting hw, List.append_nil]
    · cases h
  | true =>
    obtain ⟨more, hqueue, hmore⟩ := a.hand_of_isWriting hw
    refine ⟨more.map (·.encode a.encoding), ((a.hand s).2.expected s.limit).map (·.encode a.encoding),
      hqueue, ?_, fun _ => rfl⟩
    rw [hleft hw, hmore, List.map_append]

theorem hand (h : Ledger sv asks sent waiting) (j : Nat) :
    ∃ more, Ledger (sv.step (.hand j)) asks sent (waiting ++ more) := by
  unfold step
  dsimp only
  cases hj : sv.answers[j]? with
  | none => exact ⟨[], by simpa using h⟩
  | some b =>
    have hlt : j < sv.answers.length := (List.getElem?_eq_some_iff.1 hj).1
    obtain ⟨b', left, hb', hencoding, hown, hleft⟩ :=
      h.own j _ (List.getElem?_eq_getElem (h.count ▸ hlt))
    obtain rfl : b = b' := Option.some.inj (hj.symm.trans hb')
    obtain ⟨frames, rest, hqueue, hrest, hexpected⟩ := exists_left_of_hand b sv.session hleft
    obtain ⟨hlimit, hwriter, -, hencoding'⟩ := b.hand_frame sv.session
    refine ⟨frames.map (j, ·), by simp [h.count], ?_, ?_, ?_⟩
    · rw [hqueue, h.queue, List.map_append, List.map_map, Function.comp_def, List.map_id']
    · intro e he
      rw [← List.append_assoc] at he
      rcases List.mem_append.1 he with he | he
      · exact h.known e he
      · obtain ⟨f, -, rfl⟩ := List.mem_map.1 he
        exact h.count ▸ hlt
    · intro i q hq
      dsimp only
      rw [isWriting_congr hwriter, hlimit]
      simp only [← List.append_assoc, numbered_append _ (sent ++ waiting), numbered_map]
      by_cases hij : j = i
      · subst hij
        obtain rfl := Option.some.inj ((List.getElem?_eq_getElem (h.count ▸ hlt)).symm.trans hq)
        refine ⟨(b.hand sv.session).2, rest, by simp [hlt], hencoding'.trans hencoding, ?_, ?_⟩
        · rw [if_pos rfl, List.append_assoc, hrest, hown]
        · rw [hencoding']
          exact hexpected
      · obtain ⟨a, left, ha, hrest⟩ := h.own i q hq
        refine ⟨a, left, by rw [List.getElem?_set_ne hij, ha], ?_⟩
        rw [if_neg hij, List.append_nil]
        exact hrest

theorem write (h : Ledger sv asks sent waiting) (hsound : ∀ q ∈ asks, q.Sound limit)
    (hlimit : limit ≤ sv.session.limit) (hlen : limit < 2 ^ 32) :
    Ledger (sv.step .write) asks (sent ++ waiting) [] ∧
      sv.writes .write = (waiting.map (·.2)).flatMap Framing.recordOf := by
  have hrecords : Session.records sv.session.limit sv.session.queue =
      ((waiting.map (·.2)).flatMap Framing.recordOf, none) := by
    rw [h.queue]
    refine Session.records_of_fits fun f hf => ?_
    obtain ⟨e, he, rfl⟩ := List.mem_map.1 hf
    have := h.length_le hsound (List.mem_append_right _ he)
    omega
  obtain ⟨hlimit', hwriting⟩ := sv.session.write_frame
  have hqueue : sv.session.write.1.queue = [] := by
    unfold Session.write
    rw [hrecords]
    dsimp only
    split <;> rfl
  refine ⟨⟨h.count, hqueue, by simpa using h.known, fun i q hq => ?_⟩, ?_⟩
  · obtain ⟨a, left, ha, hencoding, hown, hleft⟩ := h.own i q hq
    refine ⟨a, left, ha, hencoding, by rw [List.append_nil, hown], fun hw => ?_⟩
    rw [hleft (hwriting hw)]
    exact congrArg (fun limit => (a.expected limit).map _) hlimit'.symm
  · unfold writes Session.write
    rw [hrecords]

/-- Frames that wait are lost with the queue. -/
theorem close (h : Ledger sv asks sent waiting) {session : Session} (hqueue : session.queue = [])
    (hclosed : session.isWriting = false) : Ledger { sv with session } asks sent [] := by
  refine ⟨h.count, hqueue, fun e he => ?_, fun i q hq => ?_⟩
  · rw [List.append_nil] at he
    exact h.known e (List.mem_append_left _ he)
  · obtain ⟨a, left, ha, hencoding, hown, -⟩ := h.own i q hq
    refine ⟨a, numbered i waiting ++ left, ha, hencoding, ?_, fun hw => ?_⟩
    · rw [List.append_nil, ← List.append_assoc, ← numbered_append, hown]
    · rw [hclosed] at hw
      cases hw

theorem step (h : Ledger sv asks sent waiting) (act : Act)
    (hsound : ∀ q ∈ asks ++ act.asks, q.Sound limit) (hlimit : limit ≤ sv.session.limit)
    (hlen : limit < 2 ^ 32) :
    ∃ more waiting', Ledger (sv.step act) (asks ++ act.asks) (sent ++ more) waiting' ∧
      sv.writes act = (more.map (·.2)).flatMap Framing.recordOf := by
  cases act with
  | accept frame result =>
    refine ⟨[], waiting, ?_, rfl⟩
    rw [List.append_nil]
    exact h.accept (hsound _ (List.mem_append_right _ (List.mem_singleton.2 rfl))) hlimit
  | hand j =>
    obtain ⟨more, hmore⟩ := h.hand j
    refine ⟨[], waiting ++ more, ?_, rfl⟩
    rw [List.append_nil, Act.asks, List.append_nil]
    exact hmore
  | write =>
    obtain ⟨hwrite, hbytes⟩ := h.write (fun q hq => hsound q (List.mem_append_left _ hq)) hlimit hlen
    refine ⟨waiting, [], ?_, hbytes⟩
    rw [Act.asks, List.append_nil]
    exact hwrite
  | finish result =>
    have hqueue : (sv.session.finish result).queue = [] := by
      cases result <;> rfl
    refine ⟨[], [], ?_, rfl⟩
    rw [List.append_nil, Act.asks, List.append_nil]
    exact h.close hqueue (Session.finish_frame result).2
  | abort =>
    refine ⟨[], waiting, ?_, rfl⟩
    rw [List.append_nil, Act.asks, List.append_nil]
    exact ⟨h.count, h.queue, h.known, h.own⟩

/-- What a run writes are the records of frames in the books. -/
theorem run (h : Ledger sv asks sent waiting) (acts : List Act)
    (hsound : ∀ q ∈ asks ++ asked acts, q.Sound limit) (hlimit : limit ≤ sv.session.limit)
    (hlen : limit < 2 ^ 32) :
    ∃ more waiting', Ledger (sv.run acts) (asks ++ asked acts) (sent ++ more) waiting' ∧
      sv.written acts = (more.map (·.2)).flatMap Framing.recordOf := by
  induction acts generalizing sv asks sent waiting with
  | nil =>
    refine ⟨[], waiting, ?_, rfl⟩
    rw [asked, List.flatMap_nil, List.append_nil, List.append_nil]
    exact h
  | cons act acts ih =>
    have hasked : asks ++ asked (act :: acts) = (asks ++ act.asks) ++ asked acts := by
      rw [List.append_assoc, asked, List.flatMap_cons, asked]
    rw [hasked] at hsound ⊢
    obtain ⟨more, waiting₁, hstep, hbytes⟩ :=
      h.step act (fun q hq => hsound q (List.mem_append_left _ hq)) hlimit hlen
    obtain ⟨rest, waiting₂, hrun, hbytes'⟩ := ih hstep hsound (sv.step_limit act ▸ hlimit)
    refine ⟨more ++ rest, waiting₂, by rwa [← List.append_assoc], ?_⟩
    rw [written, hbytes, hbytes', List.map_append, List.flatMap_append]

/-- What can be read of the bytes so far are the first frames written. -/
theorem read_prefix (h : Ledger sv asks sent waiting) (hsound : ∀ q ∈ asks, q.Sound limit)
    (hlen : limit < 2 ^ 32) {max : Nat} (hmax : limit ≤ max) {bytes : Bytes}
    (hbytes : bytes <+: (sent.map (·.2)).flatMap Framing.recordOf) :
    ∃ n, (Framing.drain max bytes).frames = (sent.take n).map (·.2) ∧
      (Framing.drain max bytes).error = none ∧
      (bytes = (sent.map (·.2)).flatMap Framing.recordOf → sent.take n = sent) := by
  have hall : Framing.drain max ((sent.map (·.2)).flatMap Framing.recordOf) =
      ⟨sent.map (·.2), none, []⟩ := by
    refine Framing.drain_all_records fun f hf => ?_
    obtain ⟨e, he, rfl⟩ := List.mem_map.1 hf
    have := h.length_le hsound (List.mem_append_left _ he)
    omega
  obtain ⟨unread, hunread⟩ := hbytes
  have hprefix := Framing.frames_prefix max bytes unread
  rw [hunread, hall] at hprefix
  have hread := List.prefix_iff_eq_take.1 hprefix
  rw [← List.map_take] at hread
  refine ⟨_, hread, Framing.error_of_append (b := unread) (by rw [hunread, hall]), fun hwhole => ?_⟩
  rw [hwhole, hall, List.length_map, List.take_length]

end Ledger

/-! ## What the frames say -/

theorem eq_of_id? {asks : List Asked} (hids : (asks.map Asked.id?).Nodup) {i j : Nat} {q p : Asked}
    (hq : asks[i]? = some q) (hp : asks[j]? = some p) (h : q.id? = p.id?) : i = j := by
  have hi : (asks.map Asked.id?)[i]? = some q.id? := by rw [List.getElem?_map, hq, Option.map_some]
  have hj : (asks.map Asked.id?)[j]? = some q.id? := by rw [List.getElem?_map, hp, Option.map_some, h]
  exact (List.getElem?_inj (List.getElem?_eq_some_iff.1 hi).1 hids).1 (hi.trans hj.symm)

/-- Frames of requests decode, and those with the id of a request are those with its number. -/
theorem exists_replies {asks : List Asked} {limit : Nat} (hsound : ∀ q ∈ asks, q.Sound limit)
    (hlen : limit < 2 ^ 32) (hids : (asks.map Asked.id?).Nodup) (entries : List (Nat × Frame))
    (hentries : ∀ e ∈ entries, ∃ q, asks[e.1]? = some q ∧ e.2 ∈ q.sent) :
    ∃ replies : List Reply, (entries.map (·.2)).map Reply.decode = replies.map .ok ∧
      (∀ r ∈ replies, r.id.isSome) ∧
      ∀ i q, asks[i]? = some q →
        (replies.filter fun r => r.id = q.id?).map .ok = (numbered i entries).map Reply.decode := by
  induction entries with
  | nil => exact ⟨[], rfl, by simp, fun _ _ _ => rfl⟩
  | cons e entries ih =>
    obtain ⟨he, hrest⟩ := List.forall_mem_cons.1 hentries
    obtain ⟨p, hp, hmem⟩ := he
    obtain ⟨replies, hdecode, hsome, hown⟩ := ih hrest
    have hp' := hsound p (List.mem_of_getElem? hp)
    obtain ⟨r, hr, hrid⟩ := hp'.decode hlen hmem
    refine ⟨r :: replies, ?_, ?_, ?_⟩
    · rw [List.map_cons, List.map_cons, hr, hdecode, List.map_cons]
    · exact List.forall_mem_cons.2 ⟨hrid ▸ hp'.id, hsome⟩
    · intro i q hq
      have hsplit : numbered i (e :: entries) = numbered i [e] ++ numbered i entries :=
        numbered_append i [e] entries
      rw [hsplit, List.map_append, ← hown i q hq]
      by_cases hi : e.1 = i
      · obtain rfl : p = q := by
          rw [hi, hq] at hp
          exact (Option.some.inj hp).symm
        simp [numbered, hi, hrid, hr]
      · have hne : r.id ≠ q.id? := by
          rw [hrid]
          exact fun h => hi (eq_of_id? hids hp hq h)
        simp [numbered, hi, hne]

end Serving

/-! ## What each request hears -/

open Serving in
/-- A request hears the frames of its own result, each encoded and decoded once, in order and with
nothing in between: so far as they were written and read, and all of them in the end. -/
theorem Client.Remote.hears_own {s : Session} (hqueue : s.queue = []) {acts : List Act} {limit : Nat}
    (hsession : limit ≤ s.limit) (hlen : limit < 2 ^ 32) (hsound : ∀ q ∈ asked acts, q.Sound limit)
    (hids : ((asked acts).map Asked.id?).Nodup) {c : Remote} (hbuffer : c.buffer = [])
    (hclient : limit ≤ c.limit) {chunks : List Bytes}
    (hchunks : chunks.flatten <+: ({ session := s } : Serving).written acts) {i : Nat} {q : Asked}
    (hq : (asked acts)[i]? = some q) {id : RequestId} (hid : q.id? = some id) {inbox : Ref .inbox}
    (hfresh : c.desk.Tracks id inbox {}) :
    let sv := ({ session := s } : Serving).run acts
    let own := q.frames.map fun r => Reply.decode (r.encode q.frame.encoding)
    ∃ heard : List Reply, heard.map .ok <+: own ∧
      (chunks.foldl (fun c chunk => c.read chunk false) c).desk.Tracks id inbox (Progress.run {} heard) ∧
      (chunks.flatten = ({ session := s } : Serving).written acts → sv.session.isWriting = true →
        sv.session.queue = [] → (∃ a, sv.answers[i]? = some a ∧ a.ended = true) →
        heard.map .ok = own) := by
  intro sv own
  have hstart : Ledger { session := s } [] [] [] :=
    ⟨rfl, hqueue, by simp, fun i q hq => by cases hq⟩
  obtain ⟨sent, waiting, hbooks, hwritten⟩ := hstart.run acts hsound hsession hlen
  simp only [List.nil_append] at hbooks
  rw [hwritten] at hchunks ⊢
  have hdecoded : own = q.sent.map Reply.decode := by
    rw [Asked.sent, List.map_map]
    rfl
  obtain ⟨n, hread, herror, hwhole⟩ := hbooks.read_prefix hsound hlen hclient hchunks
  obtain ⟨replies, hdecode, hsome, hnumbered⟩ :=
    exists_replies hsound hlen hids (sent.take n) fun e he =>
      hbooks.mem_sent (List.mem_append_left _ (List.mem_of_mem_take he))
  have hheard := hnumbered i q hq
  rw [hid] at hheard
  obtain ⟨a, left, ha, -, hown, hleft⟩ := hbooks.own i q hq
  refine ⟨replies.filter fun r => r.id = some id, ?_, ?_, ?_⟩
  · have hsplit : numbered i sent = numbered i (sent.take n) ++ numbered i (sent.drop n) := by
      rw [← numbered_append, List.take_append_drop]
    rw [hheard, hdecoded, ← hown, numbered_append, hsplit, List.append_assoc, List.append_assoc,
      List.map_append]
    exact List.prefix_append _ _
  · rw [Client.Remote.foldl_read c chunks (by rw [hbuffer, Framing.drain_nil])
      (by rw [hbuffer, List.nil_append, herror])]
    rw [hbuffer, List.nil_append, hread]
    exact hfresh.foldl_accept hdecode hsome
  · intro hflat hopen hempty ⟨a', ha', hended⟩
    obtain rfl : a = a' := Option.some.inj (ha.symm.trans ha')
    have hwaiting : waiting = [] := List.map_eq_nil_iff.1 (hbooks.queue.symm.trans hempty)
    have hnone : left = [] := by
      rw [hleft hopen, Answer.expected, if_pos hended, List.map_nil]
    rw [hheard, hdecoded, ← hown, hwaiting, hnone, hwhole hflat, List.append_nil, List.append_nil]

/-- A request for `/ping` under an id, and an empty answer. -/
def Serving.pinged (id : RequestId) : Serving.Asked where
  frame := { Serving.ping with id := some id }.encode .text
  result := .ok { status := .ok, body := .empty }

/-- Two requests for `/ping` whose frames are queued in turns. -/
def Serving.pings : List Serving.Act :=
  [.accept (pinged ⟨"a"⟩).frame (pinged ⟨"a"⟩).result, .accept (pinged ⟨"b"⟩).frame (pinged ⟨"b"⟩).result,
    .hand 0, .hand 1, .hand 1, .hand 0, .hand 0, .hand 1, .write]

/-- A client that waits for the answers to both. -/
def Client.Remote.ofPings : Remote :=
  { limit := 1000, wire := ⟨0⟩, desk := ((({} : Desk).insert ⟨"a"⟩).1.insert ⟨"b"⟩).1 }

open Serving in
theorem Client.Remote.second_ping_hears_two :
    ∃ heard : List Reply, heard.length = 2 ∧
      ([((idle 1000).written pings).take 7, ((idle 1000).written pings).drop 7].foldl
        (fun c chunk => c.read chunk false) ofPings).desk.Tracks ⟨"b"⟩ ⟨1⟩ (Progress.run {} heard) := by
  have hid {id : RequestId} (hnest : Encoding.text.Admits (.object { ping with id := some id }.toMembers))
      (hlen : (pinged id).frame.payload.length < 2 ^ 64) : (pinged id).id? = some id := by
    have hreq : Request.Envelope.decode (pinged id).frame = .ok { ping with id := some id } :=
      Request.Envelope.decode_encode (e := { ping with id := some id })
        (show ping.path ≠ "" by decide) hnest hlen
    rw [Asked.id?, hreq]
  have ha : (pinged ⟨"a"⟩).id? = some ⟨"a"⟩ := hid (by decide +kernel) (by decide +kernel)
  have hb : (pinged ⟨"b"⟩).id? = some ⟨"b"⟩ := hid (by decide +kernel) (by decide +kernel)
  have hsound {id : RequestId} (hid : (pinged id).id? = some id)
      (hall : ∀ r ∈ (pinged id).result.frames.map fun r => { r with id := some id },
        r.Travels .text ∧ Session.Fits 1000 .text r) : (pinged id).Sound 1000 := by
    have hframes : (pinged id).frames = (pinged id).result.frames.map fun r => { r with id := some id } := by
      rw [Asked.frames, hid]
    rw [← hframes] at hall
    exact ⟨by rw [hid]; rfl, fun r hr => (hall r hr).1, fun r hr => (hall r hr).2⟩
  have hasked : asked pings = [pinged ⟨"a"⟩, pinged ⟨"b"⟩] := rfl
  have hflat : [((idle 1000).written pings).take 7, ((idle 1000).written pings).drop 7].flatten =
      (idle 1000).written pings := by
    simp
  have hall : ∀ q ∈ asked pings, q.Sound 1000 := by
    rw [hasked]
    simp only [List.mem_cons, List.not_mem_nil, or_false, forall_eq_or_imp, forall_eq]
    exact ⟨hsound ha (by decide +kernel), hsound hb (by decide +kernel)⟩
  have hids : ((asked pings).map Asked.id?).Nodup := by
    rw [hasked, List.map_cons, List.map_cons, ha, hb]
    decide
  have hfresh : ofPings.desk.Tracks ⟨"b"⟩ ⟨1⟩ {} := Desk.tracks_insert rfl (by decide)
  obtain ⟨heard, -, htracks, hwhole⟩ := hears_own (s := (idle 1000).session) (c := ofPings) (i := 1) rfl
    (Nat.le_refl 1000) (by decide) hall hids rfl (Nat.le_refl 1000)
    (by rw [hflat]; exact List.prefix_rfl) (by rw [hasked]; rfl) hb hfresh
  have hlength := congrArg List.length (hwhole hflat (by decide +kernel)
    (List.isEmpty_iff.1 (by decide +kernel)) ((Option.any_eq_true _ _).1 (by decide +kernel)))
  rw [List.length_map, List.length_map] at hlength
  exact ⟨heard, hlength, htracks⟩

end Exchange
