-- SUMMARY: The streams of a client's requests, over any life of its connection.
import Exchange.Proofs.Client.Lifetime

/-!
# The streams of a client

At any point of a life no pending request is finished. The stream of a request
has received what the request made of its news, in order: nothing follows a
terminal event, and what reports a frame reports one that bears its id. A frame
that cannot be matched warns all, and the end of the connection is told to all
that are pending and leaves none (`Life.streams_orderly`).
-/

namespace Exchange.Client

/-! ## Events that report frames -/

def Event.isReport : Event → Bool
  | .response _ _ | .finish | .error _ _ => true
  | .transportError _ | .warning _ | .close => false

theorem Progress.frame_of_told {p : Progress} {input : Input} {e : Event} (h : e ∈ p.told input)
    (hreport : e.isReport = true) : ∃ r status, input = .frame r ∧ e ∈ eventsOf status r := by
  cases input with
  | frame r => exact ⟨r, _, rfl, h⟩
  | warning | closed | failed =>
    obtain rfl := List.mem_singleton.1 h
    cases hreport

theorem Turn.frame_of_newsFor {t : Turn} {id : RequestId} {r : Reply} (h : t.newsFor id = some (.frame r)) :
    ∃ f, t = .frame f ∧ Reply.decode f = .ok r ∧ r.id = some id := by
  cases t with
  | frame f =>
    refine ⟨f, rfl, ?_⟩
    simp only [newsFor] at h
    split at h
    · cases h
    · rename_i r' hdecode
      split at h
      · rename_i hid
        cases h
        exact ⟨hdecode, hid⟩
      · cases h
    · cases h
  | request | take | drop | finish | fail | disconnect => cases h

/-- A closed client refuses requests. -/
theorem Remote.request_of_isClosed {c : Remote} (h : c.isClosed = true) (id : RequestId) {r : Request}
    (hvalid : validate r = .ok ()) : c.request id r = (c, .error .closed) := by
  simp only [request, hvalid, h, if_true]

namespace Life

variable {l : Life} {id : RequestId} {inbox : Ref .inbox} {full : Progress} {t : Turn} {turns : List Turn}

/-! ## What a stream has received -/

/-- What a request by itself makes of the turns after it was sent. -/
def heard (id : RequestId) (turns : List Turn) : Progress :=
  ({} : Progress).hear (turns.filterMap (·.newsFor id))

/-- What the stream of a request has received, some turns after the request was sent. -/
structure Received (l : Life) (id : RequestId) (inbox : Ref .inbox) (turns : List Turn) : Prop where
  part : l.received inbox <+: (heard id turns).queue
  whole : .drop inbox ∉ turns → l.received inbox = (heard id turns).queue
  pending : .drop inbox ∉ turns → ((l.desk.find? id).isSome = !(heard id turns).finished)
  /-- Nothing follows a terminal event. -/
  last : (l.received inbox).Pairwise fun e _ => e.isTerminal = false
  own : ∀ e ∈ l.received inbox, e.isReport = true →
    ∃ f r status, .frame f ∈ turns ∧ Reply.decode f = .ok r ∧ r.id = some id ∧ e ∈ Progress.eventsOf status r

theorem frame_of_heard {e : Event} (h : e ∈ (heard id turns).queue) (hreport : e.isReport = true) :
    ∃ f r status, .frame f ∈ turns ∧ Reply.decode f = .ok r ∧ r.id = some id ∧
      e ∈ Progress.eventsOf status r := by
  rcases Progress.mem_queue_hear h with hnone | ⟨p, input, hinput, htold⟩
  · cases hnone
  · obtain ⟨r, status, rfl, he⟩ := Progress.frame_of_told htold hreport
    obtain ⟨t, ht, hnews⟩ := List.mem_filterMap.1 hinput
    obtain ⟨f, rfl, hdecode, hid⟩ := Turn.frame_of_newsFor hnews
    exact ⟨f, r, status, ht, hdecode, hid, he⟩

/-- From the turn in which a request is accepted, its stream receives what the request hears. -/
theorem Sound.received_run (h : l.Sound) {r : Request} (hfresh : l.Fresh (.request id r :: turns))
    (hok : (l.client.request id r).2 = .ok inbox) :
    (l.run (.request id r :: turns)).Received id inbox turns := by
  have hsound : (l.step (.request id r)).Sound := h.step fun _ => hfresh.head
  have hlater := hfresh.tail h.desk
  have hid := hfresh.not_mem rfl
  have hhears := h.hears_request (hfresh.head rfl) hok
  have htells := Tells.run (.inl hhears) hsound hlater hid
  have horderly := Progress.orderly_hear (turns.filterMap (·.newsFor id))
  exact {
    part := htells.received
    whole := fun hkept => (hhears.run hsound hlater hid hkept).received
    pending := fun hkept => (hhears.run hsound hlater hid hkept).entry
    last := horderly.order.sublist htells.received.sublist
    own := fun e he => frame_of_heard (htells.received.subset he) }

/-! ## The next turn -/

/-- Of a pending request whose stream is read no end was told. -/
theorem Sound.hears_of_isRead (h : l.Sound) {q : Pending} (hq : q ∈ l.desk.pending)
    (hread : l.desk.isRead q.inbox = true) :
    ∃ full : Progress, full.Orderly ∧ full.finished = false ∧ l.Hears q.id q.inbox full := by
  obtain ⟨full, horderly, hhears | hleft⟩ := h.told q hq
  · have hentry := hhears.entry
    rw [h.desk.find?_of_mem hq] at hentry
    exact ⟨full, horderly, by simpa using hentry.symm, hhears⟩
  · rw [Desk.isRead_eq, hleft.dropped] at hread
    cases hread

/-- A frame that cannot be matched to a request adds one warning to each stream, and finishes no request. -/
structure WarnedBy (l : Life) (f : Frame) (text : String) : Prop where
  pending : (l.step (.frame f)).desk.pending = l.desk.pending.filter fun q => l.desk.isRead q.inbox
  warning : ∀ q ∈ l.desk.pending, l.desk.isRead q.inbox = true →
    (l.step (.frame f)).received q.inbox = l.received q.inbox ++ [.warning text]

theorem Sound.warnedBy (h : l.Sound) {f : Frame} {text : String} (hcomplaint : Desk.complaint? f = some text) :
    l.WarnedBy f text := by
  rcases l.desk.accept_cases f with ⟨text', hcomplaint', hall⟩ | ⟨r, other, -, -, hcomplaint', -⟩
  · obtain rfl : text' = text := Option.some.inj (hcomplaint'.symm.trans hcomplaint)
    refine ⟨?_, fun q hq hread => ?_⟩
    · show (l.desk.accept f).pending = _
      rw [hall]
      exact Desk.pending_warnAll h.desk text'
    · obtain ⟨full, -, hopen, hhears⟩ := h.hears_of_isRead hq hread
      have hnews : (Turn.frame f).newsFor q.id = some (.warning text') := by
        simp only [Turn.newsFor, hcomplaint]
      have hnext := hhears.step (t := .frame f) h.desk (by simp [Turn.id?]) (by simp)
      rw [hnews] at hnext
      rw [hnext.received, hhears.received]
      exact congrArg Progress.queue (Progress.accept_warning hopen text')
  · rw [hcomplaint'] at hcomplaint
    cases hcomplaint

/-- A frame under an id that no pending request has is nothing. -/
theorem step_frame_of_not_mem {f : Frame} {r : Reply} (hdecode : Reply.decode f = .ok r) (hid : r.id = some id)
    (hunknown : id ∉ l.desk.ids) : l.step (.frame f) = l := by
  have hnone : l.desk.find? id = none :=
    Desk.find?_eq_none_iff.2 fun q hq heq => hunknown (heq ▸ List.mem_map_of_mem hq)
  have hsame : l.desk.accept f = l.desk := by
    rw [Desk.accept_of_decode hdecode hid]
    simp only [Desk.feed, hnone]
  show l.onDesk (l.desk.accept f) = l
  rw [hsame]
  rfl

/-- The end of the connection is the one terminal event of each request that is pending, and none is
pending after it. -/
structure EndedBy (l : Life) (t : Turn) (failure : Option String) : Prop where
  pending : (l.step t).desk.pending = []
  farewell : ∀ q ∈ l.desk.pending, l.desk.isRead q.inbox = true →
    (l.step t).received q.inbox = l.received q.inbox ++ [Desk.farewell failure] ∧
      ∀ e ∈ l.received q.inbox, e.isTerminal = false

theorem Sound.endedBy (h : l.Sound) {failure : Option String} (hend : t.ending? = some failure) :
    l.EndedBy t failure := by
  refine ⟨?_, fun q hq hread => ?_⟩
  · rw [(desk_step_of_ending hend).1]
    exact Desk.pending_shut h.desk failure
  · obtain ⟨full, horderly, hopen, hhears⟩ := h.hears_of_isRead hq hread
    have hid : t.id? ≠ some q.id := by
      cases t with
      | request => cases hend
      | frame | take | drop | finish | fail | disconnect => exact nofun
    have hkept : t ≠ .drop q.inbox := by
      rintro rfl
      cases hend
    have hnext := hhears.step h.desk hid hkept
    rw [newsFor_of_ending hend] at hnext
    rw [hnext.received, hhears.received]
    exact ⟨congrArg Progress.queue (Progress.accept_ending hopen failure), horderly.unfinished hopen⟩

/-! ## Whole lives -/

/-- A client before its first turn. -/
def start (c : Remote) : Life :=
  { client := c }

theorem sound_start {c : Remote} (hc : c.desk = {}) : (start c).Sound := by
  have hnil : c.desk.pending = [] := congrArg Desk.pending hc
  refine ⟨Desk.sound_of_pending_nil hnil, fun _ => hnil, fun _ _ => rfl, fun q hq => ?_⟩
  rw [show (start c).desk.pending = [] from hnil] at hq
  cases hq

/-- Over any life of a client no pending request is finished, and each stream receives what its request
hears, up to one terminal event; frames that cannot be matched warn all pending requests, frames under
other ids change nothing, and with the end of the connection all requests end. -/
theorem streams_orderly {c : Remote} (hc : c.desk = {}) {turns : List Turn}
    (hids : (turns.filterMap Turn.id?).Nodup) :
    let l := (start c).run turns
    (∀ q ∈ l.desk.pending, q.progress.finished = false) ∧
      (∀ before id r after inbox, turns = before ++ .request id r :: after →
        (((start c).run before).client.request id r).2 = .ok inbox → l.Received id inbox after) ∧
      (∀ f text, Desk.complaint? f = some text → l.WarnedBy f text) ∧
      (∀ f r id, Reply.decode f = .ok r → r.id = some id → id ∉ l.desk.ids → l.step (.frame f) = l) ∧
      (∀ t failure, t.ending? = some failure → l.EndedBy t failure) ∧
      ((∃ t ∈ turns, t.ending?.isSome = true) →
        l.desk.pending = [] ∧
          ∀ id r, validate r = .ok () → l.client.request id r = (l.client, .error .closed)) := by
  intro l
  have hstart := sound_start hc
  have hfresh : (start c).Fresh turns := by
    unfold Fresh
    rw [show (start c).desk.ids = [] from congrArg Desk.ids hc]
    exact hids
  have hsound : l.Sound := hstart.run hfresh
  refine ⟨fun q hq => (hsound.desk.resting q hq).unfinished, ?_, fun f text => hsound.warnedBy,
    fun f r id => step_frame_of_not_mem, fun t failure => hsound.endedBy, ?_⟩
  · rintro before id r after inbox rfl hok
    have hrun : l = ((start c).run before).run (.request id r :: after) := List.foldl_append
    rw [hrun]
    exact (hstart.run hfresh.of_append).received_run (hfresh.run hstart) hok
  · intro hend
    have hclosed : l.client.isClosed = true := by
      rw [closed_run hstart hfresh, List.any_eq_true.2 hend, Bool.or_true]
    exact ⟨hsound.shut hclosed, fun id r => Remote.request_of_isClosed hclosed id⟩

/-- A client that writes and reads text. -/
def idle : Remote where
  limit := 1024
  wire := ⟨0⟩

/-- Of two requests the first is answered, after something that is no frame, and the second is not. -/
def story : List Turn :=
  [.request ⟨"a"⟩ { path := "/a", data := .object [] }, .request ⟨"b"⟩ { path := "/b", data := .object [] },
    .frame ⟨.text, [0x2a]⟩, .frame (({ Reply.finish with id := some ⟨"a"⟩ }).encode .text), .fail "broken",
    .frame (({ Reply.finish with id := some ⟨"b"⟩ }).encode .text)]

theorem story_streams :
    let l := (start idle).run story
    l.Received ⟨"a"⟩ ⟨0⟩ (story.drop 1) ∧ l.Received ⟨"b"⟩ ⟨1⟩ (story.drop 2) ∧ l.desk.pending = [] ∧
      (l.received ⟨0⟩).map Event.isTerminal = [false, true] ∧
      (l.received ⟨1⟩).map Event.isTerminal = [false, true] := by
  have hids : (story.filterMap Turn.id?).Nodup := by decide
  obtain ⟨-, hreceived, -, -, -, hended⟩ := @streams_orderly idle rfl story hids
  exact ⟨hreceived [] _ _ _ _ rfl rfl, hreceived (story.take 1) _ _ _ _ rfl rfl,
    (hended ⟨.fail "broken", by simp [story], rfl⟩).1, by decide +kernel, by decide +kernel⟩

end Life

end Exchange.Client
