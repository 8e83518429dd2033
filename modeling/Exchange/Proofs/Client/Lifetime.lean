-- SUMMARY: What the requests of a client hear over the whole life of its connection.
import Exchange.Client.Remote
import Exchange.Proofs.Client.News

/-!
# The life of a connection

A `Life` is a client together with what its callers have read. Requests are
sent, frames come in, callers read or drop the streams of their requests, and
the connection ends, in any order. Whatever happens, a stream receives what a
request by itself makes of the frames that bear its id, of the warnings, and of
the end; a shut client has nothing pending (`Life.orderly`).
-/

namespace Exchange.Client

/-! ## Requests -/

theorem Remote.request_cases (c : Remote) (id : RequestId) (r : Request) :
    (∃ e, (c.request id r).2 = .error e ∧ (c.request id r).1 = c) ∨
      (validate r = .ok () ∧ c.isClosed = false ∧ (c.request id r).1.desk = (c.desk.insert id).1 ∧
        (c.request id r).2 = .ok c.desk.inboxes.next) := by
  unfold request
  cases hvalid : validate r with
  | error e => exact .inl ⟨e, rfl, rfl⟩
  | ok =>
    cases hclosed : c.isClosed with
    | true => exact .inl ⟨.closed, rfl, rfl⟩
    | false => exact .inr ⟨rfl, rfl, rfl, rfl⟩

/-! ## Lives -/

/-- What can happen to a client, one thing at a time. -/
inductive Turn where
  /-- A request is sent, under an id of its own. -/
  | request (id : RequestId) (r : Request)
  | frame (frame : Frame)
  /-- A caller reads the next event of a request. -/
  | take (inbox : Ref .inbox)
  /-- A caller drops the stream of a request. -/
  | drop (inbox : Ref .inbox)
  /-- The connection ends. -/
  | finish
  /-- The connection fails. -/
  | fail (reason : String)
  | disconnect

namespace Turn

def id? : Turn → Option RequestId
  | request id _ => some id
  | _ => none

/-- How a turn ends the connection, if it does: without a failure or with one. -/
def ending? : Turn → Option (Option String)
  | finish | disconnect => some none
  | fail reason => some (some reason)
  | _ => none

/-- What a turn is to the request that bears an id. -/
def newsFor (id : RequestId) : Turn → Option Progress.Input
  | frame f =>
    match Desk.complaint? f, Reply.decode f with
    | some text, _ => some (.warning text)
    | none, .ok r => if r.id = some id then some (.frame r) else none
    | none, .error _ => none
  | finish | disconnect => some .closed
  | fail reason => some (.failed reason)
  | _ => none

end Turn

/-- What reading is to a client, as turns: the frames, and the end if it is found. -/
def Remote.turnsOf (c : Remote) (bytes : Bytes) (closed : Bool) : List Turn :=
  let d := (if closed then Framing.drainEnd else Framing.drain) c.limit (c.buffer ++ bytes)
  d.frames.map .frame ++
    match d.error with
    | some e => [.fail e.message]
    | none => if closed then [.finish] else []

/-- A client, and the events that its callers have read so far. -/
structure Life where
  client : Remote
  taken : Ref .inbox → List Event := fun _ => []

namespace Life

def desk (l : Life) : Desk :=
  l.client.desk

def onDesk (l : Life) (d : Desk) : Life :=
  { l with client := { l.client with desk := d } }

/-- What the stream of a request has received: what was read of it, and what waits. -/
def received (l : Life) (inbox : Ref .inbox) : List Event :=
  l.taken inbox ++ l.desk.waiting inbox

def step (l : Life) : Turn → Life
  | .request id r => { l with client := (l.client.request id r).1 }
  | .frame f => l.onDesk (l.desk.accept f)
  | .take inbox =>
    { l.onDesk (l.desk.modifyInbox inbox fun c => c.pull.1) with
      taken := fun i => if i = inbox then l.taken i ++ (l.desk.waiting i).head?.toList else l.taken i }
  | .drop inbox => l.onDesk (l.desk.modifyInbox inbox Channel.close)
  | .finish => { l with client := { l.client with reading := false }.shut none }
  | .fail reason => { l with client := { l.client with reading := false }.shut (some reason) }
  | .disconnect => { l with client := l.client.disconnect }

def run (l : Life) (turns : List Turn) : Life :=
  turns.foldl step l

/-! ## Steps -/

section Steps

variable {l l' : Life} {id : RequestId} {inbox : Ref .inbox} {full : Progress} {t : Turn}

theorem desk_step_of_ending {failure : Option String} (h : t.ending? = some failure) :
    (l.step t).desk = l.desk.shut failure ∧ (l.step t).taken = l.taken := by
  cases t with
  | finish | disconnect | fail =>
    cases h
    exact ⟨rfl, rfl⟩
  | request | frame | take | drop => cases h

theorem newsFor_of_ending {failure : Option String} (h : t.ending? = some failure) (id : RequestId) :
    t.newsFor id = some (Desk.ending failure) := by
  cases t with
  | finish | disconnect | fail =>
    cases h
    rfl
  | request | frame | take | drop => cases h

/-- The request `id` has come as far as `full`, and its caller reads what it hears. -/
def Hears (l : Life) (id : RequestId) (inbox : Ref .inbox) (full : Progress) : Prop :=
  ∃ rest, l.desk.Tracks id inbox { full with queue := rest } ∧ l.taken inbox ++ rest = full.queue

/-- A caller dropped the stream of its request, having read the beginning of what the request heard. -/
structure Left (l : Life) (inbox : Ref .inbox) (full : Progress) : Prop where
  dropped : l.desk.stance inbox = some (false, [])
  read : l.taken inbox <+: full.queue

theorem Hears.received (h : l.Hears id inbox full) : l.received inbox = full.queue := by
  obtain ⟨rest, htracks, htaken⟩ := h
  rw [Life.received, htracks.waiting.1]
  exact htaken

theorem Hears.entry (h : l.Hears id inbox full) : (l.desk.find? id).isSome = !full.finished := by
  obtain ⟨rest, htracks, -⟩ := h
  rw [htracks.entry]
  dsimp only
  cases full.finished <;> rfl

theorem waiting_of_stance {d : Desk} (h : d.stance inbox = some (false, [])) : d.waiting inbox = [] := by
  unfold Desk.stance at h
  obtain ⟨c, hget, hc⟩ := Option.map_eq_some_iff.1 h
  obtain ⟨hreading, hqueue⟩ := Prod.mk.inj hc
  rw [hreading] at hqueue
  simp only [Desk.waiting, hget, Option.map_some, Option.getD_some]
  exact hqueue

theorem Left.received (h : l.Left inbox full) : l.received inbox <+: full.queue := by
  rw [Life.received, waiting_of_stance h.dropped, List.append_nil]
  exact h.read

theorem Hears.same (h : l.Hears id inbox full) (l' : Life) (htaken : l'.taken inbox = l.taken inbox)
    (htracks : ∀ p, l.desk.Tracks id inbox p → l'.desk.Tracks id inbox p) : l'.Hears id inbox full := by
  obtain ⟨rest, h, hrest⟩ := h
  exact ⟨rest, htracks _ h, htaken ▸ hrest⟩

theorem Hears.told (h : l.Hears id inbox full) (l' : Life) (htaken : l'.taken inbox = l.taken inbox)
    (input : Progress.Input)
    (htracks : ∀ p, l.desk.Tracks id inbox p → l'.desk.Tracks id inbox (p.accept input)) :
    l'.Hears id inbox (full.accept input) := by
  obtain ⟨rest, h, hrest⟩ := h
  obtain ⟨added, hadded⟩ := full.accept_queue input
  have hfull : (full.accept input).queue = full.queue ++ added := congrArg Progress.queue (hadded full.queue)
  refine ⟨rest ++ added, ?_, ?_⟩
  · rw [← hadded rest]
    exact htracks _ h
  · rw [htaken, hfull, ← hrest, List.append_assoc]

/-- A frame is news for the request, or nothing. -/
theorem Hears.frame (h : l.Hears id inbox full) (hsound : l.desk.Sound) (f : Frame) :
    (l.step (.frame f)).Hears id inbox (full.hear ((Turn.frame f).newsFor id).toList) := by
  have hdesk : (l.step (.frame f)).desk = l.desk.accept f := rfl
  rcases l.desk.accept_cases f with ⟨text, hcomplaint, hall⟩ | ⟨r, other, hdecode, hother, hcomplaint, hone⟩
  · have hnews : (Turn.frame f).newsFor id = some (.warning text) := by
      simp only [Turn.newsFor, hcomplaint]
    rw [hnews]
    refine h.told (l.step (.frame f)) rfl (.warning text) fun p hp => ?_
    rw [hdesk, hall]
    exact hp.feedAll hsound _
  · have hnews : (Turn.frame f).newsFor id = if other = id then some (.frame r) else none := by
      simp only [Turn.newsFor, hcomplaint, hdecode, hother, Option.some.injEq]
    rw [hnews]
    by_cases heq : other = id
    · rw [if_pos heq]
      refine h.told (l.step (.frame f)) rfl (.frame r) fun p hp => ?_
      rw [hdesk, hone, heq]
      exact hp.feed _
    · rw [if_neg heq]
      refine h.same _ rfl fun p hp => ?_
      rw [hdesk, hone]
      exact hp.feed_of_ne heq _

/-- The caller takes an event, or another caller does. -/
theorem Hears.take (h : l.Hears id inbox full) (other : Ref .inbox) :
    (l.step (.take other)).Hears id inbox full := by
  by_cases heq : inbox = other
  · obtain ⟨rest, htracks, hrest⟩ := h
    have htaken : (l.step (.take other)).taken inbox = l.taken inbox ++ rest.head?.toList := by
      rw [← heq]
      show (if inbox = inbox then _ else _) = _
      rw [if_pos rfl, htracks.waiting.1]
    refine ⟨rest.tail, heq ▸ htracks.pull, ?_⟩
    rw [htaken, List.append_assoc]
    cases rest <;> exact hrest
  · exact h.same _ (if_neg heq) fun p hp => hp.modifyInbox_of_ne heq _

/-- What a turn is to a request whose caller reads. -/
theorem Hears.step (h : l.Hears id inbox full) (hsound : l.desk.Sound) (hid : t.id? ≠ some id)
    (hkept : t ≠ .drop inbox) : (l.step t).Hears id inbox (full.hear (t.newsFor id).toList) := by
  cases hend : t.ending? with
  | some failure =>
    obtain ⟨hdesk, htaken⟩ := desk_step_of_ending (l := l) hend
    rw [newsFor_of_ending hend]
    refine h.told _ (congrFun htaken inbox) _ fun p hp => ?_
    rw [hdesk]
    exact hp.shut hsound failure
  | none =>
    cases t with
    | finish | fail | disconnect => cases hend
    | request other r =>
      refine h.same _ rfl fun p hp => ?_
      have hne : other ≠ id := fun heq => hid (congrArg some heq)
      rcases l.client.request_cases other r with ⟨e, -, hsame⟩ | ⟨-, -, hdesk, -⟩
      · show (l.client.request other r).1.desk.Tracks id inbox p
        rw [hsame]
        exact hp
      · show (l.client.request other r).1.desk.Tracks id inbox p
        rw [hdesk]
        exact hp.insert_of_ne hne
    | frame f => exact h.frame hsound f
    | take other => exact h.take other
    | drop other =>
      have hne : inbox ≠ other := fun heq => hkept (congrArg Turn.drop heq.symm)
      exact h.same _ rfl fun p hp => hp.modifyInbox_of_ne hne _

/-- Of what happens to a request whose stream was dropped, the stream receives nothing. -/
theorem Left.step (h : l.Left inbox full) (hsound : l.desk.Sound) (t : Turn) : (l.step t).Left inbox full := by
  obtain ⟨hdropped, hread⟩ := h
  cases hend : t.ending? with
  | some failure =>
    obtain ⟨hdesk, htaken⟩ := desk_step_of_ending (l := l) hend
    refine ⟨?_, htaken ▸ hread⟩
    rw [hdesk, Desk.stance_shut hsound]
    exact hdropped
  | none =>
    cases t with
    | finish | fail | disconnect => cases hend
    | request other r =>
      refine ⟨?_, hread⟩
      rcases l.client.request_cases other r with ⟨e, -, hsame⟩ | ⟨-, -, hdesk, -⟩
      · show (l.client.request other r).1.desk.stance inbox = _
        rw [hsame]
        exact hdropped
      · obtain ⟨c, hget, -⟩ := Option.map_eq_some_iff.1 hdropped
        show (l.client.request other r).1.desk.stance inbox = _
        rw [hdesk]
        exact (Desk.stance_insert (Store.ne_next_of_get? hget)).trans hdropped
    | frame f => exact ⟨(Desk.stance_accept _ f inbox).trans hdropped, hread⟩
    | take other =>
      refine ⟨Desk.stance_modifyInbox hdropped other _ Channel.stance_pull, ?_⟩
      have hnothing (i : Ref .inbox) (hi : i = inbox) : l.taken i ++ (l.desk.waiting i).head?.toList = l.taken i := by
        rw [hi, waiting_of_stance hdropped]
        exact List.append_nil _
      show (if inbox = other then _ else _) <+: _
      rw [hnothing inbox rfl, ite_self]
      exact hread
    | drop other => exact ⟨Desk.stance_modifyInbox hdropped other _ fun _ _ => rfl, hread⟩

/-- The request `id` has come as far as `full`; its caller reads what it hears, or dropped its stream. -/
def Tells (l : Life) (id : RequestId) (inbox : Ref .inbox) (full : Progress) : Prop :=
  l.Hears id inbox full ∨ l.Left inbox full

theorem Tells.received (h : l.Tells id inbox full) : l.received inbox <+: full.queue := by
  rcases h with hhears | hleft
  · exact hhears.received ▸ List.prefix_rfl
  · exact hleft.received

theorem Tells.step (h : l.Tells id inbox full) (hsound : l.desk.Sound) (hid : t.id? ≠ some id) :
    (l.step t).Tells id inbox (full.hear (t.newsFor id).toList) := by
  rcases h with hhears | hleft
  · by_cases hdrop : t = .drop inbox
    · obtain ⟨rest, ⟨-, ⟨c, hget, -⟩, -⟩, hrest⟩ := hhears
      subst hdrop
      refine .inr ⟨?_, rest, hrest⟩
      show ((l.desk.inboxes.modify inbox Channel.close).get? inbox).map Channel.stance = _
      rw [Store.get?_modify_self, hget]
      rfl
    · exact .inl (hhears.step hsound hid hdrop)
  · obtain ⟨hdropped, hread⟩ := hleft.step hsound t
    exact .inr ⟨hdropped, hread.trans (full.queue_prefix_hear _)⟩

end Steps

/-! ## Reading and writing -/

theorem desk_run_frames (l : Life) (frames : List Frame) :
    (l.run (frames.map .frame)).desk = frames.foldl Desk.accept l.desk := by
  induction frames generalizing l with
  | nil => rfl
  | cons f frames ih => exact ih (l.step (.frame f))

theorem desk_run_turnsOf (l : Life) (bytes : Bytes) (closed : Bool) :
    (l.run (l.client.turnsOf bytes closed)).desk = (l.client.read bytes closed).desk := by
  have hrun (frames : List Frame) (t : Turn) :
      (l.run (frames.map .frame ++ [t])).desk = ((l.run (frames.map .frame)).step t).desk := by
    show (List.foldl step l _).desk = _
    rw [List.foldl_append]
    rfl
  have hend (frames : List Frame) (t : Turn) (failure : Option String) (ht : t.ending? = some failure) :
      (l.run (frames.map .frame ++ [t])).desk = (frames.foldl Desk.accept l.desk).shut failure := by
    rw [hrun, (desk_step_of_ending ht).1, desk_run_frames]
  unfold Remote.turnsOf Remote.read
  dsimp only
  generalize (if closed = true then Framing.drainEnd else Framing.drain) l.client.limit
    (l.client.buffer ++ bytes) = drained
  obtain ⟨frames, error, buffer⟩ := drained
  cases error with
  | some e => exact hend frames (.fail e.message) (some e.message) rfl
  | none =>
    cases closed with
    | true => exact hend frames .finish none rfl
    | false =>
      show (l.run (frames.map .frame ++ [])).desk = frames.foldl Desk.accept l.desk
      rw [List.append_nil, desk_run_frames]

/-- Writing is no turn, or the failure of the connection. -/
theorem desk_write (l : Life) :
    l.client.write.1.desk = l.desk ∨ ∃ reason, l.client.write.1.desk = (l.step (.fail reason)).desk := by
  unfold Remote.write
  dsimp only
  split
  · rename_i e _
    exact .inr ⟨e.message, rfl⟩
  · left
    split <;> rfl

/-! ## Sound lives -/

/-- What holds of a life between turns. -/
structure Sound (l : Life) : Prop where
  desk : l.desk.Sound
  shut : l.client.isClosed = true → l.desk.pending = []
  untaken : ∀ i, l.desk.inboxes.get? i = none → l.taken i = []
  /-- A pending request has heard of some news, in order. -/
  told : ∀ q ∈ l.desk.pending, ∃ full : Progress, full.Orderly ∧ l.Tells q.id q.inbox full

section Lives

variable {l : Life} {id : RequestId} {inbox : Ref .inbox} {full : Progress} {t : Turn} {turns : List Turn}

/-- A request is accepted, or no entry is new. -/
theorem step_cases (h : l.desk.Sound) (t : Turn) :
    (l.step t).desk.Follows l.desk ∨
      ∃ id r, t = .request id r ∧ (l.client.request id r).2 = .ok l.desk.inboxes.next ∧
        l.client.isClosed = false ∧ (l.step t).desk = (l.desk.insert id).1 := by
  cases t with
  | request id r =>
    rcases l.client.request_cases id r with ⟨e, -, hsame⟩ | ⟨-, hopen, hdesk, hok⟩
    · left
      show (l.client.request id r).1.desk.Follows l.desk
      rw [hsame]
      exact h.follows_self
    · exact .inr ⟨id, r, rfl, hok, hopen, hdesk⟩
  | frame f => exact .inl (h.follows_accept f)
  | take i => exact .inl (h.follows_modifyInbox i _)
  | drop i => exact .inl (h.follows_modifyInbox i _)
  | finish | fail | disconnect => exact .inl (h.follows_shut _)

/-- A request that was just accepted has heard nothing. -/
theorem Sound.hears_request (h : l.Sound) {r : Request} (hid : id ∉ l.desk.ids)
    (hok : (l.client.request id r).2 = .ok inbox) : (l.step (.request id r)).Hears id inbox {} := by
  rcases l.client.request_cases id r with ⟨e, herror, -⟩ | ⟨-, -, hdesk, hnext⟩
  · rw [herror] at hok
    cases hok
  · obtain rfl : l.desk.inboxes.next = inbox := Except.ok.inj (hnext.symm.trans hok)
    have hothers : ∀ q ∈ l.desk.pending, q.id ≠ id := fun q hq heq => hid (heq ▸ List.mem_map_of_mem hq)
    have hfresh : ∀ q ∈ l.desk.pending, q.inbox ≠ l.desk.inboxes.next := by
      intro q hq
      obtain ⟨c, hget⟩ := Option.isSome_iff_exists.1 (h.desk.known q hq)
      exact Store.ne_next_of_get? hget
    refine ⟨[], ?_, ?_⟩
    · show (l.client.request id r).1.desk.Tracks id _ {}
      rw [hdesk]
      exact Desk.tracks_insert (Desk.find?_eq_none_iff.2 hothers) hfresh
    · show l.taken _ ++ [] = []
      rw [h.untaken _ (Store.get?_next _)]
      rfl

theorem closed_step (h : l.desk.Sound) (t : Turn) :
    (l.step t).client.isClosed = (l.client.isClosed || t.ending?.isSome) := by
  cases hend : t.ending? with
  | some failure =>
    obtain ⟨hdesk, -⟩ := desk_step_of_ending (l := l) hend
    show (l.step t).desk.closed = _
    rw [hdesk, Desk.closed_shut h]
    simp
  | none =>
    rw [Option.isSome_none, Bool.or_false]
    cases t with
    | finish | fail | disconnect => cases hend
    | request id r =>
      show (l.client.request id r).1.desk.closed = l.desk.closed
      rcases l.client.request_cases id r with ⟨e, -, hsame⟩ | ⟨-, -, hdesk, -⟩
      · rw [hsame]
        rfl
      · rw [hdesk]
        rfl
    | frame f => exact Desk.closed_accept l.desk f
    | take | drop => rfl

/-- Nothing was taken from an inbox that is not there. -/
theorem Sound.untaken_step (h : l.Sound) (t : Turn) {i : Ref .inbox} (hget : l.desk.inboxes.get? i = none) :
    (l.step t).taken i = [] := by
  have hwaiting : l.desk.waiting i = [] := by
    simp only [Desk.waiting, hget, Option.map_none, Option.getD_none]
  cases t with
  | take j =>
    show (if i = j then _ else _) = []
    rw [hwaiting, h.untaken i hget]
    exact ite_self _
  | request | frame | drop | finish | fail | disconnect => exact h.untaken i hget

theorem Sound.step (h : l.Sound) (hfresh : ∀ id, t.id? = some id → id ∉ l.desk.ids) : (l.step t).Sound := by
  have hold {q : Pending} (hq : q ∈ l.desk.pending) :
      ∃ full : Progress, full.Orderly ∧ (l.step t).Tells q.id q.inbox full := by
    obtain ⟨full, horderly, htells⟩ := h.told q hq
    refine ⟨_, horderly.hear _, htells.step h.desk fun hid => ?_⟩
    exact hfresh q.id hid (List.mem_map_of_mem hq)
  have hshut : (l.step t).client.isClosed = true → t.ending? = none → l.desk.pending = [] := by
    intro hclosed hend
    rw [closed_step h.desk, hend, Option.isSome_none, Bool.or_false] at hclosed
    exact h.shut hclosed
  rcases step_cases h.desk t with hfollows | ⟨id, r, rfl, hok, hopen, hdesk⟩
  · refine ⟨hfollows.sound, fun hclosed => ?_, fun i hget => ?_, fun r hr => ?_⟩
    · cases hend : t.ending? with
      | none => exact hfollows.pending_eq_nil (hshut hclosed hend)
      | some failure =>
        rw [(desk_step_of_ending hend).1]
        exact Desk.pending_shut h.desk failure
    · refine h.untaken_step t (Option.isNone_iff_eq_none.1 ?_)
      have hknown := hfollows.known i
      rw [hget] at hknown
      simpa using hknown.symm
    · obtain ⟨q, hq, hid, hinbox⟩ := hfollows.entries r hr
      rw [← hid, ← hinbox]
      exact hold hq
  · have hothers : ∀ q ∈ l.desk.pending, q.id ≠ id :=
      fun q hq heq => hfresh id rfl (heq ▸ List.mem_map_of_mem hq)
    refine ⟨?_, fun hclosed => ?_, fun i hget => ?_, fun q hq => ?_⟩
    · rw [hdesk]
      exact h.desk.insert hothers
    · rw [closed_step h.desk, hopen] at hclosed
      cases hclosed
    · rw [hdesk] at hget
      refine h.untaken_step _ ?_
      have hne : i ≠ l.desk.inboxes.next := by
        rintro rfl
        rw [show (l.desk.insert id).1.inboxes.get? l.desk.inboxes.next = some _ from Store.get?_push_next _ _]
          at hget
        cases hget
      exact (Store.get?_push_of_ne _ hne).symm.trans hget
    · rw [hdesk] at hq
      rcases List.mem_append.1 hq with hq | hq
      · exact hold hq
      · obtain rfl := List.mem_singleton.1 hq
        exact ⟨{}, Progress.orderly_hear [], .inl (h.hears_request (hfresh id rfl) hok)⟩

/-! ## Runs -/

/-- The ids under which requests will be sent are not in use, and differ from each other. -/
def Fresh (l : Life) (turns : List Turn) : Prop :=
  (l.desk.ids ++ turns.filterMap Turn.id?).Nodup

theorem filterMap_id?_cons (t : Turn) (turns : List Turn) :
    (t :: turns).filterMap Turn.id? = t.id?.toList ++ turns.filterMap Turn.id? := by
  cases hid : t.id? with
  | none => exact List.filterMap_cons_none hid
  | some id => exact List.filterMap_cons_some hid

theorem filterMap_newsFor_cons (id : RequestId) (t : Turn) (turns : List Turn) :
    (t :: turns).filterMap (·.newsFor id) = (t.newsFor id).toList ++ turns.filterMap (·.newsFor id) := by
  cases hnews : t.newsFor id with
  | none => exact List.filterMap_cons_none hnews
  | some input => exact List.filterMap_cons_some hnews

theorem ids_step (h : l.desk.Sound) (t : Turn) : (l.step t).desk.ids.Sublist (l.desk.ids ++ t.id?.toList) := by
  rcases step_cases h t with hfollows | ⟨id, r, rfl, -, -, hdesk⟩
  · exact hfollows.ids.trans (List.sublist_append_left _ _)
  · have hids : (l.desk.insert id).1.ids = l.desk.ids ++ [id] := List.map_append
    rw [hdesk, hids]
    exact .refl _

theorem Fresh.head (h : l.Fresh (t :: turns)) (hid : t.id? = some id) : id ∉ l.desk.ids := by
  unfold Fresh at h
  rw [filterMap_id?_cons, hid] at h
  obtain ⟨-, -, hdisjoint⟩ := List.nodup_append.1 h
  exact fun hmem => hdisjoint id hmem id List.mem_cons_self rfl

theorem Fresh.tail (h : l.Fresh (t :: turns)) (hsound : l.desk.Sound) : (l.step t).Fresh turns := by
  unfold Fresh at h
  rw [filterMap_id?_cons, ← List.append_assoc] at h
  exact ((ids_step hsound t).append_right _).nodup h

/-- No later request has the id of the first. -/
theorem Fresh.not_mem (h : l.Fresh (t :: turns)) (hid : t.id? = some id) : id ∉ turns.filterMap Turn.id? := by
  unfold Fresh at h
  rw [filterMap_id?_cons, hid] at h
  exact (List.nodup_cons.1 (List.nodup_append.1 h).2.1).1

theorem Sound.run (h : l.Sound) (hfresh : l.Fresh turns) : (l.run turns).Sound := by
  induction turns generalizing l with
  | nil => exact h
  | cons t turns ih => exact ih (h.step fun _ => hfresh.head) (hfresh.tail h.desk)

theorem Fresh.run {later : List Turn} (h : l.Fresh (turns ++ later)) (hsound : l.Sound) :
    (l.run turns).Fresh later := by
  induction turns generalizing l with
  | nil => exact h
  | cons t turns ih => exact ih (h.tail hsound.desk) (hsound.step fun _ => h.head)

theorem Fresh.of_append {later : List Turn} (h : l.Fresh (turns ++ later)) : l.Fresh turns := by
  unfold Fresh at h
  rw [List.filterMap_append, ← List.append_assoc] at h
  exact (List.nodup_append.1 h).1

theorem Tells.run (h : l.Tells id inbox full) (hsound : l.Sound) (hfresh : l.Fresh turns)
    (hid : id ∉ turns.filterMap Turn.id?) :
    (l.run turns).Tells id inbox (full.hear (turns.filterMap (·.newsFor id))) := by
  induction turns generalizing l full with
  | nil => exact h
  | cons t turns ih =>
    rw [filterMap_id?_cons, List.mem_append, not_or] at hid
    have hother : t.id? ≠ some id := fun heq => hid.1 (by simp [heq])
    rw [filterMap_newsFor_cons, Progress.hear_append]
    exact ih (h.step hsound.desk hother) (hsound.step fun _ => hfresh.head) (hfresh.tail hsound.desk) hid.2

theorem Hears.run (h : l.Hears id inbox full) (hsound : l.Sound) (hfresh : l.Fresh turns)
    (hid : id ∉ turns.filterMap Turn.id?) (hkept : .drop inbox ∉ turns) :
    (l.run turns).Hears id inbox (full.hear (turns.filterMap (·.newsFor id))) := by
  induction turns generalizing l full with
  | nil => exact h
  | cons t turns ih =>
    rw [filterMap_id?_cons, List.mem_append, not_or] at hid
    obtain ⟨hnow, hlater⟩ := not_or.1 (mt List.mem_cons.2 hkept)
    have hother : t.id? ≠ some id := fun heq => hid.1 (by simp [heq])
    rw [filterMap_newsFor_cons, Progress.hear_append]
    exact ih (h.step hsound.desk hother (Ne.symm hnow)) (hsound.step fun _ => hfresh.head)
      (hfresh.tail hsound.desk) hid.2 hlater

theorem closed_run (h : l.Sound) (hfresh : l.Fresh turns) :
    (l.run turns).client.isClosed = (l.client.isClosed || turns.any (·.ending?.isSome)) := by
  induction turns generalizing l with
  | nil => exact (Bool.or_false _).symm
  | cons t turns ih =>
    show ((l.step t).run turns).client.isClosed = _
    rw [ih (h.step fun _ => hfresh.head) (hfresh.tail h.desk), closed_step h.desk, List.any_cons, Bool.or_assoc]

end Lives

end Life

end Exchange.Client
