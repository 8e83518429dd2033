-- SUMMARY: What a request makes of the news that it hears, and what reading and frames are to its inbox.
import Exchange.Proofs.Client.Table
import Exchange.Proofs.Data.Store

/-!
# News

`Progress.hear` takes in news of any kind. A request that has heard some is
`Orderly`: no event follows a terminal one (`orderly_hear`), and every event
comes from a piece of news (`mem_queue_hear`). On a desk a frame is reported to
all requests or it is news for one (`accept_cases`).
-/

namespace Exchange

theorem Channel.stance_pull {α : Type} (c : Channel α) (h : c.stance = (false, [])) :
    c.pull.1.stance = (false, []) := by
  obtain ⟨queue, writers, reading⟩ := c
  cases reading with
  | true => cases h
  | false =>
    obtain rfl : queue = [] := (Prod.mk.inj h).2
    rfl

namespace Client

/-! ## What a request makes of its news -/

namespace Progress

/-- Takes in news in order. -/
def hear (p : Progress) (news : List Input) : Progress :=
  news.foldl accept p

/-- What a piece of news adds to the queue of a request that is not finished. -/
def told (p : Progress) : Input → List Event
  | .frame r => eventsOf (p.status.getD r.effectiveStatus) r
  | .warning text => [.warning text]
  | .closed => [.close]
  | .failed reason => [.transportError reason]

theorem accept_eq_push {p : Progress} (h : p.finished = false) (input : Input) :
    ∃ status, p.accept input = { p with status }.push (p.told input) := by
  obtain ⟨status, finished, queue⟩ := p
  cases h
  cases input with
  | frame r => exact ⟨_, rfl⟩
  | warning | closed | failed => exact ⟨status, rfl⟩

/-- What news adds to the queue does not depend on what is in it. -/
theorem accept_queue (p : Progress) (input : Input) :
    ∃ added, ∀ queue, { p with queue }.accept input = { p.accept input with queue := queue ++ added } := by
  obtain ⟨status, finished, queue₀⟩ := p
  cases finished with
  | true => exact ⟨[], fun queue => by rw [List.append_nil]; rfl⟩
  | false =>
    cases input with
    | frame r => exact ⟨eventsOf (status.getD r.effectiveStatus) r, fun _ => rfl⟩
    | warning text => exact ⟨[.warning text], fun _ => rfl⟩
    | closed => exact ⟨[.close], fun _ => rfl⟩
    | failed reason => exact ⟨[.transportError reason], fun _ => rfl⟩

/-- No event follows a terminal one, and there is none before the request is finished. -/
structure Orderly (p : Progress) : Prop where
  order : p.queue.Pairwise fun e _ => e.isTerminal = false
  unfinished : p.finished = false → ∀ e ∈ p.queue, e.isTerminal = false

theorem pairwise_eventsOf (status : Status) (r : Reply) :
    (eventsOf status r).Pairwise fun e _ => e.isTerminal = false := by
  unfold eventsOf
  dsimp only
  split
  · split <;> split <;> simp [Event.isTerminal]
  · exact List.pairwise_singleton _ _
  · exact List.pairwise_singleton _ _
  · exact .nil

theorem pairwise_told (p : Progress) (input : Input) : (p.told input).Pairwise fun e _ => e.isTerminal = false := by
  cases input with
  | frame r => exact pairwise_eventsOf _ r
  | warning | closed | failed => exact List.pairwise_singleton _ _

theorem Orderly.accept {p : Progress} (h : p.Orderly) (input : Input) : (p.accept input).Orderly := by
  cases hfinished : p.finished with
  | true =>
    rw [accept_of_finished hfinished]
    exact h
  | false =>
    obtain ⟨status, hpush⟩ := accept_eq_push hfinished input
    have hbefore := h.unfinished hfinished
    rw [hpush]
    refine ⟨?_, ?_⟩
    · exact List.pairwise_append.2 ⟨h.order, p.pairwise_told input, fun e he _ _ => hbefore e he⟩
    · intro hopen e he
      rcases List.mem_append.1 he with he | he
      · exact hbefore e he
      · exact eq_false_of_ne_true (List.any_eq_false.1 hopen e he)

theorem queue_prefix_hear (p : Progress) (news : List Input) : p.queue <+: (p.hear news).queue := by
  induction news generalizing p with
  | nil => exact List.prefix_rfl
  | cons input news ih =>
    obtain ⟨added, hadded⟩ := p.accept_queue input
    have hfirst : p.queue <+: (p.accept input).queue :=
      ⟨added, (congrArg Progress.queue (hadded p.queue)).symm⟩
    exact hfirst.trans (ih _)

theorem hear_append (p : Progress) (a b : List Input) : p.hear (a ++ b) = (p.hear a).hear b :=
  List.foldl_append

theorem Orderly.hear {p : Progress} (h : p.Orderly) (news : List Input) : (p.hear news).Orderly := by
  induction news generalizing p with
  | nil => exact h
  | cons input news ih => exact ih (h.accept input)

theorem orderly_hear (news : List Input) : (({} : Progress).hear news).Orderly :=
  Orderly.hear ⟨.nil, fun _ _ he => by cases he⟩ news

/-- Every event comes from a piece of news. -/
theorem mem_queue_hear {p : Progress} {news : List Input} {e : Event} (h : e ∈ (p.hear news).queue) :
    e ∈ p.queue ∨ ∃ q : Progress, ∃ input ∈ news, e ∈ q.told input := by
  induction news generalizing p with
  | nil => exact .inl h
  | cons input news ih =>
    rcases ih h with hqueue | ⟨q, input', hmem, hq⟩
    · cases hfinished : p.finished with
      | true =>
        rw [accept_of_finished hfinished] at hqueue
        exact .inl hqueue
      | false =>
        obtain ⟨status, hpush⟩ := accept_eq_push hfinished input
        rw [hpush] at hqueue
        rcases List.mem_append.1 hqueue with hqueue | htold
        · exact .inl hqueue
        · exact .inr ⟨p, input, List.mem_cons_self, htold⟩
    · exact .inr ⟨q, input', List.mem_cons_of_mem _ hmem, hq⟩

end Progress

/-! ## Reading and dropping -/

namespace Desk

section Inboxes

variable {d : Desk} {id : RequestId} {inbox : Ref .inbox} {p : Progress}

/-- What waits in an inbox. -/
def waiting (d : Desk) (inbox : Ref .inbox) : List Event :=
  ((d.inboxes.get? inbox).map (·.queue)).getD []

def modifyInbox (d : Desk) (inbox : Ref .inbox) (f : Channel Event → Channel Event) : Desk :=
  { d with inboxes := d.inboxes.modify inbox f }

theorem Tracks.waiting (h : d.Tracks id inbox p) : d.waiting inbox = p.queue ∧ d.isRead inbox = true := by
  obtain ⟨c, hget, hreading, hqueue⟩ := h.queue
  constructor
  · simp only [Desk.waiting, hget, Option.map_some, Option.getD_some, hqueue]
  · simp only [isRead, hget, hreading]

/-- Reading and dropping other inboxes is nothing to a request. -/
theorem Tracks.modifyInbox_of_ne (h : d.Tracks id inbox p) {other : Ref .inbox} (hne : inbox ≠ other)
    (f : Channel Event → Channel Event) : (d.modifyInbox other f).Tracks id inbox p := by
  obtain ⟨c, hget, hc⟩ := h.queue
  exact ⟨h.entry, ⟨c, (Store.get?_modify_of_ne f hne).trans hget, hc⟩, h.alone⟩

/-- A caller who reads takes the oldest event. -/
theorem Tracks.pull (h : d.Tracks id inbox p) :
    (d.modifyInbox inbox fun c => c.pull.1).Tracks id inbox { p with queue := p.queue.tail } := by
  obtain ⟨c, hget, hreading, hqueue⟩ := h.queue
  refine ⟨h.entry, ⟨c.pull.1, ?_, ?_, ?_⟩, h.alone⟩
  · refine (Store.get?_modify_self _ _ _).trans ?_
    rw [hget, Option.map_some]
  · exact c.reading_pull.trans hreading
  · rw [← hqueue]
    exact c.queue_pull

end Inboxes

/-! ## Frames -/

/-- What is reported of a frame that cannot be matched to a request. -/
def complaint? (frame : Frame) : Option String :=
  match Reply.decode frame with
  | .error e => some (warningOf e)
  | .ok r => if r.id.isSome then none else some invalidResponse

/-- A frame is reported to all, or it is news for the request whose id it bears. -/
theorem accept_cases (d : Desk) (frame : Frame) :
    (∃ text, complaint? frame = some text ∧ d.accept frame = d.feedAll (.warning text)) ∨
      ∃ r id, Reply.decode frame = .ok r ∧ r.id = some id ∧ complaint? frame = none ∧
        d.accept frame = d.feed id (.frame r) := by
  cases hdecode : Reply.decode frame with
  | error e =>
    left
    refine ⟨warningOf e, by simp only [complaint?, hdecode], ?_⟩
    simp only [accept, hdecode, warnAll_eq]
  | ok r =>
    cases hid : r.id with
    | none =>
      left
      refine ⟨invalidResponse, by simp [complaint?, hdecode, hid], ?_⟩
      simp only [accept, hdecode, hid, warnAll_eq]
    | some id =>
      right
      exact ⟨r, id, rfl, hid, by simp [complaint?, hdecode, hid], accept_of_decode hdecode hid⟩

/-! ## Desks after news -/

/-- The entries of a desk were entries of the other, with the same inboxes. -/
structure Follows (d' d : Desk) : Prop where
  sound : d'.Sound
  entries : ∀ r ∈ d'.pending, ∃ q ∈ d.pending, q.id = r.id ∧ q.inbox = r.inbox
  ids : d'.ids.Sublist d.ids
  known : ∀ inbox, (d'.inboxes.get? inbox).isSome = (d.inboxes.get? inbox).isSome

section Follows

variable {d d' : Desk}

theorem Follows.of_filterMap (hsound : d'.Sound) {f : Pending → Option Pending}
    (hpending : d'.pending = d.pending.filterMap f)
    (hf : ∀ q r, f q = some r → r.id = q.id ∧ r.inbox = q.inbox)
    (hknown : ∀ inbox, (d'.inboxes.get? inbox).isSome = (d.inboxes.get? inbox).isSome) : d'.Follows d where
  sound := hsound
  entries r hr := by
    rw [hpending] at hr
    obtain ⟨q, hq, hqr⟩ := List.mem_filterMap.1 hr
    obtain ⟨hid, hinbox⟩ := hf q r hqr
    exact ⟨q, hq, hid.symm, hinbox.symm⟩
  ids := by
    unfold Desk.ids
    rw [hpending]
    exact sublist_map_filterMap (fun q r hqr => (hf q r hqr).1) d.pending
  known := hknown

theorem Follows.pending_eq_nil (h : d'.Follows d) (hnil : d.pending = []) : d'.pending = [] := by
  refine List.eq_nil_iff_forall_not_mem.2 fun r hr => ?_
  obtain ⟨q, hq, -⟩ := h.entries r hr
  rw [hnil] at hq
  cases hq

namespace Sound

theorem follows_self (h : d.Sound) : d.Follows d :=
  ⟨h, fun r hr => ⟨r, hr, rfl, rfl⟩, .refl _, fun _ => rfl⟩

theorem follows_modifyInbox (h : d.Sound) (inbox : Ref .inbox) (f : Channel Event → Channel Event) :
    (d.modifyInbox inbox f).Follows d := by
  have hknown (i : Ref .inbox) :
      ((d.modifyInbox inbox f).inboxes.get? i).isSome = (d.inboxes.get? i).isSome := by
    unfold modifyInbox
    rw [Store.get?_modify]
    split
    · exact Option.isSome_map
    · rfl
  refine ⟨⟨h.ids, h.inboxes, h.resting, fun q hq => ?_⟩, fun r hr => ⟨r, hr, rfl, rfl⟩, .refl _, hknown⟩
  rw [hknown]
  exact h.known q hq

theorem follows_feed (h : d.Sound) (id : RequestId) (input : Progress.Input) :
    (d.feed id input).Follows d := by
  refine .of_filterMap (h.feed id input) (pending_feed h id input) ?_ fun i =>
    isSome_of_stance (stance_feed d id input i)
  intro q r hqr
  split at hqr
  · obtain ⟨hid, hinbox, -⟩ := of_after hqr
    exact ⟨hid, hinbox⟩
  · cases hqr
    exact ⟨rfl, rfl⟩

theorem follows_feedAll (h : d.Sound) (input : Progress.Input) : (d.feedAll input).Follows d := by
  refine .of_filterMap (h.feedAll input) (pending_feedAll h input) ?_ fun i =>
    isSome_of_stance (stance_feedAll d input i)
  intro q r hqr
  obtain ⟨hid, hinbox, -⟩ := of_after hqr
  exact ⟨hid, hinbox⟩

theorem follows_shut (h : d.Sound) (failure : Option String) : (d.shut failure).Follows d := by
  obtain ⟨hsound, hentries, hids, hknown⟩ := h.sealed.follows_feedAll (ending failure)
  rw [shut_eq h]
  exact ⟨hsound, hentries, hids, hknown⟩

theorem follows_accept (h : d.Sound) (frame : Frame) : (d.accept frame).Follows d := by
  rcases d.accept_cases frame with ⟨text, -, hall⟩ | ⟨r, id, -, -, -, hone⟩
  · rw [hall]
    exact h.follows_feedAll _
  · rw [hone]
    exact h.follows_feed id _

end Sound

theorem stance_insert {id : RequestId} {inbox : Ref .inbox} (h : inbox ≠ d.inboxes.next) :
    (d.insert id).1.stance inbox = d.stance inbox :=
  congrArg (Option.map Channel.stance) (Store.get?_push_of_ne _ h)

/-- Whoever reads or drops what waits in it, nothing comes back into a dropped inbox. -/
theorem stance_modifyInbox {inbox : Ref .inbox} (h : d.stance inbox = some (false, [])) (i : Ref .inbox)
    (f : Channel Event → Channel Event)
    (hf : ∀ c : Channel Event, c.stance = (false, []) → (f c).stance = (false, [])) :
    (d.modifyInbox i f).stance inbox = some (false, []) := by
  obtain ⟨c, hget, hc⟩ := Option.map_eq_some_iff.1 h
  unfold stance modifyInbox
  rw [Store.get?_modify, hget]
  split
  · exact congrArg some (hf c hc)
  · exact congrArg some hc

theorem stance_accept (d : Desk) (frame : Frame) (inbox : Ref .inbox) :
    (d.accept frame).stance inbox = d.stance inbox := by
  rcases d.accept_cases frame with ⟨text, -, hall⟩ | ⟨r, id, -, -, -, hone⟩
  · rw [hall]
    exact stance_feedAll d _ inbox
  · rw [hone]
    exact stance_feed d id _ inbox

theorem closed_accept (d : Desk) (frame : Frame) : (d.accept frame).closed = d.closed := by
  rcases d.accept_cases frame with ⟨text, -, hall⟩ | ⟨r, id, -, -, -, hone⟩
  · rw [hall]
    exact closed_feedAll d _
  · rw [hone]
    exact closed_feed d id _

end Follows

end Desk

end Client

end Exchange
