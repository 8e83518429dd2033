-- SUMMARY: What a piece of news does to the table of pending requests, and to all of them at once.
import Exchange.Proofs.Client.Desk
import Mathlib.Data.List.Nodup

/-!
# The table of pending requests

A desk is `Sound` if its entries are told apart by their ids and by their
inboxes, and none of them is finished. `pending_feed` and `pending_feedAll` say
what is left of the table after news for one request and for all of them, and
`Tracks.feedAll` what a request hears of the latter. What a warning and the end
of the connection are to the desk follows from these.
-/

namespace Exchange

/-! ## Channels that nobody reads -/

/-- Whether a channel is read, and what it holds if it is not. -/
def Channel.stance {α : Type} (c : Channel α) : Bool × List α :=
  (c.reading, if c.reading then [] else c.queue)

/-- What is sent to a channel that nobody reads is lost. -/
theorem Channel.stance_foldl_send {α : Type} (c : Channel α) (items : List α) :
    (items.foldl (fun c a => (c.send a).1) c).stance = c.stance := by
  cases hc : c.reading with
  | true =>
    rw [foldl_send hc]
    simp only [stance, hc, if_true]
  | false =>
    have hsend (a : α) : (c.send a).1 = c := by
      simp only [send, hc, Bool.false_eq_true, if_false]
    have hsame : items.foldl (fun c a => (c.send a).1) c = c := by
      induction items with
      | nil => rfl
      | cons a items ih =>
        rw [List.foldl_cons, hsend]
        exact ih
    rw [hsame]

/-- What is left of a list keeps the keys that it had. -/
theorem sublist_map_filterMap {α κ : Type} {key : α → κ} {f : α → Option α}
    (hf : ∀ a b, f a = some b → key b = key a) (l : List α) :
    List.Sublist ((l.filterMap f).map key) (l.map key) := by
  induction l with
  | nil => exact .slnil
  | cons a l ih =>
    cases ha : f a with
    | none =>
      rw [List.filterMap_cons_none ha]
      exact ih.cons _
    | some b =>
      rw [List.filterMap_cons_some ha, List.map_cons, List.map_cons, hf a b ha]
      exact ih.cons_cons _

namespace Client

/-! ## Entries at rest -/

namespace Progress

/-- The request is not finished, and no event waits. -/
structure Resting (p : Progress) : Prop where
  unfinished : p.finished = false
  queue : p.queue = []

theorem resting_drained {p : Progress} (h : p.finished = false) : p.drained.Resting :=
  ⟨h, rfl⟩

/-- A warning changes nothing but the queue. -/
theorem accept_warning {p : Progress} (h : p.finished = false) (text : String) :
    p.accept (.warning text) = { p with queue := p.queue ++ [.warning text] } := by
  obtain ⟨status, finished, queue⟩ := p
  cases h
  rfl

end Progress

/-- The event that tells of the end of the connection. -/
def Desk.farewell : Option String → Event
  | some reason => .transportError reason
  | none => .close

theorem Progress.accept_ending {p : Progress} (h : p.finished = false) (failure : Option String) :
    p.accept (Desk.ending failure) =
      { p with finished := true, queue := p.queue ++ [Desk.farewell failure] } := by
  obtain ⟨status, finished, queue⟩ := p
  cases h
  cases failure <;> rfl

namespace Desk

/-! ## Sound desks -/

structure Sound (d : Desk) : Prop where
  ids : (d.pending.map (·.id)).Nodup
  inboxes : (d.pending.map (·.inbox)).Nodup
  resting : ∀ q ∈ d.pending, q.progress.Resting
  known : ∀ q ∈ d.pending, (d.inboxes.get? q.inbox).isSome

theorem sound_of_pending_nil {d : Desk} (h : d.pending = []) : d.Sound := by
  refine ⟨?_, ?_, ?_, ?_⟩ <;> simp [h]

theorem find?_eq_none_iff {d : Desk} {id : RequestId} : d.find? id = none ↔ ∀ q ∈ d.pending, q.id ≠ id := by
  simp [find?]

namespace Sound

variable {d : Desk} {q r : Pending}

theorem eq_of_id (h : d.Sound) (hq : q ∈ d.pending) (hr : r ∈ d.pending) (hid : q.id = r.id) : q = r :=
  List.inj_on_of_nodup_map h.ids hq hr hid

theorem find?_of_mem (h : d.Sound) (hq : q ∈ d.pending) : d.find? q.id = some q := by
  cases hfind : d.find? q.id with
  | none => exact absurd rfl (find?_eq_none_iff.1 hfind q hq)
  | some r =>
    obtain ⟨hr, hid⟩ := mem_of_find? hfind
    rw [h.eq_of_id hr hq hid]

/-- A desk whose entries were entries before, with the same inboxes, is as sound as it was. -/
theorem of_left {d' : Desk} (h : d.Sound) {f : Pending → Option Pending}
    (hpending : d'.pending = d.pending.filterMap f)
    (hf : ∀ q r, f q = some r → r.id = q.id ∧ r.inbox = q.inbox ∧ (q.progress.Resting → r.progress.Resting))
    (hknown : ∀ i, (d'.inboxes.get? i).isSome = (d.inboxes.get? i).isSome) : d'.Sound := by
  have hold {r : Pending} (hr : r ∈ d'.pending) : ∃ q ∈ d.pending, f q = some r := by
    rw [hpending] at hr
    exact List.mem_filterMap.1 hr
  refine ⟨?_, ?_, ?_, ?_⟩
  · rw [hpending]
    exact (sublist_map_filterMap (fun q r hqr => (hf q r hqr).1) d.pending).nodup h.ids
  · rw [hpending]
    exact (sublist_map_filterMap (fun q r hqr => (hf q r hqr).2.1) d.pending).nodup h.inboxes
  · intro r hr
    obtain ⟨q, hq, hqr⟩ := hold hr
    exact (hf q r hqr).2.2 (h.resting q hq)
  · intro r hr
    obtain ⟨q, hq, hqr⟩ := hold hr
    rw [hknown, (hf q r hqr).2.1]
    exact h.known q hq

/-- A new request is told apart by its id, and by its inbox. -/
theorem insert (h : d.Sound) {id : RequestId} (hid : ∀ q ∈ d.pending, q.id ≠ id) : (d.insert id).1.Sound := by
  have hinbox (q : Pending) (hq : q ∈ d.pending) : q.inbox ≠ d.inboxes.next := by
    obtain ⟨c, hc⟩ := Option.isSome_iff_exists.1 (h.known q hq)
    exact Store.ne_next_of_get? hc
  have hpending : (d.insert id).1.pending = d.pending ++ [{ id, inbox := d.inboxes.next }] := rfl
  refine ⟨?_, ?_, ?_, ?_⟩
  · rw [hpending, List.map_append, List.nodup_append]
    refine ⟨h.ids, by simp, ?_⟩
    simpa using fun q hq => hid q hq
  · rw [hpending, List.map_append, List.nodup_append]
    refine ⟨h.inboxes, by simp, ?_⟩
    simpa using fun q hq => hinbox q hq
  · intro q hq
    rcases List.mem_append.1 hq with hq | hq
    · exact h.resting q hq
    · rw [List.mem_singleton.1 hq]
      exact ⟨rfl, rfl⟩
  · intro q hq
    rcases List.mem_append.1 hq with hq | hq
    · have hsame : (d.insert id).1.inboxes.get? q.inbox = d.inboxes.get? q.inbox :=
        Store.get?_push_of_ne _ (hinbox q hq)
      rw [hsame]
      exact h.known q hq
    · rw [List.mem_singleton.1 hq]
      have hnew : (d.insert id).1.inboxes.get? d.inboxes.next = some { writers := 1 } := Store.get?_push_next _ _
      rw [hnew]
      rfl

end Sound

/-! ## Inboxes that nobody reads -/

/-- Whether an inbox is read, and what it holds if it is not. -/
def stance (d : Desk) (inbox : Ref .inbox) : Option (Bool × List Event) :=
  (d.inboxes.get? inbox).map Channel.stance

section Stance

variable {d d' : Desk} {inbox : Ref .inbox}

theorem isRead_eq (d : Desk) (inbox : Ref .inbox) : d.isRead inbox = ((d.stance inbox).map (·.1)).getD false := by
  unfold isRead stance
  cases d.inboxes.get? inbox <;> rfl

theorem isRead_of_stance (h : d'.stance inbox = d.stance inbox) : d'.isRead inbox = d.isRead inbox := by
  rw [isRead_eq, isRead_eq, h]

theorem isSome_of_stance (h : d'.stance inbox = d.stance inbox) :
    (d'.inboxes.get? inbox).isSome = (d.inboxes.get? inbox).isSome := by
  simpa [stance] using congrArg Option.isSome h

theorem stance_modify {i : Ref .inbox} {f : Channel Event → Channel Event}
    (hf : ∀ c : Channel Event, (f c).stance = c.stance) (h : d'.inboxes = d.inboxes.modify i f) (j : Ref .inbox) :
    d'.stance j = d.stance j := by
  unfold stance
  rw [h, Store.get?_modify]
  split
  · rw [Option.map_map]
    exact Option.map_congr fun c _ => hf c
  · rfl

theorem stance_remove (d : Desk) (id : RequestId) (inbox : Ref .inbox) :
    (d.remove id).stance inbox = d.stance inbox := by
  unfold remove
  split
  · exact stance_modify (f := Channel.leave) (fun _ => rfl) rfl inbox
  · rfl

theorem stance_feed (d : Desk) (id : RequestId) (input : Progress.Input) (inbox : Ref .inbox) :
    (d.feed id input).stance inbox = d.stance inbox := by
  cases hq : d.find? id with
  | none => simp only [feed, hq]
  | some q =>
    have htold (events : List Event) (progress : Progress) :
        (d.told q events progress).stance inbox = d.stance inbox :=
      stance_modify (Channel.stance_foldl_send · events) rfl inbox
    rw [feed_of_find? hq]
    dsimp only
    split
    · exact (stance_remove _ id inbox).trans (htold _ _)
    · exact htold _ _

end Stance

/-! ## News for one request -/

section News

variable {d : Desk} {id : RequestId} {input : Progress.Input} {q r : Pending}

/-- What a piece of news leaves of an entry. -/
def after (d : Desk) (input : Progress.Input) (q : Pending) : Option Pending :=
  if (q.progress.accept input).finished || !d.isRead q.inbox then none
  else some { q with progress := (q.progress.accept input).drained }

theorem of_after (h : d.after input q = some r) : r.id = q.id ∧ r.inbox = q.inbox ∧ r.progress.Resting := by
  unfold after at h
  split at h
  · cases h
  · rename_i hopen
    cases h
    simp only [Bool.or_eq_true, not_or, Bool.not_eq_true] at hopen
    exact ⟨rfl, rfl, Progress.resting_drained hopen.1⟩

theorem pending_remove (d : Desk) (id : RequestId) : (d.remove id).pending = d.pending.filter (·.id ≠ id) := by
  unfold remove
  split
  · rfl
  · rename_i hnone
    symm
    rw [List.filter_eq_self]
    intro q hq
    simpa using find?_eq_none_iff.1 hnone q hq

theorem pending_feed (h : d.Sound) (id : RequestId) (input : Progress.Input) :
    (d.feed id input).pending = d.pending.filterMap fun q => if q.id = id then d.after input q else some q := by
  cases hfind : d.find? id with
  | none =>
    have hothers := find?_eq_none_iff.1 hfind
    have hsome : (d.pending.filterMap fun q => if q.id = id then d.after input q else some q) =
        d.pending.filterMap some :=
      List.filterMap_congr fun q hq => if_neg (hothers q hq)
    rw [hsome, List.filterMap_some]
    simp only [feed, hfind]
  | some q =>
    obtain ⟨hq, rfl⟩ := mem_of_find? hfind
    have hread (events : List Event) (progress : Progress) :
        (d.told q events progress).isRead q.inbox = d.isRead q.inbox :=
      isRead_of_stance (stance_modify (Channel.stance_foldl_send · events) rfl _)
    rw [feed_of_find? hfind]
    dsimp only
    rw [hread]
    split
    · rename_i hdone
      rw [pending_remove]
      show (d.pending.map _).filter _ = _
      rw [List.filter_map, ← List.filterMap_eq_map, ← List.filterMap_eq_filter, List.filterMap_filterMap]
      refine List.filterMap_congr fun r hr => ?_
      by_cases hid : r.id = q.id
      · obtain rfl := h.eq_of_id hr hq hid
        simp [after, hdone]
      · simp [hid]
    · rename_i hopen
      show d.pending.map _ = _
      rw [← List.filterMap_eq_map]
      refine List.filterMap_congr fun r hr => ?_
      by_cases hid : r.id = q.id
      · obtain rfl := h.eq_of_id hr hq hid
        simp [after, hopen]
      · simp [hid]

theorem Sound.feed (h : d.Sound) (id : RequestId) (input : Progress.Input) : (d.feed id input).Sound := by
  refine h.of_left (pending_feed h id input) ?_ fun i => isSome_of_stance (stance_feed d id input i)
  intro q r hqr
  split at hqr
  · obtain ⟨hid, hinbox, hresting⟩ := of_after hqr
    exact ⟨hid, hinbox, fun _ => hresting⟩
  · cases hqr
    exact ⟨rfl, rfl, fun hresting => hresting⟩

end News

/-! ## News for all -/

/-- Tells each pending request the same. -/
def feedAll (d : Desk) (input : Progress.Input) : Desk :=
  d.ids.foldl (fun d id => d.feed id input) d

section All

variable {d : Desk} {input : Progress.Input} {inbox : Ref .inbox}

theorem stance_foldl_feed (ids : List RequestId) (d : Desk) :
    (ids.foldl (fun d id => d.feed id input) d).stance inbox = d.stance inbox := by
  induction ids generalizing d with
  | nil => rfl
  | cons id ids ih => exact (ih _).trans (stance_feed d id input inbox)

theorem stance_feedAll (d : Desk) (input : Progress.Input) (inbox : Ref .inbox) :
    (d.feedAll input).stance inbox = d.stance inbox :=
  stance_foldl_feed d.ids d

theorem pending_foldl_feed (h : d.Sound) {ids : List RequestId} (hids : ids.Nodup) :
    (ids.foldl (fun d id => d.feed id input) d).pending =
      d.pending.filterMap fun q => if q.id ∈ ids then d.after input q else some q := by
  induction ids generalizing d with
  | nil => simp
  | cons id ids ih =>
    obtain ⟨hid, hids⟩ := List.nodup_cons.1 hids
    rw [List.foldl_cons, ih (h.feed id input) hids, pending_feed h, List.filterMap_filterMap]
    refine List.filterMap_congr fun q _ => ?_
    have hafter (q : Pending) : (d.feed id input).after input q = d.after input q := by
      simp only [after, isRead_of_stance (stance_feed d id input q.inbox)]
    by_cases hq : q.id = id
    · have hmem : q.id ∈ id :: ids := by simp [hq]
      rw [if_pos hq, if_pos hmem]
      cases hleft : d.after input q with
      | none => rfl
      | some r =>
        have hr : r.id ∉ ids := by
          rw [(of_after hleft).1, hq]
          exact hid
        exact if_neg hr
    · rw [if_neg hq, Option.bind_some, hafter]
      simp [hq]

/-- What is left of the table once all have been told. -/
theorem pending_feedAll (h : d.Sound) (input : Progress.Input) :
    (d.feedAll input).pending = d.pending.filterMap (d.after input) := by
  refine (pending_foldl_feed h h.ids).trans (List.filterMap_congr fun q hq => ?_)
  exact if_pos (List.mem_map_of_mem hq)

theorem Sound.foldl_feed (h : d.Sound) (ids : List RequestId) :
    (ids.foldl (fun d id => d.feed id input) d).Sound := by
  induction ids generalizing d with
  | nil => exact h
  | cons id ids ih => exact ih (h.feed id input)

theorem Sound.feedAll (h : d.Sound) (input : Progress.Input) : (d.feedAll input).Sound :=
  h.foldl_feed d.ids

theorem Tracks.foldl_feed {id : RequestId} {p : Progress} (h : d.Tracks id inbox p) {ids : List RequestId}
    (hids : ids.Nodup) :
    (ids.foldl (fun d id => d.feed id input) d).Tracks id inbox (if id ∈ ids then p.accept input else p) := by
  induction ids generalizing d p with
  | nil => exact h
  | cons other ids ih =>
    obtain ⟨hother, hids⟩ := List.nodup_cons.1 hids
    by_cases hid : other = id
    · subst hid
      have htold := ih (h.feed input) hids
      rw [if_neg hother] at htold
      rwa [if_pos List.mem_cons_self]
    · have htold := ih (h.feed_of_ne hid input) hids
      simpa [Ne.symm hid] using htold

/-- A request hears once what all are told. -/
theorem Tracks.feedAll {id : RequestId} {p : Progress} (h : d.Tracks id inbox p) (hsound : d.Sound)
    (input : Progress.Input) : (d.feedAll input).Tracks id inbox (p.accept input) := by
  have htold : (d.feedAll input).Tracks id inbox _ := h.foldl_feed hsound.ids
  cases hfinished : p.finished with
  | true =>
    rw [Progress.accept_of_finished hfinished] at htold ⊢
    rwa [ite_self] at htold
  | false =>
    have hentry : d.find? id = some { id, progress := p.drained, inbox } := by
      rw [h.entry, hfinished]
      rfl
    have hmem : id ∈ d.ids := List.mem_map.2 ⟨_, (mem_of_find? hentry).1, rfl⟩
    rwa [if_pos hmem] at htold

end All

/-! ## Warnings and the end -/

section Ends

variable {d : Desk} {id : RequestId} {inbox : Ref .inbox}

theorem warnAll_eq (d : Desk) (text : String) : d.warnAll text = d.feedAll (.warning text) := rfl

/-- A warning takes away those entries whose inboxes nobody reads. -/
theorem pending_warnAll (h : d.Sound) (text : String) :
    (d.warnAll text).pending = d.pending.filter fun q => d.isRead q.inbox := by
  rw [warnAll_eq, pending_feedAll h, ← List.filterMap_eq_filter]
  refine List.filterMap_congr fun q hq => ?_
  obtain ⟨hfinished, hqueue⟩ := h.resting q hq
  obtain ⟨id, ⟨status, finished, queue⟩, inbox⟩ := q
  cases hfinished
  cases hqueue
  have hafter : d.after (.warning text) ⟨id, ⟨status, false, []⟩, inbox⟩ =
      if !d.isRead inbox then none else some ⟨id, ⟨status, false, []⟩, inbox⟩ := rfl
  rw [hafter]
  cases hread : d.isRead inbox <;> simp [Option.guard, hread]

theorem remove_of_none (h : d.find? id = none) : d.remove id = d := by
  simp only [remove, h]

/-- A pending request is done with the end of the connection. -/
theorem terminate_eq (h : d.Sound) (failure : Option String) (id : RequestId) :
    terminate failure d id = d.feed id (ending failure) := by
  have hgone : (d.feed id (ending failure)).find? id = none := by
    refine find?_eq_none_iff.2 fun r hr => ?_
    rw [pending_feed h] at hr
    obtain ⟨q, hq, hqr⟩ := List.mem_filterMap.1 hr
    split at hqr
    · simp [after, Progress.accept_ending (h.resting q hq).unfinished] at hqr
    · rename_i hne
      cases hqr
      exact hne
  exact remove_of_none hgone

theorem foldl_terminate (h : d.Sound) (failure : Option String) (ids : List RequestId) :
    ids.foldl (terminate failure) d = ids.foldl (fun d id => d.feed id (ending failure)) d := by
  induction ids generalizing d with
  | nil => rfl
  | cons id ids ih =>
    rw [List.foldl_cons, List.foldl_cons, terminate_eq h]
    exact ih (h.feed id _)

/-- The desk that is closed, and as it was otherwise. -/
def sealed (d : Desk) : Desk :=
  { d with closed := true }

theorem Sound.sealed (h : d.Sound) : d.sealed.Sound :=
  ⟨h.ids, h.inboxes, h.resting, h.known⟩

theorem shut_eq (h : d.Sound) (failure : Option String) :
    d.shut failure = d.sealed.feedAll (ending failure) :=
  foldl_terminate h.sealed failure d.sealed.ids

theorem pending_shut (h : d.Sound) (failure : Option String) : (d.shut failure).pending = [] := by
  rw [shut_eq h, pending_feedAll h.sealed, List.filterMap_eq_nil_iff]
  intro q hq
  simp [after, Progress.accept_ending (h.resting q hq).unfinished]

theorem closed_feed (d : Desk) (id : RequestId) (input : Progress.Input) : (d.feed id input).closed = d.closed := by
  have hremove (d : Desk) : (d.remove id).closed = d.closed := by
    unfold remove
    split <;> rfl
  cases hq : d.find? id with
  | none => simp only [feed, hq]
  | some q =>
    rw [feed_of_find? hq]
    dsimp only
    split
    · exact hremove _
    · rfl

theorem closed_feedAll (d : Desk) (input : Progress.Input) : (d.feedAll input).closed = d.closed := by
  have hfold (ids : List RequestId) (d : Desk) :
      (ids.foldl (fun d id => d.feed id input) d).closed = d.closed := by
    induction ids generalizing d with
    | nil => rfl
    | cons id ids ih => exact (ih _).trans (closed_feed d id input)
  exact hfold d.ids d

theorem closed_shut (h : d.Sound) (failure : Option String) : (d.shut failure).closed = true := by
  rw [shut_eq h, closed_feedAll]
  rfl

theorem stance_shut (h : d.Sound) (failure : Option String) (inbox : Ref .inbox) :
    (d.shut failure).stance inbox = d.stance inbox := by
  rw [shut_eq h]
  exact stance_feedAll d.sealed _ inbox

theorem Tracks.shut {p : Progress} (h : d.Tracks id inbox p) (hsound : d.Sound) (failure : Option String) :
    (d.shut failure).Tracks id inbox (p.accept (ending failure)) := by
  rw [shut_eq hsound]
  have hsealed : d.sealed.Tracks id inbox p := ⟨h.entry, h.queue, h.alone⟩
  exact hsealed.feedAll hsound.sealed _

end Ends

end Desk

end Client

end Exchange
