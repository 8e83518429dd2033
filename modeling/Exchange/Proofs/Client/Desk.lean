-- SUMMARY: A pending request hears its own frames, in order, and nothing of what comes for others.
import Exchange.Client.Remote
import Exchange.Proofs.Client.Progress
import Exchange.Proofs.Data.Store
import Exchange.Proofs.Framing

/-!
# What a pending request hears

`Desk.Tracks d id inbox p` says that the request `id`, whose events go to
`inbox`, has come as far as the progress `p`: its inbox holds what is in the
queue of `p`, and it is pending unless `p` is finished. News for the request
moves `p` on, and news for any other leaves it (`Tracks.feed`, `Tracks.feed_of_ne`).
Frames that reach a remote client in chunks are taken in as if they came at once.
-/

namespace Exchange.Client

namespace Desk

/-- The request `id`, whose events go to `inbox`, has come as far as `p`. -/
structure Tracks (d : Desk) (id : RequestId) (inbox : Ref .inbox) (p : Progress) : Prop where
  entry : d.find? id = if p.finished then none else some { id, progress := p.drained, inbox }
  queue : ∃ c, d.inboxes.get? inbox = some c ∧ c.reading = true ∧ c.queue = p.queue
  alone : ∀ q ∈ d.pending, q.inbox = inbox → q.id = id

theorem mem_of_find? {d : Desk} {id : RequestId} {q : Pending} (h : d.find? id = some q) :
    q ∈ d.pending ∧ q.id = id :=
  ⟨List.mem_of_find?_eq_some h, by simpa using List.find?_some h⟩

/-! ## Entries -/

section Entries

variable {d : Desk} {id other : RequestId} {inbox : Ref .inbox} {p : Progress}

/-- A request that was just sent has heard nothing. -/
theorem tracks_insert (hid : d.find? id = none) (hfresh : ∀ q ∈ d.pending, q.inbox ≠ d.inboxes.next) :
    (d.insert id).1.Tracks id (d.insert id).2 {} where
  entry := by
    have hpending : (d.insert id).1.find? id =
        (d.find? id).or ([{ id, inbox := d.inboxes.next }].find? fun q => q.id = id) := List.find?_append
    rw [hpending, hid]
    simp
    exact ⟨rfl, rfl⟩
  queue := ⟨{ writers := 1 }, Store.get?_push_next _ _, rfl, rfl⟩
  alone := by
    intro q hq hinbox
    rcases List.mem_append.1 hq with hq | hq
    · exact absurd hinbox (hfresh q hq)
    · rw [List.mem_singleton.1 hq]

/-- Sending another request is nothing to a request. -/
theorem Tracks.insert_of_ne (h : d.Tracks id inbox p) (hne : other ≠ id) :
    (d.insert other).1.Tracks id inbox p := by
  obtain ⟨c, hget, hc⟩ := h.queue
  have hinbox : inbox ≠ d.inboxes.next := by
    rintro rfl
    simp [Store.get?, Store.next] at hget
  refine ⟨?_, ⟨c, (Store.get?_push_of_ne _ hinbox).trans hget, hc⟩, ?_⟩
  · have hpending : (d.insert other).1.find? id =
        (d.find? id).or ([{ id := other, inbox := d.inboxes.next }].find? fun q => q.id = id) :=
      List.find?_append
    rw [hpending, List.find?_cons_of_neg (by simpa using hne), List.find?_nil, Option.or_none]
    exact h.entry
  · intro q hq hq'
    rcases List.mem_append.1 hq with hq | hq
    · exact h.alone q hq hq'
    · rw [List.mem_singleton.1 hq] at hq'
      exact absurd hq'.symm hinbox

/-- Taking another request away is nothing to a request. -/
theorem Tracks.remove_of_ne (h : d.Tracks id inbox p) (hne : other ≠ id) :
    (d.remove other).Tracks id inbox p := by
  unfold remove
  split
  · rename_i q hq
    obtain ⟨hmem, hqid⟩ := mem_of_find? hq
    have hinbox : inbox ≠ q.inbox := by
      rintro rfl
      exact hne (hqid ▸ h.alone q hmem rfl)
    obtain ⟨c, hget, hc⟩ := h.queue
    refine ⟨?_, ⟨c, (Store.get?_modify_of_ne _ hinbox).trans hget, hc⟩, ?_⟩
    · refine Eq.trans ?_ h.entry
      unfold find?
      dsimp only
      rw [List.find?_filter]
      congr
      funext r
      by_cases hr : r.id = id
      · simp [hr, Ne.symm hne]
      · simp [hr]
    · intro r hr hr'
      exact h.alone r (List.mem_filter.1 hr).1 hr'
  · exact h

/-- A finished request is taken away with its inbox as it is. -/
theorem tracks_remove (hentry : d.find? id = some { id, progress := p.drained, inbox })
    (hqueue : ∃ c, d.inboxes.get? inbox = some c ∧ c.reading = true ∧ c.queue = p.queue)
    (halone : ∀ q ∈ d.pending, q.inbox = inbox → q.id = id) (hfinished : p.finished = true) :
    (d.remove id).Tracks id inbox p := by
  obtain ⟨c, hget, hreading, hc⟩ := hqueue
  unfold remove
  rw [hentry]
  refine ⟨?_, ⟨c.leave, ?_, hreading, hc⟩, ?_⟩
  · rw [if_pos hfinished]
    refine List.find?_eq_none.2 fun q hq => ?_
    have := (List.mem_filter.1 hq).2
    simpa using this
  · dsimp only
    rw [Store.get?_modify_self, hget]
    rfl
  · intro q hq hq'
    exact halone q (List.mem_filter.1 hq).1 hq'

end Entries

/-! ## News -/

/-- The desk after a pending request was told news, and before it may be taken away. -/
def told (d : Desk) (q : Pending) (events : List Event) (progress : Progress) : Desk :=
  { d.put q.inbox events with
    pending := d.pending.map fun r => if r.id = q.id then { r with progress } else r }

theorem feed_of_find? {d : Desk} {id : RequestId} {q : Pending} (h : d.find? id = some q)
    (input : Progress.Input) :
    d.feed id input =
      let d' := d.told q (q.progress.accept input).queue (q.progress.accept input).drained
      if (q.progress.accept input).finished || !d'.isRead q.inbox then d'.remove id else d' := by
  obtain ⟨-, rfl⟩ := mem_of_find? h
  unfold feed
  rw [h]
  rfl

section Told

variable {d : Desk} {q : Pending} {events : List Event} {progress : Progress}

theorem find?_told (id : RequestId) :
    (d.told q events progress).find? id =
      (d.find? id).map fun r => if r.id = q.id then { r with progress } else r := by
  unfold told find?
  dsimp only
  rw [List.find?_map]
  congr
  funext r
  simp only [Function.comp_apply]
  split <;> rfl

theorem mem_told {r : Pending} (h : r ∈ (d.told q events progress).pending) :
    ∃ r' ∈ d.pending, r.id = r'.id ∧ r.inbox = r'.inbox := by
  obtain ⟨r', hr', rfl⟩ := List.mem_map.1 h
  refine ⟨r', hr', ?_⟩
  split
  · exact ⟨rfl, rfl⟩
  · exact ⟨rfl, rfl⟩

theorem get?_told_of_ne {inbox : Ref .inbox} (h : inbox ≠ q.inbox) :
    (d.told q events progress).inboxes.get? inbox = d.inboxes.get? inbox :=
  Store.get?_modify_of_ne _ h

theorem get?_told_self {c : Channel Event} (h : d.inboxes.get? q.inbox = some c) (hc : c.reading = true) :
    (d.told q events progress).inboxes.get? q.inbox = some { c with queue := c.queue ++ events } := by
  refine (Store.get?_modify_self _ _ _).trans ?_
  rw [h, Option.map_some, Channel.foldl_send hc]

end Told

section News

variable {d : Desk} {id other : RequestId} {inbox : Ref .inbox} {p : Progress}

/-- News for another request is nothing to a request. -/
theorem Tracks.feed_of_ne (h : d.Tracks id inbox p) (hne : other ≠ id) (input : Progress.Input) :
    (d.feed other input).Tracks id inbox p := by
  cases hq : d.find? other with
  | none =>
    unfold feed
    rw [hq]
    exact h
  | some q =>
    obtain ⟨hmem, rfl⟩ := mem_of_find? hq
    have hinbox : inbox ≠ q.inbox := by
      rintro rfl
      exact hne (h.alone q hmem rfl)
    obtain ⟨c, hget, hc⟩ := h.queue
    have htold (events : List Event) (progress : Progress) :
        (d.told q events progress).Tracks id inbox p := by
      refine ⟨?_, ⟨c, (get?_told_of_ne hinbox).trans hget, hc⟩, ?_⟩
      · rw [find?_told, h.entry]
        split
        · rfl
        · rw [Option.map_some, if_neg (Ne.symm hne)]
      · intro r hr hr'
        obtain ⟨r', hmem', hid, hinbox'⟩ := mem_told hr
        rw [hid]
        exact h.alone r' hmem' (hinbox' ▸ hr')
    rw [feed_of_find? hq]
    dsimp only
    split
    · exact (htold _ _).remove_of_ne hne
    · exact htold _ _

/-- News for a request moves it on. -/
theorem Tracks.feed (h : d.Tracks id inbox p) (input : Progress.Input) :
    (d.feed id input).Tracks id inbox (p.accept input) := by
  by_cases hfinished : p.finished
  · rw [Progress.accept_of_finished hfinished]
    have hnone : d.find? id = none := by rw [h.entry, if_pos hfinished]
    unfold Desk.feed
    rw [hnone]
    exact h
  · have hentry : d.find? id = some { id, progress := p.drained, inbox } := by
      rw [h.entry, if_neg hfinished]
    obtain ⟨c, hget, hreading, hqueue⟩ := h.queue
    obtain ⟨hdrained, hevents⟩ := p.accept_drained input
    rw [feed_of_find? hentry]
    dsimp only
    generalize hd' : d.told { id, progress := p.drained, inbox } (p.drained.accept input).queue
      (p.drained.accept input).drained = d'
    have hget' : d'.inboxes.get? inbox =
        some { c with queue := c.queue ++ (p.drained.accept input).queue } := by
      rw [← hd']
      exact get?_told_self hget hreading
    have hentry' : d'.find? id = some { id, progress := (p.accept input).drained, inbox } := by
      rw [← hd', find?_told, hentry, ← hdrained]
      simp
    have halone' : ∀ r ∈ d'.pending, r.inbox = inbox → r.id = id := by
      intro r hr hr'
      rw [← hd'] at hr
      obtain ⟨r', hmem, hid, hinbox⟩ := mem_told hr
      rw [hid]
      exact h.alone r' hmem (hinbox ▸ hr')
    have hqueue' : ∃ c, d'.inboxes.get? inbox = some c ∧ c.reading = true ∧
        c.queue = (p.accept input).queue :=
      ⟨_, hget', hreading, by rw [← hevents, ← hqueue]⟩
    have hread : d'.isRead inbox = true := by
      unfold isRead
      rw [hget']
      exact hreading
    have hend := congrArg Progress.finished hdrained
    rw [Progress.finished_drained, Progress.finished_drained] at hend
    rw [hread, hend, Bool.not_true, Bool.or_false]
    split
    · rename_i hfin
      exact tracks_remove hentry' hqueue' halone' hfin
    · rename_i hfin
      exact ⟨by rw [if_neg hfin, hentry'], hqueue', halone'⟩

/-- A frame that bears an id is news for the request with this id. -/
theorem accept_of_decode {frame : Frame} {r : Reply} (hr : Reply.decode frame = .ok r)
    (hid : r.id = some other) : d.accept frame = d.feed other (.frame r) := by
  unfold accept
  rw [hr]
  simp only [hid]

/-- Of frames that all bear ids a request hears its own, in order. -/
theorem Tracks.foldl_accept {frames : List Frame} {replies : List Reply} (h : d.Tracks id inbox p)
    (hdecode : frames.map Reply.decode = replies.map .ok) (hids : ∀ r ∈ replies, r.id.isSome) :
    (frames.foldl Desk.accept d).Tracks id inbox (p.run (replies.filter fun r => r.id = some id)) := by
  induction frames generalizing d p replies with
  | nil =>
    obtain rfl : replies = [] := List.map_eq_nil_iff.1 hdecode.symm
    exact h
  | cons frame frames ih =>
    cases replies with
    | nil => cases hdecode
    | cons r replies =>
      obtain ⟨hr, hrest⟩ := List.cons.inj hdecode
      obtain ⟨other, hother⟩ := Option.isSome_iff_exists.1 (hids r List.mem_cons_self)
      have hids' : ∀ r ∈ replies, r.id.isSome := fun r hr => hids r (List.mem_cons_of_mem _ hr)
      rw [List.foldl_cons, accept_of_decode hr hother]
      by_cases hid : other = id
      · subst hid
        rw [List.filter_cons_of_pos (by simpa using hother), Progress.run_cons]
        exact ih (h.feed _) hrest hids'
      · rw [List.filter_cons_of_neg (by simpa [hother] using hid)]
        exact ih (h.feed_of_ne hid _) hrest hids'

end News

end Desk

/-! ## Reading in chunks -/

/-- What a remote client reads in chunks it takes in as if it had come at once. -/
theorem Remote.foldl_read (c : Remote) (chunks : List Bytes)
    (hbuffer : Framing.drain c.limit c.buffer = ⟨[], none, c.buffer⟩)
    (h : (Framing.drain c.limit (c.buffer ++ chunks.flatten)).error = none) :
    chunks.foldl (fun c chunk => c.read chunk false) c =
      { c with
        buffer := (Framing.drain c.limit (c.buffer ++ chunks.flatten)).buffer
        desk := (Framing.drain c.limit (c.buffer ++ chunks.flatten)).frames.foldl Desk.accept c.desk } := by
  induction chunks generalizing c with
  | nil =>
    rw [List.flatten_nil, List.append_nil, hbuffer]
    rfl
  | cons chunk chunks ih =>
    rw [List.flatten_cons, ← List.append_assoc] at h ⊢
    have hfirst := Framing.error_of_append h
    have hread : c.read chunk false =
        { c with
          buffer := (Framing.drain c.limit (c.buffer ++ chunk)).buffer
          desk := (Framing.drain c.limit (c.buffer ++ chunk)).frames.foldl Desk.accept c.desk } := by
      unfold read
      simp only [Bool.false_eq_true, if_false, hfirst]
    rw [Framing.drain_append, Framing.Drained.resume] at h ⊢
    rw [List.foldl_cons, hread, ih _ (Framing.drain_buffer hfirst) h]
    dsimp only
    rw [List.foldl_append]

end Exchange.Client
