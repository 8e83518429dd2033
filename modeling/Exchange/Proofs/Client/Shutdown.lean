-- SUMMARY: Requests that race with the end of the connection: none stays in the table, and none is left without an end.
import Exchange.Proofs.Client.Deciding
import Exchange.Proofs.Client.News

/-!
# Requests that race with the end

A request that enters the table has a channel of its own, which stays as it is
until a call to shut has taken the request out; then it is told once (`Stocked`).
When all calls have returned the table is empty, and each request was refused
or has heard one end (`none_left_silent`).
-/

namespace Exchange.Client

namespace Desk

/-- The channel of an inbox as it is, or as it will be when a request enters. -/
def origin (d : Desk) (inbox : Ref .inbox) : Channel Event :=
  (d.inboxes.get? inbox).getD { writers := 1 }

/-- Since `d₀` an inbox has received the end of the connection, and nothing else. -/
def Told (d₀ d : Desk) (failures : List (Option String)) (inbox : Ref .inbox) : Prop :=
  ∃ failure ∈ failures, d.inboxes.get? inbox = some ((d₀.origin inbox).send (farewell failure)).1.leave

/-- Whoever reads the inbox finds the end behind what was there. -/
theorem Told.waiting {d₀ d : Desk} {failures : List (Option String)} {inbox : Ref .inbox}
    (h : Told d₀ d failures inbox) (hread : (d₀.origin inbox).reading = true) :
    ∃ failure ∈ failures, d.waiting inbox = d₀.waiting inbox ++ [farewell failure] := by
  obtain ⟨failure, hfailure, hget⟩ := h
  have hqueue : d₀.waiting inbox = (d₀.origin inbox).queue := by
    unfold Desk.waiting origin
    cases d₀.inboxes.get? inbox <;> rfl
  refine ⟨failure, hfailure, ?_⟩
  rw [hqueue, Desk.waiting, hget, Channel.send, if_pos hread]
  rfl

/-- The pending requests with their inboxes. -/
def streams (d : Desk) : List (RequestId × Ref .inbox) :=
  d.pending.map fun q => (q.id, q.inbox)

section Entries

variable {d : Desk} {id : RequestId} {q : Pending}

theorem Sound.without (h : d.Sound) (id : RequestId) : (d.without id).Sound := by
  refine h.of_left (f := Option.guard fun q => decide (q.id ≠ id)) ?_ ?_ fun _ => rfl
  · rw [List.filterMap_eq_filter]
    rfl
  · intro q r hqr
    obtain ⟨rfl, -⟩ := Option.guard_eq_some_iff.1 hqr
    exact ⟨rfl, rfl, fun hresting => hresting⟩

theorem Sound.modifyInbox (h : d.Sound) (inbox : Ref .inbox) (f : Channel Event → Channel Event) :
    (d.modifyInbox inbox f).Sound :=
  (h.follows_modifyInbox inbox f).sound

theorem Sound.perm_without (h : d.Sound) (hq : d.find? id = some q) :
    d.pending.Perm (q :: (d.without id).pending) := by
  obtain ⟨hmem, rfl⟩ := mem_of_find? hq
  have hnodup : d.pending.Nodup := .of_map _ h.ids
  have hout : q ∉ (d.without q.id).pending := fun hin => (mem_without.1 hin).2 rfl
  refine (List.perm_ext_iff_of_nodup hnodup (List.nodup_cons.2 ⟨hout, hnodup.filter _⟩)).2 fun r => ?_
  rw [List.mem_cons]
  constructor
  · intro hr
    by_cases hid : r.id = q.id
    · exact .inl (h.eq_of_id hr hmem hid)
    · exact .inr (mem_without.2 ⟨hr, hid⟩)
  · rintro (rfl | hr)
    · exact hmem
    · exact (mem_without.1 hr).1

theorem remove_of_find? (hq : d.find? id = some q) :
    d.remove id = (d.without id).modifyInbox q.inbox Channel.leave := by
  simp only [remove, hq]
  rfl

theorem dismiss_eq (hresting : q.progress.Resting) (failure : Option String) :
    d.dismiss failure q = d.modifyInbox q.inbox fun c => (c.send (farewell failure)).1.leave := by
  unfold dismiss modifyInbox
  rw [Progress.accept_ending hresting.unfinished, hresting.queue]
  rfl

end Entries

end Desk

namespace Shutdown

/-! ## No request is told twice -/

/-- Who is in the table or was taken out of it is on a channel of its own that is as it was; every other
request that has succeeded, or may yet, has been told of the end. -/
structure Stocked (d₀ : Desk) (failures : List (Option String)) (c : Scene) (todo : List Step) : Prop where
  sound : c.desk.Sound
  grown : ∀ i, (d₀.inboxes.get? i).isSome = true → (c.desk.inboxes.get? i).isSome = true
  apart : ((c.held todo).map (·.inbox)).Nodup
  untold : ∀ q ∈ c.held todo, q.progress.Resting ∧ c.desk.inboxes.get? q.inbox = some (d₀.origin q.inbox)
  named : ∀ q ∈ c.held todo, q.id ∈ d₀.ids ++ c.known todo
  reached : ∀ p ∈ d₀.streams ++ c.streams todo,
    (∃ q ∈ c.held todo, q.id = p.1 ∧ q.inbox = p.2) ∨
      (Desk.Told d₀ c.desk failures p.2 ∧ p.2 ∉ (c.held todo).map (·.inbox))
  fresh : ∀ p ∈ c.streams todo, d₀.inboxes.get? p.2 = none
  distinct : ((c.streams todo).map (·.2)).Nodup
  gone : ∀ p ∈ c.refused, p.1 ∉ c.desk.ids
  ends : ∀ u ∈ todo, ∀ failure, u.failure? = some failure → failure ∈ failures

namespace Stocked

variable {d₀ : Desk} {failures : List (Option String)} {c c' : Scene} {t : Step} {todo : List Step}

/-- A step that writes to no inbox, and leaves who is held as they are. -/
theorem after (h : Stocked d₀ failures c (t :: todo)) (next : List Step) (hsound : c'.desk.Sound)
    (hinboxes : c'.desk.inboxes = c.desk.inboxes) (hheld : (c'.held (next ++ todo)).Perm (c.held (t :: todo)))
    (hknown : ∀ id ∈ c.known (t :: todo), id ∈ c'.known (next ++ todo))
    (hstreams : (c'.streams (next ++ todo)).Sublist (c.streams (t :: todo)))
    (hgone : ∀ p ∈ c'.refused, p.1 ∉ c'.desk.ids)
    (hends : ∀ u ∈ next, ∀ failure, u.failure? = some failure → failure ∈ failures) :
    Stocked d₀ failures c' (next ++ todo) where
  sound := hsound
  grown := hinboxes ▸ h.grown
  apart := ((hheld.map _).nodup_iff).2 h.apart
  untold q hq := hinboxes ▸ h.untold q (hheld.subset hq)
  named q hq := by
    rcases List.mem_append.1 (h.named q (hheld.subset hq)) with hold | hid
    · exact List.mem_append_left _ hold
    · exact List.mem_append_right _ (hknown _ hid)
  reached p hp := by
    have hp' : p ∈ d₀.streams ++ c.streams (t :: todo) := ((List.Sublist.refl _).append hstreams).subset hp
    rcases h.reached p hp' with ⟨q, hq, hpq⟩ | ⟨⟨failure, hfailure, hget⟩, hout⟩
    · exact .inl ⟨q, hheld.symm.subset hq, hpq⟩
    · refine .inr ⟨⟨failure, hfailure, hinboxes ▸ hget⟩, fun hin => hout ?_⟩
      exact (hheld.map _).subset hin
  fresh p hp := h.fresh p (hstreams.subset hp)
  distinct := (hstreams.map _).nodup h.distinct
  gone := hgone
  ends u hu := by
    rcases List.mem_append.1 hu with hu | hu
    · exact hends u hu
    · exact h.ends u (List.mem_cons_of_mem _ hu)

section Names

variable {id : RequestId}

theorem request?_of_entered? (h : t.entered? = some id) : t.request? = some id := by
  cases t with
  | recheck | send | discard => exact h
  | check | enter | close | part | collect | take | tell => cases h

theorem request?_of_open? {p : RequestId × Ref .inbox} (h : t.open? = some p) : t.request? = some p.1 := by
  cases t with
  | recheck | send =>
    cases h
    rfl
  | check | enter | discard | close | part | collect | take | tell => cases h

/-- The request that is being sent has no namesake. -/
theorem not_mem_names (hnames : (d₀.ids ++ c.names (t :: todo)).Nodup) (ht : t.request? = some id) :
    id ∉ d₀.ids ++ c.names todo := by
  unfold Scene.names at hnames
  rw [List.filterMap_cons_some ht, ← List.append_assoc, List.nodup_middle] at hnames
  rw [Scene.names, ← List.append_assoc]
  exact (List.nodup_cons.1 hnames).1

theorem mem_names_of_known (h : id ∈ c.known todo) : id ∈ c.names todo := by
  rcases List.mem_append.1 h with h | h
  · exact List.mem_append_left _ h
  · obtain ⟨u, hu, hid⟩ := List.mem_filterMap.1 h
    exact List.mem_append_right _ (List.mem_filterMap.2 ⟨u, hu, request?_of_entered? hid⟩)

theorem mem_names_of_streams {p : RequestId × Ref .inbox} (h : p ∈ d₀.streams ++ c.streams todo) :
    p.1 ∈ d₀.ids ++ c.names todo := by
  rcases List.mem_append.1 h with h | h
  · obtain ⟨q, hq, rfl⟩ := List.mem_map.1 h
    exact List.mem_append_left _ (List.mem_map_of_mem hq)
  · apply List.mem_append_right
    rcases List.mem_append.1 h with h | h
    · exact List.mem_append_left _ (List.mem_append_left _ (List.mem_map_of_mem h))
    · obtain ⟨u, hu, hp⟩ := List.mem_filterMap.1 h
      exact List.mem_append_right _ (List.mem_filterMap.2 ⟨u, hu, request?_of_open? hp⟩)

/-- A request that has not entered the table is not held. -/
theorem ne_of_held (h : Stocked d₀ failures c (t :: todo)) (hnames : (d₀.ids ++ c.names (t :: todo)).Nodup)
    (ht : t.request? = some id) (hout : t.entered? = none) {q : Pending} (hq : q ∈ c.held (t :: todo)) : q.id ≠ id := by
  rintro rfl
  apply not_mem_names hnames ht
  have hnamed := h.named q hq
  rw [Scene.known, List.filterMap_cons_none hout] at hnamed
  rcases List.mem_append.1 hnamed with hold | hknown
  · exact List.mem_append_left _ hold
  · exact List.mem_append_right _ (mem_names_of_known hknown)

end Names

theorem isSome_of_held (h : Stocked d₀ failures c todo) {q : Pending} (hq : q ∈ c.held todo) :
    (c.desk.inboxes.get? q.inbox).isSome = true := by
  rw [(h.untold q hq).2]
  rfl

theorem isSome_of_streams (h : Stocked d₀ failures c todo) {p : RequestId × Ref .inbox}
    (hp : p ∈ d₀.streams ++ c.streams todo) : (c.desk.inboxes.get? p.2).isSome = true := by
  rcases h.reached p hp with ⟨q, hq, -, hinbox⟩ | ⟨⟨failure, -, hget⟩, -⟩
  · rw [← hinbox]
    exact h.isSome_of_held hq
  · rw [hget]
    rfl

/-- A request enters the table, with an inbox of its own. -/
theorem enter {id : RequestId} {r : Request} (h : Stocked d₀ failures c (.enter id r :: todo))
    (hnames : (d₀.ids ++ c.names (.enter id r :: todo)).Nodup) :
    Stocked d₀ failures (c.onDesk (c.desk.insert id).1) (.recheck id (c.desk.insert id).2 r :: todo) := by
  have hheld : (c.onDesk (c.desk.insert id).1).held (.recheck id (c.desk.insert id).2 r :: todo) =
      c.desk.pending ++ { id, inbox := c.desk.inboxes.next } :: todo.filterMap Step.held? :=
    List.append_assoc ..
  have hcases {q : Pending}
      (hq : q ∈ (c.onDesk (c.desk.insert id).1).held (.recheck id (c.desk.insert id).2 r :: todo)) :
      q = { id, inbox := c.desk.inboxes.next } ∨ q ∈ c.held (.enter id r :: todo) := by
    rw [hheld] at hq
    exact List.mem_cons.1 (List.perm_middle.subset hq)
  have hmem {q : Pending} (hq : q ∈ c.held (.enter id r :: todo)) :
      q ∈ (c.onDesk (c.desk.insert id).1).held (.recheck id (c.desk.insert id).2 r :: todo) := by
    rw [hheld]
    exact List.perm_middle.symm.subset (List.mem_cons_of_mem _ hq)
  have hnone : c.desk.inboxes.get? c.desk.inboxes.next = none := Store.get?_next _
  have hne {i : Ref .inbox} (hi : (c.desk.inboxes.get? i).isSome = true) : i ≠ c.desk.inboxes.next := by
    rintro rfl
    rw [hnone] at hi
    cases hi
  have hget {i : Ref .inbox} (hi : (c.desk.inboxes.get? i).isSome = true) :
      (c.desk.insert id).1.inboxes.get? i = c.desk.inboxes.get? i := Store.get?_push_of_ne _ (hne hi)
  have hnew : d₀.inboxes.get? c.desk.inboxes.next = none := by
    rw [← Option.not_isSome_iff_eq_none]
    exact fun hold => hne (h.grown _ hold) rfl
  have hid : ∀ q ∈ c.held (.enter id r :: todo), q.id ≠ id := fun q hq => h.ne_of_held hnames rfl rfl hq
  exact {
    sound := h.sound.insert fun q hq => hid q (List.mem_append_left _ hq)
    grown := fun i hi => by
      have hi := h.grown i hi
      show ((c.desk.insert id).1.inboxes.get? i).isSome = true
      rw [hget hi]
      exact hi
    apart := by
      rw [hheld, (List.perm_middle.map _).nodup_iff, List.map_cons, List.nodup_cons]
      refine ⟨fun hin => ?_, h.apart⟩
      obtain ⟨q, hq, hinbox⟩ := List.mem_map.1 hin
      exact hne (h.isSome_of_held hq) hinbox
    untold := fun q hq => by
      rcases hcases hq with rfl | hq
      · refine ⟨⟨rfl, rfl⟩, ?_⟩
        rw [Desk.origin, hnew]
        exact Store.get?_push_next _ _
      · obtain ⟨hresting, hchannel⟩ := h.untold q hq
        exact ⟨hresting, (hget (h.isSome_of_held hq)).trans hchannel⟩
    named := fun q hq => by
      rcases hcases hq with rfl | hq
      · exact List.mem_append_right _ (List.mem_append_right _ List.mem_cons_self)
      · rcases List.mem_append.1 (h.named q hq) with hold | hknown
        · exact List.mem_append_left _ hold
        · refine List.mem_append_right _ ?_
          rcases List.mem_append.1 hknown with hdecided | hentered
          · exact List.mem_append_left _ hdecided
          · exact List.mem_append_right _ (List.mem_cons_of_mem _ hentered)
    reached := fun p hp => by
      have hp : p = (id, c.desk.inboxes.next) ∨ p ∈ d₀.streams ++ c.streams (.enter id r :: todo) := by
        have hperm : (d₀.streams ++ (c.onDesk (c.desk.insert id).1).streams
            (.recheck id (c.desk.insert id).2 r :: todo)).Perm
              ((id, c.desk.inboxes.next) :: (d₀.streams ++ c.streams (.enter id r :: todo))) :=
          (List.perm_middle.append_left _).trans List.perm_middle
        exact List.mem_cons.1 (hperm.subset hp)
      rcases hp with rfl | hp
      · exact .inl ⟨_, hheld ▸ List.mem_append_right _ List.mem_cons_self, rfl, rfl⟩
      · rcases h.reached p hp with ⟨q, hq, hpq⟩ | ⟨⟨failure, hfailure, hchannel⟩, hout⟩
        · exact .inl ⟨q, hmem hq, hpq⟩
        · refine .inr ⟨⟨failure, hfailure, (hget (h.isSome_of_streams hp)).trans hchannel⟩, fun hin => ?_⟩
          obtain ⟨q, hq, hinbox⟩ := List.mem_map.1 hin
          rcases hcases hq with rfl | hq
          · exact hne (h.isSome_of_streams hp) hinbox.symm
          · exact hout (List.mem_map.2 ⟨q, hq, hinbox⟩)
    fresh := fun p hp => by
      rcases List.mem_cons.1 (List.perm_middle.subset hp) with rfl | hp
      · exact hnew
      · exact h.fresh p hp
    distinct := by
      refine ((List.perm_middle.map _).nodup_iff).2 (List.nodup_cons.2 ⟨fun hin => ?_, h.distinct⟩)
      obtain ⟨p, hp, hinbox⟩ := List.mem_map.1 hin
      exact hne (h.isSome_of_streams (List.mem_append_right _ hp)) hinbox
    gone := fun p hp hin => by
      have hids : (c.desk.insert id).1.ids = c.desk.ids ++ [id] := List.map_append
      have hin : p.1 ∈ (c.desk.insert id).1.ids := hin
      rw [hids] at hin
      rcases List.mem_append.1 hin with hin | hin
      · exact h.gone p hp hin
      · apply not_mem_names hnames rfl
        rw [← List.mem_singleton.1 hin]
        exact List.mem_append_right _ (List.mem_append_left _ (List.mem_append_right _ (List.mem_map_of_mem hp)))
    ends := fun u hu => by
      rcases List.mem_cons.1 hu with rfl | hu
      · exact nofun
      · exact h.ends u (List.mem_cons_of_mem _ hu) }

/-- A step that writes to the inbox of one who is held, who is not held any more. -/
theorem written (h : Stocked d₀ failures c (t :: todo)) (q₀ : Pending) (f : Channel Event → Channel Event)
    (hsound : c'.desk.Sound) (hinboxes : c'.desk.inboxes = c.desk.inboxes.modify q₀.inbox f)
    (hheld : (c.held (t :: todo)).Perm (q₀ :: c'.held todo))
    (hknown : ∀ id ∈ c.known (t :: todo), id ∈ c'.known todo)
    (hstreams : (c'.streams todo).Sublist (c.streams (t :: todo)))
    (hreached : ∀ p ∈ d₀.streams ++ c'.streams todo, q₀.id = p.1 → q₀.inbox = p.2 →
      Desk.Told d₀ c'.desk failures p.2)
    (hgone : ∀ p ∈ c'.refused, p.1 ∉ c'.desk.ids) : Stocked d₀ failures c' todo := by
  have hapart := ((hheld.map (·.inbox)).nodup_iff).1 h.apart
  rw [List.map_cons, List.nodup_cons] at hapart
  obtain ⟨hout, hapart⟩ := hapart
  have hmem {q : Pending} (hq : q ∈ c'.held todo) : q ∈ c.held (t :: todo) :=
    hheld.symm.subset (List.mem_cons_of_mem _ hq)
  have hget {i : Ref .inbox} (hi : i ≠ q₀.inbox) : c'.desk.inboxes.get? i = c.desk.inboxes.get? i := by
    rw [hinboxes]
    exact Store.get?_modify_of_ne f hi
  exact {
    sound := hsound
    grown := fun i hi => by
      rw [hinboxes, Store.get?_modify]
      have hi := h.grown i hi
      split
      · rw [Option.isSome_map]
        exact hi
      · exact hi
    apart := hapart
    untold := fun q hq => by
      obtain ⟨hresting, hchannel⟩ := h.untold q (hmem hq)
      refine ⟨hresting, (hget fun heq => hout ?_).trans hchannel⟩
      rw [← heq]
      exact List.mem_map_of_mem hq
    named := fun q hq => by
      rcases List.mem_append.1 (h.named q (hmem hq)) with hold | hid
      · exact List.mem_append_left _ hold
      · exact List.mem_append_right _ (hknown _ hid)
    reached := fun p hp => by
      rcases h.reached p (((List.Sublist.refl _).append hstreams).subset hp) with
        ⟨q, hq, hid, hinbox⟩ | ⟨⟨failure, hfailure, hchannel⟩, hnot⟩
      · rcases List.mem_cons.1 (hheld.subset hq) with rfl | hq
        · exact .inr ⟨hreached p hp hid hinbox, hinbox ▸ hout⟩
        · exact .inl ⟨q, hq, hid, hinbox⟩
      · have hother {q : Pending} (hq : q ∈ c.held (t :: todo)) : q.inbox ≠ p.2 :=
          fun heq => hnot (heq ▸ List.mem_map_of_mem hq)
        refine .inr ⟨⟨failure, hfailure, (hget ?_).trans hchannel⟩, fun hin => ?_⟩
        · exact (hother (hheld.symm.subset List.mem_cons_self)).symm
        · obtain ⟨q, hq, hinbox⟩ := List.mem_map.1 hin
          exact hother (hmem hq) hinbox
    fresh := fun p hp => h.fresh p (hstreams.subset hp)
    distinct := (hstreams.map _).nodup h.distinct
    gone := hgone
    ends := fun u hu => h.ends u (List.mem_cons_of_mem _ hu) }

/-- A request that was not sent leaves the table, unless it was taken out. -/
theorem discard {id : RequestId} (h : Stocked d₀ failures c (.discard id :: todo))
    (hnames : (d₀.ids ++ c.names (.discard id :: todo)).Nodup) :
    Stocked d₀ failures ((c.onDesk (c.desk.remove id)).refuse id .closed) todo := by
  have hpending : (c.desk.remove id).pending = (c.desk.without id).pending := Desk.pending_remove c.desk id
  have hknown : ∀ id' ∈ c.known (.discard id :: todo),
      id' ∈ ((c.onDesk (c.desk.remove id)).refuse id .closed).known todo := by
    have hsame : ((c.onDesk (c.desk.remove id)).refuse id .closed).known todo = c.known (.discard id :: todo) := by
      simp [Scene.known, Scene.refuse, Scene.onDesk, Step.entered?]
    rw [hsame]
    exact fun _ hid => hid
  have hgone : ∀ p ∈ ((c.onDesk (c.desk.remove id)).refuse id .closed).refused, p.1 ∉ (c.desk.remove id).ids := by
    have hids : (c.desk.remove id).ids = (c.desk.without id).ids := congrArg (List.map Pending.id) hpending
    rw [hids]
    intro p hp
    rcases List.mem_append.1 hp with hp | hp
    · exact fun hin => h.gone p hp (Desk.mem_ids_without.1 hin).1
    · rw [List.mem_singleton.1 hp]
      exact fun hin => (Desk.mem_ids_without.1 hin).2 rfl
  cases hq : c.desk.find? id with
  | none =>
    have hsame : c.desk.remove id = c.desk := by simp only [Desk.remove, hq]
    rw [hsame] at hknown hgone ⊢
    exact h.after [] h.sound rfl (.refl _) hknown (.refl _) hgone (by simp)
  | some q =>
    have hleft := Desk.remove_of_find? hq
    have hid : q.id = id := (Desk.mem_of_find? hq).2
    refine h.written q Channel.leave ?_ ?_ ?_ hknown (.refl _) ?_ hgone
    · show (c.desk.remove id).Sound
      rw [hleft]
      exact (h.sound.without id).modifyInbox _ _
    · show (c.desk.remove id).inboxes = _
      rw [hleft]
      rfl
    · show (c.desk.pending ++ _).Perm (q :: ((c.desk.remove id).pending ++ _))
      rw [hpending]
      exact (h.sound.perm_without hq).append_right _
    · intro p hp hpid
      refine absurd ?_ (not_mem_names hnames rfl)
      rw [← hid, hpid]
      exact mem_names_of_streams hp

/-- One who was taken out is told. -/
theorem tell {failure : Option String} {q : Pending} (h : Stocked d₀ failures c (.tell failure q :: todo)) :
    Stocked d₀ failures (c.onDesk (c.desk.dismiss failure q)) todo := by
  have hheld : (c.held (.tell failure q :: todo)).Perm (q :: c.held todo) := List.perm_middle
  obtain ⟨hresting, hchannel⟩ := h.untold q (hheld.symm.subset List.mem_cons_self)
  rw [Desk.dismiss_eq hresting]
  refine h.written q (fun c => (c.send (Desk.farewell failure)).1.leave) (h.sound.modifyInbox _ _) rfl hheld
    (fun _ hid => hid) (.refl _) ?_ h.gone
  intro p _ _ hinbox
  refine ⟨failure, h.ends _ List.mem_cons_self failure rfl, ?_⟩
  rw [← hinbox]
  refine (Store.get?_modify_self _ _ _).trans ?_
  rw [hchannel]
  rfl

/-- A request is refused that has not entered the table. -/
theorem refuse {id : RequestId} {r : Request} (h : Stocked d₀ failures c (.check id r :: todo))
    (hnames : (d₀.ids ++ c.names (.check id r :: todo)).Nodup) (e : Error) :
    Stocked d₀ failures (c.refuse id e) todo := by
  have hknown (id' : RequestId) (hid : id' ∈ c.known (.check id r :: todo)) : id' ∈ (c.refuse id e).known todo := by
    simp only [Scene.known, Scene.refuse, List.map_append, List.mem_append] at hid ⊢
    exact hid.imp_left (Or.imp_right .inl)
  refine h.after [] h.sound rfl (.refl _) hknown (.refl _) (fun p hp => ?_) (by simp)
  rcases List.mem_append.1 hp with hp | hp
  · exact h.gone p hp
  · rw [List.mem_singleton.1 hp]
    intro hin
    obtain ⟨q, hq, hid⟩ := List.mem_map.1 hin
    exact h.ne_of_held hnames rfl rfl (List.mem_append_left _ hq) hid

/-- A request is sent, and keeps its inbox. -/
theorem send {id : RequestId} {inbox : Ref .inbox} {r : Request}
    (h : Stocked d₀ failures c (.send id inbox r :: todo)) :
    Stocked d₀ failures (c.accept id inbox r) todo := by
  have hstreams : (c.accept id inbox r).streams todo = c.streams (.send id inbox r :: todo) := List.append_assoc ..
  refine h.after [] h.sound rfl (.refl _) (fun id' hid => ?_) (hstreams ▸ .refl _) h.gone (by simp)
  simp only [Scene.known, Scene.accept, Step.entered?, List.map_append, List.mem_append, List.map_cons,
    List.filterMap_cons, List.mem_cons] at hid ⊢
  tauto

/-- A call to shut has the ids of all who are in the table. -/
theorem collect {failure : Option String} (h : Stocked d₀ failures c (.collect failure :: todo)) :
    Stocked d₀ failures c (c.desk.ids.map (Step.take failure) ++ todo) := by
  have hnone {α : Type} (f : Step → Option α) (hf : ∀ id, f (.take failure id) = none) :
      (c.desk.ids.map (Step.take failure) ++ todo).filterMap f = todo.filterMap f := by
    simp [hf]
  have hheld : c.held (c.desk.ids.map (Step.take failure) ++ todo) = c.held todo :=
    congrArg (c.desk.pending ++ ·) (hnone Step.held? fun _ => rfl)
  have hknown : c.known (c.desk.ids.map (Step.take failure) ++ todo) = c.known todo :=
    congrArg (_ ++ ·) (hnone Step.entered? fun _ => rfl)
  have hstreams : c.streams (c.desk.ids.map (Step.take failure) ++ todo) = c.streams todo :=
    congrArg (c.accepted ++ ·) (hnone Step.open? fun _ => rfl)
  refine h.after _ h.sound rfl (.of_eq hheld) (fun id hid => hknown ▸ hid) (hstreams ▸ .refl _) h.gone ?_
  intro u hu
  obtain ⟨id, -, rfl⟩ := List.mem_map.1 hu
  exact h.ends (.collect failure) List.mem_cons_self

/-- Who is taken out of the table is still held. -/
theorem take {failure : Option String} {id : RequestId} {q : Pending}
    (h : Stocked d₀ failures c (.take failure id :: todo)) (hq : c.desk.find? id = some q) :
    Stocked d₀ failures (c.onDesk (c.desk.without id)) (.tell failure q :: todo) := by
  have hheld : ((c.onDesk (c.desk.without id)).held (.tell failure q :: todo)).Perm
      (c.held (.take failure id :: todo)) :=
    List.perm_middle.trans ((h.sound.perm_without hq).symm.append_right _)
  refine h.after [_] (h.sound.without id) rfl hheld (fun _ hid => hid) (.refl _)
    (fun p hp hin => h.gone p hp (Desk.mem_ids_without.1 hin).1) fun u hu => ?_
  rw [List.mem_singleton.1 hu]
  exact h.ends (.take failure id) List.mem_cons_self

theorem exec (h : Stocked d₀ failures c (t :: todo)) (hnames : (d₀.ids ++ c.names (t :: todo)).Nodup) :
    Stocked d₀ failures (c.exec t).1 ((c.exec t).2 ++ todo) := by
  have hends : ∀ failure, t.failure? = some failure → failure ∈ failures := h.ends t List.mem_cons_self
  cases t with
  | check id r =>
    simp only [Scene.exec]
    split
    · exact h.refuse hnames _
    · split
      · exact h.refuse hnames _
      · exact h.after [_] h.sound rfl (.refl _) (fun _ hid => hid) (.refl _) h.gone (by simp [Step.failure?])
  | enter id r => exact h.enter hnames
  | recheck id inbox r =>
    simp only [Scene.exec]
    split
    · exact h.after [_] h.sound rfl (.refl _) (fun _ hid => hid)
        ((List.sublist_cons_self _ _).append_left _) h.gone (by simp [Step.failure?])
    · exact h.after [_] h.sound rfl (.refl _) (fun _ hid => hid) (.refl _) h.gone (by simp [Step.failure?])
  | send id inbox r =>
    simp only [Scene.exec]
    split
    · exact h.send
    · exact h.after [_] h.sound rfl (.refl _) (fun _ hid => hid)
        ((List.sublist_cons_self _ _).append_left _) h.gone (by simp [Step.failure?])
  | discard id => exact h.discard hnames
  | close failure =>
    exact h.after [_] h.sound.sealed rfl (.refl _) (fun _ hid => hid) (.refl _) h.gone
      (by simpa [Step.failure?] using hends)
  | part failure =>
    exact h.after [_] h.sound rfl (.refl _) (fun _ hid => hid) (.refl _) h.gone (by simpa [Step.failure?] using hends)
  | collect failure => exact h.collect
  | take failure id =>
    simp only [Scene.exec]
    split
    · rename_i q hq
      exact h.take hq
    · exact h.after [] h.sound rfl (.refl _) (fun _ hid => hid) (.refl _) h.gone (by simp)
  | tell failure q => exact h.tell

theorem perm {todo' : List Step} (h : Stocked d₀ failures c todo) (hsteps : todo.Perm todo') :
    Stocked d₀ failures c todo' := by
  have hheld : (c.held todo').Perm (c.held todo) := (hsteps.symm.filterMap _).append_left _
  have hknown : (c.known todo).Perm (c.known todo') := (hsteps.filterMap _).append_left _
  have hstreams : (c.streams todo').Perm (c.streams todo) := (hsteps.symm.filterMap _).append_left _
  exact {
    sound := h.sound
    grown := h.grown
    apart := ((hheld.map _).nodup_iff).2 h.apart
    untold := fun q hq => h.untold q (hheld.subset hq)
    named := fun q hq => (hknown.append_left _).subset (h.named q (hheld.subset hq))
    reached := fun p hp => by
      rcases h.reached p ((hstreams.append_left _).subset hp) with ⟨q, hq, hpq⟩ | ⟨htold, hout⟩
      · exact .inl ⟨q, hheld.symm.subset hq, hpq⟩
      · exact .inr ⟨htold, fun hin => hout ((hheld.map _).subset hin)⟩
    fresh := fun p hp => h.fresh p (hstreams.subset hp)
    distinct := ((hstreams.map _).nodup_iff).2 h.distinct
    gone := h.gone
    ends := fun u hu => h.ends u (hsteps.symm.subset hu) }

end Stocked

theorem kept_stocked {d₀ : Desk} {names : List RequestId} (hnames : (d₀.ids ++ names).Nodup)
    (failures : List (Option String)) :
    Interleaving.Kept Scene.exec fun c todo => (c.names todo).Perm names ∧ Stocked d₀ failures c todo where
  perm hsteps h := ⟨(kept_names names).perm hsteps h.1, h.2.perm hsteps⟩
  exec h := ⟨(kept_names names).exec h.1, h.2.exec (((h.1.append_left _).nodup_iff).2 hnames)⟩

/-! ## When all calls have returned -/

inductive Call where
  | request (id : RequestId) (r : Request)
  | shut (failure : Option String)

namespace Call

/-- The step with which a call begins. -/
def first : Call → Step
  | request id r => .check id r
  | shut failure => .close failure

def id? : Call → Option RequestId
  | request id _ => some id
  | shut _ => none

def request? : Call → Option (RequestId × Request)
  | request id r => some (id, r)
  | shut _ => none

def failure? : Call → Option (Option String)
  | request _ _ => none
  | shut failure => some failure

theorem mem_of_failure? {calls : List Call} {failure : Option String} (h : failure ∈ calls.filterMap failure?) :
    .shut failure ∈ calls := by
  obtain ⟨call, hcall, hfailure⟩ := List.mem_filterMap.1 h
  cases call with
  | request => cases hfailure
  | shut =>
    cases hfailure
    exact hcall

theorem mem_of_request? {calls : List Call} {p : RequestId × Request} (h : p ∈ calls.filterMap request?) :
    .request p.1 p.2 ∈ calls := by
  obtain ⟨call, hcall, hrequest⟩ := List.mem_filterMap.1 h
  cases call with
  | shut => cases hrequest
  | request =>
    cases hrequest
    exact hcall

end Call

/-- Calls that have not begun. -/
def start (client : Remote) (calls : List Call) : Interleaving Scene Step where
  shared := { client }
  calls := calls.map fun c => [c.first]

section Start

variable {client : Remote} {calls : List Call}

theorem todo_start (client : Remote) (calls : List Call) : (start client calls).todo = calls.map Call.first := by
  induction calls with
  | nil => rfl
  | cons call calls ih => exact congrArg (call.first :: ·) ih

theorem filterMap_first {α : Type} {f : Step → Option α} {g : Call → Option α} (h : ∀ call, f call.first = g call)
    (calls : List Call) : (calls.map Call.first).filterMap f = calls.filterMap g := by
  rw [List.filterMap_map]
  exact List.filterMap_congr fun call _ => h call

theorem filterMap_first_none {α : Type} {f : Step → Option α} (h : ∀ call : Call, f call.first = none)
    (calls : List Call) : (calls.map Call.first).filterMap f = [] := by
  rw [filterMap_first (g := fun _ => none) h]
  exact List.filterMap_eq_nil_iff.2 fun _ _ => rfl

theorem names_start (client : Remote) (calls : List Call) :
    (start client calls).shared.names (start client calls).todo = calls.filterMap Call.id? := by
  rw [todo_start]
  exact filterMap_first (fun call => by cases call <;> rfl) calls

theorem swept_start (client : Remote) (h : ∃ failure, .shut failure ∈ calls) :
    Swept (start client calls).shared (start client calls).todo := by
  refine ⟨fun _ => ?_, nofun⟩
  obtain ⟨failure, hshut⟩ := h
  rw [todo_start]
  exact ⟨.close failure, List.mem_map.2 ⟨_, hshut, rfl⟩, trivial⟩

theorem grounded_start (client : Remote) (calls : List Call) :
    Grounded (calls.filterMap Call.request?) (start client calls).shared (start client calls).todo := by
  refine ⟨fun id r hin => ?_, nofun⟩
  rw [todo_start] at hin
  obtain ⟨call, hcall, hfirst⟩ := List.mem_map.1 hin
  cases call with
  | shut => cases hfirst
  | request =>
    cases hfirst
    exact List.mem_filterMap.2 ⟨_, hcall, rfl⟩

theorem stocked_start (hsound : client.desk.Sound) (calls : List Call) :
    Stocked client.desk (calls.filterMap Call.failure?) (start client calls).shared (start client calls).todo := by
  have hheld : (start client calls).shared.held (start client calls).todo = client.desk.pending := by
    rw [todo_start, Scene.held, filterMap_first_none fun call => by cases call <;> rfl]
    exact List.append_nil _
  have hstreams : (start client calls).shared.streams (start client calls).todo = [] := by
    rw [todo_start, Scene.streams, filterMap_first_none fun call => by cases call <;> rfl]
    rfl
  exact {
    sound := hsound
    grown := fun i hi => hi
    apart := hheld ▸ hsound.inboxes
    untold := fun q hq => by
      rw [hheld] at hq
      obtain ⟨c, hget⟩ := Option.isSome_iff_exists.1 (hsound.known q hq)
      refine ⟨hsound.resting q hq, ?_⟩
      rw [Desk.origin, hget]
      exact hget
    named := fun q hq => List.mem_append_left _ (List.mem_map_of_mem (hheld ▸ hq))
    reached := fun p hp => by
      rw [hstreams, List.append_nil] at hp
      obtain ⟨q, hq, rfl⟩ := List.mem_map.1 hp
      exact .inl ⟨q, hheld ▸ hq, rfl, rfl⟩
    fresh := fun p hp => by
      rw [hstreams] at hp
      cases hp
    distinct := by
      rw [hstreams]
      exact .nil
    gone := nofun
    ends := fun u hu failure hfailure => by
      rw [todo_start] at hu
      obtain ⟨call, hcall, rfl⟩ := List.mem_map.1 hu
      cases call with
      | request => cases hfailure
      | shut =>
        cases hfailure
        exact List.mem_filterMap.2 ⟨_, hcall, rfl⟩ }

end Start

/-- However requests and calls to shut take turns, all return when they get more turns. A request that was
refused is not in the table, and was refused because the client is closed, unless it is not valid. Once all
have returned the table is empty and each request was either accepted or refused; those that were accepted,
and those that were pending before, have heard of one end of the connection, and the former of nothing else. -/
theorem none_left_silent {client : Remote} {calls : List Call} {schedule : List Nat}
    {race : Interleaving Scene Step} (hsound : client.desk.Sound)
    (hids : (client.desk.ids ++ calls.filterMap Call.id?).Nodup) (hshut : ∃ failure, .shut failure ∈ calls)
    (hrun : (start client calls).run Scene.exec schedule = race) :
    (∃ turns, (race.run Scene.exec turns).Over) ∧
      (∀ p ∈ race.shared.refused, p.1 ∉ race.shared.desk.ids ∧
        (p.2 = .closed ∨ ∃ r, .request p.1 r ∈ calls ∧ validate r = .error p.2)) ∧
      (race.Over →
        race.shared.desk.pending = [] ∧
          (race.shared.accepted.map (·.1) ++ race.shared.refused.map (·.1)).Perm (calls.filterMap Call.id?) ∧
          (race.shared.accepted.map (·.2)).Nodup ∧
          (∀ p ∈ race.shared.accepted, ∃ failure, .shut failure ∈ calls ∧
            race.shared.desk.waiting p.2 = [Desk.farewell failure]) ∧
          ∀ q ∈ client.desk.pending, client.desk.isRead q.inbox = true → ∃ failure, .shut failure ∈ calls ∧
            race.shared.desk.waiting q.inbox = client.desk.waiting q.inbox ++ [Desk.farewell failure]) := by
  subst hrun
  obtain ⟨hnames, hstocked⟩ := (kept_stocked hids _).run
    ⟨.of_eq (names_start client calls), stocked_start hsound calls⟩ schedule
  have hswept := kept_swept.run (swept_start client hshut) schedule
  have hgrounded := (kept_grounded _).run (grounded_start client calls) schedule
  generalize (start client calls).run Scene.exec schedule = race at *
  refine ⟨Interleaving.exists_over Scene.rank_lt_of_exec race, fun p hp => ⟨hstocked.gone p hp, ?_⟩, fun hover => ?_⟩
  · rcases hgrounded.grounds p hp with hclosed | ⟨r, hr, hinvalid⟩
    · exact .inl hclosed
    · exact .inr ⟨r, Call.mem_of_request? hr, hinvalid⟩
  · rw [hover.todo] at hnames hstocked hswept
    have hempty := hswept.pending_eq_nil
    have hheld : race.shared.held [] = [] := by
      rw [Scene.held, hempty]
      rfl
    have htold {p : RequestId × Ref .inbox} (hp : p ∈ client.desk.streams ++ race.shared.streams []) :
        Desk.Told client.desk race.shared.desk (calls.filterMap Call.failure?) p.2 := by
      rcases hstocked.reached p hp with ⟨q, hq, -⟩ | ⟨htold, -⟩
      · rw [hheld] at hq
        cases hq
      · exact htold
    have hstreams : race.shared.streams [] = race.shared.accepted := List.append_nil _
    rw [Scene.names, List.filterMap_nil, List.append_nil] at hnames
    refine ⟨hempty, hnames, hstreams ▸ hstocked.distinct, fun p hp => ?_, fun q hq hread => ?_⟩
    · have hp : p ∈ race.shared.streams [] := hstreams ▸ hp
      have hfresh : client.desk.inboxes.get? p.2 = none := hstocked.fresh p hp
      have hread : (client.desk.origin p.2).reading = true := by
        rw [Desk.origin, hfresh]
        rfl
      obtain ⟨failure, hfailure, hwaiting⟩ := (htold (List.mem_append_right _ hp)).waiting hread
      refine ⟨failure, Call.mem_of_failure? hfailure, hwaiting.trans ?_⟩
      rw [Desk.waiting, hfresh]
      rfl
    · have hread : (client.desk.origin q.inbox).reading = true := by
        obtain ⟨c, hc⟩ := Option.isSome_iff_exists.1 (hsound.known q hq)
        rw [Desk.isRead, hc] at hread
        rw [Desk.origin, hc]
        exact hread
      obtain ⟨failure, hfailure, hwaiting⟩ := (htold (List.mem_append_left _ (List.mem_map_of_mem hq))).waiting hread
      exact ⟨failure, Call.mem_of_failure? hfailure, hwaiting⟩

/-- A client that has nothing pending. -/
def unused : Remote where
  limit := 1024
  wire := ⟨0⟩

/-- Two requests, and the connection fails. -/
def failing : List Call :=
  [.request ⟨"a"⟩ { path := "/a", data := .object [] }, .request ⟨"b"⟩ { path := "/b", data := .object [] },
    .shut (some "broken")]

/-- The first request is sent. The second is in the table when the connection fails, and leaves it after its
id was collected. -/
def overtaking : List Nat :=
  [0, 0, 0, 0, 1, 1, 2, 2, 2, 1, 2, 2, 1, 2]

/-- The first request hears of the failure, and the second is refused. -/
theorem overtaking_settled :
    let race := (start unused failing).run Scene.exec overtaking
    race.Over ∧ race.shared.desk.pending = [] ∧ race.shared.accepted = [(⟨"a"⟩, ⟨0⟩)] ∧
      race.shared.desk.waiting ⟨0⟩ = [.transportError "broken"] ∧
      race.shared.refused.map (·.1) = [⟨"b"⟩] ∧ ∀ p ∈ race.shared.refused, p.2 = .closed := by
  intro race
  have hover : race.Over := by
    unfold Interleaving.Over
    decide +kernel
  have haccepted : race.shared.accepted = [(⟨"a"⟩, ⟨0⟩)] := by decide +kernel
  obtain ⟨-, hrefused, hsettled⟩ :=
    @none_left_silent unused failing overtaking race (Desk.sound_of_pending_nil rfl) (by decide)
      ⟨some "broken", by simp [failing]⟩ rfl
  obtain ⟨hempty, -, -, hheard, -⟩ := hsettled hover
  obtain ⟨failure, hfailure, hwaiting⟩ := hheard _ (haccepted ▸ List.mem_singleton_self _)
  obtain rfl : failure = some "broken" := by simpa [failing] using hfailure
  refine ⟨hover, hempty, haccepted, hwaiting, by decide +kernel, fun p hp => ?_⟩
  rcases (hrefused p hp).2 with hclosed | ⟨r, hr, hinvalid⟩
  · exact hclosed
  · have hvalid : validate r = .ok () := by
      simp only [failing, List.mem_cons, Call.request.injEq, reduceCtorEq, List.not_mem_nil, or_false] at hr
      rcases hr with ⟨-, rfl⟩ | ⟨-, rfl⟩ <;> rfl
    rw [hvalid] at hinvalid
    cases hinvalid

end Shutdown

end Exchange.Client
