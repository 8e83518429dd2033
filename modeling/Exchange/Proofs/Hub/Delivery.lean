-- SUMMARY: The stream of a subscription tells of all that was published on its topic, in order, and of nothing else.
import Exchange.Proofs.Data.Store
import Exchange.Proofs.Hub.Publishing

/-!
# Delivery

`Hub.Telling` follows every subscription that was ever granted through a run:
what was read of its stream and what waits there are together the frame that
tells of it and the events it was due, and the stream has a writer just as long
as the record is in the table. Reading and dropping streams may come at any
point of a run. `moveAll_delivers` reads off what this says of a run as a whole.
-/

namespace Exchange

namespace Hub

/-! ## Streams -/

/-- What waits in a channel. -/
def waiting (h : Hub) (c : Ref .channel) : List Reply :=
  ((h.channels.get? c).map (·.queue)).getD []

/-- Every channel that was there is as it was, or has lost its reading half and what waited. -/
def KeepsStreams (h h' : Hub) : Prop :=
  ∀ c channel, h.channels.get? c = some channel →
    h'.channels.get? c = some channel ∨ h'.channels.get? c = some channel.close

theorem KeepsStreams.of_eq {h h' : Hub} (heq : h'.channels = h.channels) : KeepsStreams h h' := by
  intro c channel hget
  exact .inl (by rw [heq, hget])

/-- A channel that is missing was missing before. -/
theorem KeepsStreams.get?_eq_none {h h' : Hub} (a : KeepsStreams h h') {c : Ref .channel}
    (hnone : h'.channels.get? c = none) : h.channels.get? c = none := by
  cases hget : h.channels.get? c with
  | none => rfl
  | some channel => rcases a c channel hget with hget' | hget' <;> exact absurd (hnone.symm.trans hget') nofun

theorem keepsStreams_dropStream (h : Hub) (s : Stream) : KeepsStreams h (h.dropStream s) := by
  induction s with
  | ended => exact .of_eq rfl
  | channel d =>
    intro c channel hget
    by_cases hc : c = d
    · subst hc
      right
      simp only [dropStream, Store.get?_modify_self, hget, Option.map_some]
    · left
      simp only [dropStream, Store.get?_modify_of_ne _ hc, hget]
  | mapped f s ih => exact ih
  | counted p s ih => exact ih

theorem keepsStreams_setBody (h : Hub) (slot : Slot) (body : Body Stream) :
    KeepsStreams h (h.setBody slot body).1 := by
  unfold setBody dropBody
  split
  · apply keepsStreams_dropStream
  · exact .of_eq rfl

theorem keepsStreams_enrol (h : Hub) (slot : Slot) (scope : Ref .scope) (manager : Ref .manager) (m : Manager)
    (topic : String) (cleanup : Option Cleanup) :
    KeepsStreams h (h.enrol slot scope manager m topic cleanup).1 := by
  intro c channel hget
  have hc := Store.ne_next_of_get? hget
  have hopen : h.openChannel.1.channels.get? c = some channel := by
    rw [← hget]
    exact Store.get?_push_of_ne _ hc
  have hchannels : (h.enrol slot scope manager m topic cleanup).1.channels.get? c =
      (h.openStream slot).1.channels.get? c := by
    show ((h.openStream slot).1.send h.channels.next _).1.channels.get? c = _
    rw [send_eq]
    exact Store.get?_modify_of_ne _ hc
  rw [hchannels]
  exact keepsStreams_setBody h.openChannel.1 slot (.stream (.channel h.channels.next)) c channel hopen

/-- The stream of a new subscription begins with the frame that tells of it. -/
theorem get?_enrol_next {h : Hub} {manager : Ref .manager} {m : Manager}
    (hm : h.managers.get? manager = some m) (slot : Slot) (scope : Ref .scope)
    (topic : String) (cleanup : Option Cleanup) :
    ∃ channel, (h.enrol slot scope manager m topic cleanup).1.channels.get? h.channels.next = some channel ∧
      channel.writers = 1 ∧
      (channel.reading = true →
        channel.queue = [.subscribed (h.recordOf manager scope topic cleanup).sid topic]) := by
  have hopen : h.openChannel.1.channels.get? h.channels.next = some { writers := 1 } :=
    Store.get?_push_next _ _
  have hchannels : (h.enrol slot scope manager m topic cleanup).1.channels.get? h.channels.next =
      ((h.openStream slot).1.channels.get? h.channels.next).map fun c =>
        (c.send (.subscribed (h.recordOf manager scope topic cleanup).sid topic)).1 := by
    rw [recordOf, issued_eq hm]
    show ((h.openStream slot).1.send h.channels.next _).1.channels.get? h.channels.next = _
    rw [send_eq]
    exact Store.get?_modify_self _ _ _
  rw [hchannels]
  rcases keepsStreams_setBody h.openChannel.1 slot (.stream (.channel h.channels.next)) _ _ hopen with hset | hset
  · refine ⟨_, congrArg _ hset, rfl, ?_⟩
    intro _
    rfl
  · refine ⟨_, congrArg _ hset, rfl, ?_⟩
    intro hread
    cases hread

/-! ## Histories -/

/-- Of the stream of a subscription `heard` has been read; with what waits this is its story, as long
as it is read. It has a writer as long as its record is in the table. -/
def Told (h : Hub) (manager : Ref .manager) (heard story : List Reply) (r : Record) : Prop :=
  ∃ channel, h.channels.get? r.sink = some channel ∧
    (channel.reading = true → heard ++ channel.queue = story) ∧
    channel.writers = if r ∈ h.records manager then 1 else 0

theorem Told.of_keepsStreams {h h' : Hub} {manager : Ref .manager} {heard story : List Reply} {r : Record}
    (a : h.Told manager heard story r) (hstreams : KeepsStreams h h')
    (hmem : r ∈ h'.records manager ↔ r ∈ h.records manager) : h'.Told manager heard story r := by
  obtain ⟨channel, hget, hqueue, hwriters⟩ := a
  simp only [← hmem] at hwriters
  rcases hstreams r.sink channel hget with hget' | hget'
  · exact ⟨channel, hget', hqueue, hwriters⟩
  · exact ⟨channel.close, hget', nofun, hwriters⟩

/-- What every move keeps of the subscriptions granted so far, given what was heard from each
channel and which events each subscription was due. -/
structure Telling (h : Hub) (manager : Ref .manager) (given : List Record) (heard : Ref .channel → List Reply)
    (due : Record → List Reply) : Prop where
  sids : (given.map (·.sid)).Nodup
  sinks : (given.map (·.sink)).Nodup
  order : (h.records manager).Sublist given
  told : ∀ r ∈ given, h.Told manager (heard r.sink) (.subscribed r.sid r.topic :: due r) r
  unheard : ∀ c, h.channels.get? c = none → heard c = []
  undue : ∀ r, r ∉ given → due r = []

namespace Telling

variable {h h' : Hub} {manager : Ref .manager} {given : List Record} {heard : Ref .channel → List Reply}
  {due : Record → List Reply}

theorem start (hempty : h.records manager = []) : Telling h manager [] (fun _ => []) (fun _ => []) where
  sids := List.nodup_nil
  sinks := List.nodup_nil
  order := by rw [hempty]
  told := by
    intro r hr
    cases hr
  unheard := fun _ _ => rfl
  undue := fun _ _ => rfl

/-- No two subscriptions feed one stream. -/
theorem eq_of_sink (a : Telling h manager given heard due) {r q : Record} (hr : r ∈ given) (hq : q ∈ given)
    (hsink : r.sink = q.sink) : r = q :=
  List.inj_on_of_nodup_map a.sinks hr hq hsink

theorem of_keepsStreams (a : Telling h manager given heard due)
    (hrecords : h'.records manager = h.records manager) (hstreams : KeepsStreams h h') :
    Telling h' manager given heard due where
  sids := a.sids
  sinks := a.sinks
  order := by rw [hrecords]; exact a.order
  told := by
    intro r hr
    exact (a.told r hr).of_keepsStreams hstreams (by rw [hrecords])
  unheard := fun c hnone => a.unheard c (hstreams.get?_eq_none hnone)
  undue := a.undue

/-! ### Leaving the table -/

/-- The stream of a record that leaves the table loses its writer, and nothing of what it has to tell. -/
theorem retire (a : Telling h manager given heard due) {q : Record} (hq : q ∈ h.records manager)
    (hrecords : h'.records manager = (h.records manager).filter fun r => r.sid ≠ q.sid)
    (hchannels : h'.channels = h.channels) : Telling (h'.retire q) manager given heard due where
  sids := a.sids
  sinks := a.sinks
  order := by
    rw [records_retire, hrecords]
    exact List.filter_sublist.trans a.order
  told := by
    intro r hr
    obtain ⟨channel, hget, hqueue, hwriters⟩ := a.told r hr
    have hqgiven : q ∈ given := a.order.subset hq
    by_cases hrq : r = q
    · subst hrq
      refine ⟨channel.leave, ?_, hqueue, ?_⟩
      · rw [channels_retire, hchannels, Store.get?_modify_self, hget, Option.map_some]
      · rw [records_retire, hrecords]
        simp [Channel.leave, hwriters, hq]
    · have hsink : r.sink ≠ q.sink := fun hsink => hrq (a.eq_of_sink hr hqgiven hsink)
      have hsid : r.sid ≠ q.sid := fun hsid => hrq (eq_of_sid a.sids hr hqgiven hsid)
      refine ⟨channel, ?_, hqueue, ?_⟩
      · rw [channels_retire, hchannels, Store.get?_modify_of_ne _ hsink, hget]
      · rw [records_retire, hrecords, hwriters]
        simp [hsid]
  unheard := by
    intro c hnone
    apply a.unheard
    rw [channels_retire, hchannels] at hnone
    by_cases hc : c = q.sink
    · subst hc
      rwa [Store.get?_modify_self, Option.map_eq_none_iff] at hnone
    · rwa [Store.get?_modify_of_ne _ hc] at hnone
  undue := a.undue

theorem remove (a : Telling h manager given heard due) (sid : Sid) (topic : Option String) :
    Telling (h.remove manager sid topic).1 manager given heard due := by
  rcases remove_cases h manager sid topic with ⟨q, hq, rfl, -, hremove⟩ | hremove
  · rw [hremove]
    apply a.retire hq
    · rw [untrack_eq, records_rescoped, records_erased]
    · rw [untrack_eq]
      rfl
  · rw [hremove]
    exact a

theorem removeAll (a : Telling h manager given heard due) (rs : List Record) :
    Telling (h.removeAll manager rs) manager given heard due := by
  induction rs generalizing h with
  | nil => exact a
  | cons r rs ih => exact ih (a.remove r.sid none)

theorem release (a : Telling h manager given heard due) (sid : Sid) :
    Telling (h.runRelease sid (.forget manager)) manager given heard due := by
  rcases takeRecord_none_cases h manager sid with ⟨q, hq, rfl, htake⟩ | ⟨htake, -⟩
  · simp only [runRelease, htake]
    exact a.retire hq (records_erased h manager q.sid) rfl
  · simp only [runRelease, htake]
    exact a

theorem closeScope (a : Telling h manager given heard due) (scope : Ref .scope)
    (hforget : ∀ owned, h.owned? scope = some owned → ∀ p ∈ owned, p.2 = .forget manager) :
    Telling (h.closeScope scope).1 manager given heard due := by
  have hall (owned : List (Sid × Release)) (hforget : ∀ p ∈ owned, p.2 = .forget manager) {h : Hub}
      (a : Telling h manager given heard due) :
      Telling (owned.foldl (fun h p => h.runRelease p.1 p.2) h) manager given heard due := by
    induction owned generalizing h with
    | nil => exact a
    | cons p owned ih =>
      obtain ⟨hp, howned⟩ := List.forall_mem_cons.1 hforget
      rw [List.foldl_cons, hp]
      exact ih howned (a.release p.1)
  have htaken : Telling (h.takeScope scope).1 manager given heard due := by
    rw [takeScope_eq]
    exact a.of_keepsStreams rfl (.of_eq rfl)
  have hforget' : ∀ p ∈ (h.takeScope scope).2, p.2 = .forget manager := by
    rw [takeScope_eq]
    cases hs : h.owned? scope with
    | none =>
      intro p hp
      cases hp
    | some owned => exact hforget owned hs
  exact (hall _ hforget' htaken).of_keepsStreams rfl (.of_eq rfl)

/-! ### Sending -/

/-- A subscription whose stream is not read may be due anything. -/
theorem of_due {due' : Record → List Reply} (a : Telling h manager given heard due)
    (hread : ∀ r ∈ given, h.isRead r.sink = true → due' r = due r) (hnot : ∀ r, r ∉ given → due' r = []) :
    Telling h manager given heard due' where
  sids := a.sids
  sinks := a.sinks
  order := a.order
  told := by
    intro r hr
    obtain ⟨channel, hget, hqueue, hwriters⟩ := a.told r hr
    refine ⟨channel, hget, ?_, hwriters⟩
    intro hreading
    rw [hread r hr (by simp only [isRead, hget, hreading])]
    exact hqueue hreading
  unheard := a.unheard
  undue := hnot

/-- What is sent to a subscription that is read is what it is due next. -/
theorem send (a : Telling h manager given heard due) {q : Record} (hq : q ∈ given) (e : Reply) :
    Telling (h.send q.sink e).1 manager given heard
      (fun r => due r ++ if r = q then [e] else []) where
  sids := a.sids
  sinks := a.sinks
  order := by
    rw [(sameBooks_send h q.sink e).records]
    exact a.order
  told := by
    intro r hr
    obtain ⟨channel, hget, hqueue, hwriters⟩ := a.told r hr
    rw [← (sameBooks_send h q.sink e).records] at hwriters
    by_cases hrq : r = q
    · subst hrq
      refine ⟨(channel.send e).1, ?_, ?_, ?_⟩
      · rw [send_eq]
        simp only [Store.get?_modify_self, hget, Option.map_some]
      · unfold Channel.send
        split
        · rename_i hreading
          intro _
          simp only [if_true, ← List.append_assoc, hqueue hreading, List.cons_append]
        · rename_i hreading
          intro hreading'
          exact absurd hreading' hreading
      · rw [← hwriters]
        unfold Channel.send
        split <;> rfl
    · have hsink : r.sink ≠ q.sink := fun hsink => hrq (a.eq_of_sink hr hq hsink)
      refine ⟨channel, ?_, ?_, hwriters⟩
      · rw [send_eq]
        exact (Store.get?_modify_of_ne _ hsink).trans hget
      · simpa only [if_neg hrq, List.append_nil] using hqueue
  unheard := by
    intro c hnone
    apply a.unheard
    rw [send_eq] at hnone
    by_cases hc : c = q.sink
    · subst hc
      simpa only [Store.get?_modify_self, Option.map_eq_none_iff] using hnone
    · simpa only [Store.get?_modify_of_ne _ hc] using hnone
  undue := by
    intro r hr
    have hrq : r ≠ q := by
      rintro rfl
      exact hr hq
    rw [a.undue r hr, if_neg hrq]
    rfl

theorem announce (a : Telling h manager given heard due) {rs : List Record} (hrs : ∀ r ∈ rs, r ∈ given)
    (hnodup : rs.Nodup) (topic : String) (message : Value) :
    Telling (h.announce topic message rs) manager given heard
      (fun r => due r ++ if r ∈ rs then [.event r.sid topic message] else []) := by
  induction rs generalizing h due with
  | nil => simpa [Hub.announce] using a
  | cons q rs ih =>
    obtain ⟨hq, hrs⟩ := List.forall_mem_cons.1 hrs
    obtain ⟨hnot, hnodup⟩ := List.nodup_cons.1 hnodup
    have hrest := ih (a.send hq (.event q.sid topic message)) hrs hnodup
    have hdue : (fun r => (due r ++ if r = q then [Reply.event q.sid topic message] else []) ++
          if r ∈ rs then [.event r.sid topic message] else []) =
        fun r => due r ++ if r ∈ q :: rs then [.event r.sid topic message] else [] := by
      funext r
      by_cases hrq : r = q
      · subst hrq
        simp [hnot]
      · simp [hrq]
    rw [hdue] at hrest
    exact hrest

end Telling

/-! ## Moves -/

/-- What can happen: something is done with subscriptions, or a frame is read from a channel. -/
inductive Move where
  | act (a : Action)
  | read (c : Ref .channel)

def move (h : Hub) (manager : Ref .manager) : Move → Hub
  | .act a => h.act manager a
  | .read c => (h.pull (.channel c)).1

/-- What a move lets the reader of a channel hear. -/
def heard (h : Hub) (c : Ref .channel) : Move → List Reply
  | .act _ => []
  | .read d =>
    if c = d then
      match (h.pull (.channel d)).2.2 with
      | .item r => [r]
      | _ => []
    else []

/-- The event that a subscription is due by a move: one for each publication on its topic that finds
its record in the table. -/
def due (h : Hub) (manager : Ref .manager) (r : Record) : Move → List Reply
  | .act (.publish topic message) =>
    if r.topic = topic ∧ r ∈ h.records manager then [.event r.sid topic message] else []
  | _ => []

def moveAll (h : Hub) (manager : Ref .manager) (moves : List Move) : Hub :=
  moves.foldl (fun h m => h.move manager m) h

/-- All that the reader of a channel hears in a run. -/
def heardAll (h : Hub) (manager : Ref .manager) (c : Ref .channel) : List Move → List Reply
  | [] => []
  | m :: moves => h.heard c m ++ (h.move manager m).heardAll manager c moves

/-- The events that a subscription is due in a run, in order. -/
def dueAll (h : Hub) (manager : Ref .manager) (r : Record) : List Move → List Reply
  | [] => []
  | m :: moves => h.due manager r m ++ (h.move manager m).dueAll manager r moves

/-- The subscription that a move is granted, if it asks for one. -/
def admits (h : Hub) (manager : Ref .manager) : Move → List Record
  | .act a => h.granted manager a
  | .read _ => []

/-- The subscriptions that a run of moves is granted, in order. -/
def admitted (h : Hub) (manager : Ref .manager) : List Move → List Record
  | [] => []
  | m :: moves => h.admits manager m ++ (h.move manager m).admitted manager moves

section Pull

variable {h : Hub} {c : Ref .channel} {channel : Channel Reply}

theorem pull_channel (hget : h.channels.get? c = some channel) :
    h.pull (.channel c) = ({ h with channels := h.channels.set c channel.pull.1 }, .channel c, channel.pull.2) := by
  simp only [pull, hget]

theorem pull_channel_of_none (hget : h.channels.get? c = none) : h.pull (.channel c) = (h, .ended, .finished) := by
  simp only [pull, hget]

/-- What is read comes off what waits. -/
theorem heard_append_pull (hget : h.channels.get? c = some channel) :
    h.heard c (.read c) ++ channel.pull.1.queue = channel.queue := by
  simp only [heard, if_true, pull_channel hget]
  obtain ⟨queue, writers, reading⟩ := channel
  cases queue with
  | nil => by_cases hwriters : writers = 0 <;> simp [Channel.pull, hwriters]
  | cons e rest => rfl

end Pull

namespace Telling

variable {h h' : Hub} {manager : Ref .manager} {given : List Record} {heard : Ref .channel → List Reply}
  {due : Record → List Reply}

theorem publish (a : Telling h manager given heard due) (topic : String) (message : Value) :
    Telling (h.publish manager topic message).1 manager given heard
      (fun r => due r ++ h.due manager r (.act (.publish topic message))) := by
  have hlive : ∀ r ∈ h.live (h.subscribers manager topic), r ∈ given := by
    intro r hr
    rw [subscribers_eq] at hr
    exact a.order.subset (List.mem_filter.1 (List.mem_filter.1 hr).1).1
  have hnodup : (h.live (h.subscribers manager topic)).Nodup := by
    rw [subscribers_eq]
    exact (((a.sids.of_map (·.sid)).sublist a.order).filter _).filter _
  rw [publish_eq]
  apply Telling.removeAll
  apply (a.announce hlive hnodup topic message).of_due
  · intro r _ hread
    rw [isRead_announce] at hread
    have hmem : r ∈ h.live (h.subscribers manager topic) ↔ r.topic = topic ∧ r ∈ h.records manager := by
      simp [live, subscribers_eq, hread, and_comm]
    simp only [hmem, Hub.due]
  · intro r hr
    have hnot : r ∉ h.records manager := fun hmem => hr (a.order.subset hmem)
    simp [a.undue r hr, Hub.due, hnot]

theorem read (a : Telling h manager given heard due) (c : Ref .channel) :
    Telling (h.move manager (.read c)) manager given (fun d => heard d ++ h.heard d (.read c)) due := by
  cases hget : h.channels.get? c with
  | none =>
    have hmove : h.move manager (.read c) = h := by
      simp only [move, pull_channel_of_none hget]
    have hheard : (fun d => heard d ++ h.heard d (.read c)) = heard := by
      funext d
      simp [Hub.heard, pull_channel_of_none hget]
    rw [hmove, hheard]
    exact a
  | some channel =>
    have hrecords := (sameBooks_pull h (.channel c)).records manager
    have hheard (d : Ref .channel) (hd : d ≠ c) : h.heard d (.read c) = [] := by
      simp only [Hub.heard, if_neg hd]
    have hmove : (h.move manager (.read c)).channels = h.channels.set c channel.pull.1 := by
      simp only [move, pull_channel hget]
    refine ⟨a.sids, a.sinks, ?_, ?_, ?_, a.undue⟩
    · exact hrecords ▸ a.order
    · intro r hr
      obtain ⟨channel', hget', hqueue, hwriters⟩ := a.told r hr
      rw [← hrecords] at hwriters
      by_cases hc : r.sink = c
      · subst hc
        obtain rfl : channel = channel' := Option.some.inj (hget.symm.trans hget')
        refine ⟨channel.pull.1, ?_, ?_, ?_⟩
        · rw [hmove]
          exact Store.get?_set_self hget _
        · intro hread
          rw [List.append_assoc, heard_append_pull hget]
          apply hqueue
          rwa [Channel.reading_pull] at hread
        · rw [Channel.writers_pull]
          exact hwriters
      · refine ⟨channel', ?_, ?_, hwriters⟩
        · rw [hmove]
          exact (Store.get?_modify_of_ne _ hc).trans hget'
        · simpa only [hheard r.sink hc, List.append_nil] using hqueue
    · intro d hnone
      rw [hmove] at hnone
      by_cases hd : d = c
      · subst hd
        rw [Store.get?_set_self hget] at hnone
        cases hnone
      · rw [Store.set, Store.get?_modify_of_ne _ hd] at hnone
        rw [a.unheard d hnone, hheard d hd]
        rfl

/-- A new subscription is told of first of all. -/
theorem enrol (a : Telling h manager given heard due) {m : Manager} (hm : h.managers.get? manager = some m)
    (slot : Slot) (scope : Ref .scope) (topic : String) (cleanup : Option Cleanup)
    (hfresh : ∀ q ∈ given, q.sid ≠ (h.recordOf manager scope topic cleanup).sid) :
    Telling (h.enrol slot scope manager m topic cleanup).1 manager
      (given ++ [h.recordOf manager scope topic cleanup]) heard due := by
  have hrecords := (enrolled hm slot scope topic cleanup).records
  have hstreams := keepsStreams_enrol h slot scope manager m topic cleanup
  obtain ⟨new, hnew, hwriters, hqueue⟩ := get?_enrol_next hm slot scope topic cleanup
  have hnot : h.recordOf manager scope topic cleanup ∉ given := fun hmem => hfresh _ hmem rfl
  have hsink : ∀ q ∈ given, q.sink ≠ h.channels.next := by
    intro q hq
    obtain ⟨channel, hget, -⟩ := a.told q hq
    exact Store.ne_next_of_get? hget
  refine ⟨?_, ?_, ?_, ?_, ?_, ?_⟩
  · rw [List.map_append, List.nodup_append]
    refine ⟨a.sids, by simp, ?_⟩
    intro sid hsid sid' hsid' heq
    obtain ⟨q, hq, rfl⟩ := List.mem_map.1 hsid
    obtain rfl := List.mem_singleton.1 hsid'
    exact hfresh q hq heq
  · rw [List.map_append, List.nodup_append]
    refine ⟨a.sinks, by simp, ?_⟩
    intro sink hsink₁ sink' hsink₂ heq
    obtain ⟨q, hq, rfl⟩ := List.mem_map.1 hsink₁
    obtain rfl := List.mem_singleton.1 hsink₂
    exact hsink q hq heq
  · rw [hrecords]
    exact a.order.append (.refl _)
  · intro r hr
    rcases List.mem_append.1 hr with hr | hr
    · have hne : r ≠ h.recordOf manager scope topic cleanup := by
        rintro rfl
        exact hnot hr
      exact (a.told r hr).of_keepsStreams hstreams (by simp [hrecords, hne])
    · obtain rfl := List.mem_singleton.1 hr
      refine ⟨new, hnew, ?_, ?_⟩
      · intro hread
        rw [hqueue hread, a.undue _ hnot]
        exact congrArg (· ++ _) (a.unheard _ (Store.get?_next _))
      · rw [hwriters, hrecords]
        simp
  · intro c hnone
    exact a.unheard c (hstreams.get?_eq_none hnone)
  · intro r hr
    apply a.undue
    intro hmem
    exact hr (List.mem_append_left _ hmem)

theorem subscribe (a : Telling h manager given heard due) (slot : Slot) (scope : Ref .scope) (topic : String)
    (cleanup : Option Cleanup)
    (hfresh : ∀ q ∈ given, q.sid ≠ (h.recordOf manager scope topic cleanup).sid) :
    Telling (h.subscribe slot scope manager topic cleanup).1 manager
      (given ++ h.granted manager (.subscribe slot scope topic cleanup)) heard due := by
  cases hm : h.managers.get? manager with
  | none =>
    have hsubscribe : h.subscribe slot scope manager topic cleanup = (h, slot, .error sessionClosed) := by
      unfold Hub.subscribe
      rw [hm]
    simp only [granted, hsubscribe, List.append_nil]
    exact a
  | some m =>
    have henrolled := enrolled hm slot scope topic cleanup
    cases hs : h.owned? scope with
    | none =>
      obtain ⟨hresult, hsame⟩ := subscribe_of_closed hm hs slot topic cleanup
        fun q hq => hfresh q (a.order.subset hq)
      simp only [granted, hresult, List.append_nil]
      apply a.of_keepsStreams hsame.records
      have hstill : (h.enrol slot scope manager m topic cleanup).1.owned?
          (h.recordOf manager scope topic cleanup).scope = none := by
        rw [henrolled.owned?]
        exact hs
      rw [subscribe_eq hm, settle_of_closed hstill]
      intro c channel hget
      have hc := Store.ne_next_of_get? hget
      have hget' := keepsStreams_enrol h slot scope manager m topic cleanup c channel hget
      rw [← (sameButManagers_takeRecord _ manager (h.recordOf manager scope topic cleanup).sid none).channels,
        ← Store.get?_modify_of_ne Channel.leave hc] at hget'
      exact hget'
    | some owned =>
      have hopen : (h.enrol slot scope manager m topic cleanup).1.owned?
          (h.recordOf manager scope topic cleanup).scope = some owned := by
        rw [henrolled.owned?]
        exact hs
      simp only [granted, subscribe_eq hm, settle_of_open hopen]
      exact (a.enrol hm slot scope topic cleanup hfresh).of_keepsStreams rfl (.of_eq rfl)

theorem act {h₀ : Hub} (a : Telling h manager given heard due) (l : Ledger h₀ h manager [] given)
    (hsids : Sid.Distinct manager.index (h.issued manager + 1)) (action : Action) :
    Telling (h.act manager action) manager (given ++ h.granted manager action) heard
      (fun r => due r ++ h.due manager r (.act action)) := by
  cases action with
  | subscribe slot scope topic cleanup =>
    simp only [Hub.due, List.append_nil]
    exact a.subscribe slot scope topic cleanup (l.fresh hsids scope topic cleanup)
  | unsubscribe slot sid topic =>
    simp only [Hub.due, granted, List.append_nil]
    apply (a.remove sid topic).of_keepsStreams
    · exact (sameBooks_unsubscribe h manager slot sid topic).records manager
    · exact keepsStreams_setBody _ { slot with status := some .ok, statusCode := some Status.unsubscribedCode }
        (.message (.text "Unsubscribed"))
  | finish sid =>
    simp only [Hub.due, granted, List.append_nil, Hub.act, finish_fst]
    exact a.remove sid none
  | publish topic message =>
    simp only [granted, List.append_nil]
    exact a.publish topic message
  | drop stream =>
    simp only [Hub.due, granted, List.append_nil]
    exact a.of_keepsStreams ((sameBooks_dropStream h stream).records manager) (keepsStreams_dropStream h stream)
  | close scope =>
    simp only [Hub.due, granted, List.append_nil]
    exact a.closeScope scope (l.forget scope)

end Telling

theorem Ledger.move {h₀ h : Hub} {manager : Ref .manager} {given : List Record}
    (l : Ledger h₀ h manager [] given) (hsids : Sid.Distinct manager.index (h.issued manager + 1)) (m : Move) :
    Ledger h₀ (h.move manager m) manager [] (given ++ h.admits manager m) ∧
      (h.move manager m).issued manager ≤ h.issued manager + 1 := by
  cases m with
  | act action => exact l.act hsids action
  | read c =>
    have hsame := sameBooks_pull h (.channel c)
    simp only [admits, List.append_nil, Hub.move, hsame.issued]
    exact ⟨l.of_sameBooks hsame, Nat.le_succ _⟩

theorem Telling.move {h₀ h : Hub} {manager : Ref .manager} {given : List Record}
    {heard : Ref .channel → List Reply} {due : Record → List Reply} (a : Telling h manager given heard due)
    (l : Ledger h₀ h manager [] given) (hsids : Sid.Distinct manager.index (h.issued manager + 1)) (m : Move) :
    Telling (h.move manager m) manager (given ++ h.admits manager m) (fun c => heard c ++ h.heard c m)
      (fun r => due r ++ h.due manager r m) := by
  cases m with
  | act action =>
    simp only [Hub.heard, List.append_nil]
    exact a.act l hsids action
  | read c =>
    simp only [admits, Hub.due, List.append_nil]
    exact a.read c

theorem Telling.moveAll {h₀ h : Hub} {manager : Ref .manager} {given : List Record}
    {heard : Ref .channel → List Reply} {due : Record → List Reply} {moves : List Move}
    (a : Telling h manager given heard due) (l : Ledger h₀ h manager [] given)
    (hsids : Sid.Distinct manager.index (h.issued manager + moves.length)) :
    Telling (h.moveAll manager moves) manager (given ++ h.admitted manager moves)
        (fun c => heard c ++ h.heardAll manager c moves) (fun r => due r ++ h.dueAll manager r moves) ∧
      Ledger h₀ (h.moveAll manager moves) manager [] (given ++ h.admitted manager moves) := by
  induction moves generalizing h given heard due with
  | nil =>
    simp only [admitted, heardAll, dueAll, List.append_nil]
    exact ⟨a, l⟩
  | cons m moves ih =>
    rw [List.length_cons] at hsids
    obtain ⟨l', hissued⟩ := l.move (hsids.mono (by omega)) m
    have hall := ih (a.move l (hsids.mono (by omega)) m) l' (hsids.mono (by omega))
    simp only [List.append_assoc] at hall
    exact hall

/-! ## Complete, ordered and exact -/

/-- The stream of a subscription that is granted is the response of its context. -/
theorem body_of_granted {h : Hub} {manager : Ref .manager} {slot : Slot} {scope : Ref .scope} {topic : String}
    {cleanup : Option Cleanup} {r : Record} (hr : r ∈ h.granted manager (.subscribe slot scope topic cleanup)) :
    (h.subscribe slot scope manager topic cleanup).2.1.body = .stream (.channel r.sink) ∧
      (h.subscribe slot scope manager topic cleanup).2.2 = .ok r.sid ∧ r.topic = topic ∧ r.scope = scope := by
  cases hm : h.managers.get? manager with
  | none =>
    have hsubscribe : h.subscribe slot scope manager topic cleanup = (h, slot, .error sessionClosed) := by
      unfold Hub.subscribe
      rw [hm]
    simp only [granted, hsubscribe] at hr
    cases hr
  | some m =>
    have hbody : (h.subscribe slot scope manager topic cleanup).2.1.body = .stream (.channel h.channels.next) := by
      rw [subscribe_eq hm]
      rfl
    simp only [granted] at hr
    split at hr
    · rename_i sid hresult
      obtain rfl := List.mem_singleton.1 hr
      exact ⟨hbody, hresult, rfl, rfl⟩
    · cases hr

theorem Told.reads {h : Hub} {manager : Ref .manager} {heard story : List Reply} {r : Record}
    (a : h.Told manager heard story r) (hread : h.reading? r.sink = some true) :
    heard ++ h.waiting r.sink = story ∧
      ((h.pull (.channel r.sink)).2.2 = .finished ↔ heard = story ∧ r ∉ h.records manager) := by
  obtain ⟨channel, hget, hstory, hwriters⟩ := a
  have hreading : channel.reading = true := by simpa [reading?, hget] using hread
  have hwaiting : h.waiting r.sink = channel.queue := by simp [waiting, hget]
  refine ⟨by rw [hwaiting, hstory hreading], ?_⟩
  rw [pull_channel hget, ← hstory hreading]
  obtain ⟨queue, writers, reading⟩ := channel
  cases queue with
  | nil => by_cases hr : r ∈ h.records manager <;> simp_all [Channel.pull]
  | cons e rest => simp [Channel.pull]

/-- After any run of moves, whoever reads the stream of a subscription has heard or will hear that it is
subscribed, and then of each publication on its topic that found its record in the table, in order,
and of nothing else; the end comes once all is heard and the record has left the table. A publication
goes to the subscribers that are read, in the order of subscription, and counts them. Those that are
not read are removed with their cleanups, and all else stays. -/
theorem moveAll_delivers {h₀ : Hub} {manager : Ref .manager} (hempty : h₀.records manager = [])
    (hscopes : ∀ scope owned, h₀.owned? scope = some owned → owned = []) (moves : List Move)
    (hsids : Sid.Distinct manager.index (h₀.issued manager + moves.length)) :
    (∀ r ∈ h₀.admitted manager moves, (h₀.moveAll manager moves).reading? r.sink = some true →
      h₀.heardAll manager r.sink moves ++ (h₀.moveAll manager moves).waiting r.sink =
          .subscribed r.sid r.topic :: h₀.dueAll manager r moves ∧
        (((h₀.moveAll manager moves).pull (.channel r.sink)).2.2 = .finished ↔
          h₀.heardAll manager r.sink moves = .subscribed r.sid r.topic :: h₀.dueAll manager r moves ∧
            r ∉ (h₀.moveAll manager moves).records manager)) ∧
      ((h₀.moveAll manager moves).records manager).Sublist (h₀.admitted manager moves) ∧
      (∀ slot scope topic cleanup, ∀ r ∈ (h₀.moveAll manager moves).granted manager
          (.subscribe slot scope topic cleanup),
        ((h₀.moveAll manager moves).subscribe slot scope manager topic cleanup).2.1.body =
            .stream (.channel r.sink) ∧
          ((h₀.moveAll manager moves).subscribe slot scope manager topic cleanup).2.2 = .ok r.sid ∧
          r.topic = topic ∧ r.scope = scope) ∧
      ∀ topic message, Published (h₀.moveAll manager moves) manager topic message
        ((h₀.moveAll manager moves).publish manager topic message).1
        ((h₀.moveAll manager moves).publish manager topic message).2 := by
  obtain ⟨a, l⟩ := (Telling.start hempty).moveAll (Ledger.start hempty hscopes) hsids
  simp only [List.nil_append] at a l
  refine ⟨?_, a.order, fun slot scope topic cleanup r => body_of_granted, l.published (a.sinks.sublist (a.order.map _))⟩
  intro r hr hread
  exact (a.told r hr).reads hread

/-- A subscription, two publications on its topic with another in between, and its end. -/
def listenTwice : List Move :=
  [.act (.subscribe {} ⟨0⟩ "a" none), .act (.publish "a" (.bool true)), .read ⟨0⟩, .act (.publish "b" .null),
    .act (.publish "a" (.bool false)), .act (.finish (.nth 0 1)), .act (.publish "a" .null)]

theorem listenTwice_heard :
    (twoScopes.heardAll ⟨0⟩ ⟨0⟩ listenTwice ++ (twoScopes.moveAll ⟨0⟩ listenTwice).waiting ⟨0⟩).map (·.kind) =
      [some .subscribe, some .event, some .event] := by
  have hempty : twoScopes.records ⟨0⟩ = [] := rfl
  have hscopes : ∀ scope owned, twoScopes.owned? scope = some owned → owned = [] := by
    apply owned_eq_nil_of_new
    intro scope s hs
    have hmem := Array.mem_of_getElem? hs
    simpa [twoScopes] using hmem
  obtain ⟨hdelivers, -⟩ := moveAll_delivers hempty hscopes listenTwice (Sid.distinct_of_lt (by decide))
  have hmem : (⟨.nth 0 1, "a", ⟨0⟩, ⟨0⟩, none⟩ : Record) ∈ twoScopes.admitted ⟨0⟩ listenTwice := by
    decide +kernel
  obtain ⟨hstory, -⟩ := hdelivers _ hmem (by decide +kernel)
  rw [hstory]
  decide +kernel

end Hub
end Exchange
