-- SUMMARY: What the operations on channels, streams and cleanups leave alone in the hub.
import Exchange.Hub
import Exchange.Proofs.Data.Store

/-!
# What operations leave alone

Three views say all that subscriptions depend on: the records of a manager, how
many sids it has issued, and what a scope tracks. Sinks and streams touch none
of them (`Hub.SameBooks`), and cleanups only services and the journal.
`Hub.reading?` is the view of channels: only dropping a stream changes it.
-/

namespace Exchange.Hub

/-! ## Views -/

/-- The open subscriptions of a manager, oldest first. -/
def records (h : Hub) (manager : Ref .manager) : List Record :=
  ((h.managers.get? manager).map (·.records)).getD []

/-- How many sids a manager has issued. -/
def issued (h : Hub) (manager : Ref .manager) : Nat :=
  ((h.managers.get? manager).map (·.issued)).getD 0

/-- Whether a manager is there. -/
def hosts (h : Hub) (manager : Ref .manager) : Bool :=
  (h.managers.get? manager).isSome

/-- What an open scope tracks. -/
def owned? (h : Hub) (scope : Ref .scope) : Option (List (Sid × Release)) :=
  (h.scopes.get? scope).bind (·.owned)

/-- Whether a channel is read, if it is there. -/
def reading? (h : Hub) (c : Ref .channel) : Option Bool :=
  (h.channels.get? c).map (·.reading)

theorem isClosed_eq (h : Hub) (scope : Ref .scope) : h.isClosed scope = (h.owned? scope).isNone := by
  unfold isClosed owned?
  cases h.scopes.get? scope <;> rfl

/-- Scopes that are new track nothing. -/
theorem owned_eq_nil_of_new {h : Hub} (hnew : ∀ scope s, h.scopes.get? scope = some s → s = {}) :
    ∀ scope owned, h.owned? scope = some owned → owned = [] := by
  intro scope owned howned
  obtain ⟨s, hs, howned⟩ := Option.bind_eq_some_iff.1 howned
  rw [hnew scope s hs] at howned
  cases howned
  rfl

theorem isRead_eq (h : Hub) (c : Ref .channel) : h.isRead c = (h.reading? c == some true) := by
  unfold isRead reading?
  cases h.channels.get? c with
  | none => rfl
  | some channel => cases hread : channel.reading <;> simp [hread]

section Managers

variable {h : Hub} {manager : Ref .manager} {m : Manager}

theorem records_eq (hm : h.managers.get? manager = some m) : h.records manager = m.records := by
  simp [records, hm]

theorem issued_eq (hm : h.managers.get? manager = some m) : h.issued manager = m.issued := by
  simp [issued, hm]

theorem subscribers_eq (h : Hub) (manager : Ref .manager) (topic : String) :
    h.subscribers manager topic = (h.records manager).filter fun r => r.topic = topic := by
  unfold subscribers records
  cases h.managers.get? manager <;> rfl

end Managers

/-! ## Sinks and streams -/

/-- Managers, scopes, services and journal are the same. -/
structure SameBooks (h h' : Hub) : Prop where
  managers : h'.managers = h.managers
  scopes : h'.scopes = h.scopes
  services : h'.services = h.services
  journal : h'.journal = h.journal

namespace SameBooks

variable {h h' h'' : Hub}

theorem refl (h : Hub) : SameBooks h h :=
  ⟨rfl, rfl, rfl, rfl⟩

theorem trans (a : SameBooks h h') (b : SameBooks h' h'') : SameBooks h h'' where
  managers := b.managers.trans a.managers
  scopes := b.scopes.trans a.scopes
  services := b.services.trans a.services
  journal := b.journal.trans a.journal

theorem records (a : SameBooks h h') (manager : Ref .manager) : h'.records manager = h.records manager := by
  simp only [Hub.records, a.managers]

theorem issued (a : SameBooks h h') (manager : Ref .manager) : h'.issued manager = h.issued manager := by
  simp only [Hub.issued, a.managers]

theorem hosts (a : SameBooks h h') (manager : Ref .manager) : h'.hosts manager = h.hosts manager := by
  simp only [Hub.hosts, a.managers]

theorem owned? (a : SameBooks h h') (scope : Ref .scope) : h'.owned? scope = h.owned? scope := by
  simp only [Hub.owned?, a.scopes]

end SameBooks

theorem sameBooks_send (h : Hub) (sink : Ref .channel) (r : Reply) : SameBooks h (h.send sink r).1 := by
  unfold send
  split <;> exact ⟨rfl, rfl, rfl, rfl⟩

theorem sameBooks_dropStream (h : Hub) (s : Stream) : SameBooks h (h.dropStream s) := by
  induction s with
  | ended => exact .refl h
  | channel c => exact ⟨rfl, rfl, rfl, rfl⟩
  | mapped f s ih => exact ih
  | counted p s ih => exact ih.trans ⟨rfl, rfl, rfl, rfl⟩

theorem sameBooks_setBody (h : Hub) (slot : Slot) (body : Body Stream) :
    SameBooks h (h.setBody slot body).1 := by
  unfold setBody dropBody
  split
  · apply sameBooks_dropStream
  · exact .refl h

theorem sameBooks_openStream (h : Hub) (slot : Slot) : SameBooks h (h.openStream slot).1 := by
  have hopen : SameBooks h h.openChannel.1 := ⟨rfl, rfl, rfl, rfl⟩
  exact hopen.trans (sameBooks_setBody h.openChannel.1 slot (.stream (.channel h.channels.next)))

theorem sameBooks_use (h : Hub) (sink : Ref .channel) (item : Sink.Item) : SameBooks h (h.use sink item).1 := by
  unfold use
  cases item.reply? with
  | none => exact .refl h
  | some r => exact sameBooks_send h sink r

theorem sameBooks_useAll (h : Hub) (sink : Ref .channel) (items : List Sink.Item) :
    SameBooks h (h.useAll sink items).1 := by
  induction items generalizing h with
  | nil => exact .refl h
  | cons item items ih => exact (sameBooks_use h sink item).trans (ih _)

theorem sameBooks_pull (h : Hub) (s : Stream) : SameBooks h (h.pull s).1 := by
  induction s with
  | ended => exact .refl h
  | channel c =>
    simp only [pull]
    cases h.channels.get? c with
    | none => exact .refl h
    | some channel => exact ⟨rfl, rfl, rfl, rfl⟩
  | mapped f s ih =>
    simp only [pull]
    generalize h.pull s = pulled at ih
    obtain ⟨h', s', found⟩ := pulled
    cases found <;> exact ih
  | counted p s ih =>
    simp only [pull]
    generalize h.pull s = pulled at ih
    obtain ⟨h', s', found⟩ := pulled
    cases found with
    | pending | item r => exact ih
    | finished => exact (ih.trans (sameBooks_dropStream h' s')).trans ⟨rfl, rfl, rfl, rfl⟩

/-! ## Channels -/

theorem send_snd (h : Hub) (sink : Ref .channel) (r : Reply) : (h.send sink r).2 = h.isRead sink := by
  unfold send isRead
  cases h.channels.get? sink with
  | none => rfl
  | some c => cases hread : c.reading <;> simp [Channel.send, hread]

section Reading

variable (h : Hub) (c : Ref .channel)

theorem reading?_modify (sink : Ref .channel) (f : Channel Reply → Channel Reply)
    (hf : ∀ a, h.channels.get? sink = some a → (f a).reading = a.reading) :
    Option.map (·.reading) ((h.channels.modify sink f).get? c) = h.reading? c := by
  by_cases hc : c = sink
  · subst hc
    rw [Store.get?_modify_self, reading?]
    cases hget : h.channels.get? c with
    | none => rfl
    | some a => simp [hf a hget]
  · rw [Store.get?_modify_of_ne f hc, reading?]

@[simp] theorem reading?_send (sink : Ref .channel) (r : Reply) :
    (h.send sink r).1.reading? c = h.reading? c := by
  unfold send
  split
  · rename_i channel hget
    apply reading?_modify
    intro a ha
    rw [hget] at ha
    cases ha
    unfold Channel.send
    split <;> rfl
  · rfl

@[simp] theorem reading?_dropSink (sink : Ref .channel) : (h.dropSink sink).reading? c = h.reading? c := by
  apply reading?_modify
  intro a _
  rfl

/-- Dropping a stream leaves each channel as it was, or without its reading half. -/
theorem reading?_dropStream (s : Stream) :
    (h.dropStream s).reading? c = h.reading? c ∨
      (h.dropStream s).reading? c = (h.reading? c).map fun _ => false := by
  induction s with
  | ended => exact .inl rfl
  | channel d =>
    by_cases hc : c = d
    · subst hc
      right
      simp only [dropStream, reading?, Store.get?_modify_self, Option.map_map]
      rfl
    · left
      simp only [dropStream, reading?, Store.get?_modify_of_ne _ hc]
  | mapped f s ih => exact ih
  | counted p s ih => exact ih

theorem reading?_setBody (slot : Slot) (body : Body Stream) :
    (h.setBody slot body).1.reading? c = h.reading? c ∨
      (h.setBody slot body).1.reading? c = (h.reading? c).map fun _ => false := by
  unfold setBody dropBody
  split
  · apply reading?_dropStream
  · exact .inl rfl

theorem reading?_openChannel_of_ne (hc : c ≠ h.channels.next) :
    h.openChannel.1.reading? c = h.reading? c := by
  simp only [openChannel, reading?, Store.get?_push_of_ne _ hc]

theorem reading?_next : h.openChannel.1.reading? h.channels.next = some true := by
  simp [openChannel, reading?]

theorem ne_next_of_reading? {b : Bool} (hc : h.reading? c = some b) : c ≠ h.channels.next := by
  rintro rfl
  simp [reading?, Store.get?, Store.next] at hc

/-- A stream that is opened in a slot may replace another, and leaves all other channels as they were. -/
theorem reading?_openStream {b : Bool} (slot : Slot) (hc : h.reading? c = some b) :
    (h.openStream slot).1.reading? c = some b ∨ (h.openStream slot).1.reading? c = some false := by
  have hopen : h.openChannel.1.reading? c = some b := by
    rw [reading?_openChannel_of_ne h c (ne_next_of_reading? h c hc), hc]
  have hset := reading?_setBody h.openChannel.1 c slot (.stream (.channel h.channels.next))
  rw [hopen] at hset
  exact hset

/-- Where no stream is replaced, no channel loses its reading half. -/
theorem reading?_openStream_of_body {slot : Slot} (hbody : ∀ s, slot.body ≠ .stream s) :
    (h.openStream slot).1.reading? c = h.openChannel.1.reading? c := by
  unfold openStream setBody dropBody
  dsimp only
  split
  · rename_i s hs
    exact absurd hs (hbody s)
  · rfl

theorem reading?_openStream_next (slot : Slot) :
    ((h.openStream slot).1.reading? h.channels.next).isSome := by
  have hset := reading?_setBody h.openChannel.1 h.channels.next slot (.stream (.channel h.channels.next))
  rw [reading?_next] at hset
  rcases hset with hset | hset
  · exact Option.isSome_iff_exists.2 ⟨_, hset⟩
  · exact Option.isSome_iff_exists.2 ⟨_, hset⟩

end Reading

/-! ## Cleanups -/

/-- Managers, scopes and channels are the same. -/
structure SameTables (h h' : Hub) : Prop where
  managers : h'.managers = h.managers
  scopes : h'.scopes = h.scopes
  channels : h'.channels = h.channels

theorem sameTables_runCleanup (h : Hub) (c : Option Cleanup) : SameTables h (h.runCleanup c) := by
  unfold runCleanup
  split
  · exact ⟨rfl, rfl, rfl⟩
  · exact ⟨rfl, rfl, rfl⟩
  · unfold leaveService deactivate
    split
    · exact ⟨rfl, rfl, rfl⟩
    · dsimp only
      split
      · split <;> exact ⟨rfl, rfl, rfl⟩
      · exact ⟨rfl, rfl, rfl⟩

end Exchange.Hub
