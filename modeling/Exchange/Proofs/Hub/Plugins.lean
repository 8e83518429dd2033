-- SUMMARY: What the hub does without a look at its plugins, and hubs that differ only in plugins nobody looks at.
import Exchange.Feed
import Exchange.Proofs.Data.Store

/-!
# Hubs with other plugins

No operation on channels, scopes, managers and services looks at the plugins:
all of them are `Hub.Blind`. Streams do, since a guard counts the request of a
plugin until the stream is over. `Hub.Resembles` compares two hubs where some
plugins are hidden: nothing but the hidden plugins and the number of requests
on their way to the others may differ. Reading a stream of one hub finds what
reading it without the hidden guards finds in the other (`reads_bare`).
-/

namespace Exchange

/-! ## Plugins without visitors -/

/-- A plugin as it is to those who are not told of the requests on their way to it. -/
def Plugin.apparent (p : Plugin) : Plugin :=
  { p with visitors := 0 }

namespace Hub

/-! ## Other plugins -/

def withPlugins (h : Hub) (plugins : Store .plugin Plugin) : Hub :=
  { h with plugins }

/-- What is done to a hub has nothing to do with its plugins. -/
def Blind (act : Hub → Hub) : Prop :=
  ∀ h plugins, act (h.withPlugins plugins) = (act h).withPlugins plugins

theorem withPlugins_services (h : Hub) (plugins : Store .plugin Plugin) :
    (h.withPlugins plugins).services = h.services :=
  rfl

section Blind

variable (h : Hub) (plugins : Store .plugin Plugin)

theorem foldl_withPlugins {α : Type} {f : Hub → α → Hub}
    (hf : ∀ h plugins a, f (h.withPlugins plugins) a = (f h a).withPlugins plugins) (l : List α) :
    l.foldl f (h.withPlugins plugins) = (l.foldl f h).withPlugins plugins := by
  induction l generalizing h with
  | nil => rfl
  | cons a l ih => rw [List.foldl_cons, List.foldl_cons, hf, ih]

/-! ### Sinks -/

theorem send_withPlugins (sink : Ref .channel) (r : Reply) :
    (h.withPlugins plugins).send sink r = ((h.send sink r).1.withPlugins plugins, (h.send sink r).2) := by
  unfold send
  simp only [withPlugins]
  cases h.channels.get? sink <;> rfl

@[simp] theorem dropSink_withPlugins (sink : Ref .channel) :
    (h.withPlugins plugins).dropSink sink = (h.dropSink sink).withPlugins plugins :=
  rfl

theorem use_withPlugins (sink : Ref .channel) (item : Sink.Item) :
    (h.withPlugins plugins).use sink item = ((h.use sink item).1.withPlugins plugins, (h.use sink item).2) := by
  unfold use
  cases item.reply? with
  | none => rfl
  | some r => simp only [send_withPlugins]

theorem useAll_withPlugins (sink : Ref .channel) (items : List Sink.Item) :
    (h.withPlugins plugins).useAll sink items =
      ((h.useAll sink items).1.withPlugins plugins, (h.useAll sink items).2) := by
  induction items generalizing h with
  | nil => rfl
  | cons item items ih => simp only [useAll, use_withPlugins, ih]

/-! ### Leaving the table -/

@[simp] theorem deactivate_withPlugins (service : Ref .service) (s : Service) (topic : String) :
    (h.withPlugins plugins).deactivate service s topic = (h.deactivate service s topic).withPlugins plugins := by
  unfold deactivate
  cases s.producer <;> rfl

@[simp] theorem leaveService_withPlugins (service : Ref .service) (topic : String) :
    (h.withPlugins plugins).leaveService service topic = (h.leaveService service topic).withPlugins plugins := by
  unfold leaveService
  rw [withPlugins_services]
  cases h.services.get? service with
  | none => rfl
  | some s =>
    dsimp only
    split
    · exact deactivate_withPlugins { h with services := _ } plugins _ _ _
    · rfl

@[simp] theorem runCleanup_withPlugins (cleanup : Option Cleanup) :
    (h.withPlugins plugins).runCleanup cleanup = (h.runCleanup cleanup).withPlugins plugins := by
  unfold runCleanup
  cases cleanup with
  | none => rfl
  | some cleanup =>
    cases cleanup with
    | report label => rfl
    | leave service topic => exact leaveService_withPlugins h plugins service topic

@[simp] theorem retire_withPlugins (r : Record) :
    (h.withPlugins plugins).retire r = (h.retire r).withPlugins plugins := by
  simp only [retire, runCleanup_withPlugins, dropSink_withPlugins]

theorem takeRecord_withPlugins (manager : Ref .manager) (sid : Sid) (topic : Option String) :
    (h.withPlugins plugins).takeRecord manager sid topic =
      ((h.takeRecord manager sid topic).1.withPlugins plugins, (h.takeRecord manager sid topic).2) := by
  unfold takeRecord
  simp only [withPlugins]
  cases (h.managers.get? manager).bind (·.select? sid topic) <;> rfl

theorem untrack_withPlugins (scope : Ref .scope) (sid : Sid) :
    (h.withPlugins plugins).untrack scope sid =
      ((h.untrack scope sid).1.withPlugins plugins, (h.untrack scope sid).2) := by
  unfold untrack
  simp only [withPlugins]
  cases h.scopes.get? scope <;> rfl

theorem remove_withPlugins (manager : Ref .manager) (sid : Sid) (topic : Option String) :
    (h.withPlugins plugins).remove manager sid topic =
      ((h.remove manager sid topic).1.withPlugins plugins, (h.remove manager sid topic).2) := by
  simp only [remove, takeRecord_withPlugins]
  generalize h.takeRecord manager sid topic = taken
  obtain ⟨h, taken⟩ := taken
  cases taken with
  | none => rfl
  | some r => simp only [untrack_withPlugins, retire_withPlugins]

theorem finish_withPlugins (manager : Ref .manager) (sid : Sid) :
    (h.withPlugins plugins).finish manager sid =
      ((h.finish manager sid).1.withPlugins plugins, (h.finish manager sid).2) := by
  simp only [finish, remove_withPlugins]
  generalize h.remove manager sid none = removed
  obtain ⟨h, removed⟩ := removed
  cases removed <;> rfl

/-! ### Scopes -/

theorem track?_withPlugins (scope : Ref .scope) (sid : Sid) (release : Release) :
    (h.withPlugins plugins).track? scope sid release =
      (h.track? scope sid release).map fun h => h.withPlugins plugins := by
  unfold track?
  simp only [withPlugins]
  cases (h.scopes.get? scope).bind (·.track? sid release) <;> rfl

theorem takeScope_withPlugins (scope : Ref .scope) :
    (h.withPlugins plugins).takeScope scope =
      ((h.takeScope scope).1.withPlugins plugins, (h.takeScope scope).2) := by
  unfold takeScope
  simp only [withPlugins]
  cases h.scopes.get? scope <;> rfl

@[simp] theorem runRelease_withPlugins (sid : Sid) (release : Release) :
    (h.withPlugins plugins).runRelease sid release = (h.runRelease sid release).withPlugins plugins := by
  cases release with
  | report text => rfl
  | forget manager =>
    simp only [runRelease, takeRecord_withPlugins]
    generalize h.takeRecord manager sid none = taken
    obtain ⟨h, taken⟩ := taken
    cases taken with
    | none => rfl
    | some r => exact retire_withPlugins h plugins r

theorem closeScope_withPlugins (scope : Ref .scope) :
    (h.withPlugins plugins).closeScope scope =
      ((h.closeScope scope).1.withPlugins plugins, (h.closeScope scope).2) := by
  simp only [closeScope, takeScope_withPlugins]
  rw [foldl_withPlugins _ _ fun h plugins p => runRelease_withPlugins h plugins p.1 p.2]
  rfl

/-! ### Publishing -/

theorem deliver_withPlugins (manager : Ref .manager) (topic : String) (message : Value) (n : Nat) (r : Record) :
    deliver manager topic message (h.withPlugins plugins, n) r =
      ((deliver manager topic message (h, n) r).1.withPlugins plugins,
        (deliver manager topic message (h, n) r).2) := by
  simp only [deliver, send_withPlugins]
  generalize h.send r.sink (.event r.sid topic message) = sent
  obtain ⟨h, sent⟩ := sent
  cases sent with
  | true => rfl
  | false => simp only [remove_withPlugins]

theorem publish_withPlugins (manager : Ref .manager) (topic : String) (message : Value) :
    (h.withPlugins plugins).publish manager topic message =
      ((h.publish manager topic message).1.withPlugins plugins, (h.publish manager topic message).2) := by
  have hfold : ∀ (l : List Record) (h : Hub) (n : Nat),
      l.foldl (deliver manager topic message) (h.withPlugins plugins, n) =
        ((l.foldl (deliver manager topic message) (h, n)).1.withPlugins plugins,
          (l.foldl (deliver manager topic message) (h, n)).2) := by
    intro l
    induction l with
    | nil => exact fun _ _ => rfl
    | cons r l ih =>
      intro h n
      rw [List.foldl_cons, List.foldl_cons, deliver_withPlugins]
      exact ih _ _
  exact hfold (h.subscribers manager topic) h 0

/-! ### Services -/

@[simp] theorem activate_withPlugins (service : Ref .service) (s : Service) (topic : String) :
    (h.withPlugins plugins).activate service s topic = (h.activate service s topic).withPlugins plugins := by
  obtain ⟨name, manager, param, producer, active, published, due⟩ := s
  cases producer with
  | clock => rfl
  | herald announcement =>
    cases announcement with
    | none => rfl
    | some v =>
      exact congrArg (fun p : Hub × Nat => p.1.note (.announced p.2))
        (publish_withPlugins (Hub.note { h with services := _ } _) plugins manager topic v)

@[simp] theorem enterService_withPlugins (service : Ref .service) (topic : String) :
    (h.withPlugins plugins).enterService service topic = (h.enterService service topic).withPlugins plugins := by
  unfold enterService
  rw [withPlugins_services]
  cases h.services.get? service with
  | none => rfl
  | some s =>
    dsimp only
    split
    · exact activate_withPlugins { h with services := _ } plugins _ _ _
    · rfl

end Blind

/-! ## Hidden plugins -/

variable {hides : Ref .plugin → Bool} {h h' : Hub}

/-- The second hub is the first but for the plugins that are hidden and for who visits the others. -/
structure Resembles (hides : Ref .plugin → Bool) (h h' : Hub) : Prop where
  eq : h' = h.withPlugins h'.plugins
  plugins : ∀ p, hides p = false →
    (h'.plugins.get? p).map Plugin.apparent = (h.plugins.get? p).map Plugin.apparent

namespace Resembles

theorem refl (h : Hub) : Resembles hides h h :=
  ⟨rfl, fun _ _ => rfl⟩

theorem ask {α : Type} {f : Hub → Hub × α}
    (hf : ∀ h plugins, f (h.withPlugins plugins) = ((f h).1.withPlugins plugins, (f h).2))
    (r : Resembles hides h h') : Resembles hides (f h).1 (f h').1 ∧ (f h').2 = (f h).2 := by
  have heq : f h' = ((f h).1.withPlugins h'.plugins, (f h).2) := by
    rw [← hf, ← r.eq]
  have hown : f h = ((f h).1.withPlugins h.plugins, (f h).2) :=
    hf h h.plugins
  refine ⟨⟨by rw [heq]; rfl, ?_⟩, by rw [heq]⟩
  intro p hp
  rw [heq, hown]
  exact r.plugins p hp

theorem act {f : Hub → Hub} (hf : Blind f) (r : Resembles hides h h') : Resembles hides (f h) (f h') :=
  (r.ask (f := fun h => (f h, ())) fun h plugins => congrArg (·, ()) (hf h plugins)).1

/-! ### Changing plugins -/

/-- What is done to a plugin has nothing to do with who visits it. -/
theorem revise (r : Resembles hides h h') (p : Ref .plugin) {f : Plugin → Plugin}
    (hf : ∀ a, (f a).apparent = (f a.apparent).apparent) :
    Resembles hides (h.revisePlugin p f) (h'.revisePlugin p f) := by
  refine ⟨?_, ?_⟩
  · rw [r.eq]
    rfl
  · intro q hq
    have hsame := r.plugins q hq
    simp only [revisePlugin, Store.get?_modify]
    split
    · have happarent (o : Option Plugin) :
          (o.map f).map Plugin.apparent = (o.map Plugin.apparent).map (Plugin.apparent ∘ f) := by
        cases o with
        | none => rfl
        | some a => exact congrArg some (hf a)
      rw [happarent, happarent, hsame]
    · exact hsame

/-- Whatever is done to a hidden plugin, and whoever comes to a plugin or leaves it. -/
theorem revise_left (r : Resembles hides h h') (p : Ref .plugin) {f : Plugin → Plugin}
    (hf : hides p = true ∨ ∀ a, (f a).apparent = a.apparent) :
    Resembles hides (h.revisePlugin p f) h' := by
  refine ⟨r.eq, ?_⟩
  intro q hq
  rw [r.plugins q hq]
  simp only [revisePlugin, Store.get?_modify]
  split
  · rename_i heq
    subst heq
    rcases hf with hf | hf
    · rw [hf] at hq
      cases hq
    · rw [Option.map_map]
      exact Option.map_congr fun a _ => (hf a).symm
  · rfl

theorem plugin_eq (r : Resembles hides h h') {p : Ref .plugin} (hp : hides p = false) :
    h'.plugins.get? p = none ∧ h.plugins.get? p = none ∨
      ∃ a a', h'.plugins.get? p = some a' ∧ h.plugins.get? p = some a ∧ a'.apparent = a.apparent := by
  have hsame := r.plugins p hp
  revert hsame
  cases h'.plugins.get? p with
  | none => cases h.plugins.get? p with
    | none => exact fun _ => .inl ⟨rfl, rfl⟩
    | some a => exact nofun
  | some a' => cases h.plugins.get? p with
    | none => exact nofun
    | some a => exact fun hsame => .inr ⟨a, a', rfl, rfl, Option.some.inj hsame⟩

end Resembles

end Hub

/-! ## Hidden guards -/

section Bare

variable (hides : Ref .plugin → Bool)

/-- The stream without the guards of hidden plugins. -/
def Stream.bare : Stream → Stream
  | .ended => .ended
  | .channel c => .channel c
  | .mapped f s => .mapped f s.bare
  | .counted p s => if hides p then s.bare else .counted p s.bare

def Body.bare : Body Stream → Body Stream
  | .empty => .empty
  | .message v => .message v
  | .stream s => .stream (s.bare hides)

def Slot.bare (slot : Slot) : Slot :=
  { slot with body := slot.body.bare hides }

def Result.bare : Result Stream → Result Stream
  | .error f => .error f
  | .ok o => .ok { o with body := o.body.bare hides }

end Bare

namespace Hub

variable {hides : Ref .plugin → Bool} {h h' : Hub}

/-- What a subscription does once its stream is open. -/
def enlist (scope : Ref .scope) (manager : Ref .manager) (m : Manager) (topic : String) (cleanup : Option Cleanup)
    (sink : Ref .channel) (h : Hub) : Hub × Except Failure Sid :=
  let (m, n) := m.issue
  let sid := Sid.nth manager.index n
  let (h, _) := h.send sink (.subscribed sid topic)
  let h := { h with managers := h.managers.set manager (m.insert { sid, topic, sink, scope, cleanup }) }
  match h.track? scope sid (.forget manager) with
  | some h => (h, .ok sid)
  | none => (((h.takeRecord manager sid none).1).dropSink sink, .error sessionClosed)

theorem subscribe_eq_enlist {manager : Ref .manager} {m : Manager} (hm : h.managers.get? manager = some m) (slot : Slot)
    (scope : Ref .scope) (topic : String) (cleanup : Option Cleanup) :
    h.subscribe slot scope manager topic cleanup =
      (((h.openStream slot).1.enlist scope manager m topic cleanup (h.openStream slot).2.2).1,
        (h.openStream slot).2.1,
        ((h.openStream slot).1.enlist scope manager m topic cleanup (h.openStream slot).2.2).2) := by
  simp only [subscribe, hm, enlist]
  generalize Hub.track? _ _ _ _ = tracked
  cases tracked <;> rfl

theorem enlist_withPlugins (scope : Ref .scope) (manager : Ref .manager) (m : Manager) (topic : String)
    (cleanup : Option Cleanup) (sink : Ref .channel) (h : Hub) (plugins : Store .plugin Plugin) :
    (h.withPlugins plugins).enlist scope manager m topic cleanup sink =
      ((h.enlist scope manager m topic cleanup sink).1.withPlugins plugins,
        (h.enlist scope manager m topic cleanup sink).2) := by
  simp only [enlist, send_withPlugins]
  generalize (h.send sink _).1 = h
  generalize hnew : h.managers.set manager _ = managers
  have htrack := track?_withPlugins { h with managers } plugins scope (.nth manager.index m.issue.2) (.forget manager)
  have htake := takeRecord_withPlugins { h with managers } plugins manager (.nth manager.index m.issue.2) none
  simp only [withPlugins] at hnew htrack htake ⊢
  rw [hnew, htrack, htake]
  cases Hub.track? { h with managers } scope (.nth manager.index m.issue.2) (.forget manager) <;> rfl

/-- Pulling comes to the same. At the end of a stream one of the hubs may have dropped a guard already, but
the hubs are the same when both have dropped what is left of the stream. -/
structure SamePull (hides : Ref .plugin → Bool) (x x' : Hub × Stream × Pull Reply) : Prop where
  found : x'.2.2 = x.2.2
  dropped : Resembles hides (x.1.dropStream x.2.1) (x'.1.dropStream x'.2.1)
  going : x.2.2 ≠ .finished → Resembles hides x.1 x'.1 ∧ x'.2.1 = x.2.1.bare hides

namespace Resembles

theorem dropStream (r : Resembles hides h h') (s : Stream) :
    Resembles hides (h.dropStream s) (h'.dropStream (s.bare hides)) := by
  induction s with
  | ended => exact r
  | channel c => exact r.act (f := fun h => h.dropStream (.channel c)) fun _ _ => rfl
  | mapped f s ih => exact ih
  | counted p s ih =>
    unfold Stream.bare
    split
    · rename_i hp
      exact ih.revise_left p (.inl hp)
    · exact ih.revise p fun _ => rfl

theorem dropBody (r : Resembles hides h h') (body : Body Stream) :
    Resembles hides (h.dropBody body) (h'.dropBody (body.bare hides)) := by
  cases body with
  | empty | message v => exact r
  | stream s => exact r.dropStream s

theorem setBody (r : Resembles hides h h') (slot : Slot) (body : Body Stream) :
    Resembles hides (h.setBody slot body).1 (h'.setBody (slot.bare hides) (body.bare hides)).1 :=
  r.dropBody slot.body

theorem openStream (r : Resembles hides h h') (slot : Slot) :
    Resembles hides (h.openStream slot).1 (h'.openStream (slot.bare hides)).1 ∧
      (h'.openStream (slot.bare hides)).2 = ((h.openStream slot).2.1.bare hides, (h.openStream slot).2.2) := by
  have hopen : Resembles hides h.openChannel.1 h'.openChannel.1 :=
    r.act (f := fun h => h.openChannel.1) fun _ _ => rfl
  have hnext : h'.channels.next = h.channels.next := by
    rw [r.eq]
    rfl
  simp only [Hub.openStream]
  refine ⟨?_, ?_⟩
  · have hset := hopen.setBody slot (.stream (.channel h.channels.next))
    rw [show h'.openChannel.2 = h.openChannel.2 from hnext]
    exact hset
  · simp only [Hub.openChannel, hnext]
    rfl

theorem unsubscribe (r : Resembles hides h h') (slot : Slot) (manager : Ref .manager) (sid : Sid)
    (topic : Option String) :
    Resembles hides (h.unsubscribe slot manager sid topic).1 (h'.unsubscribe (slot.bare hides) manager sid topic).1 ∧
      (h'.unsubscribe (slot.bare hides) manager sid topic).2 =
        ((h.unsubscribe slot manager sid topic).2.1.bare hides, (h.unsubscribe slot manager sid topic).2.2) := by
  obtain ⟨hremove, hanswer⟩ := r.ask (f := (·.remove manager sid topic)) fun h plugins =>
    remove_withPlugins h plugins manager sid topic
  refine ⟨hremove.setBody slot (.message (.text "Unsubscribed")), ?_⟩
  simp only [Hub.unsubscribe, hanswer]
  rfl

theorem subscribe (r : Resembles hides h h') (slot : Slot) (scope : Ref .scope) (manager : Ref .manager)
    (topic : String) (cleanup : Option Cleanup) :
    Resembles hides (h.subscribe slot scope manager topic cleanup).1
        (h'.subscribe (slot.bare hides) scope manager topic cleanup).1 ∧
      (h'.subscribe (slot.bare hides) scope manager topic cleanup).2 =
        ((h.subscribe slot scope manager topic cleanup).2.1.bare hides,
          (h.subscribe slot scope manager topic cleanup).2.2) := by
  have hmanager : h'.managers.get? manager = h.managers.get? manager := by
    rw [r.eq]
    rfl
  cases hm : h.managers.get? manager with
  | none =>
    rw [hm] at hmanager
    simp only [Hub.subscribe, hm, hmanager]
    exact ⟨r, trivial⟩
  | some m =>
    obtain ⟨hopen, hslot⟩ := r.openStream slot
    have henlist := hopen.ask (f := Hub.enlist scope manager m topic cleanup (h.openStream slot).2.2)
      (enlist_withPlugins scope manager m topic cleanup _)
    rw [subscribe_eq_enlist hm, subscribe_eq_enlist (h := h') (hmanager.trans hm), hslot]
    exact ⟨henlist.1, congrArg (Prod.mk _) henlist.2⟩

/-! ### Reading -/

theorem pull_channel (r : Resembles hides h h') (c : Ref .channel) :
    SamePull hides (h.pull (.channel c)) (h'.pull (.channel c)) := by
  obtain ⟨hpull, hfound⟩ := r.ask (f := fun h => h.pull (.channel c)) fun h plugins => by
    simp only [Hub.pull, withPlugins]
    cases h.channels.get? c <;> rfl
  have hbare : (h.pull (.channel c)).2.1.bare hides = (h.pull (.channel c)).2.1 := by
    simp only [Hub.pull]
    cases h.channels.get? c <;> rfl
  refine ⟨congrArg Prod.snd hfound, ?_, fun _ => ⟨hpull, ?_⟩⟩
  · have hdrop := hpull.dropStream (h.pull (.channel c)).2.1
    rw [hbare] at hdrop
    rw [← congrArg Prod.fst hfound] at hdrop ⊢
    exact hdrop
  · rw [hbare]
    exact congrArg Prod.fst hfound

end Resembles

namespace SamePull

variable {s s' : Stream} (a : SamePull hides (h.pull s) (h'.pull s'))

include a

theorem mapped (f : Reply → Reply) : SamePull hides (h.pull (.mapped f s)) (h'.pull (.mapped f s')) := by
  simp only [Hub.pull]
  generalize h.pull s = pulled, h'.pull s' = pulled' at a ⊢
  obtain ⟨h, s, found⟩ := pulled
  obtain ⟨h', s', found'⟩ := pulled'
  obtain ⟨hfound, hdrop, hgo⟩ := a
  dsimp only at hfound hdrop hgo
  subst hfound
  cases found' with
  | finished => exact ⟨rfl, hdrop, fun hne => absurd rfl hne⟩
  | item a | pending =>
    obtain ⟨hsame, rfl⟩ := hgo nofun
    exact ⟨rfl, hdrop, fun _ => ⟨hsame, rfl⟩⟩

theorem counted {p : Ref .plugin} (hp : ¬hides p = true) :
    SamePull hides (h.pull (.counted p s)) (h'.pull (.counted p s')) := by
  simp only [Hub.pull]
  generalize h.pull s = pulled, h'.pull s' = pulled' at a ⊢
  obtain ⟨h, s, found⟩ := pulled
  obtain ⟨h', s', found'⟩ := pulled'
  obtain ⟨hfound, hdrop, hgo⟩ := a
  dsimp only at hfound hdrop hgo ⊢
  subst hfound
  cases found' with
  | finished => exact ⟨rfl, hdrop.revise p fun _ => rfl, fun hne => absurd rfl hne⟩
  | item a | pending =>
    obtain ⟨hsame, rfl⟩ := hgo nofun
    refine ⟨rfl, hdrop.revise p fun _ => rfl, fun _ => ⟨hsame, ?_⟩⟩
    rw [Stream.bare, if_neg hp]

/-- A hidden plugin counts for itself. -/
theorem hidden {p : Ref .plugin} (hp : hides p = true) : SamePull hides (h.pull (.counted p s)) (h'.pull s') := by
  simp only [Hub.pull]
  generalize h.pull s = pulled, h'.pull s' = pulled' at a ⊢
  obtain ⟨h, s, found⟩ := pulled
  obtain ⟨h', s', found'⟩ := pulled'
  obtain ⟨hfound, hdrop, hgo⟩ := a
  dsimp only at hfound hdrop hgo ⊢
  subst hfound
  cases found' with
  | finished => exact ⟨rfl, hdrop.revise_left p (.inl hp), fun hne => absurd rfl hne⟩
  | item a | pending =>
    obtain ⟨hsame, rfl⟩ := hgo nofun
    refine ⟨rfl, hdrop.revise_left p (.inl hp), fun _ => ⟨hsame, ?_⟩⟩
    rw [Stream.bare, if_pos hp]

end SamePull

theorem Resembles.pull (r : Resembles hides h h') (s : Stream) :
    SamePull hides (h.pull s) (h'.pull (s.bare hides)) := by
  induction s with
  | ended => exact ⟨rfl, r, fun _ => ⟨r, rfl⟩⟩
  | channel c => exact r.pull_channel c
  | mapped f s ih => exact ih.mapped f
  | counted p s ih =>
    simp only [Stream.bare]
    split
    · rename_i hp
      exact ih.hidden hp
    · rename_i hp
      exact ih.counted hp

end Hub

/-! ## Frames -/

namespace Feed

/-- What somebody finds who takes one frame after another, while other things are done to the hub before each. -/
def reads (h : Hub) (feed : Feed) : List (Hub → Hub) → List (Pull Reply)
  | [] => []
  | act :: acts =>
    let (h, feed, found) := feed.pull (act h)
    found :: feed.reads h acts

def bare (hides : Ref .plugin → Bool) : Feed → Feed
  | .rest frames => .rest frames
  | .flow latch s => .flow latch (s.bare hides)

variable {hides : Ref .plugin → Bool} {h h' : Hub}

theorem pull_bare (r : Hub.Resembles hides h h') (feed : Feed) :
    Hub.Resembles hides (feed.pull h).1 ((feed.bare hides).pull h').1 ∧
      ((feed.bare hides).pull h').2.1 = (feed.pull h).2.1.bare hides ∧
        ((feed.bare hides).pull h').2.2 = (feed.pull h).2.2 := by
  cases feed with
  | rest frames => cases frames <;> exact ⟨r, rfl, rfl⟩
  | flow latch s =>
    have hpull := r.pull s
    simp only [bare, pull]
    generalize h.pull s = pulled, h'.pull (s.bare hides) = pulled' at hpull ⊢
    obtain ⟨h, s, found⟩ := pulled
    obtain ⟨h', s', found'⟩ := pulled'
    obtain ⟨hfound, hdropped, hgoing⟩ := hpull
    dsimp only at hfound hdropped hgoing ⊢
    subst hfound
    cases found' with
    | finished => exact ⟨hdropped, rfl, rfl⟩
    | pending =>
      obtain ⟨hsame, rfl⟩ := hgoing nofun
      exact ⟨hsame, rfl, rfl⟩
    | item frame =>
      obtain ⟨hsame, rfl⟩ := hgoing nofun
      dsimp only
      generalize latch.shape frame = shaped
      obtain ⟨latch, shaped⟩ := shaped
      cases shaped with
      | more r => exact ⟨hsame, rfl, rfl⟩
      | closing r | last r => exact ⟨hdropped, rfl, rfl⟩

/-- Whoever reads finds the same frames, the same waits and the same end. -/
theorem reads_bare (r : Hub.Resembles hides h h') (feed : Feed) {acts : List (Hub → Hub)}
    (hacts : ∀ act ∈ acts, Hub.Blind act) :
    (feed.bare hides).reads h' acts = feed.reads h acts := by
  induction acts generalizing h h' feed with
  | nil => rfl
  | cons act acts ih =>
    obtain ⟨hpull, hleft, hfound⟩ := pull_bare (r.act (hacts act List.mem_cons_self)) feed
    have hrest := ih hpull (feed.pull (act h)).2.1 fun act hact => hacts act (List.mem_cons_of_mem _ hact)
    rw [← hleft] at hrest
    exact List.cons_eq_cons.2 ⟨hfound, hrest⟩

end Feed

end Exchange
