-- SUMMARY: The guards that streams carry, and the requests that end when the guards go.
import Exchange.Feed
import Exchange.Proofs.Data.Store
import Exchange.Proofs.Hub.Plugins

/-!
# Guards

A guard counts one request of a plugin. `Hub.Accounts` says of a change that
each request that begins brings a guard and that each guard that goes ends a
request, once. Reading a stream, dropping it and putting something in its place
are such changes.
-/

namespace Exchange

/-! ## The guards of a plugin -/

section Guards

variable (p : Ref .plugin)

def Stream.guards : Stream → Nat
  | .ended | .channel _ => 0
  | .mapped _ s => s.guards
  | .counted q s => s.guards + if q = p then 1 else 0

def Body.guards : Body Stream → Nat
  | .stream s => s.guards p
  | .empty | .message _ => 0

def Slot.guards (slot : Slot) : Nat :=
  slot.body.guards p

def Result.guards : Result Stream → Nat
  | .ok o => o.body.guards p
  | .error _ => 0

def Feed.guards : Feed → Nat
  | .rest _ => 0
  | .flow _ s => s.guards p

end Guards

/-! ## Counters -/

/-- What became of the metadata when requests have begun and ended and the state has changed so often.
Each of these is one revision; the counter of active requests never went below zero if the requests that
have ended are those it is less by. -/
structure Plugin.Tallies (begun restated ended : Nat) (a a' : Plugin) : Prop where
  total : a'.total = a.total + begun
  active : a'.active = a.active + begun - ended
  revision : a'.revision = a.revision + begun + restated + ended

namespace Hub

variable {p : Ref .plugin} {h h' h'' : Hub} {begun restated restated' ended ended' : Nat}

def Tallies (p : Ref .plugin) (begun restated ended : Nat) (h h' : Hub) : Prop :=
  ∀ a, h.plugins.get? p = some a → ∃ a', h'.plugins.get? p = some a' ∧ a.Tallies begun restated ended a'

namespace Tallies

theorem of_plugin (hsame : h'.plugins.get? p = h.plugins.get? p) : Tallies p 0 0 0 h h' :=
  fun a ha => ⟨a, hsame.trans ha, rfl, rfl, rfl⟩

theorem of_plugins (hsame : h'.plugins = h.plugins) : Tallies p 0 0 0 h h' :=
  .of_plugin (by rw [hsame])

theorem trans (x : Tallies p begun restated ended h h') (y : Tallies p 0 restated' ended' h' h'') :
    Tallies p begun (restated + restated') (ended + ended') h h'' := by
  intro a ha
  obtain ⟨a', ha', htotal, hactive, hrevision⟩ := x a ha
  obtain ⟨a'', ha'', htotal', hactive', hrevision'⟩ := y a' ha'
  exact ⟨a'', ha'', by omega, by omega, by omega⟩

/-- Nothing has ended before the requests begin. -/
theorem before (x : Tallies p 0 restated 0 h h') (y : Tallies p begun restated' ended' h' h'') :
    Tallies p begun (restated + restated') ended' h h'' := by
  intro a ha
  obtain ⟨a', ha', htotal, hactive, hrevision⟩ := x a ha
  obtain ⟨a'', ha'', htotal', hactive', hrevision'⟩ := y a' ha'
  exact ⟨a'', ha'', by omega, by omega, by omega⟩

theorem revise (h : Hub) {f : Plugin → Plugin} (hf : ∀ a : Plugin, a.Tallies begun restated ended (f a)) :
    Tallies p begun restated ended h (h.revisePlugin p f) := by
  intro a ha
  refine ⟨f a, ?_, hf a⟩
  rw [revisePlugin, Store.get?_modify_self, ha, Option.map_some]

/-- What is done to one plugin is not done to another. -/
theorem revise_other (h : Hub) {q : Ref .plugin} (hq : p ≠ q) (f : Plugin → Plugin) :
    Tallies p 0 0 0 h (h.revisePlugin q f) :=
  .of_plugin (Store.get?_modify_of_ne f hq)

/-- Counters that are left alone stay, whosever they are. -/
theorem revise_aside (h : Hub) (q : Ref .plugin) {f : Plugin → Plugin} (hf : ∀ a : Plugin, a.Tallies 0 0 0 (f a)) :
    Tallies p 0 0 0 h (h.revisePlugin q f) := by
  by_cases hq : p = q
  · exact hq ▸ revise h hf
  · exact revise_other h hq f

theorem begin (h : Hub) (q : Ref .plugin) :
    Tallies p (if q = p then 1 else 0) 0 0 h (h.revisePlugin q Plugin.begin) := by
  split
  · rename_i hq
    exact hq ▸ revise h fun a => ⟨rfl, rfl, rfl⟩
  · rename_i hq
    exact revise_other h (Ne.symm hq) _

theorem finish (h : Hub) (q : Ref .plugin) :
    Tallies p 0 0 (if q = p then 1 else 0) h (h.revisePlugin q Plugin.finish) := by
  split
  · rename_i hq
    exact hq ▸ revise h fun a => ⟨rfl, rfl, rfl⟩
  · rename_i hq
    exact revise_other h (Ne.symm hq) _

end Tallies

/-! ## Accounts -/

/-- The plugin has `guards` before and `guards'` after; with each request that begins one comes, and with
each that goes a request ends. -/
def Accounts (p : Ref .plugin) (begun restated guards guards' : Nat) (h h' : Hub) : Prop :=
  ∃ ended, Tallies p begun restated ended h h' ∧ guards' + ended = guards + begun

namespace Accounts

variable {guards guards' guards'' : Nat}

theorem of_tallies (x : Tallies p 0 restated 0 h h') : Accounts p 0 restated guards guards h h' :=
  ⟨0, x, rfl⟩

theorem of_plugins (hsame : h'.plugins = h.plugins) : Accounts p 0 0 guards guards h h' :=
  of_tallies (.of_plugins hsame)

theorem refl (h : Hub) : Accounts p 0 0 guards guards h h :=
  of_plugins rfl

theorem trans (x : Accounts p begun restated guards guards' h h') (y : Accounts p 0 restated' guards' guards'' h' h'') :
    Accounts p begun (restated + restated') guards guards'' h h'' := by
  obtain ⟨ended, hx, hguards⟩ := x
  obtain ⟨ended', hy, hguards'⟩ := y
  exact ⟨ended + ended', hx.trans hy, by omega⟩

/-- Guards elsewhere stay. -/
theorem add (x : Accounts p begun restated guards guards' h h') (others : Nat) :
    Accounts p begun restated (guards + others) (guards' + others) h h' := by
  obtain ⟨ended, hx, hguards⟩ := x
  exact ⟨ended, hx, by omega⟩

theorem congr (x : Accounts p begun restated guards guards' h h') {g g' : Nat} (hg : g = guards) (hg' : g' = guards') :
    Accounts p begun restated g g' h h' :=
  hg ▸ hg' ▸ x

theorem finish (h : Hub) (q : Ref .plugin) (guards : Nat) :
    Accounts p 0 0 (guards + if q = p then 1 else 0) guards h (h.revisePlugin q Plugin.finish) :=
  ⟨_, .finish h q, rfl⟩

end Accounts

/-! ## Operations that leave plugins alone -/

theorem Blind.plugins_eq {f : Hub → Hub} (hf : Blind f) (h : Hub) : (f h).plugins = h.plugins := by
  have hsame : f h = (f h).withPlugins h.plugins := hf h h.plugins
  rw [hsame]
  rfl

theorem plugins_useAll (h : Hub) (sink : Ref .channel) (items : List Sink.Item) :
    (h.useAll sink items).1.plugins = h.plugins :=
  Blind.plugins_eq (f := fun h => (h.useAll sink items).1)
    (fun h plugins => congrArg Prod.fst (useAll_withPlugins h plugins sink items)) h

theorem plugins_remove (h : Hub) (manager : Ref .manager) (sid : Sid) (topic : Option String) :
    (h.remove manager sid topic).1.plugins = h.plugins :=
  Blind.plugins_eq (f := fun h => (h.remove manager sid topic).1)
    (fun h plugins => congrArg Prod.fst (remove_withPlugins h plugins manager sid topic)) h

theorem plugins_finish (h : Hub) (manager : Ref .manager) (sid : Sid) :
    (h.finish manager sid).1.plugins = h.plugins :=
  Blind.plugins_eq (f := fun h => (h.finish manager sid).1)
    (fun h plugins => congrArg Prod.fst (finish_withPlugins h plugins manager sid)) h

theorem plugins_publish (h : Hub) (manager : Ref .manager) (topic : String) (message : Value) :
    (h.publish manager topic message).1.plugins = h.plugins :=
  Blind.plugins_eq (f := fun h => (h.publish manager topic message).1)
    (fun h plugins => congrArg Prod.fst (publish_withPlugins h plugins manager topic message)) h

theorem plugins_closeScope (h : Hub) (scope : Ref .scope) : (h.closeScope scope).1.plugins = h.plugins :=
  Blind.plugins_eq (f := fun h => (h.closeScope scope).1)
    (fun h plugins => congrArg Prod.fst (closeScope_withPlugins h plugins scope)) h

theorem plugins_enterService (h : Hub) (service : Ref .service) (topic : String) :
    (h.enterService service topic).plugins = h.plugins :=
  Blind.plugins_eq (f := (·.enterService service topic)) (fun h plugins => enterService_withPlugins h plugins service topic) h

theorem plugins_leaveService (h : Hub) (service : Ref .service) (topic : String) :
    (h.leaveService service topic).plugins = h.plugins :=
  Blind.plugins_eq (f := (·.leaveService service topic)) (fun h plugins => leaveService_withPlugins h plugins service topic) h

/-! ## Streams -/

namespace Accounts

variable (p)

theorem dropStream (h : Hub) (s : Stream) : Accounts p 0 0 (s.guards p) 0 h (h.dropStream s) := by
  induction s with
  | ended => exact .refl h
  | channel c => exact .of_plugins rfl
  | mapped f s ih => exact ih
  | counted q s ih => exact (ih.add _).trans (.congr (.finish _ q 0) rfl rfl)

theorem dropBody (h : Hub) (body : Body Stream) : Accounts p 0 0 (body.guards p) 0 h (h.dropBody body) := by
  cases body with
  | empty | message v => exact .refl h
  | stream s => exact .dropStream p h s

/-- What comes into a slot takes the place of what was there. -/
theorem setBody (h : Hub) (slot : Slot) (body : Body Stream) :
    Accounts p 0 0 (slot.guards p + body.guards p) ((h.setBody slot body).2.guards p) h (h.setBody slot body).1 :=
  ((dropBody p h slot.body).add (body.guards p)).congr rfl (Nat.zero_add _).symm

theorem openStream (h : Hub) (slot : Slot) :
    Accounts p 0 0 (slot.guards p) ((h.openStream slot).2.1.guards p) h (h.openStream slot).1 :=
  have hopen : Accounts p 0 0 (slot.guards p) (slot.guards p) h h.openChannel.1 := .of_plugins rfl
  hopen.trans (.setBody p _ slot (.stream (.channel h.openChannel.2)))

theorem subscribe (h : Hub) (slot : Slot) (scope : Ref .scope) (manager : Ref .manager) (topic : String)
    (cleanup : Option Cleanup) :
    Accounts p 0 0 (slot.guards p) ((h.subscribe slot scope manager topic cleanup).2.1.guards p) h
      (h.subscribe slot scope manager topic cleanup).1 := by
  cases hm : h.managers.get? manager with
  | none =>
    simp only [Hub.subscribe, hm]
    exact .refl h
  | some m =>
    rw [subscribe_eq_enlist hm]
    refine (openStream p h slot).trans (.of_plugins ?_)
    exact Blind.plugins_eq (f := fun h' => (h'.enlist scope manager m topic cleanup (h.openStream slot).2.2).1)
      (fun h' plugins => congrArg Prod.fst (enlist_withPlugins scope manager m topic cleanup _ h' plugins)) _

theorem unsubscribe (h : Hub) (slot : Slot) (manager : Ref .manager) (sid : Sid) (topic : Option String) :
    Accounts p 0 0 (slot.guards p) ((h.unsubscribe slot manager sid topic).2.1.guards p) h
      (h.unsubscribe slot manager sid topic).1 :=
  have hremove : Accounts p 0 0 (slot.guards p) (slot.guards p) h (h.remove manager sid topic).1 :=
    .of_plugins (plugins_remove h manager sid topic)
  hremove.trans (.setBody p _ { slot with status := some .ok, statusCode := some Status.unsubscribedCode }
    (.message (.text "Unsubscribed")))

/-- Reading a stream takes the guards away that are around what has come to its end. -/
theorem pull (h : Hub) (s : Stream) : Accounts p 0 0 (s.guards p) ((h.pull s).2.1.guards p) h (h.pull s).1 := by
  induction s with
  | ended => exact .refl h
  | channel c =>
    simp only [Hub.pull]
    cases h.channels.get? c with
    | none => exact .refl h
    | some channel => exact .of_plugins rfl
  | mapped f s ih =>
    simp only [Hub.pull]
    generalize h.pull s = pulled at ih
    obtain ⟨h', s', found⟩ := pulled
    cases found <;> exact ih
  | counted q s ih =>
    simp only [Hub.pull]
    generalize h.pull s = pulled at ih
    obtain ⟨h', s', found⟩ := pulled
    cases found with
    | pending | item r => exact ih.add _
    | finished => exact (((ih.trans (.dropStream p h' s')).add _).trans (.congr (.finish _ q 0) rfl rfl))

/-! ## Feeds -/

theorem pull_feed (h : Hub) (f : Feed) : Accounts p 0 0 (f.guards p) ((f.pull h).2.1.guards p) h (f.pull h).1 := by
  cases f with
  | rest frames => cases frames <;> exact .refl h
  | flow latch s =>
    have hpull := pull p h s
    simp only [Feed.pull]
    generalize h.pull s = pulled at hpull
    obtain ⟨h', s', found⟩ := pulled
    have hdrop := hpull.trans (.dropStream p h' s')
    cases found with
    | pending => exact hpull
    | finished => exact hdrop
    | item r =>
      dsimp only
      generalize latch.shape r = shaped
      obtain ⟨latch, shaped⟩ := shaped
      cases shaped with
      | more r => exact hpull
      | closing r | last r => exact hdrop

theorem drop_feed (h : Hub) (f : Feed) : Accounts p 0 0 (f.guards p) 0 h (f.drop h) := by
  cases f with
  | rest frames => exact .refl h
  | flow latch s => exact .dropStream p h s

end Accounts

end Hub

theorem Feed.guards_ofResult (p : Ref .plugin) (result : Result Stream) :
    (Feed.ofResult result).guards p = result.guards p := by
  cases result with
  | error f => rfl
  | ok o =>
    obtain ⟨status, statusCode, body⟩ := o
    cases body <;> rfl

end Exchange
