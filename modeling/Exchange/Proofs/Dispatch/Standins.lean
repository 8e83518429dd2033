-- SUMMARY: Switches in which a plugin and its router have changed places, and what effects do to both.
import Exchange.Proofs.Data.Members
import Exchange.Proofs.Dispatch.Flattening
import Exchange.Proofs.Hub.Plugins
import Exchange.Proofs.Route.Registry
import Exchange.Proofs.Route.Renaming

/-!
# A router in the place of its plugin

A `Standin` names a plugin and the router that stands in for it. `Switch.Resembles`
compares a switch with one in which, wherever the plugin is registered, the
router is instead; without a standin it compares switches that differ in the
visitors of plugins alone. An effect of a handler has the same answer in both
and leaves both alike (`Resembles.perform`).
-/

namespace Exchange

/-- A plugin, and the router that is mounted in its place. -/
structure Standin where
  plugin : Ref .plugin
  router : Ref .router
  deriving DecidableEq

/-- The plugin is not there where its router stands in for it. -/
def Standin.hides (d : Option Standin) (p : Ref .plugin) : Bool :=
  d.any fun x => x.plugin = p

theorem Standin.hides_iff {d : Option Standin} {p : Ref .plugin} : hides d p = true ↔ ∃ x ∈ d, x.plugin = p := by
  cases d with
  | none => simp [hides]
  | some x => simp [hides]

/-- The plugin and its router change places. -/
def Target.swapped (d : Option Standin) (t : Target) : Target :=
  match d with
  | none => t
  | some x =>
    if t = .plugin x.plugin then .router x.router
    else if t = .router x.router then .plugin x.plugin
    else t

namespace Target

variable {d : Option Standin}

theorem swapped_injective (d : Option Standin) : Function.Injective (swapped d) := by
  intro t u h
  cases d with
  | none => exact h
  | some x =>
    simp only [swapped] at h
    grind

theorem swapped_eq_handler_iff {t : Target} {h : Ref .handler} : t.swapped d = .handler h ↔ t = .handler h := by
  cases d with
  | none => rfl
  | some x =>
    simp only [swapped]
    grind

@[simp] theorem swapped_handler (d : Option Standin) (h : Ref .handler) :
    (Target.handler h).swapped d = .handler h := by
  cases d with
  | none => rfl
  | some x => simp [swapped]

theorem swapped_plugin {p : Ref .plugin} (hp : Standin.hides d p = false) :
    (Target.plugin p).swapped d = .plugin p := by
  cases d with
  | none => rfl
  | some x =>
    have hne : p ≠ x.plugin := by
      rintro rfl
      simp [Standin.hides] at hp
    simp [swapped, hne]

theorem swapped_router {r : Ref .router} (hr : ∀ x ∈ d, r ≠ x.router) : (Target.router r).swapped d = .router r := by
  cases d with
  | none => rfl
  | some x => simp [swapped, hr x rfl]

end Target

namespace Switch

variable {d : Option Standin} {s s' : Switch}

/-- The switch in which plugin and router have changed places, with another hub. -/
def swapped (d : Option Standin) (s : Switch) (hub : Hub) : Switch :=
  { s with
    hub
    routers := s.routers.map (Table.map (Target.swapped d))
    targets := s.targets.map fun m => (m.1, m.2.swapped d) }

/-- The second switch is the first with the router in the place of the plugin, and plugins in it have
other visitors. -/
def Resembles (d : Option Standin) (s s' : Switch) : Prop :=
  ∃ hub, Hub.Resembles (Standin.hides d) s.hub hub ∧ s' = s.swapped d hub

/-- A target is registered with some router, or kept under some name. -/
def Mentions (s : Switch) (t : Target) : Prop :=
  (∃ r, s.Serves r t) ∨ ∃ name, (name, t) ∈ s.targets

/-- Somebody owns the plugin, and its router is its own: it is mounted nowhere. -/
structure Keeps (s : Switch) (x : Standin) : Prop where
  held : ∃ plugin, s.plugin? x.plugin = some plugin ∧ plugin.router = x.router ∧ plugin.held = true
  unmentioned : ¬ s.Mentions (.router x.router)

/-! ### Mentioned targets -/

/-- What was registered is there, unless there was no place for it. -/
theorem mentions_register {r : Ref .router} {t : Table Target} (hr : s.routers.get? r = some t) {mount : Mount}
    {pattern : String} {parsed : Pattern} (hparsed : Table.readPattern mount pattern = .ok parsed) (target : Target) :
    (s.register r mount pattern target).1.Mentions target := by
  obtain ⟨g, hg, htarget⟩ := (s.table r).exists_mem_insert parsed mount target
  refine .inl ⟨r, g, ?_, htarget⟩
  simpa only [register, Table.register, hparsed, Except.map, table, Store.get?_set_self hr, Option.getD_some] using hg

theorem mentions_registerAt (s : Switch) (place : Place) (name : String) (target : Target) :
    (s.registerAt place (some name) target).1.Mentions target := by
  refine .inr ⟨name, ?_⟩
  have htargets (s : Switch) (r : Ref .router) :
      (s.register r place.mount place.pattern target).1.targets = s.targets := by
    unfold register
    split <;> rfl
  simp only [registerAt, htargets, keepTarget]
  exact Members.mem_of_get? ((Members.get?_insert ..).trans (if_pos rfl))

/-! ### Alike switches -/

theorem table_swapped (s : Switch) (hub : Hub) (r : Ref .router) :
    (s.swapped d hub).table r = (s.table r).map (Target.swapped d) := by
  simp only [table, swapped, Store.get?_map]
  cases s.routers.get? r <;> rfl

namespace Resembles

theorem handlers (a : Resembles d s s') : s'.handlers = s.handlers := by
  obtain ⟨hub, -, rfl⟩ := a
  rfl

theorem table (a : Resembles d s s') (r : Ref .router) : s'.table r = (s.table r).map (Target.swapped d) := by
  obtain ⟨hub, -, rfl⟩ := a
  exact table_swapped s hub r

theorem hub (a : Resembles d s s') : Hub.Resembles (Standin.hides d) s.hub s'.hub := by
  obtain ⟨hub, hhub, rfl⟩ := a
  exact hhub

theorem withHub (a : Resembles d s s') {hub hub' : Hub} (h : Hub.Resembles (Standin.hides d) hub hub') :
    Resembles d { s with hub } { s' with hub := hub' } := by
  obtain ⟨-, -, rfl⟩ := a
  exact ⟨hub', h, rfl⟩

/-! ### Routes -/

theorem register (a : Resembles d s s') (r : Ref .router) (mount : Mount) (pattern : String) (target : Target) :
    Resembles d (s.register r mount pattern target).1 (s'.register r mount pattern (target.swapped d)).1 ∧
      (s'.register r mount pattern (target.swapped d)).2 = (s.register r mount pattern target).2 := by
  obtain ⟨hub, hhub, rfl⟩ := a
  simp only [Switch.register, table_swapped, Table.register_map (Target.swapped_injective d)]
  cases (s.table r).register mount pattern target with
  | error e => exact ⟨⟨hub, hhub, rfl⟩, rfl⟩
  | ok t =>
    refine ⟨⟨hub, hhub, ?_⟩, rfl⟩
    simp only [Except.map, swapped, Store.set_map]

theorem unregister (a : Resembles d s s') (r : Ref .router) (pattern : String) (target : Target) :
    Resembles d (s.unregister r pattern target).1 (s'.unregister r pattern (target.swapped d)).1 ∧
      (s'.unregister r pattern (target.swapped d)).2 = (s.unregister r pattern target).2 := by
  obtain ⟨hub, hhub, rfl⟩ := a
  simp only [Switch.unregister, table_swapped, Table.unregister_map (Target.swapped_injective d)]
  exact ⟨⟨hub, hhub, by simp only [swapped, Store.set_map]⟩, trivial⟩

theorem routerNamed (a : Resembles d s s') (name : String) :
    Resembles d (s.routerNamed name).1 (s'.routerNamed name).1 ∧ (s'.routerNamed name).2 = (s.routerNamed name).2 := by
  obtain ⟨hub, hhub, rfl⟩ := a
  unfold Switch.routerNamed
  rw [show (s.swapped d hub).routerNames = s.routerNames from rfl]
  cases Members.get? name s.routerNames with
  | some r => exact ⟨⟨hub, hhub, rfl⟩, rfl⟩
  | none =>
    have hpush : (s.routers.map (Table.map (Target.swapped d))).push {} =
        (s.routers.push {}).map (Table.map (Target.swapped d)) :=
      Store.push_map _ _ ({} : Table Target)
    simp only [addRouter, swapped, Store.next_map, hpush]
    exact ⟨⟨hub, hhub, rfl⟩, trivial⟩

theorem keepTarget (a : Resembles d s s') (name : Option String) (target : Target) :
    Resembles d (s.keepTarget name target) (s'.keepTarget name (target.swapped d)) := by
  obtain ⟨hub, hhub, rfl⟩ := a
  cases name with
  | none => exact ⟨hub, hhub, rfl⟩
  | some name =>
    refine ⟨hub, hhub, ?_⟩
    simp only [Switch.keepTarget, swapped, Members.insert_map]

theorem target (a : Resembles d s s') (name : String) :
    Members.get? name s'.targets = (Members.get? name s.targets).map (Target.swapped d) := by
  obtain ⟨hub, -, rfl⟩ := a
  exact Members.get?_map _ _ _

theorem registerAt (a : Resembles d s s') (place : Place) (keep : Option String) (target : Target) :
    Resembles d (s.registerAt place keep target).1 (s'.registerAt place keep (target.swapped d)).1 ∧
      (s'.registerAt place keep (target.swapped d)).2 = (s.registerAt place keep target).2 := by
  obtain ⟨hnamed, hrouter⟩ := a.routerNamed place.router
  simp only [Switch.registerAt, hrouter]
  exact (hnamed.keepTarget keep target).register _ _ _ _

theorem install (a : Resembles d s s') (place : Place) (keep : Option String) (h : Handler) :
    Resembles d (s.install place keep h).1 (s'.install place keep h).1 ∧
      (s'.install place keep h).2 = (s.install place keep h).2 := by
  have hadd : Resembles d (s.addHandler h).1 (s'.addHandler h).1 := by
    obtain ⟨hub, hhub, rfl⟩ := a
    exact ⟨hub, hhub, rfl⟩
  have hat := hadd.registerAt place keep (.handler s.handlers.next)
  rw [Target.swapped_handler] at hat
  simp only [Switch.install, addHandler, a.handlers] at hat ⊢
  exact hat

/-- What cannot be registered might be anything. -/
theorem register_nowhere (a : Resembles d s s') {r : Ref .router} {mount : Mount} {pattern : String}
    (h : s.routers.get? r = none ∨ ∃ e, Table.readPattern mount pattern = .error e) (target target' : Target) :
    Resembles d (s.register r mount pattern target).1 (s'.register r mount pattern target').1 ∧
      (s'.register r mount pattern target').2 = (s.register r mount pattern target).2 := by
  rcases h with hr | ⟨e, he⟩
  · have hr' : s'.routers.get? r = none := by
      obtain ⟨hub, -, rfl⟩ := a
      simp only [swapped, Store.get?_map, hr]
      rfl
    simp only [Switch.register, Table.register, Store.set]
    cases Table.readPattern mount pattern with
    | error e => exact ⟨a, rfl⟩
    | ok parsed =>
      simp only [Except.map, Store.modify_of_get?_none hr, Store.modify_of_get?_none hr']
      exact ⟨a, trivial⟩
  · simp only [Switch.register, Table.register, he]
    exact ⟨a, rfl⟩

/-- What is not mentioned afterwards was not registered. -/
theorem registerAt_unmentioned (a : Resembles d s s') {place : Place} {keep : Option String} {target : Target}
    (h : ¬ (s.registerAt place keep target).1.Mentions target) (target' : Target) :
    Resembles d (s.registerAt place keep target).1 (s'.registerAt place keep target').1 ∧
      (s'.registerAt place keep target').2 = (s.registerAt place keep target).2 := by
  cases keep with
  | some name => exact absurd (s.mentions_registerAt place name target) h
  | none =>
    obtain ⟨hnamed, hrouter⟩ := a.routerNamed place.router
    simp only [Switch.registerAt, hrouter] at h ⊢
    refine hnamed.register_nowhere ?_ target target'
    cases hparsed : Table.readPattern place.mount place.pattern with
    | error e => exact .inr ⟨e, rfl⟩
    | ok parsed =>
      refine .inl (Option.eq_none_iff_forall_ne_some.2 fun t hr => h ?_)
      exact mentions_register hr hparsed target

theorem attach (a : Resembles d s s') (place : Place) (what : Existing) (keep : Option String)
    (hprivate : ∀ x ∈ d, ¬ (s.attach place what keep).1.Mentions (.router x.router)) :
    Resembles d (s.attach place what keep).1 (s'.attach place what keep).1 ∧
      (s'.attach place what keep).2 = (s.attach place what keep).2 := by
  cases what with
  | router name =>
    obtain ⟨hnamed, hrouter⟩ := a.routerNamed name
    have hat : Resembles d ((s.routerNamed name).1.registerAt place keep (.router (s.routerNamed name).2)).1
          ((s'.routerNamed name).1.registerAt place keep (.router (s.routerNamed name).2)).1 ∧
        ((s'.routerNamed name).1.registerAt place keep (.router (s.routerNamed name).2)).2 =
          ((s.routerNamed name).1.registerAt place keep (.router (s.routerNamed name).2)).2 := by
      by_cases hname : ∃ x ∈ d, (s.routerNamed name).2 = x.router
      · obtain ⟨x, hx, hname⟩ := hname
        refine hnamed.registerAt_unmentioned ?_ _
        rw [hname]
        exact hname ▸ hprivate x hx
      · have hat := hnamed.registerAt place keep (.router (s.routerNamed name).2)
        rwa [Target.swapped_router fun x hx heq => hname ⟨x, hx, heq⟩] at hat
    simp only [Switch.attach, hrouter]
    exact ⟨hat.1, congrArg some hat.2⟩
  | target name =>
    simp only [Switch.attach, a.target name]
    cases Members.get? name s.targets with
    | none => exact ⟨a, rfl⟩
    | some target =>
      have hat := a.registerAt place keep target
      exact ⟨hat.1, congrArg some hat.2⟩

theorem detach (a : Resembles d s s') (router pattern target : String) :
    Resembles d (s.detach router pattern target).1 (s'.detach router pattern target).1 ∧
      (s'.detach router pattern target).2 = (s.detach router pattern target).2 := by
  obtain ⟨hnamed, hrouter⟩ := a.routerNamed router
  simp only [Switch.detach, hrouter, hnamed.target target]
  cases Members.get? target (s.routerNamed router).1.targets with
  | none => exact ⟨hnamed, rfl⟩
  | some target => exact hnamed.unregister _ _ _

/-! ### Sinks -/

theorem releaseSink (a : Resembles d s s') (name : String) :
    Resembles d (s.releaseSink name).1 (s'.releaseSink name).1 := by
  obtain ⟨hub, hhub, rfl⟩ := a
  unfold Switch.releaseSink
  rw [show (s.swapped d hub).sinks = s.sinks from rfl]
  cases Members.get? name s.sinks with
  | none => exact ⟨hub, hhub, rfl⟩
  | some c => exact ⟨_, hhub.act (f := (·.dropSink c)) fun h plugins => Hub.dropSink_withPlugins h plugins c, rfl⟩

theorem holdSink (a : Resembles d s s') (name : Option String) (c : Ref .channel) :
    Resembles d (s.holdSink name c) (s'.holdSink name c) := by
  cases name with
  | none => exact a.withHub (a.hub.act (f := (·.dropSink c)) fun h plugins => Hub.dropSink_withPlugins h plugins c)
  | some name =>
    obtain ⟨hub, hhub, hs'⟩ := a.releaseSink name
    refine ⟨hub, hhub, ?_⟩
    simp only [Switch.holdSink, hs']
    rfl

/-! ### Plugins -/

theorem revisePlugin (a : Resembles d s s') (p : Ref .plugin) {f : Plugin → Plugin}
    (hf : ∀ a, (f a).apparent = (f a.apparent).apparent) :
    Resembles d (s.revisePlugin p f) (s'.revisePlugin p f) :=
  a.withHub (a.hub.revise p hf)

theorem revisePlugin_left (a : Resembles d s s') (p : Ref .plugin) {f : Plugin → Plugin}
    (hf : Standin.hides d p = true ∨ ∀ a, (f a).apparent = a.apparent) :
    Resembles d (s.revisePlugin p f) s' := by
  obtain ⟨hub, hhub, rfl⟩ := a
  exact ⟨hub, hhub.revise_left p hf, rfl⟩

theorem plugin_eq (a : Resembles d s s') {p : Ref .plugin} (hp : Standin.hides d p = false) :
    s'.plugin? p = none ∧ s.plugin? p = none ∨
      ∃ plugin plugin', s'.plugin? p = some plugin' ∧ s.plugin? p = some plugin ∧ plugin'.apparent = plugin.apparent :=
  a.hub.plugin_eq hp

theorem stopPlugin (a : Resembles d s s') {p : Ref .plugin} (hp : Standin.hides d p = false) :
    Resembles d (s.stopPlugin p) (s'.stopPlugin p) := by
  unfold Switch.stopPlugin
  rcases a.plugin_eq hp with ⟨hnone', hnone⟩ | ⟨plugin, plugin', hget', hget, hsame⟩
  · rw [hnone, hnone']
    exact a
  · have hscope := congrArg Plugin.scope hsame
    have hstopping := a.revisePlugin p (f := Plugin.setState .stopping) fun _ => rfl
    have hclosed := hstopping.withHub (hstopping.hub.ask (f := (·.closeScope plugin.scope)) fun h plugins =>
      Hub.closeScope_withPlugins h plugins plugin.scope).1
    rw [hget, hget']
    simp only [show plugin'.scope = plugin.scope from hscope]
    exact hclosed.revisePlugin p fun _ => rfl

theorem removePlugin (a : Resembles d s s') (name : PluginName)
    (hheld : ∀ x ∈ d, ∃ plugin, (s.removePlugin name).1.plugin? x.plugin = some plugin ∧ plugin.held = true) :
    Resembles d (s.removePlugin name).1 (s'.removePlugin name).1 ∧
      (s'.removePlugin name).2 = (s.removePlugin name).2 := by
  obtain ⟨hub, hhub, rfl⟩ := a
  unfold Switch.removePlugin at hheld ⊢
  rw [show (s.swapped d hub).registered = s.registered from rfl]
  cases hget : Members.get? name.text s.registered with
  | none => exact ⟨⟨hub, hhub, rfl⟩, rfl⟩
  | some p =>
    have hp : Standin.hides d p = false := by
      rw [← Bool.not_eq_true, Standin.hides_iff]
      rintro ⟨x, hx, rfl⟩
      obtain ⟨plugin, hplugin, hheld⟩ := hheld x hx
      rw [hget] at hplugin
      obtain ⟨_, -, rfl⟩ := Option.map_eq_some_iff.1 ((Store.get?_modify_self ..).symm.trans hplugin)
      cases hheld
    have herased : Resembles d { s with registered := Members.erase name.text s.registered }
        { s.swapped d hub with registered := Members.erase name.text s.registered } :=
      ⟨hub, hhub, rfl⟩
    have hunregistered := (herased.unregister s.root name.mountPrefix (.plugin p)).1
    rw [Target.swapped_plugin hp] at hunregistered
    exact ⟨(hunregistered.stopPlugin hp).revisePlugin p (f := fun p => { p with held := false }) fun _ => rfl, rfl⟩

/-! ### Effects -/

theorem look (a : Resembles d s s') (slot : Slot) (scope : Ref .scope) :
    s'.look (slot.bare (Standin.hides d)) scope = s.look slot scope := by
  have hscopes : s'.hub.scopes = s.hub.scopes := by
    rw [a.hub.eq]
    rfl
  have hbody : (slot.bare (Standin.hides d)).hasBody = slot.hasBody := by
    obtain ⟨status, statusCode, body⟩ := slot
    cases body <;> rfl
  simp only [Switch.look, hscopes, hbody]
  rfl

theorem perform (a : Resembles d s s') (slot : Slot) (scope : Ref .scope) (e : Effect)
    (hkeeps : ∀ x ∈ d, (s.perform slot scope e).1.Keeps x) :
    Resembles d (s.perform slot scope e).1 (s'.perform (slot.bare (Standin.hides d)) scope e).1 ∧
      (s'.perform (slot.bare (Standin.hides d)) scope e).2 =
        ((s.perform slot scope e).2.1.bare (Standin.hides d), (s.perform slot scope e).2.2) := by
  cases e with
  | respond message => exact ⟨a.withHub (a.hub.setBody slot (.message message)), rfl⟩
  | setStatus status | setCode code => exact ⟨a, rfl⟩
  | look => exact ⟨a, congrArg (Prod.mk _) (a.look slot scope)⟩
  | stream items hold =>
    obtain ⟨hopen, hslot⟩ := a.hub.openStream slot
    obtain ⟨huse, hanswer⟩ := hopen.ask (f := (·.useAll (s.hub.openStream slot).2.2 items)) fun h plugins =>
      Hub.useAll_withPlugins h plugins _ items
    simp only [Switch.perform, congrArg Prod.fst hslot, congrArg Prod.snd hslot]
    exact ⟨(a.withHub huse).holdSink hold _, congrArg (Prod.mk _) hanswer⟩
  | forward items =>
    obtain ⟨hopen, hchannel⟩ := a.hub.ask (f := Hub.openChannel) fun _ _ => rfl
    obtain ⟨huse, hanswer⟩ := hopen.ask (f := (·.useAll s.hub.openChannel.2 items)) fun h plugins =>
      Hub.useAll_withPlugins h plugins _ items
    have hdrop := huse.act (f := (·.dropSink s.hub.openChannel.2)) fun h plugins => Hub.dropSink_withPlugins h plugins _
    simp only [Switch.perform, hchannel]
    exact ⟨a.withHub (hdrop.setBody slot (.stream (.channel s.hub.openChannel.2))), congrArg (Prod.mk _) hanswer⟩
  | wrap f =>
    obtain ⟨status, statusCode, body⟩ := slot
    cases body <;> exact ⟨a, rfl⟩
  | note text => exact ⟨a.withHub (a.hub.act (f := (·.note (.note text))) fun _ _ => rfl), rfl⟩
  | subscribe manager topic cleanup =>
    obtain ⟨hhub, hanswer⟩ := a.hub.subscribe slot scope manager topic cleanup
    exact ⟨a.withHub hhub, hanswer⟩
  | unsubscribe manager sid topic =>
    obtain ⟨hhub, hanswer⟩ := a.hub.unsubscribe slot manager sid topic
    exact ⟨a.withHub hhub, hanswer⟩
  | finish manager sid =>
    obtain ⟨hhub, hanswer⟩ := a.hub.ask (f := (·.finish manager sid)) fun h plugins =>
      Hub.finish_withPlugins h plugins manager sid
    exact ⟨a.withHub hhub, congrArg (Prod.mk _) hanswer⟩
  | publish manager topic message =>
    obtain ⟨hhub, hanswer⟩ := a.hub.ask (f := (·.publish manager topic message)) fun h plugins =>
      Hub.publish_withPlugins h plugins manager topic message
    exact ⟨a.withHub hhub, congrArg (Prod.mk _) hanswer⟩
  | enter service topic =>
    exact ⟨a.withHub (a.hub.act (f := (·.enterService service topic)) fun h plugins =>
      Hub.enterService_withPlugins h plugins service topic), rfl⟩
  | leave service topic =>
    exact ⟨a.withHub (a.hub.act (f := (·.leaveService service topic)) fun h plugins =>
      Hub.leaveService_withPlugins h plugins service topic), rfl⟩
  | closeScope =>
    obtain ⟨hhub, hanswer⟩ := a.hub.ask (f := (·.closeScope scope)) fun h plugins =>
      Hub.closeScope_withPlugins h plugins scope
    exact ⟨a.withHub hhub, congrArg (Prod.mk _) hanswer⟩
  | attach place what keep =>
    obtain ⟨hattach, hanswer⟩ := a.attach place what keep fun x hx => (hkeeps x hx).unmentioned
    exact ⟨hattach, congrArg (Prod.mk _) hanswer⟩
  | detach router pattern target =>
    obtain ⟨hdetach, hanswer⟩ := a.detach router pattern target
    exact ⟨hdetach, congrArg (Prod.mk _) hanswer⟩
  | removePlugin name =>
    have hheld (x : Standin) (hx : x ∈ d) :
        ∃ plugin, (s.removePlugin name).1.plugin? x.plugin = some plugin ∧ plugin.held = true := by
      obtain ⟨plugin, hget, -, hheld⟩ := (hkeeps x hx).held
      exact ⟨plugin, hget, hheld⟩
    obtain ⟨hremove, hanswer⟩ := a.removePlugin name hheld
    exact ⟨hremove, congrArg (Prod.mk _) hanswer⟩

end Resembles

end Switch

end Exchange
