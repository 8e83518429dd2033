-- SUMMARY: Stopping a plugin ends all that was subscribed to through its client, and recording a failure ends nothing.
import Exchange.Proofs.Dealing

/-!
# Plugins that stop

A `Tenure` is a world with a plugin and all subscriptions that were ever opened
in it. The plugin starts, stops and fails, requests come through its client, and
whatever else there is goes on. When it stops, it is rid of its subscriptions:
no manager holds a record that is owned by the scope of its client, and each
subscription ever opened in that scope has ended, once (`Tenure.Released`). A
failure stops the plugin as well, but leaves the scope open, so it comes to the
same only if nothing is subscribed to at that moment.
-/

namespace Exchange

open Hub (Ages Deals Dealt Idle KeepsTrack)

/-- Subscriptions are left alone. Managers, scopes, plugins and tasks may come. -/
structure World.Refrains (w w' : World) : Prop where
  idle : Idle w.hub w'.hub
  hosts : ∀ manager, w.hub.hosts manager = true → w'.hub.hosts manager = true
  scopes : ∀ scope s, w.hub.scopes.get? scope = some s → w'.hub.scopes.get? scope = some s

/-- A world, and all subscriptions that were opened in it. -/
structure Tenure where
  world : World
  opened : List Subscription := []

/-- What can happen while there is a plugin. -/
inductive Tenure.Event where
  | start
  | stop
  | fail (error : String)
  /-- A request is sent through the client of the plugin. -/
  | request (router : Ref .router) (r : Request)
  /-- A task goes on: a request, a half of a session or of a client, a clock or a command. -/
  | go (t : Ref .task)
  /-- Somebody publishes who is no handler. -/
  | publish (manager : Ref .manager) (topic : String) (message : Value)
  | finish (manager : Ref .manager) (sid : Sid)
  /-- A scope closes: that of a session, of a client, or of another plugin. -/
  | close (scope : Ref .scope)
  /-- Anything else: routes change, streams are read, connections come and time goes by. -/
  | other (f : World → World) (h : ∀ w : World, w.Refrains (f w))

namespace Tenure

variable (p : Ref .plugin)

def withSwitch (c : Tenure) (switch : Switch) : Tenure :=
  { c with world := { c.world with switch } }

def withHub (c : Tenure) (hub : Hub) : Tenure :=
  { c with world := c.world.withHub hub }

def after (c : Tenure) : Event → Tenure
  | .start => c.withSwitch (c.world.switch.revisePlugin p Plugin.start)
  | .stop => c.withSwitch (c.world.switch.stopPlugin p)
  | .fail error => c.withSwitch (c.world.switch.revisePlugin p (Plugin.fail error))
  | .request router r =>
    match c.world.switch.plugin? p with
    | some plugin => { c with world := (c.world.requestInside ⟨router, plugin.scope⟩ r).1 }
    | none => c
  | .go t =>
    match c.world.tasks.get? t with
    | some task => ⟨c.world.advance t task, c.opened ++ c.world.opens t⟩
    | none => c
  | .publish manager topic message => c.withHub (c.world.hub.publish manager topic message).1
  | .finish manager sid => c.withHub (c.world.hub.finish manager sid).1
  | .close scope => c.withHub (c.world.hub.closeScope scope).1
  | .other f _ => { c with world := f c.world }

def run (c : Tenure) (events : List Event) : Tenure :=
  events.foldl (after p) c

/-- The plugin is stopped, no manager holds a record that is owned by its scope, and each subscription that was
opened in that scope since `w` has ended, once. -/
structure Released (w : World) (scope : Ref .scope) (c : Tenure) : Prop where
  stopped : ∃ plugin, c.world.switch.plugin? p = some plugin ∧ plugin.state = .stopped
  gone : ∀ manager, ∀ r ∈ c.world.hub.records manager, r.scope ≠ scope
  once : ∃ ended, Deals w.hub c.opened ended c.world.hub ∧
    (∀ e ∈ c.opened, e.record.scope = scope → ended.count e = 1) ∧
    ∀ label, c.world.hub.journal.count (.cleaned label) =
      w.hub.journal.count (.cleaned label) + ended.countP fun e => e.record.cleanup = some (.report label)

/-- There are so few managers, and they have issued so few sids, that all sids are distinct. -/
structure Bounded (c : Tenure) : Prop where
  few : c.world.hub.Few
  issued : ∀ manager, c.world.hub.issued manager < 16 ^ 12

/-! ## What every event keeps -/

/-- What happened has an account, and what was tracked is tracked. -/
structure Follows (c c' : Tenure) : Prop where
  opened : ∃ opened, c'.opened = c.opened ++ opened ∧ Dealt c.world.hub opened c'.world.hub
  keeps : KeepsTrack c.world.hub c'.world.hub

namespace Follows

variable {c c' c'' : Tenure}

theorem of_dealt {world : World} (hdealt : Dealt c.world.hub [] world.hub) (hkeeps : KeepsTrack c.world.hub world.hub) :
    c.Follows { c with world } :=
  ⟨⟨[], (List.append_nil _).symm, hdealt⟩, hkeeps⟩

theorem of_hub {world : World} (hhub : world.hub = c.world.hub) : c.Follows { c with world } :=
  .of_dealt (hhub ▸ .refl _) (hhub ▸ .refl _)

theorem refl (c : Tenure) : c.Follows c :=
  .of_hub rfl

theorem trans (a : c.Follows c') (b : c'.Follows c'') : c.Follows c'' := by
  obtain ⟨opened, hopened, hdealt⟩ := a.opened
  obtain ⟨opened', hopened', hdealt'⟩ := b.opened
  exact ⟨⟨opened ++ opened', by rw [hopened', hopened, List.append_assoc], hdealt.trans hdealt'⟩, a.keeps.trans b.keeps⟩

theorem revise (c : Tenure) {f : Plugin → Plugin} (hf : ∀ a : Plugin, (f a).scope = a.scope) :
    c.Follows (c.withSwitch (c.world.switch.revisePlugin p f)) :=
  .of_dealt (.idle (c.world.switch.idle_revisePlugin p hf)) (c.world.switch.keepsTrack_revisePlugin p f)

end Follows

theorem follows_after (c : Tenure) (e : Event) : c.Follows (c.after p e) := by
  cases e with
  | start => exact .revise p c fun _ => rfl
  | stop => exact .of_dealt (c.world.switch.dealt_stopPlugin p) (c.world.switch.keepsTrack_stopPlugin p)
  | fail error => exact .revise p c fun _ => rfl
  | request router r =>
    simp only [after]
    cases c.world.switch.plugin? p with
    | none => exact .refl c
    | some plugin =>
      exact .of_hub (congrArg Switch.hub (c.world.grows_requestInside ⟨router, plugin.scope⟩ r).1)
  | go t =>
    simp only [after]
    cases ht : c.world.tasks.get? t with
    | none => exact .refl c
    | some task => exact ⟨⟨_, rfl, World.dealt_advance ht⟩, World.keepsTrack_advance ht⟩
  | publish manager topic message =>
    exact .of_dealt (c.world.hub.dealt_publish manager topic message) (c.world.hub.keepsTrack_publish manager topic message)
  | finish manager sid => exact .of_dealt (c.world.hub.dealt_finish manager sid) (c.world.hub.keepsTrack_finish manager sid)
  | close scope => exact .of_dealt (c.world.hub.dealt_closeScope scope) (c.world.hub.keepsTrack_closeScope scope)
  | other f hf =>
    have hrefrains := hf c.world
    exact .of_dealt (.idle hrefrains.idle) (.of_views hrefrains.idle.records hrefrains.hosts hrefrains.scopes)

theorem follows_run (c : Tenure) (events : List Event) : c.Follows (c.run p events) := by
  induction events generalizing c with
  | nil => exact .refl c
  | cons e events ih => exact (c.follows_after p e).trans (ih _)

/-! ## Stopping and failing -/

section Switch

variable {p} {s : Switch} {plugin : Plugin}

/-- Between the two changes of its state, the scope of the plugin's client is closed. -/
theorem hub_stopPlugin (hp : s.plugin? p = some plugin) : (s.stopPlugin p).hub =
    ((s.hub.revisePlugin p (Plugin.setState .stopping)).closeScope plugin.scope).1.revisePlugin p
      (Plugin.setState .stopped) := by
  simp only [Switch.stopPlugin, hp]
  rfl

theorem plugin_revised (hp : s.plugin? p = some plugin) (f : Plugin → Plugin) :
    (s.revisePlugin p f).plugin? p = some (f plugin) := by
  rw [Switch.plugin?, Switch.revisePlugin, Hub.revisePlugin, Store.get?_modify_self]
  exact congrArg (Option.map f) hp

theorem plugin_stopPlugin (hp : s.plugin? p = some plugin) :
    (s.stopPlugin p).plugin? p = some ((plugin.setState .stopping).setState .stopped) := by
  have hstopping := plugin_revised hp (Plugin.setState .stopping)
  rw [Switch.plugin?, hub_stopPlugin hp, Hub.revisePlugin, Store.get?_modify_self, Hub.plugins_closeScope]
  exact congrArg (Option.map (Plugin.setState .stopped)) hstopping

theorem isClosed_stopPlugin (hp : s.plugin? p = some plugin) : (s.stopPlugin p).hub.isClosed plugin.scope = true := by
  rw [hub_stopPlugin hp]
  exact Hub.isClosed_closeScope _ plugin.scope

theorem issued_stopPlugin (hp : s.plugin? p = some plugin) (manager : Ref .manager) :
    (s.stopPlugin p).hub.issued manager = s.hub.issued manager := by
  rw [hub_stopPlugin hp]
  exact Hub.issued_closeScope _ manager plugin.scope

theorem tracked_stopPlugin (hp : s.plugin? p = some plugin) (htracked : s.hub.Tracked) :
    (s.stopPlugin p).hub.Tracked := by
  have hstopping : (s.hub.revisePlugin p (Plugin.setState .stopping)).Tracked :=
    htracked.of_views (fun _ => rfl) fun _ => rfl
  rw [hub_stopPlugin hp]
  exact (hstopping.closeScope plugin.scope).of_views (fun _ => rfl) fun _ => rfl

/-- To services, stopping does just what the cleanups of those subscriptions do that it ends. -/
theorem stopPlugin_cleans (hp : s.plugin? p = some plugin) : ∃ ended, Deals s.hub [] ended (s.stopPlugin p).hub ∧
    (s.stopPlugin p).hub.services = (s.hub.cleanUp (ended.map (·.record))).services := by
  obtain ⟨ended, hcloses, hservices⟩ :=
    (s.hub.revisePlugin p (Plugin.setState .stopping)).closeScope_cleans plugin.scope
  rw [hub_stopPlugin hp]
  have hsame : (s.hub.revisePlugin p (Plugin.setState .stopping)).services = s.hub.services := rfl
  refine ⟨ended, ?_, hservices.trans (Hub.services_cleanUp hsame _)⟩
  have hstopping : Idle s.hub (s.hub.revisePlugin p (Plugin.setState .stopping)) := .revisePlugin s.hub p fun _ => rfl
  have hstopped (h : Hub) : Idle h (h.revisePlugin p (Plugin.setState .stopped)) := .revisePlugin h p fun _ => rfl
  simpa using ((Deals.idle hstopping).trans hcloses).trans (.idle (hstopped _))

end Switch

section Reached

variable {p} {w : World} {scope : Ref .scope} {c : Tenure}

theorem Bounded.distinct (hbounded : c.Bounded) (manager : Ref .manager) :
    Sid.Distinct manager.index (c.world.hub.issued manager) :=
  Sid.distinct_of_lt (hbounded.issued manager)

/-- Where nothing is left in the scope of a plugin that is stopped, all that was opened there has ended, once. -/
theorem released_of_gone (horderly : w.hub.Orderly) (haccount : Dealt w.hub c.opened c.world.hub)
    (hsids : ∀ manager, Sid.Distinct manager.index (c.world.hub.issued manager))
    (hstopped : ∃ plugin, c.world.switch.plugin? p = some plugin ∧ plugin.state = .stopped)
    (hgone : ∀ manager, ∀ r ∈ c.world.hub.records manager, r.scope ≠ scope) : c.Released p w scope := by
  obtain ⟨ended, hdeals⟩ := haccount
  refine ⟨hstopped, hgone, ended, hdeals, fun e he hscope => ?_, hdeals.cleaned⟩
  have honce := (hdeals.balance hsids horderly).once horderly hsids he
  have hheld : c.world.hub.held e = 0 := List.count_eq_zero.2 fun hmem => hgone e.manager e.record hmem hscope
  omega

/-- What the scope owned when the plugin stopped is ended by that, once. -/
theorem stop_ends {plugin : Plugin} (hp : c.world.switch.plugin? p = some plugin) (horderly : c.world.hub.Orderly)
    (hbounded : c.Bounded)
    (hgone : ∀ manager, ∀ r ∈ (c.after p .stop).world.hub.records manager, r.scope ≠ plugin.scope) :
    ∃ ended, Deals c.world.hub [] ended (c.after p .stop).world.hub ∧
      (c.after p .stop).world.hub.services = (c.world.hub.cleanUp (ended.map (·.record))).services ∧
      ∀ manager, ∀ r ∈ c.world.hub.records manager, r.scope = plugin.scope → ended.count ⟨manager, r⟩ = 1 := by
  obtain ⟨ended, hdeals, hservices⟩ := stopPlugin_cleans hp
  refine ⟨ended, hdeals, hservices, fun manager r hr hscope => ?_⟩
  have hsids (manager : Ref .manager) :
      Sid.Distinct manager.index ((c.world.switch.stopPlugin p).hub.issued manager) := by
    rw [issued_stopPlugin hp]
    exact hbounded.distinct manager
  have haccount := (hdeals.balance hsids horderly).account ⟨manager, r⟩
  have hafter : (c.world.switch.stopPlugin p).hub.held ⟨manager, r⟩ = 0 :=
    List.count_eq_zero.2 fun hmem => hgone manager r hmem hscope
  have hbefore : c.world.switch.hub.held ⟨manager, r⟩ = 1 := horderly.held_eq_one hr
  rw [hafter, hbefore, List.count_nil] at haccount
  omega

end Reached

/-- However the plugin starts, stops and fails, whatever is requested through its client and from whomever else,
and however tasks take turns. Right after it stops, the plugin is rid of its subscriptions: none is left in any
manager, and each that was ever opened in the scope of its client has ended, once; those that were open until then
are ended by the stop, which does nothing else to services. A failure stops the plugin as well, but leaves all
subscriptions as they are: the plugin is rid of its subscriptions right after it only if none was open. -/
theorem stop_releases_failure_iff {w : World} {plugin : Plugin} (hp : w.switch.plugin? p = some plugin)
    (htracked : w.hub.Tracked) (horderly : w.hub.Orderly) (events : List Event)
    (hbounded : (run p ⟨w, []⟩ events).Bounded) :
    let c := run p ⟨w, []⟩ events
    ((c.after p .stop).Released p w plugin.scope ∧
      ∃ ended, Deals c.world.hub [] ended (c.after p .stop).world.hub ∧
        (c.after p .stop).world.hub.services = (c.world.hub.cleanUp (ended.map (·.record))).services ∧
        ∀ manager, ∀ r ∈ c.world.hub.records manager, r.scope = plugin.scope → ended.count ⟨manager, r⟩ = 1) ∧
    ∀ error,
      (∃ failed, (c.after p (.fail error)).world.switch.plugin? p = some failed ∧ failed.state = .stopped ∧
        failed.error = some error) ∧
      c.world.hub.SameBooks (c.after p (.fail error)).world.hub ∧
      ((c.after p (.fail error)).Released p w plugin.scope ↔
        ∀ manager, ∀ r ∈ c.world.hub.records manager, r.scope ≠ plugin.scope) := by
  intro c
  have hfollows : Follows ⟨w, []⟩ c := follows_run p ⟨w, []⟩ events
  obtain ⟨opened, hopened, haccount⟩ := hfollows.opened
  rw [List.nil_append] at hopened
  rw [← hopened] at haccount
  have htracked' : c.world.hub.Tracked := hfollows.keeps.tracked hbounded.few htracked
  obtain ⟨now, hnow, hscope⟩ : ∃ now, c.world.switch.plugin? p = some now ∧ now.scope = plugin.scope := by
    obtain ⟨ended, hdeals⟩ := haccount
    exact hdeals.clients p plugin hp
  have horderly' : c.world.hub.Orderly := by
    obtain ⟨ended, hdeals⟩ := haccount
    exact (hdeals.balance hbounded.distinct horderly).orderly
  rw [← hscope]
  refine ⟨?_, fun error => ?_⟩
  · -- the scope is closed, and all records are tracked by open scopes
    have hgone : ∀ manager, ∀ r ∈ (c.after p .stop).world.hub.records manager, r.scope ≠ now.scope :=
      fun manager r hr => (tracked_stopPlugin hnow htracked').scope_ne (isClosed_stopPlugin hnow) hr
    have hdealt := haccount.trans (c.world.switch.dealt_stopPlugin p)
    have hsids (manager : Ref .manager) :
        Sid.Distinct manager.index ((c.world.switch.stopPlugin p).hub.issued manager) := by
      rw [issued_stopPlugin hnow]
      exact hbounded.distinct manager
    rw [List.append_nil] at hdealt
    exact ⟨released_of_gone horderly hdealt hsids ⟨_, plugin_stopPlugin hnow, rfl⟩ hgone,
      stop_ends hnow horderly' hbounded hgone⟩
  · have hfailed := plugin_revised hnow (Plugin.fail error)
    have hidle : Idle c.world.hub (c.after p (.fail error)).world.hub := c.world.switch.idle_revisePlugin p fun _ => rfl
    exact ⟨⟨_, hfailed, rfl, rfl⟩, ⟨rfl, rfl, rfl, rfl⟩, fun hreleased => hreleased.gone, fun hgone =>
      released_of_gone horderly (haccount.idle_right hidle) hbounded.distinct ⟨_, hfailed, rfl⟩ hgone⟩

/-! ### A plugin that fails with a subscription -/

theorem Bounded.of_all {c : Tenure} (hmanagers : c.world.hub.managers.items.size ≤ 16 ^ 7)
    (hissued : ∀ m ∈ c.world.hub.managers.items, m.issued < 16 ^ 12) : c.Bounded where
  few := .of_size hmanagers
  issued manager := by
    unfold Hub.issued
    cases hm : c.world.hub.managers.get? manager with
    | none => exact Nat.pow_pos (by decide)
    | some m => exact hissued m (Array.mem_of_getElem? hm)

/-- A router with a handler that subscribes to ticks, and a plugin. -/
def ticking : World where
  switch :=
    { hub :=
        { managers := .push {} {}
          scopes := .push {} {}
          plugins := .push {} { name := ⟨"watch"⟩, version := "1", router := ⟨0⟩, scope := ⟨0⟩ } }
      routers := .push {} (Table.insert {} ⟨"/ticks", [.literal "ticks"]⟩ .exact (.handler ⟨0⟩))
      handlers := .push {} fun _ =>
        .perform (.subscribe ⟨0⟩ "ticks" (some (.report "ticks"))) fun result => .done (result.map fun _ => ()) }

/-- The plugin starts, and subscribes through its client. -/
def watching : List Event :=
  [.start, .request ⟨0⟩ { path := "/ticks" }, .go ⟨0⟩, .go ⟨0⟩, .go ⟨0⟩]

/-- The subscription goes when the plugin stops, and its cleanup runs; when the plugin fails, it stays. -/
theorem watching_outlives_failure :
    let c := run ⟨0⟩ ⟨ticking, []⟩ watching
    c.opened.length = 1 ∧
    (c.after ⟨0⟩ .stop).Released ⟨0⟩ ticking ⟨0⟩ ∧
    (c.after ⟨0⟩ .stop).world.hub.journal = [.cleaned "ticks"] ∧
    ¬(c.after ⟨0⟩ (.fail "broken")).Released ⟨0⟩ ticking ⟨0⟩ ∧
    ((c.after ⟨0⟩ (.fail "broken")).world.hub.records ⟨0⟩).map (·.topic) = ["ticks"] ∧
    (c.after ⟨0⟩ (.fail "broken")).world.hub.journal = [] := by
  intro c
  have hempty (manager : Ref .manager) : ticking.hub.records manager = [] := by
    rcases manager with ⟨n⟩
    cases n <;> rfl
  have hp : ticking.switch.plugin? ⟨0⟩ =
      some { name := ⟨"watch"⟩, version := "1", router := ⟨0⟩, scope := ⟨0⟩ } := rfl
  have hbounded : c.Bounded := .of_all (by decide +kernel) (by decide +kernel)
  obtain ⟨⟨hstop, -⟩, hfail⟩ := stop_releases_failure_iff ⟨0⟩ hp (.of_empty hempty) (.of_empty hempty) watching hbounded
  have hrecord : ∃ r ∈ c.world.hub.records ⟨0⟩, r.scope = ⟨0⟩ := by decide +kernel
  refine ⟨by decide +kernel, hstop, by decide +kernel, fun hreleased => ?_, by decide +kernel, by decide +kernel⟩
  obtain ⟨r, hr, hscope⟩ := hrecord
  exact (hfail "broken").2.2.1 hreleased ⟨0⟩ r hr hscope

end Tenure

end Exchange
