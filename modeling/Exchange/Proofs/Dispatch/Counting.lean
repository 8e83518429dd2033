-- SUMMARY: A step of a dispatch counts the request of a plugin in as its level comes, and out as what stands for it goes.
import Exchange.Dispatch
import Exchange.Proofs.Hub.Guards

/-!
# Counting in a dispatch

A request of a plugin is active as long as something stands for it: the level
that the plugin has in a dispatch, or a guard around a stream. A step adds the
level as it counts the request in, hands it over to a guard, or takes it away
as it counts the request out (`Activity.step_accounts`).
-/

namespace Exchange

/-! ## Dispatches -/

def Control.isSettled : Control → Bool
  | .settled _ => true
  | _ => false

section Guards

variable (p : Ref .plugin)

def Level.guards : Level → Nat
  | .plugin q _ _ => if q = p then 1 else 0
  | .handler _ _ | .router _ | .bypass _ => 0

/-- What stands for active requests of the plugin while a dispatch goes on: levels, and guards of the
stream that was made so far. -/
def Activity.standing (a : Activity) : Nat :=
  a.slot.guards p + addUp (Level.guards p) a.stack

/-- What stands for active requests of the plugin in a dispatch, also after its end. -/
def Activity.guards (a : Activity) : Nat :=
  match a.control with
  | .settled result => result.guards p
  | _ => a.standing p

/-- The request comes to the plugin in the next step, and is counted in. -/
def Activity.begins (a : Activity) (s : Switch) : Nat :=
  match a.control with
  | .next ⟨⟨.plugin q, _, _⟩ :: _, _⟩ =>
    if q = p ∧ (s.plugin? p).any (fun plugin => plugin.held && plugin.state = .started) then 1 else 0
  | _ => 0

/-- How often an effect changes the state of the plugin. -/
def Switch.restates (s : Switch) : Effect → Nat
  | .removePlugin name => if Members.get? name.text s.registered = some p then 2 else 0
  | _ => 0

/-- How often the next step changes the state of the plugin: a handler can have it removed. -/
def Activity.restates (a : Activity) (s : Switch) : Nat :=
  match a.control with
  | .run (.perform e _) _ => s.restates p e
  | _ => 0

end Guards

open Hub (Accounts Tallies)

namespace Switch

variable {p : Ref .plugin} {guards : Nat}

theorem tallies_stopPlugin (s : Switch) (q : Ref .plugin) :
    Tallies p 0 (if q = p then 2 else 0) 0 s.hub (s.stopPlugin q).hub := by
  have hstate (h : Hub) (state : Plugin.State) :
      Tallies p 0 (if q = p then 1 else 0) 0 h (h.revisePlugin q (Plugin.setState state)) := by
    split
    · rename_i hq
      exact hq ▸ .revise h fun a => ⟨rfl, rfl, rfl⟩
    · rename_i hq
      exact .revise_other h (Ne.symm hq) _
  cases hget : s.hub.plugins.get? q with
  | none =>
    simp only [stopPlugin, plugin?, hget]
    intro a ha
    have hq : q ≠ p := by
      rintro rfl
      rw [hget] at ha
      cases ha
    rw [if_neg hq]
    exact ⟨a, ha, rfl, rfl, rfl⟩
  | some plugin =>
    simp only [stopPlugin, plugin?, hget]
    have hclose (h : Hub) : Tallies p 0 0 0 h (h.closeScope plugin.scope).1 :=
      .of_plugins (h.plugins_closeScope plugin.scope)
    have hall := ((hstate s.hub .stopping).trans (hclose _)).trans (hstate _ .stopped)
    by_cases hq : q = p
    · rw [if_pos hq] at hall ⊢
      exact hall
    · rw [if_neg hq] at hall ⊢
      exact hall

theorem hub_unregister (s : Switch) (r : Ref .router) (pattern : String) (target : Target) :
    (s.unregister r pattern target).1.hub = s.hub :=
  rfl

/-- To the hub, a plugin that is removed is stopped and dropped. -/
theorem hub_removePlugin (s : Switch) (name : PluginName) :
    Members.get? name.text s.registered = none ∧ (s.removePlugin name).1.hub = s.hub ∨
      ∃ p, Members.get? name.text s.registered = some p ∧ ∃ t : Switch, t.hub = s.hub ∧
        (s.removePlugin name).1.hub = ((t.stopPlugin p).dropPlugin p).hub := by
  cases hget : Members.get? name.text s.registered with
  | none => exact .inl ⟨rfl, by simp only [removePlugin, hget]⟩
  | some p =>
    have hhub := hub_unregister { s with registered := Members.erase name.text s.registered } s.root name.mountPrefix
      (.plugin p)
    exact .inr ⟨p, rfl, _, hhub, by simp only [removePlugin, hget]⟩

theorem tallies_removePlugin (s : Switch) (name : PluginName) :
    Tallies p 0 (if Members.get? name.text s.registered = some p then 2 else 0) 0 s.hub (s.removePlugin name).1.hub := by
  rcases s.hub_removePlugin name with ⟨hget, hhub⟩ | ⟨q, hget, t, ht, hhub⟩
  · rw [hget, hhub]
    exact .of_plugins rfl
  · rw [hget, hhub, ← ht]
    simp only [Option.some.injEq]
    exact (tallies_stopPlugin t q).trans
      (.revise_aside (f := fun a => { a with held := false }) _ q fun a => ⟨rfl, rfl, rfl⟩)

/-! ### Routes and sinks -/

theorem hub_routerNamed (s : Switch) (name : String) : (s.routerNamed name).1.hub = s.hub := by
  unfold routerNamed
  cases Members.get? name s.routerNames <;> rfl

theorem hub_register (s : Switch) (r : Ref .router) (mount : Mount) (pattern : String) (target : Target) :
    (s.register r mount pattern target).1.hub = s.hub := by
  unfold register
  cases (s.table r).register mount pattern target <;> rfl

theorem hub_registerAt (s : Switch) (place : Place) (keep : Option String) (target : Target) :
    (s.registerAt place keep target).1.hub = s.hub := by
  simp only [registerAt, hub_register]
  cases keep <;> exact hub_routerNamed s place.router

theorem hub_install (s : Switch) (place : Place) (keep : Option String) (handler : Handler) :
    (s.install place keep handler).1.hub = s.hub :=
  hub_registerAt _ place keep _

theorem hub_attach (s : Switch) (place : Place) (what : Existing) (keep : Option String) :
    (s.attach place what keep).1.hub = s.hub := by
  cases what with
  | router name => exact (hub_registerAt _ place keep _).trans (hub_routerNamed s name)
  | target name =>
    simp only [attach]
    cases Members.get? name s.targets with
    | none => rfl
    | some target => exact hub_registerAt s place keep target

theorem hub_detach (s : Switch) (router pattern target : String) : (s.detach router pattern target).1.hub = s.hub := by
  simp only [detach]
  cases Members.get? target (s.routerNamed router).1.targets <;> exact hub_routerNamed s router

theorem plugins_holdSink (s : Switch) (name : Option String) (c : Ref .channel) :
    (s.holdSink name c).hub.plugins = s.hub.plugins := by
  cases name with
  | none => rfl
  | some name =>
    simp only [holdSink, releaseSink]
    cases Members.get? name s.sinks <;> rfl

/-! ### Effects -/

/-- An effect leaves the guards of what the request has produced so far, or drops them with it. -/
theorem accounts_perform (s : Switch) (slot : Slot) (scope : Ref .scope) (e : Effect) :
    Accounts p 0 (s.restates p e) (slot.guards p) ((s.perform slot scope e).2.1.guards p) s.hub
      (s.perform slot scope e).1.hub := by
  cases e with
  | respond message => exact .setBody p s.hub slot (.message message)
  | setStatus status | setCode code | look | note text => exact .of_plugins rfl
  | stream items hold =>
    have hopen := Accounts.openStream p s.hub slot
    have huse := (s.hub.openStream slot).1.plugins_useAll (s.hub.openStream slot).2.2 items
    exact hopen.trans (.of_plugins ((plugins_holdSink _ hold _).trans huse))
  | forward items =>
    have huse := s.hub.openChannel.1.plugins_useAll s.hub.openChannel.2 items
    have hproduced : Accounts p 0 0 (slot.guards p) (slot.guards p) s.hub
        ((s.hub.openChannel.1.useAll s.hub.openChannel.2 items).1.dropSink s.hub.openChannel.2) :=
      .of_plugins huse
    exact hproduced.trans (.setBody p _ slot (.stream (.channel s.hub.openChannel.2)))
  | wrap f =>
    obtain ⟨status, statusCode, body⟩ := slot
    cases body <;> exact .of_plugins rfl
  | subscribe manager topic cleanup => exact .subscribe p s.hub slot scope manager topic cleanup
  | unsubscribe manager sid topic => exact .unsubscribe p s.hub slot manager sid topic
  | finish manager sid => exact .of_plugins (s.hub.plugins_finish manager sid)
  | publish manager topic message => exact .of_plugins (s.hub.plugins_publish manager topic message)
  | enter service topic => exact .of_plugins (s.hub.plugins_enterService service topic)
  | leave service topic => exact .of_plugins (s.hub.plugins_leaveService service topic)
  | closeScope => exact .of_plugins (s.hub.plugins_closeScope scope)
  | attach place what keep => exact .of_plugins (by rw [← hub_attach s place what keep]; rfl)
  | detach router pattern target => exact .of_plugins (by rw [← hub_detach s router pattern target]; rfl)
  | removePlugin name => exact .of_tallies (tallies_removePlugin s name)

end Switch

/-! ### Steps -/

namespace Activity

variable (p : Ref .plugin) (a : Activity) (s : Switch)

theorem guards_of_going {a : Activity} (hgoing : a.control.isSettled = false) : a.guards p = a.standing p := by
  unfold guards
  split
  · rename_i hsettled
    rw [hsettled] at hgoing
    cases hgoing
  · rfl

theorem guards_goTo {control : Control} (hgoing : control.isSettled = false) :
    (a.goTo control).guards p = a.standing p :=
  guards_of_going p hgoing

theorem guards_enter (level : Level) {control : Control} (hgoing : control.isSettled = false) :
    (a.enter level control).guards p = a.standing p + level.guards p := by
  rw [guards_of_going p hgoing]
  simp only [standing, enter, addUp]
  omega

/-! #### Trying -/

/-- A plugin that is tried and is started counts the request in, and is then among the levels. -/
theorem accounts_tryPlugin (q : Ref .plugin) (plugin : Plugin) (path : String) (rest : Chain) :
    Accounts p (if q = p ∧ plugin.state = .started then 1 else 0) 0 (a.standing p)
      ((a.tryPlugin s q plugin path rest).1.guards p) s.hub (a.tryPlugin s q plugin path rest).2.hub := by
  have hreceive : Tallies p 0 0 0 s.hub (s.hub.revisePlugin q Plugin.receive) :=
    .revise_aside _ q fun a => ⟨rfl, rfl, rfl⟩
  unfold tryPlugin
  by_cases hstarted : plugin.state = .started
  · simp only [hstarted, and_true, if_true]
    refine ⟨0, hreceive.before (.begin _ q), ?_⟩
    rw [Nat.add_zero]
    exact guards_enter p a (.plugin q path rest) (by rfl)
  · simp only [hstarted, and_false, if_false]
    exact .congr (.of_tallies hreceive) rfl (guards_enter p a (.bypass q) (by rfl))

theorem accounts_tryNext {chain : Chain} (ha : a.control = .next chain) :
    Accounts p (a.begins p s) 0 (a.standing p) ((a.tryNext s chain).1.guards p) s.hub (a.tryNext s chain).2.hub := by
  have hnext (rest : Chain) : Accounts p 0 0 (a.standing p) ((a.goTo (.next rest)).guards p) s.hub s.hub :=
    .congr (.refl _) rfl (guards_goTo p a (by rfl))
  obtain ⟨links, path⟩ := chain
  cases links with
  | nil =>
    simp only [tryNext, begins, ha]
    exact .congr (.refl _) rfl (a.guards_goTo p (by rfl))
  | cons link links =>
    obtain ⟨target, seen, params⟩ := link
    simp only [tryNext, tryLink, begins, ha]
    cases target with
    | handler h =>
      dsimp only
      cases s.handlers.get? h with
      | none => exact hnext _
      | some handler => exact .congr (.refl _) rfl (a.guards_goTo p (by rfl))
    | router r => exact .congr (.refl _) rfl (a.guards_enter p (.router _) (by rfl))
    | plugin q =>
      dsimp only
      cases hget : s.plugin? q with
      | none =>
        have hnot : ¬(q = p ∧ (s.plugin? p).any (fun plugin => plugin.held && plugin.state = .started)) := by
          rintro ⟨rfl, hany⟩
          simp [hget] at hany
        simp only [hnot, if_false]
        exact hnext _
      | some plugin =>
        have hsame : (q = p ∧ (s.plugin? p).any (fun plugin => plugin.held && plugin.state = .started)) ↔
            plugin.held = true ∧ q = p ∧ plugin.state = .started := by
          constructor
          · rintro ⟨rfl, hany⟩
            simpa [hget] using hany
          · rintro ⟨hheld, rfl, hstarted⟩
            simp [hget, hheld, hstarted]
        simp only [hsame]
        cases hheld : plugin.held with
        | false =>
          simp only [Bool.false_eq_true, false_and, if_false]
          exact hnext _
        | true =>
          simp only [true_and, if_true]
          exact a.accounts_tryPlugin p s q plugin seen ⟨links, path⟩

/-! #### Returning -/

variable {a} in
/-- The level above is left. -/
theorem standing_of_stack {level : Level} {stack : List Level} (hstack : a.stack = level :: stack) :
    a.standing p = ({ a with stack } : Activity).standing p + level.guards p := by
  simp only [standing, hstack, addUp]
  omega

theorem accounts_passPlugin (q : Ref .plugin) (result : Except Failure Unit) :
    Accounts p 0 0 (a.standing p) ((a.passPlugin s q result).1.guards p) s.hub (a.passPlugin s q result).2.hub := by
  have hrelease : Tallies p 0 0 0 s.hub (s.hub.revisePlugin q Plugin.release) :=
    .revise_aside _ q fun a => ⟨rfl, rfl, rfl⟩
  exact .congr (.of_tallies hrelease) rfl (a.guards_goTo p (by rfl))

/-- A plugin's answer takes the place of what was produced. -/
theorem accounts_answer (h : Hub) (v : Value) :
    Accounts p 0 0 (a.standing p)
      ({ a with slot := (h.setBody { a.slot with status := some .ok } (.message v)).2 }.standing p) h
      (h.setBody { a.slot with status := some .ok } (.message v)).1 :=
  (Accounts.setBody p h { a.slot with status := some .ok } (.message v)).add (addUp (Level.guards p) a.stack)

/-- The level of a plugin goes: its request ends, or is active as long as the stream that it is answered with. -/
theorem accounts_leavePlugin (q : Ref .plugin) (path : String) (rest : Chain) (result : Except Failure Unit) :
    Accounts p 0 0 (a.standing p + (Level.plugin q path rest).guards p)
      ((a.leavePlugin s q path rest result).1.guards p) s.hub (a.leavePlugin s q path rest result).2.hub := by
  have hfinish : Accounts p 0 0 (a.standing p + (Level.plugin q path rest).guards p) (a.standing p) s.hub
      (s.revisePlugin q Plugin.finish).hub := .finish _ q _
  cases result with
  | ok _ =>
    obtain ⟨request, scope, ⟨status, statusCode, body⟩, control, stack⟩ := a
    cases body with
    | stream inner =>
      refine .congr (accounts_passPlugin p _ s q (.ok ())) ?_ rfl
      simp only [standing, Slot.guards, Body.guards, Stream.guards, Level.guards]
      omega
    | empty | message v => exact hfinish.trans (accounts_passPlugin p _ _ q _)
  | error f =>
    simp only [leavePlugin]
    cases f.isNoRoute with
    | false => exact hfinish.trans (accounts_passPlugin p _ _ q _)
    | true =>
      by_cases hpath : path = "/"
      · simp only [hpath, if_true]
        have hpass (info : Value) := accounts_passPlugin p
          { a with slot := ((s.revisePlugin q Plugin.finish).hub.setBody { a.slot with status := some .ok }
            (.message info)).2 }
          { s.revisePlugin q Plugin.finish with
            hub := ((s.revisePlugin q Plugin.finish).hub.setBody { a.slot with status := some .ok } (.message info)).1 }
          q (.ok ())
        exact (hfinish.trans (a.accounts_answer p _ _)).trans (hpass _)
      · simp only [hpath, if_false, if_true]
        exact hfinish.trans (.congr (.refl _) rfl (guards_enter p a (.bypass q) (by rfl)))

theorem accounts_settleFailed (f : Failure) (hstack : a.stack = []) :
    Accounts p 0 0 (a.standing p) ((a.settleFailed s f).1.guards p) s.hub (a.settleFailed s f).2.hub := by
  refine .congr (Accounts.dropBody p s.hub a.slot.body) ?_ ?_
  · simp [standing, hstack, Slot.guards, addUp]
  · rfl

theorem accounts_goBack (result : Except Failure Unit) :
    Accounts p 0 0 (a.standing p) ((a.goBack s result).1.guards p) s.hub (a.goBack s result).2.hub := by
  cases hstack : a.stack with
  | nil =>
    cases result with
    | error f =>
      simp only [goBack, hstack]
      exact a.accounts_settleFailed p s f hstack
    | ok _ =>
      simp only [goBack, hstack]
      refine .congr (.refl _) rfl ?_
      simp [guards, standing, hstack, Slot.guards, Result.guards, Slot.outcome, addUp]
  | cons level stack =>
    rw [a.standing_of_stack p hstack]
    simp only [goBack, hstack]
    generalize { a with stack } = a
    cases level with
    | handler k rest => exact .congr (.refl _) rfl (a.guards_goTo p (by rfl))
    | router rest =>
      cases result with
      | ok _ => exact .congr (.refl _) rfl (a.guards_goTo p (by rfl))
      | error f =>
        dsimp only
        split <;> exact .congr (.refl _) rfl (a.guards_goTo p (by rfl))
    | plugin q path rest => exact a.accounts_leavePlugin p s q path rest result
    | bypass q => exact a.accounts_passPlugin p s q result

theorem accounts_unwind (hgoing : a.control.isSettled = false) :
    Accounts p 0 0 (a.standing p) ((a.unwind s).1.guards p) s.hub (a.unwind s).2.hub := by
  cases hstack : a.stack with
  | nil =>
    simp only [unwind, hstack]
    exact a.accounts_settleFailed p s panicked hstack
  | cons level stack =>
    rw [a.standing_of_stack p hstack]
    have hleft : ({ a with stack } : Activity).guards p = ({ a with stack } : Activity).standing p :=
      guards_of_going p hgoing
    have hrelease (h : Hub) (q : Ref .plugin) : Tallies p 0 0 0 h (h.revisePlugin q Plugin.release) :=
      .revise_aside _ q fun a => ⟨rfl, rfl, rfl⟩
    cases level with
    | handler k rest | router rest =>
      simp only [unwind, hstack]
      exact .congr (.refl _) rfl hleft
    | plugin q path rest =>
      simp only [unwind, hstack]
      rw [hleft]
      exact (Accounts.finish s.hub q _).trans (.of_tallies (hrelease _ q))
    | bypass q =>
      simp only [unwind, hstack]
      exact .congr (.of_tallies (hrelease s.hub q)) rfl hleft

/-! #### All steps -/

theorem accounts_runPlan {plan : Plan} {rest : Chain} (ha : a.control = .run plan rest) :
    Accounts p 0 (a.restates p s) (a.standing p) ((a.runPlan s plan rest).1.guards p) s.hub
      (a.runPlan s plan rest).2.hub := by
  cases plan with
  | done result | panic =>
    simp only [runPlan, restates, ha]
    exact .congr (.refl _) rfl (a.guards_goTo p (by rfl))
  | next k =>
    simp only [runPlan, restates, ha]
    exact .congr (.refl _) rfl (a.guards_enter p (.handler k rest) (by rfl))
  | perform e k =>
    simp only [runPlan, restates, ha]
    exact (s.accounts_perform a.slot a.scope e).add (addUp (Level.guards p) a.stack)
  | install place keep handler k =>
    simp only [runPlan, restates, ha]
    exact .congr (.of_plugins (by rw [s.hub_install])) rfl (a.guards_goTo p (by rfl))
  | call client request k =>
    simp only [runPlan, restates, ha]
    exact .congr (.refl _) rfl (guards_of_going p (by rw [ha]; rfl))

/-- A step of a dispatch: the request is counted in where a level comes for it, and is counted out where
what stands for it goes. -/
theorem step_accounts :
    Accounts p (a.begins p s) (a.restates p s) (a.guards p) ((a.step s).1.guards p) s.hub (a.step s).2.hub := by
  cases ha : a.control with
  | run plan rest =>
    have hrun := a.accounts_runPlan p s ha
    rw [guards_of_going p (by rw [ha]; rfl)]
    simpa only [step, begins, ha] using hrun
  | next chain =>
    have htry := a.accounts_tryNext p s ha
    rw [guards_of_going p (by rw [ha]; rfl)]
    simpa only [step, restates, ha] using htry
  | call router path =>
    rw [guards_of_going p (by rw [ha]; rfl)]
    simp only [step, begins, restates, ha]
    exact .congr (.refl _) rfl (a.guards_goTo p (by rfl))
  | back result =>
    rw [guards_of_going p (by rw [ha]; rfl)]
    simp only [step, begins, restates, ha]
    exact a.accounts_goBack p s result
  | unwind =>
    have hgoing : a.control.isSettled = false := by rw [ha]; rfl
    rw [guards_of_going p hgoing]
    simp only [step, begins, restates, ha]
    exact a.accounts_unwind p s hgoing
  | await inbox k rest | settled result =>
    simp only [step, begins, restates, ha]
    exact .refl _

/-- When a plugin has no route and another candidate is next, the request is counted out before that one is
tried. -/
theorem falls_through {a : Activity} {p : Ref .plugin} {f : Failure} {path : String} {rest : Chain} {above : List Level}
    (ha : a.control = .back (.error f)) (hroute : f.isNoRoute = true) (hstack : a.stack = .plugin p path rest :: above)
    (hpath : path ≠ "/") (s : Switch) :
    (a.step s).1.control = .next rest ∧ (a.step s).1.guards p + 1 = a.guards p ∧
      (a.step s).2.plugin? p = (s.plugin? p).map Plugin.finish := by
  have hstep : a.step s = ({ a with stack := above }.enter (.bypass p) (.next rest), s.revisePlugin p Plugin.finish) := by
    simp only [step, ha, goBack, hstack, leavePlugin, hroute, if_true, hpath, if_false]
  have hguards : a.guards p = ({ a with stack := above } : Activity).standing p + 1 := by
    rw [guards_of_going p (by rw [ha]; rfl), a.standing_of_stack p hstack]
    simp [Level.guards]
  rw [hstep]
  refine ⟨rfl, ?_, ?_⟩
  · rw [hguards, guards_enter _ _ _ (by rfl)]
    rfl
  · exact Store.get?_modify_self _ _ _

end Activity

end Exchange
