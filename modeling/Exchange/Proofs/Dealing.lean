-- SUMMARY: Which subscriptions a step of a task opens, and that the hub after it has an account that says so.
import Exchange.Proofs.Attribution
import Exchange.Proofs.Counting
import Exchange.Proofs.Hub.Deals

/-!
# What tasks open

A subscription is opened in the name of the request whose handler asks for it:
its scope is the scope of the dispatch. `World.opens` says what the next step of
a task opens. Whatever else that step does, it has an account of the hub with
just these subscriptions opened (`World.dealt_advance`); in particular nothing
leaves a table but with its cleanup.
-/

namespace Exchange

open Hub (Deals Dealt Idle KeepsTrack)

namespace Switch

/-! ## Plugins -/

theorem idle_revisePlugin (s : Switch) (p : Ref .plugin) {f : Plugin → Plugin}
    (hf : ∀ a : Plugin, (f a).scope = a.scope) : Idle s.hub (s.revisePlugin p f).hub :=
  .revisePlugin s.hub p hf

/-- Stopping a plugin closes the scope of its client, and changes nothing else but the plugin. -/
theorem dealt_stopPlugin (s : Switch) (p : Ref .plugin) : Dealt s.hub [] (s.stopPlugin p).hub := by
  unfold stopPlugin
  cases s.plugin? p with
  | none => exact .refl s.hub
  | some plugin =>
    have hstopping : Idle s.hub (s.revisePlugin p (Plugin.setState .stopping)).hub := s.idle_revisePlugin p fun _ => rfl
    have hclose := (s.revisePlugin p (Plugin.setState .stopping)).hub.dealt_closeScope plugin.scope
    exact (Dealt.idle_left hstopping hclose).idle_right (.revisePlugin _ p fun _ => rfl)

theorem dealt_removePlugin (s : Switch) (name : PluginName) : Dealt s.hub [] (s.removePlugin name).1.hub := by
  rcases s.hub_removePlugin name with ⟨-, hhub⟩ | ⟨p, -, t, ht, hhub⟩
  · exact hhub ▸ .refl s.hub
  · rw [hhub, ← ht]
    exact (t.dealt_stopPlugin p).idle_right (idle_revisePlugin _ p fun _ => rfl)

/-! ## Effects -/

/-- What an effect opens: a subscription, if it is granted. -/
def opens (s : Switch) (slot : Slot) (scope : Ref .scope) : Effect → List Subscription
  | .subscribe manager topic cleanup =>
    (s.hub.granted manager (.subscribe slot scope topic cleanup)).map (.mk manager)
  | _ => []

theorem dealt_perform (s : Switch) (slot : Slot) (scope : Ref .scope) (e : Effect) :
    Dealt s.hub (s.opens slot scope e) (s.perform slot scope e).1.hub := by
  cases e with
  | respond message => exact .idle (.setBody s.hub slot (.message message))
  | setStatus status | setCode code | look => exact .refl s.hub
  | note text => exact .idle (.note s.hub fun label => by simp)
  | stream items hold =>
    have hopen := Idle.openStream s.hub slot
    have huse := Idle.useAll (s.hub.openStream slot).1 (s.hub.openStream slot).2.2 items
    have hhold : Idle ((s.hub.openStream slot).1.useAll (s.hub.openStream slot).2.2 items).1 _ :=
      .of_sameBooks (sameBooks_holdSink
        { s with hub := ((s.hub.openStream slot).1.useAll (s.hub.openStream slot).2.2 items).1 } hold
        (s.hub.openStream slot).2.2) (.of_plugins (plugins_holdSink _ hold _))
    exact .idle ((hopen.trans huse).trans hhold)
  | forward items =>
    have huse := Idle.useAll s.hub.openChannel.1 s.hub.openChannel.2 items
    have hproduced : Idle s.hub
        ((s.hub.openChannel.1.useAll s.hub.openChannel.2 items).1.dropSink s.hub.openChannel.2) :=
      ⟨huse.records, huse.issued, huse.cleaned, huse.clients⟩
    exact .idle (hproduced.trans (.setBody _ slot (.stream (.channel s.hub.openChannel.2))))
  | wrap f =>
    obtain ⟨status, statusCode, body⟩ := slot
    cases body <;> exact .refl s.hub
  | subscribe manager topic cleanup => exact s.hub.dealt_subscribe manager slot scope topic cleanup
  | unsubscribe manager sid topic => exact s.hub.dealt_unsubscribe manager slot sid topic
  | finish manager sid => exact s.hub.dealt_finish manager sid
  | publish manager topic message => exact s.hub.dealt_publish manager topic message
  | enter service topic => exact s.hub.dealt_enterService service topic
  | leave service topic => exact .idle (.leaveService s.hub service topic)
  | closeScope => exact s.hub.dealt_closeScope scope
  | attach place what keep =>
    have hhub : (s.perform slot scope (.attach place what keep)).1.hub = s.hub := hub_attach s place what keep
    exact hhub ▸ .refl s.hub
  | detach router pattern target =>
    have hhub : (s.perform slot scope (.detach router pattern target)).1.hub = s.hub := hub_detach s router pattern target
    exact hhub ▸ .refl s.hub
  | removePlugin name => exact s.dealt_removePlugin name

end Switch

/-! ## Dispatches -/

theorem Feed.idle_pull (h : Hub) (f : Feed) : Idle h (f.pull h).1 := by
  cases f with
  | rest frames => cases frames <;> exact .refl h
  | flow latch s =>
    have hpull := Idle.pull h s
    simp only [pull]
    generalize h.pull s = pulled at hpull
    obtain ⟨h', s', found⟩ := pulled
    have hdrop := hpull.trans (.dropStream h' s')
    cases found with
    | pending => exact hpull
    | finished => exact hdrop
    | item r =>
      dsimp only
      generalize latch.shape r = shaped
      obtain ⟨latch, shaped⟩ := shaped
      cases shaped with
      | more r => exact hpull
      | closing r | last r => exact hdrop

theorem Feed.idle_drop (h : Hub) (f : Feed) : Idle h (f.drop h) := by
  cases f with
  | rest frames => exact .refl h
  | flow latch s => exact .dropStream h s

namespace Activity

variable (a : Activity) (s : Switch)

/-- What the next step opens, in the scope of the dispatch. -/
def opens : List Subscription :=
  match a.control with
  | .run (.perform e _) _ => s.opens a.slot a.scope e
  | _ => []

theorem idle_passPlugin (p : Ref .plugin) (result : Except Failure Unit) :
    Idle s.hub (a.passPlugin s p result).2.hub :=
  .revisePlugin s.hub p fun _ => rfl

theorem idle_leavePlugin (p : Ref .plugin) (path : String) (rest : Chain) (result : Except Failure Unit) :
    Idle s.hub (a.leavePlugin s p path rest result).2.hub := by
  have hfinish : Idle s.hub (s.revisePlugin p Plugin.finish).hub := s.idle_revisePlugin p fun _ => rfl
  cases result with
  | ok _ =>
    simp only [leavePlugin]
    cases a.slot.body with
    | stream inner => exact idle_passPlugin _ s p _
    | empty | message v => exact hfinish.trans (idle_passPlugin _ _ p _)
  | error f =>
    simp only [leavePlugin]
    cases f.isNoRoute with
    | false => exact hfinish.trans (idle_passPlugin _ _ p _)
    | true =>
      by_cases hpath : path = "/"
      · simp only [hpath, if_true]
        have hdrop := hfinish.trans (.dropBody _ a.slot.body)
        exact hdrop.trans (.revisePlugin _ p fun _ => rfl)
      · simp only [hpath, if_false, if_true]
        exact hfinish

theorem idle_goBack (result : Except Failure Unit) : Idle s.hub (a.goBack s result).2.hub := by
  cases hstack : a.stack with
  | nil =>
    cases result with
    | error f =>
      simp only [goBack, hstack]
      exact .dropBody s.hub a.slot.body
    | ok _ =>
      simp only [goBack, hstack]
      exact .refl s.hub
  | cons level stack =>
    simp only [goBack, hstack]
    cases level with
    | handler k rest => exact .refl s.hub
    | router rest =>
      cases result with
      | ok _ => exact .refl s.hub
      | error f =>
        dsimp only
        split <;> exact .refl s.hub
    | plugin p path rest => exact idle_leavePlugin _ s p path rest result
    | bypass p => exact idle_passPlugin _ s p result

theorem idle_unwind : Idle s.hub (a.unwind s).2.hub := by
  have hfinish (p : Ref .plugin) : Idle s.hub (s.revisePlugin p Plugin.finish).hub := s.idle_revisePlugin p fun _ => rfl
  unfold unwind
  split
  · exact .dropBody s.hub a.slot.body
  · exact (hfinish _).trans (.revisePlugin _ _ fun _ => rfl)
  · exact s.idle_revisePlugin _ fun _ => rfl
  · exact .refl s.hub

theorem idle_tryNext (chain : Chain) : Idle s.hub (a.tryNext s chain).2.hub := by
  unfold tryNext
  cases chain.links with
  | nil => exact .refl s.hub
  | cons link links =>
    dsimp only [tryLink]
    cases link.target with
    | handler h =>
      dsimp only
      cases s.handlers.get? h <;> exact .refl s.hub
    | router r => exact .refl s.hub
    | plugin p =>
      dsimp only
      cases s.plugin? p with
      | none => exact .refl s.hub
      | some plugin =>
        have hreceive : Idle s.hub (s.revisePlugin p Plugin.receive).hub := s.idle_revisePlugin p fun _ => rfl
        dsimp only [tryPlugin]
        split
        · split
          · exact hreceive.trans (.revisePlugin _ p fun _ => rfl)
          · exact hreceive
        · exact .refl s.hub

/-- A step opens what its effect opens. -/
theorem dealt_step : Dealt s.hub (a.opens s) (a.step s).2.hub := by
  unfold opens step
  cases a.control with
  | run plan rest =>
    cases plan with
    | done | panic | next | call => exact .refl s.hub
    | perform e k => exact s.dealt_perform a.slot a.scope e
    | install place keep handler k =>
      have hhub : (a.runPlan s (.install place keep handler k) rest).2.hub = s.hub := s.hub_install place keep handler
      exact hhub ▸ .refl s.hub
  | next chain => exact .idle (a.idle_tryNext s chain)
  | call router path => exact .refl s.hub
  | back result => exact .idle (a.idle_goBack s result)
  | unwind => exact .idle (a.idle_unwind s)
  | await inbox k rest | settled result => exact .refl s.hub

end Activity

/-! ## Tasks -/

/-- What the next step of a request opens. -/
def Work.opens (s : Switch) : Work → List Subscription
  | .dispatching a => a.opens s
  | .feeding _ => []

/-- What the next step of a task opens. -/
def Task.opens (s : Switch) : Task → List Subscription
  | .dispatch a => a.opens s
  | .answer _ _ _ work | .inside work _ _ => work.opens s
  | _ => []

namespace World

/-- What the next step of a task opens, if the task is there. -/
def opens (w : World) (t : Ref .task) : List Subscription :=
  (w.tasks.get? t).elim [] (·.opens w.switch)

variable (w : World)

theorem hub_pullMail (m : Mail) : (w.pullMail m).1.hub = w.hub :=
  congrArg Switch.hub (w.pullMail_eq m).1

theorem hub_modifyMailbox (f : Channel Client.Event → Channel Client.Event) (m : Mail) :
    (w.modifyMailbox f m).hub = w.hub :=
  congrArg Switch.hub (w.modifyMailbox_eq f m).1

theorem dealt_stepActivity (a : Activity) : Dealt w.hub (a.opens w.switch) (w.stepActivity a).1.hub := by
  have hstep : w.stepActivity a = ({ w with switch := (a.step w.switch).2 }, (a.step w.switch).1) →
      Dealt w.hub (a.opens w.switch) (w.stepActivity a).1.hub := by
    intro heq
    rw [heq]
    exact a.dealt_step w.switch
  cases ha : a.control with
  | run plan rest =>
    cases plan with
    | call client r k =>
      simp only [stepActivity, ha, startCall, Activity.opens]
      cases Members.get? client w.switch.insiders with
      | none => exact .refl w.hub
      | some insider =>
        have hhub : (w.requestInside insider r).1.hub = w.hub := congrArg Switch.hub (w.grows_requestInside insider r).1
        dsimp only
        generalize w.requestInside insider r = requested at hhub
        obtain ⟨w', result⟩ := requested
        cases result <;> exact hhub ▸ .refl w.hub
    | _ => exact hstep (by simp only [stepActivity, ha])
  | await inbox k rest =>
    have hhub := w.hub_pullMail (.insider inbox)
    simp only [stepActivity, ha, receiveCall, Activity.opens]
    generalize w.pullMail (.insider inbox) = pulled at hhub
    obtain ⟨w', found⟩ := pulled
    cases found with
    | pending | finished => exact hhub ▸ .refl w.hub
    | item e =>
      dsimp only
      cases e.answer? <;> exact hhub ▸ .refl w.hub
  | next | call | back | unwind | settled => exact hstep (by simp only [stepActivity, ha])

theorem dealt_stepWork (work : Work) : Dealt w.hub (work.opens w.switch) (w.stepWork work).1.hub := by
  cases work with
  | dispatching a =>
    cases hresult : a.result? with
    | some result =>
      simp only [stepWork, hresult, Work.opens, Activity.opens, Activity.control_of_result? hresult]
      exact .refl w.hub
    | none =>
      simp only [stepWork, hresult]
      exact w.dealt_stepActivity a
  | feeding f => exact .idle (f.idle_pull w.hub)

theorem idle_dropWork (work : Work) : Idle w.hub (w.dropWork work).hub := by
  cases work with
  | dispatching a => exact .refl w.hub
  | feeding f => exact f.idle_drop w.hub

theorem dealt_stepAnswer (t : Ref .task) (s : Ref .session) (id : Option RequestId) (encoding : Encoding)
    (work : Work) : Dealt w.hub (work.opens w.switch) (w.stepAnswer t s id encoding work).hub := by
  have hwork := w.dealt_stepWork work
  simp only [stepAnswer]
  generalize w.stepWork work = stepped at hwork
  obtain ⟨w', work', found⟩ := stepped
  have hend {w'' : World} (hsame : w''.hub = w'.hub) : Dealt w.hub (work.opens w.switch) (w''.endJob t s work').hub :=
    (hsame ▸ hwork).idle_right (w''.idle_dropWork work')
  cases found with
  | pending => exact hwork
  | finished => exact hend rfl
  | item r =>
    dsimp only
    cases w'.sessions.get? s with
    | none => exact hend rfl
    | some session =>
      dsimp only
      split
      · exact hwork
      · exact hend rfl

theorem dealt_stepInside (t : Ref .task) (work : Work) (progress : Client.Progress) (inbox : Ref .inbox) :
    Dealt w.hub (work.opens w.switch) (w.stepInside t work progress inbox).hub := by
  have hwork := w.dealt_stepWork work
  simp only [stepInside]
  generalize w.stepWork work = stepped at hwork
  obtain ⟨w', work', found⟩ := stepped
  have hend (events : List Client.Event) :
      Dealt w.hub (work.opens w.switch) ((w'.deliverInside inbox events).endInside t inbox work').hub :=
    hwork.idle_right (idle_dropWork (w'.deliverInside inbox events) work')
  cases found with
  | pending => exact hwork
  | finished => exact hend _
  | item r =>
    dsimp only
    split
    · exact hend _
    · exact hwork

/-! ### Tasks that dispatch nothing -/

theorem hub_stepCall (t : Ref .task) (mail : Mail) : (w.stepCall t mail).hub = w.hub := by
  have hhub := w.hub_pullMail mail
  simp only [stepCall]
  generalize w.pullMail mail = pulled at hhub
  obtain ⟨w', found⟩ := pulled
  cases found with
  | pending | finished => exact hhub
  | item e =>
    dsimp only
    cases e.answer? with
    | none => exact hhub
    | some answer => exact (w'.hub_modifyMailbox Channel.close mail).trans hhub

theorem hub_tidySession (s : Session) : (w.tidySession s).hub = w.hub := by
  unfold tidySession
  split <;> rfl

theorem hub_startJobs (ref : Ref .session) (s : Session) (jobs : List Session.Job) :
    (w.startJobs ref s jobs).hub = w.hub := by
  unfold startJobs
  induction jobs generalizing w with
  | nil => rfl
  | cons job jobs ih => exact ih _

/-- The reading half of a session closes the scope of the session when it ends, and does nothing else to the hub. -/
theorem hub_stepReadSession (ref : Ref .session) : (w.stepReadSession ref).hub = w.hub ∨
    ∃ scope, (w.stepReadSession ref).hub = (w.hub.closeScope scope).1 := by
  have hsettle (w' : World) (s : Session) (hsame : w'.hub = w.hub) : (w'.settleSession ref s).hub = w.hub ∨
      ∃ scope, (w'.settleSession ref s).hub = (w.hub.closeScope scope).1 := by
    unfold settleSession
    cases s.reader with
    | reading | aborted => exact .inl hsame
    | ended result =>
      right
      refine ⟨s.scope, (hub_tidySession _ s).trans ?_⟩
      rw [← hsame]
      rfl
  unfold stepReadSession
  cases w.sessions.get? ref with
  | none => exact .inl rfl
  | some s =>
    dsimp only
    split
    · exact hsettle w _ rfl
    · cases w.wires.get? s.wire with
      | none => exact .inl rfl
      | some wire => exact hsettle _ _ (hub_startJobs _ ref _ _)

theorem hub_stepWriteSession (ref : Ref .session) : (w.stepWriteSession ref).hub = w.hub := by
  unfold stepWriteSession
  cases w.sessions.get? ref with
  | none => rfl
  | some s => exact hub_tidySession _ _

theorem hub_tidyRemote (c : Client.Remote) : (w.tidyRemote c).hub = w.hub := by
  unfold tidyRemote
  split <;> rfl

theorem hub_stepReadRemote (ref : Ref .remote) : (w.stepReadRemote ref).hub = w.hub := by
  unfold stepReadRemote
  cases w.remotes.get? ref with
  | none => rfl
  | some c =>
    dsimp only
    cases w.wires.get? c.wire with
    | none => rfl
    | some wire => exact hub_tidyRemote _ _

theorem hub_stepWriteRemote (ref : Ref .remote) : (w.stepWriteRemote ref).hub = w.hub := by
  unfold stepWriteRemote
  cases w.remotes.get? ref with
  | none => rfl
  | some c => exact hub_tidyRemote _ _

theorem hub_settleProgram (ref : Ref .program) (p : Program) : (w.settleProgram ref p).hub = w.hub := by
  unfold settleProgram cutOff
  dsimp only
  split
  · split <;> rfl
  · rfl

theorem hub_stepProgram (ref : Ref .program) : (w.stepProgram ref).hub = w.hub := by
  unfold stepProgram
  cases w.programs.get? ref with
  | none => rfl
  | some p =>
    dsimp only
    split
    · rename_i inbox _ _
      have hhub := w.hub_pullMail (.remote p.client inbox)
      generalize w.pullMail (.remote p.client inbox) = pulled at hhub
      obtain ⟨w', found⟩ := pulled
      cases found with
      | pending => exact hhub
      | finished => exact (hub_settleProgram _ ref _).trans hhub
      | item e =>
        dsimp only
        cases e.answer? with
        | none => exact hhub
        | some answer => exact (hub_settleProgram _ ref _).trans hhub
    · have hhub := w.hub_pullMail (.remote p.client p.inbox)
      generalize w.pullMail (.remote p.client p.inbox) = pulled at hhub
      obtain ⟨w', found⟩ := pulled
      cases found with
      | pending => exact hhub
      | finished | item e => exact (hub_settleProgram _ ref _).trans hhub

theorem dealt_stepTick (ref : Ref .service) : Dealt w.hub [] (w.stepTick ref).hub := by
  unfold stepTick
  cases w.hub.services.get? ref with
  | none => exact .refl w.hub
  | some s =>
    dsimp only
    split
    · exact .refl w.hub
    · rename_i topic rest _
      have hdue : Idle w.hub { w.hub with services := w.hub.services.set ref { s with due := rest } } :=
        .of_managers rfl rfl fun _ => rfl
      exact .idle_left hdue (Hub.dealt_publish _ s.manager topic w.clockMessage)

/-! ### All tasks -/

variable {w}

/-- A step of any task opens what its dispatch opens. -/
theorem dealt_advance {t : Ref .task} {task : Task} (ht : w.tasks.get? t = some task) :
    Dealt w.hub (w.opens t) (w.advance t task).hub := by
  have hopens : w.opens t = task.opens w.switch := by
    rw [opens, ht, Option.elim_some]
  rw [hopens]
  cases task with
  | done => exact .refl w.hub
  | dispatch a => exact w.dealt_stepActivity a
  | answer s id encoding work => exact w.dealt_stepAnswer t s id encoding work
  | inside work progress inbox => exact w.dealt_stepInside t work progress inbox
  | call mail answer => exact (w.hub_stepCall t mail) ▸ .refl w.hub
  | readSession s =>
    rcases w.hub_stepReadSession s with hhub | ⟨scope, hhub⟩
    · exact hhub ▸ .refl w.hub
    · exact hhub ▸ w.hub.dealt_closeScope scope
  | writeSession s => exact (w.hub_stepWriteSession s) ▸ .refl w.hub
  | readRemote c => exact (w.hub_stepReadRemote c) ▸ .refl w.hub
  | writeRemote c => exact (w.hub_stepWriteRemote c) ▸ .refl w.hub
  | tick service => exact w.dealt_stepTick service
  | program p => exact (w.hub_stepProgram p) ▸ .refl w.hub

/-- A step of any task keeps subscriptions tracked. -/
theorem keepsTrack_advance {t : Ref .task} {task : Task} (ht : w.tasks.get? t = some task) :
    KeepsTrack w.hub (w.advance t task).hub := by
  cases task with
  | readSession s =>
    rcases w.hub_stepReadSession s with hhub | ⟨scope, hhub⟩
    · exact hhub ▸ .refl w.hub
    · exact hhub ▸ w.hub.keepsTrack_closeScope scope
  | _ => exact (aloof_advance ht fun _ heq => by cases heq).hub

end World

end Exchange
