-- SUMMARY: Requests are dispatched in the name of their session, and what tasks leave alone of listeners and sessions.
import Exchange.Proofs.Dispatch.Ownership
import Exchange.World.Schedule

/-!
# In whose name

A request that came through a session is dispatched with the scope of that
session (`World.Attributed`), from its start on and whatever becomes of the
session meanwhile. Most of what happens in a world keeps aloof from connections
(`World.Aloof`): listeners stay as they are, sessions keep their scopes,
requests stay attributed and subscriptions tracked. This holds for the step of
any task but the reading half of a session, which is the one that can end it.
-/

namespace Exchange

open Hub (KeepsTrack)

/-! ## Sessions -/

namespace Session

variable (s : Session)

theorem scope_push (frame : Frame) : (s.push frame).1.scope = s.scope := by
  unfold push
  split <;> rfl

theorem scope_enqueue (r : Reply) (encoding : Encoding) : (s.enqueue r encoding).1.scope = s.scope := by
  unfold enqueue
  dsimp only
  split <;> exact s.scope_push _

theorem scope_accept (frame : Frame) : (s.accept frame).1.scope = s.scope := by
  unfold accept
  split
  · rfl
  · dsimp only
    split
    · exact scope_enqueue _ _ _
    · rfl

theorem scope_acceptAll (frames : List Frame) : (s.acceptAll frames).1.scope = s.scope := by
  induction frames generalizing s with
  | nil => rfl
  | cons frame frames ih => exact (ih _).trans (s.scope_accept frame)

theorem scope_finish (result : Except Error Unit) : (s.finish result).scope = s.scope := by
  cases result <;> rfl

theorem scope_read (bytes : Bytes) (closed : Bool) : (s.read bytes closed).1.scope = s.scope := by
  unfold read
  dsimp only
  split
  · exact (scope_finish _ _).trans (scope_acceptAll _ _)
  · dsimp only
    split
    · exact (scope_finish _ _).trans (scope_acceptAll _ _)
    · exact scope_acceptAll _ _

theorem scope_write : s.write.1.scope = s.scope := by
  unfold write
  dsimp only
  split
  · rfl
  · dsimp only
    split <;> rfl

end Session

theorem Feed.sameBooks_pull (h : Hub) (f : Feed) : h.SameBooks (f.pull h).1 := by
  cases f with
  | rest frames => cases frames <;> exact .refl h
  | flow latch s =>
    have hpull := h.sameBooks_pull s
    simp only [pull]
    generalize h.pull s = pulled at hpull
    obtain ⟨h', s', found⟩ := pulled
    have hdrop := hpull.trans (h'.sameBooks_dropStream s')
    cases found with
    | pending => exact hpull
    | finished => exact hdrop
    | item r =>
      dsimp only
      generalize latch.shape r = shaped
      obtain ⟨latch, shaped⟩ := shaped
      cases shaped with
      | more r => exact hpull
      | closing r | last r => exact hdrop

theorem Feed.sameBooks_drop (h : Hub) (f : Feed) : h.SameBooks (f.drop h) := by
  cases f with
  | rest frames => exact .refl h
  | flow latch s => exact h.sameBooks_dropStream s

/-! ## Requests -/

/-- A request of a session is dispatched with the scope of the session. -/
def Task.Belongs (w : World) : Task → Prop
  | .answer s _ _ (.dispatching a) => ∃ x, w.sessions.get? s = some x ∧ x.scope = a.scope
  | _ => True

namespace World

/-- All requests of sessions are dispatched with the scopes of their sessions. -/
def Attributed (w : World) : Prop :=
  ∀ t task, w.tasks.get? t = some task → task.Belongs w

/-- Sessions may go on, with the scopes they have. -/
def KeepsScopes (w w' : World) : Prop :=
  ∀ s x, w.sessions.get? s = some x → ∃ x', w'.sessions.get? s = some x' ∧ x'.scope = x.scope

/-- Subscriptions stay tracked, sessions keep their scopes, and requests stay attributed. -/
structure Carries (w w' : World) : Prop where
  hub : KeepsTrack w.hub w'.hub
  sessions : w.KeepsScopes w'
  tasks : w.Attributed → w'.Attributed

/-- Connections are left alone. -/
structure Aloof (w w' : World) : Prop extends w.Carries w' where
  listeners : w'.listeners = w.listeners

variable {w w' w'' : World}

theorem KeepsScopes.of_eq (h : w'.sessions = w.sessions) : w.KeepsScopes w' :=
  fun _ x hx => ⟨x, h ▸ hx, rfl⟩

theorem KeepsScopes.trans (h : w.KeepsScopes w') (h' : w'.KeepsScopes w'') : w.KeepsScopes w'' := by
  intro s x hx
  obtain ⟨x', hx', hscope⟩ := h s x hx
  obtain ⟨x'', hx'', hscope'⟩ := h' s x' hx'
  exact ⟨x'', hx'', hscope'.trans hscope⟩

theorem KeepsScopes.modify (w : World) (s : Ref .session) {f : Session → Session}
    (hf : ∀ x, w.sessions.get? s = some x → (f x).scope = x.scope) :
    w.KeepsScopes { w with sessions := w.sessions.modify s f } := by
  intro q x hx
  by_cases hq : q = s
  · subst hq
    exact ⟨f x, by rw [Store.get?_modify_self, hx, Option.map_some], hf x hx⟩
  · exact ⟨x, by rwa [Store.get?_modify_of_ne f hq], rfl⟩

theorem KeepsScopes.exists_session (h : w.KeepsScopes w') {s : Ref .session} {scope : Ref .scope}
    (hs : ∃ x, w.sessions.get? s = some x ∧ x.scope = scope) :
    ∃ x, w'.sessions.get? s = some x ∧ x.scope = scope := by
  obtain ⟨x, hx, hscope⟩ := hs
  obtain ⟨x', hx', hsame⟩ := h s x hx
  exact ⟨x', hx', hsame.trans hscope⟩

theorem KeepsScopes.belongs (h : w.KeepsScopes w') {task : Task} (hbelongs : task.Belongs w) : task.Belongs w' := by
  unfold Task.Belongs at hbelongs ⊢
  split at hbelongs
  · exact h.exists_session hbelongs
  · trivial

namespace Carries

theorem of_tasks (hhub : KeepsTrack w.hub w'.hub) (hsessions : w.KeepsScopes w') (htasks : w'.tasks = w.tasks) :
    w.Carries w' where
  hub := hhub
  sessions := hsessions
  tasks hall t task ht := hsessions.belongs (hall t task (htasks ▸ ht))

theorem trans (h : w.Carries w') (h' : w'.Carries w'') : w.Carries w'' where
  hub := h.hub.trans h'.hub
  sessions := h.sessions.trans h'.sessions
  tasks hall := h'.tasks (h.tasks hall)

end Carries

namespace Aloof

theorem of_tasks (hhub : KeepsTrack w.hub w'.hub) (hlisteners : w'.listeners = w.listeners)
    (hsessions : w.KeepsScopes w') (htasks : w'.tasks = w.tasks) : w.Aloof w' :=
  ⟨.of_tasks hhub hsessions htasks, hlisteners⟩

theorem of_hub (hhub : KeepsTrack w.hub w'.hub) (hlisteners : w'.listeners = w.listeners)
    (hsessions : w'.sessions = w.sessions) (htasks : w'.tasks = w.tasks) : w.Aloof w' :=
  .of_tasks hhub hlisteners (.of_eq hsessions) htasks

theorem refl (w : World) : w.Aloof w :=
  .of_hub (.refl w.hub) rfl rfl rfl

theorem trans (h : w.Aloof w') (h' : w'.Aloof w'') : w.Aloof w'' :=
  ⟨h.toCarries.trans h'.toCarries, h'.listeners.trans h.listeners⟩

theorem setTask (h : w.Aloof w') (t : Ref .task) {task : Task} (htask : w.Attributed → task.Belongs w') :
    w.Aloof (w'.setTask t task) := by
  refine ⟨⟨h.hub, h.sessions, fun hall q found hq => ?_⟩, h.listeners⟩
  have hsessions : w'.KeepsScopes (w'.setTask t task) := .of_eq rfl
  simp only [World.setTask, Store.set, Store.get?_modify] at hq
  split at hq
  · obtain ⟨old, -, rfl⟩ := Option.map_eq_some_iff.1 hq
    exact hsessions.belongs (htask hall)
  · exact hsessions.belongs (h.tasks hall q found hq)

theorem spawn (w : World) {task : Task} (htask : w.Attributed → task.Belongs w) : w.Aloof (w.spawn task).1 := by
  refine ⟨⟨.refl w.hub, .of_eq rfl, fun hall q found hq => ?_⟩, rfl⟩
  have hsessions : w.KeepsScopes (w.spawn task).1 := .of_eq rfl
  have hget : (w.tasks.push task).get? q = some found := hq
  by_cases hnew : q = w.tasks.next
  · rw [hnew, Store.get?_push_next] at hget
    exact Option.some.inj hget ▸ hsessions.belongs (htask hall)
  · rw [Store.get?_push_of_ne _ hnew] at hget
    exact hsessions.belongs (hall q found hget)

theorem withHub (w : World) {hub : Hub} (h : KeepsTrack w.hub hub) : w.Aloof (w.withHub hub) :=
  .of_hub h rfl rfl rfl

end Aloof

/-! ## Mail -/

theorem aloof_modifyMailbox (w : World) (f : Channel Client.Event → Channel Client.Event) (m : Mail) :
    w.Aloof (w.modifyMailbox f m) := by
  cases m <;> exact .of_hub (.refl w.hub) rfl rfl rfl

theorem aloof_pullMail (w : World) (m : Mail) : w.Aloof (w.pullMail m).1 := by
  unfold pullMail
  cases w.mailbox? m with
  | none => exact .refl w
  | some c => exact w.aloof_modifyMailbox _ m

theorem aloof_requestInside (w : World) (i : Insider) (r : Request) : w.Aloof (w.requestInside i r).1 := by
  unfold requestInside
  cases Client.validate r with
  | error e => exact .refl w
  | ok _ =>
    dsimp only
    split
    · exact .refl w
    · have hpush : w.Aloof { w with inboxes := w.inboxes.push { writers := 1 } } := .of_hub (.refl w.hub) rfl rfl rfl
      exact hpush.trans (.spawn _ fun _ => trivial)

/-! ## Dispatches -/

/-- A step of a dispatch leaves connections alone, and keeps the scope. -/
theorem aloof_stepActivity (w : World) (a : Activity) :
    w.Aloof (w.stepActivity a).1 ∧ (w.stepActivity a).2.scope = a.scope := by
  have hstep : w.stepActivity a = ({ w with switch := (a.step w.switch).2 }, (a.step w.switch).1) →
      w.Aloof (w.stepActivity a).1 ∧ (w.stepActivity a).2.scope = a.scope := by
    intro heq
    rw [heq]
    obtain ⟨hhub, hscope⟩ := a.step_keeps w.switch
    exact ⟨.of_hub hhub rfl rfl rfl, hscope⟩
  cases ha : a.control with
  | run plan rest =>
    cases plan with
    | call client r k =>
      simp only [stepActivity, ha, startCall]
      cases Members.get? client w.switch.insiders with
      | none => exact ⟨.refl w, rfl⟩
      | some insider =>
        have hrequest := w.aloof_requestInside insider r
        dsimp only
        generalize w.requestInside insider r = requested at hrequest
        obtain ⟨w', result⟩ := requested
        cases result <;> exact ⟨hrequest, rfl⟩
    | _ => exact hstep (by simp only [stepActivity, ha])
  | await inbox k rest =>
    have hpull := w.aloof_pullMail (.insider inbox)
    simp only [stepActivity, ha, receiveCall]
    generalize w.pullMail (.insider inbox) = pulled at hpull
    obtain ⟨w', found⟩ := pulled
    cases found with
    | pending | finished => exact ⟨hpull, rfl⟩
    | item e =>
      dsimp only
      cases e.answer? with
      | none => exact ⟨hpull, rfl⟩
      | some answer => exact ⟨hpull.trans (w'.aloof_modifyMailbox Channel.close (.insider inbox)), rfl⟩
  | next | call | back | unwind | settled => exact hstep (by simp only [stepActivity, ha])

/-- What a step makes of a request that is dispatched in the name of a session is attributed to it. -/
theorem aloof_stepWork (w : World) (work : Work) :
    w.Aloof (w.stepWork work).1 ∧ ∀ s id encoding, (Task.answer s id encoding work).Belongs w →
      (Task.answer s id encoding (w.stepWork work).2.1).Belongs (w.stepWork work).1 := by
  cases work with
  | dispatching a =>
    cases hresult : a.result? with
    | some result =>
      simp only [stepWork, hresult]
      exact ⟨.refl w, fun _ _ _ _ => trivial⟩
    | none =>
      obtain ⟨haloof, hscope⟩ := w.aloof_stepActivity a
      simp only [stepWork, hresult]
      refine ⟨haloof, fun s id encoding hbelongs => ?_⟩
      rw [Task.Belongs, hscope]
      exact haloof.sessions.exists_session hbelongs
  | feeding f =>
    simp only [stepWork]
    exact ⟨.withHub w (.of_sameBooks (f.sameBooks_pull w.hub)), fun _ _ _ _ => trivial⟩

theorem aloof_dropWork (w : World) (work : Work) : w.Aloof (w.dropWork work) := by
  cases work with
  | dispatching a => exact .refl w
  | feeding f => exact .withHub w (.of_sameBooks (f.sameBooks_drop w.hub))

/-! ## Tasks -/

theorem aloof_endJob (w : World) (t : Ref .task) (s : Ref .session) (work : Work) : w.Aloof (w.endJob t s work) := by
  have hdrop := w.aloof_dropWork work
  have hcount : (w.dropWork work).Aloof
      { w.dropWork work with
        sessions := (w.dropWork work).sessions.modify s fun s => { s with jobs := s.jobs - 1 } } :=
    .of_tasks (.refl _) rfl (.modify _ s fun _ _ => rfl) rfl
  exact (hdrop.trans hcount).setTask t fun _ => trivial

theorem aloof_stepAnswer {t : Ref .task} {s : Ref .session} {id : Option RequestId} {encoding : Encoding} {work : Work}
    (ht : w.tasks.get? t = some (.answer s id encoding work)) : w.Aloof (w.stepAnswer t s id encoding work) := by
  obtain ⟨haloof, hbelongs⟩ := w.aloof_stepWork work
  have hkept : w.Attributed →
      (Task.answer s id encoding (w.stepWork work).2.1).Belongs (w.stepWork work).1 :=
    fun hall => hbelongs s id encoding (hall t _ ht)
  simp only [stepAnswer]
  generalize w.stepWork work = stepped at haloof hkept
  obtain ⟨w', work', found⟩ := stepped
  cases found with
  | pending => exact haloof.setTask t hkept
  | finished => exact haloof.trans (w'.aloof_endJob t s work')
  | item r =>
    dsimp only
    cases hs : w'.sessions.get? s with
    | none => exact haloof.trans (w'.aloof_endJob t s work')
    | some session =>
      have hscope := session.scope_enqueue { r with id } encoding
      dsimp only
      generalize session.enqueue { r with id } encoding = queued at hscope
      obtain ⟨session', goesOn⟩ := queued
      have hqueue : w'.Aloof { w' with sessions := w'.sessions.set s session' } := by
        refine .of_tasks (.refl _) rfl (.modify _ s fun x hx => ?_) rfl
        rw [hs] at hx
        cases hx
        exact hscope
      cases goesOn with
      | true => exact (haloof.trans hqueue).setTask t fun hall => hqueue.sessions.belongs (hkept hall)
      | false => exact (haloof.trans hqueue).trans (aloof_endJob _ t s work')

theorem aloof_endInside (w : World) (t : Ref .task) (inbox : Ref .inbox) (work : Work) :
    w.Aloof (w.endInside t inbox work) := by
  have hleave : (w.dropWork work).Aloof
      { w.dropWork work with inboxes := (w.dropWork work).inboxes.modify inbox Channel.leave } :=
    .of_hub (.refl _) rfl rfl rfl
  exact ((w.aloof_dropWork work).trans hleave).setTask t fun _ => trivial

theorem aloof_stepInside (w : World) (t : Ref .task) (work : Work) (progress : Client.Progress) (inbox : Ref .inbox) :
    w.Aloof (w.stepInside t work progress inbox) := by
  have hwork := (w.aloof_stepWork work).1
  simp only [stepInside]
  generalize w.stepWork work = stepped at hwork
  obtain ⟨w', work', found⟩ := stepped
  have hdeliver (events : List Client.Event) : w.Aloof (w'.deliverInside inbox events) :=
    hwork.trans (.of_hub (.refl _) rfl rfl rfl)
  cases found with
  | pending => exact hwork.setTask t fun _ => trivial
  | finished => exact (hdeliver _).trans (aloof_endInside _ t inbox work')
  | item r =>
    dsimp only
    split
    · exact (hdeliver _).trans (aloof_endInside _ t inbox work')
    · exact (hdeliver _).setTask t fun _ => trivial

theorem aloof_stepCall (w : World) (t : Ref .task) (mail : Mail) : w.Aloof (w.stepCall t mail) := by
  have hpull := w.aloof_pullMail mail
  simp only [stepCall]
  generalize w.pullMail mail = pulled at hpull
  obtain ⟨w', found⟩ := pulled
  cases found with
  | pending => exact hpull
  | finished => exact hpull.setTask t fun _ => trivial
  | item e =>
    dsimp only
    cases e.answer? with
    | none => exact hpull
    | some answer => exact (hpull.trans (w'.aloof_modifyMailbox Channel.close mail)).setTask t fun _ => trivial

theorem aloof_startJobs (w : World) {ref : Ref .session} {x s : Session} (hx : w.sessions.get? ref = some x)
    (hscope : x.scope = s.scope) (jobs : List Session.Job) : w.Aloof (w.startJobs ref s jobs) := by
  unfold startJobs
  induction jobs generalizing w with
  | nil => exact .refl w
  | cons job jobs ih =>
    have hjob : (Task.answer ref job.id job.encoding
        (.dispatching (.start s.router job.request s.scope))).Belongs w := ⟨x, hx, hscope⟩
    exact (Aloof.spawn w fun _ => hjob).trans (ih _ hx)

theorem aloof_tidySession (w : World) (s : Session) : w.Aloof (w.tidySession s) := by
  unfold tidySession
  split
  · exact .of_hub (.refl _) rfl rfl rfl
  · exact .refl w

theorem aloof_stepWriteSession (w : World) (ref : Ref .session) : w.Aloof (w.stepWriteSession ref) := by
  unfold stepWriteSession
  cases hs : w.sessions.get? ref with
  | none => exact .refl w
  | some s =>
    refine .trans ?_ (aloof_tidySession _ _)
    refine .of_tasks (.refl _) rfl (.modify _ ref fun x hx => ?_) rfl
    rw [hs] at hx
    cases hx
    exact s.scope_write

theorem aloof_tidyRemote (w : World) (c : Client.Remote) : w.Aloof (w.tidyRemote c) := by
  unfold tidyRemote
  split
  · exact .of_hub (.refl _) rfl rfl rfl
  · exact .refl w

theorem aloof_stepReadRemote (w : World) (ref : Ref .remote) : w.Aloof (w.stepReadRemote ref) := by
  unfold stepReadRemote
  cases w.remotes.get? ref with
  | none => exact .refl w
  | some c =>
    dsimp only
    cases w.wires.get? c.wire with
    | none => exact .refl w
    | some wire =>
      refine .trans ?_ (aloof_tidyRemote _ _)
      exact .of_hub (.refl _) rfl rfl rfl

theorem aloof_stepWriteRemote (w : World) (ref : Ref .remote) : w.Aloof (w.stepWriteRemote ref) := by
  unfold stepWriteRemote
  cases w.remotes.get? ref with
  | none => exact .refl w
  | some c =>
    refine .trans ?_ (aloof_tidyRemote _ _)
    exact .of_hub (.refl _) rfl rfl rfl

theorem aloof_stepTick (w : World) (ref : Ref .service) : w.Aloof (w.stepTick ref) := by
  unfold stepTick
  cases w.hub.services.get? ref with
  | none => exact .refl w
  | some s =>
    dsimp only
    split
    · exact .refl w
    · rename_i topic rest _
      have hdue : KeepsTrack w.hub { w.hub with services := w.hub.services.set ref { s with due := rest } } :=
        .of_eq rfl rfl
      exact .withHub w (hdue.trans (Hub.keepsTrack_publish _ s.manager topic w.clockMessage))

theorem aloof_settleProgram (w : World) (ref : Ref .program) (p : Program) : w.Aloof (w.settleProgram ref p) := by
  unfold settleProgram cutOff
  dsimp only
  split
  · split <;> exact .of_hub (.refl _) rfl rfl rfl
  · exact .of_hub (.refl _) rfl rfl rfl

theorem aloof_stepProgram (w : World) (ref : Ref .program) : w.Aloof (w.stepProgram ref) := by
  have hsettle {w' : World} (h : w.Aloof w') (p : Program) : w.Aloof (w'.settleProgram ref p) :=
    h.trans (aloof_settleProgram _ ref p)
  unfold stepProgram
  cases w.programs.get? ref with
  | none => exact .refl w
  | some p =>
    dsimp only
    split
    · rename_i inbox _ _
      have hpull := w.aloof_pullMail (.remote p.client inbox)
      generalize w.pullMail (.remote p.client inbox) = pulled at hpull
      obtain ⟨w', found⟩ := pulled
      cases found with
      | pending => exact hpull
      | finished => exact hsettle hpull _
      | item e =>
        dsimp only
        cases e.answer? with
        | none => exact hpull
        | some answer => exact hsettle hpull _
    · have hpull := w.aloof_pullMail (.remote p.client p.inbox)
      generalize w.pullMail (.remote p.client p.inbox) = pulled at hpull
      obtain ⟨w', found⟩ := pulled
      cases found with
      | pending => exact hpull
      | finished | item e => exact hsettle hpull _

/-- A step of a task other than a session's reading half leaves connections alone. -/
theorem aloof_advance {t : Ref .task} {task : Task} (ht : w.tasks.get? t = some task)
    (hreads : ∀ s, task ≠ .readSession s) : w.Aloof (w.advance t task) := by
  cases task with
  | done => exact .refl w
  | dispatch a => exact (w.aloof_stepActivity a).1.setTask t fun _ => trivial
  | answer s id encoding work => exact aloof_stepAnswer ht
  | inside work progress inbox => exact w.aloof_stepInside t work progress inbox
  | call mail answer => exact w.aloof_stepCall t mail
  | readSession s => exact absurd rfl (hreads s)
  | writeSession s => exact w.aloof_stepWriteSession s
  | readRemote c => exact w.aloof_stepReadRemote c
  | writeRemote c => exact w.aloof_stepWriteRemote c
  | tick service => exact w.aloof_stepTick service
  | program p => exact w.aloof_stepProgram p

end World

end Exchange
