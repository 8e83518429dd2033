-- SUMMARY: The request counters of plugins are exact, whatever is under way and in whatever order it goes on.
import Exchange.Proofs.Dispatch.Counting
import Exchange.World.Schedule

/-!
# Counting requests

Whatever goes on in a world, a plugin counts as active the requests that
something stands for: a level in a dispatch that is under way, or a guard
around a stream that is being read. `World.accounts_advance` says so of the
step of any task, and `Bench.counters_exact` of whole runs, in which tasks go on
in any order, streams are read and dropped, and plugins start, stop, fail,
come and go.
-/

namespace Exchange

open Hub (Accounts Tallies)

/-! ## Tasks -/

section Guards

variable (p : Ref .plugin)

def Work.guards : Work → Nat
  | .dispatching a => a.guards p
  | .feeding f => f.guards p

def Task.guards : Task → Nat
  | .dispatch a => a.guards p
  | .answer _ _ _ work | .inside work _ _ => work.guards p
  | _ => 0

/-- What stands for active requests of the plugin in all tasks. -/
def World.guards (w : World) : Nat :=
  w.tasks.total (Task.guards p)

end Guards

/-- The dispatch that the task is about. -/
def Task.activity? : Task → Option Activity
  | .dispatch a | .answer _ _ _ (.dispatching a) | .inside (.dispatching a) _ _ => some a
  | _ => none

def World.activity? (w : World) (t : Ref .task) : Option Activity :=
  (w.tasks.get? t).bind Task.activity?

/-- A task to which nothing has happened. -/
def Task.IsFresh (t : Task) : Prop :=
  ∀ p, t.guards p = 0

theorem Activity.control_of_result? {a : Activity} {result : Result Stream} (h : a.result? = some result) :
    a.control = .settled result := by
  unfold result? at h
  split at h
  · rename_i hsettled
    cases h
    exact hsettled
  · cases h

namespace World

variable {w w' w'' : World}

/-! ## What has nothing to do with plugins -/

/-- Tasks may have come, but nothing has happened to them. -/
def Grows (w w' : World) : Prop :=
  ∃ new : List Task, w'.tasks.items.toList = w.tasks.items.toList ++ new ∧ ∀ t ∈ new, t.IsFresh

/-- The plugins that are there are left alone, and so are the tasks. -/
structure Aside (w w' : World) : Prop where
  plugins : ∀ p a, w.hub.plugins.get? p = some a → w'.hub.plugins.get? p = some a
  tasks : w.Grows w'

namespace Grows

theorem of_tasks (h : w'.tasks = w.tasks) : w.Grows w' :=
  ⟨[], by rw [h, List.append_nil], by simp⟩

theorem refl (w : World) : w.Grows w :=
  .of_tasks rfl

theorem trans (h : w.Grows w') (h' : w'.Grows w'') : w.Grows w'' := by
  obtain ⟨new, hnew, hfresh⟩ := h
  obtain ⟨new', hnew', hfresh'⟩ := h'
  refine ⟨new ++ new', by rw [hnew', hnew, List.append_assoc], ?_⟩
  intro t ht
  exact (List.mem_append.1 ht).elim (hfresh t) (hfresh' t)

theorem spawn (w : World) {t : Task} (ht : t.IsFresh) : w.Grows (w.spawn t).1 :=
  ⟨[t], by simp [World.spawn, addTask, Store.push], by simpa using ht⟩

theorem guards_eq (h : w.Grows w') (p : Ref .plugin) : w'.guards p = w.guards p := by
  obtain ⟨new, hnew, hfresh⟩ := h
  have hzero : addUp (Task.guards p) new = 0 := addUp_eq_zero fun t ht => hfresh t ht p
  rw [guards, guards, Store.total, Store.total, hnew, addUp_append, hzero, Nat.add_zero]

theorem get? (h : w.Grows w') {t : Ref .task} {task : Task} (ht : w.tasks.get? t = some task) :
    w'.tasks.get? t = some task := by
  obtain ⟨new, hnew, -⟩ := h
  rw [Store.get?, ← Array.getElem?_toList] at ht ⊢
  rw [hnew]
  exact List.getElem?_append_left (List.getElem?_eq_some_iff.1 ht).1 ▸ ht

end Grows

namespace Aside

theorem of_eq (hplugins : w'.hub.plugins = w.hub.plugins) (htasks : w'.tasks = w.tasks) : w.Aside w' :=
  ⟨fun p a ha => by rw [hplugins]; exact ha, .of_tasks htasks⟩

theorem refl (w : World) : w.Aside w :=
  .of_eq rfl rfl

theorem trans (h : w.Aside w') (h' : w'.Aside w'') : w.Aside w'' :=
  ⟨fun p a ha => h'.plugins p a (h.plugins p a ha), h.tasks.trans h'.tasks⟩

theorem spawn (w : World) {t : Task} (ht : t.IsFresh) : w.Aside (w.spawn t).1 :=
  ⟨fun _ _ ha => ha, .spawn w ht⟩

end Aside

/-! ## Mail -/

theorem modifyMailbox_eq (w : World) (f : Channel Client.Event → Channel Client.Event) (m : Mail) :
    (w.modifyMailbox f m).switch = w.switch ∧ (w.modifyMailbox f m).tasks = w.tasks := by
  cases m <;> exact ⟨rfl, rfl⟩

theorem pullMail_eq (w : World) (m : Mail) : (w.pullMail m).1.switch = w.switch ∧ (w.pullMail m).1.tasks = w.tasks := by
  unfold pullMail
  cases w.mailbox? m with
  | none => exact ⟨rfl, rfl⟩
  | some c => exact w.modifyMailbox_eq _ m

theorem grows_requestInside (w : World) (i : Insider) (r : Request) :
    (w.requestInside i r).1.switch = w.switch ∧ w.Grows (w.requestInside i r).1 := by
  unfold requestInside
  cases Client.validate r with
  | error e => exact ⟨rfl, .refl w⟩
  | ok _ =>
    dsimp only
    split
    · exact ⟨rfl, .refl w⟩
    · exact ⟨rfl, Grows.spawn { w with inboxes := w.inboxes.push { writers := 1 } } fun _ => rfl⟩

/-! ## Dispatches -/

variable (p : Ref .plugin)

/-- A step of a dispatch in the world; a call to a client is a matter of tasks and mail. -/
theorem accounts_stepActivity (w : World) (a : Activity) :
    Accounts p (a.begins p w.switch) (a.restates p w.switch) (a.guards p) ((w.stepActivity a).2.guards p) w.hub
        (w.stepActivity a).1.hub ∧ w.Grows (w.stepActivity a).1 := by
  have hstep : w.stepActivity a = ({ w with switch := (a.step w.switch).2 }, (a.step w.switch).1) →
      Accounts p (a.begins p w.switch) (a.restates p w.switch) (a.guards p) ((w.stepActivity a).2.guards p) w.hub
        (w.stepActivity a).1.hub ∧ w.Grows (w.stepActivity a).1 := by
    intro heq
    rw [heq]
    exact ⟨a.step_accounts p w.switch, .of_tasks rfl⟩
  cases ha : a.control with
  | run plan rest =>
    cases plan with
    | call client r k =>
      have hguards : a.guards p = a.standing p := Activity.guards_of_going p (by rw [ha]; rfl)
      have hnone : a.begins p w.switch = 0 ∧ a.restates p w.switch = 0 := by
        simp [Activity.begins, Activity.restates, ha]
      rw [hnone.1, hnone.2, hguards]
      simp only [stepActivity, ha, startCall]
      cases Members.get? client w.switch.insiders with
      | none => exact ⟨.congr (.refl _) rfl (a.guards_goTo p (by rfl)), .refl w⟩
      | some insider =>
        have hrequest := w.grows_requestInside insider r
        dsimp only
        generalize w.requestInside insider r = requested at hrequest
        obtain ⟨w', result⟩ := requested
        obtain ⟨hswitch, hgrows⟩ := hrequest
        have hhub : w'.hub.plugins = w.hub.plugins := congrArg (fun s : Switch => s.hub.plugins) hswitch
        cases result with
        | ok inbox => exact ⟨.congr (.of_plugins hhub) rfl (a.guards_goTo p (by rfl)), hgrows⟩
        | error e => exact ⟨.congr (.of_plugins hhub) rfl (a.guards_goTo p (by rfl)), hgrows⟩
    | _ => exact hstep (by simp only [stepActivity, ha])
  | await inbox k rest =>
    have hguards : a.guards p = a.standing p := Activity.guards_of_going p (by rw [ha]; rfl)
    have hnone : a.begins p w.switch = 0 ∧ a.restates p w.switch = 0 := by
      simp [Activity.begins, Activity.restates, ha]
    have hpull := w.pullMail_eq (.insider inbox)
    rw [hnone.1, hnone.2]
    simp only [stepActivity, ha, receiveCall]
    generalize w.pullMail (.insider inbox) = pulled at hpull
    obtain ⟨w', found⟩ := pulled
    obtain ⟨hswitch, htasks⟩ := hpull
    have hhub : w'.hub.plugins = w.hub.plugins := congrArg (fun s : Switch => s.hub.plugins) hswitch
    cases found with
    | pending => exact ⟨.of_plugins hhub, .of_tasks htasks⟩
    | finished =>
      rw [hguards]
      exact ⟨.congr (.of_plugins hhub) rfl (a.guards_goTo p (by rfl)), .of_tasks htasks⟩
    | item e =>
      dsimp only
      cases e.answer? with
      | none => exact ⟨.of_plugins hhub, .of_tasks htasks⟩
      | some answer =>
        rw [hguards]
        exact ⟨.congr (.of_plugins hhub) rfl (a.guards_goTo p (by rfl)), .of_tasks htasks⟩
  | next | call | back | unwind | settled => exact hstep (by simp only [stepActivity, ha])

/-! ## Requests -/

/-- The request comes to the plugin in the next step of the task, and is counted in. -/
def begins (w : World) (t : Ref .task) : Nat :=
  match w.activity? t with
  | some a => a.begins p w.switch
  | none => 0

/-- How often the next step of the task changes the state of the plugin. -/
def restates (w : World) (t : Ref .task) : Nat :=
  match w.activity? t with
  | some a => a.restates p w.switch
  | none => 0

/-- A change that keeps the accounts of the plugin, over all tasks. -/
def Accounts (begun restated : Nat) (w w' : World) : Prop :=
  Hub.Accounts p begun restated (w.guards p) (w'.guards p) w.hub w'.hub

variable {p}

theorem Aside.accounts (h : w.Aside w') : w.Accounts p 0 0 w' := by
  rw [World.Accounts, h.tasks.guards_eq]
  exact .of_tallies fun a ha => ⟨a, h.plugins p a ha, rfl, rfl, rfl⟩

/-- What a task does to the hub, it does with what stands for requests in that task. -/
theorem accounts_setTask {t : Ref .task} {task task' : Task} {begun restated : Nat} (ht : w.tasks.get? t = some task)
    (hgrows : w.Grows w')
    (h : Hub.Accounts p begun restated (task.guards p) (task'.guards p) w.hub w'.hub) :
    w.Accounts p begun restated (w'.setTask t task') := by
  have htotal : (w'.setTask t task').guards p + task.guards p = w'.guards p + task'.guards p :=
    Store.total_set (Task.guards p) (hgrows.get? ht) task'
  have hsame := hgrows.guards_eq p
  obtain ⟨ended, htallies, hguards⟩ := h
  exact ⟨ended, htallies, by omega⟩

theorem begins_eq {t : Ref .task} {task : Task} (ht : w.tasks.get? t = some task) :
    w.begins p t = task.activity?.elim 0 (·.begins p w.switch) := by
  rw [begins, activity?, ht, Option.bind_some]
  cases task.activity? <;> rfl

theorem restates_eq {t : Ref .task} {task : Task} (ht : w.tasks.get? t = some task) :
    w.restates p t = task.activity?.elim 0 (·.restates p w.switch) := by
  rw [restates, activity?, ht, Option.bind_some]
  cases task.activity? <;> rfl

/-- A dispatch that is settled becomes a feed, which is guarded like the result. -/
theorem accounts_stepWork (p : Ref .plugin) (w : World) (a : Activity) :
    Hub.Accounts p (a.begins p w.switch) (a.restates p w.switch) (a.guards p)
        ((w.stepWork (.dispatching a)).2.1.guards p) w.hub (w.stepWork (.dispatching a)).1.hub ∧
      w.Grows (w.stepWork (.dispatching a)).1 ∧ (w.stepWork (.dispatching a)).2.2 = .pending := by
  cases hresult : a.result? with
  | none =>
    obtain ⟨haccounts, hgrows⟩ := accounts_stepActivity p w a
    simp only [stepWork, hresult]
    exact ⟨haccounts, hgrows, trivial⟩
  | some result =>
    have ha := Activity.control_of_result? hresult
    have hguards : (Work.feeding (.ofResult result)).guards p = a.guards p := by
      simp only [Work.guards, Feed.guards_ofResult, Activity.guards, ha]
    simp only [stepWork, hresult, Activity.begins, Activity.restates, ha]
    exact ⟨.congr (.refl _) rfl hguards, .refl w, trivial⟩

theorem accounts_stepAnswer {t : Ref .task} {s : Ref .session} {id : Option RequestId} {encoding : Encoding}
    {work : Work} (ht : w.tasks.get? t = some (.answer s id encoding work)) :
    w.Accounts p (w.begins p t) (w.restates p t) (w.stepAnswer t s id encoding work) := by
  rw [begins_eq ht, restates_eq ht]
  cases work with
  | dispatching a =>
    obtain ⟨haccounts, hgrows, hpending⟩ := accounts_stepWork p w a
    simp only [stepAnswer]
    generalize w.stepWork (.dispatching a) = stepped at haccounts hgrows hpending
    obtain ⟨w', work', found⟩ := stepped
    obtain rfl := hpending
    exact accounts_setTask ht hgrows haccounts
  | feeding f =>
    have hpull := Hub.Accounts.pull_feed p w.hub f
    simp only [stepAnswer, stepWork]
    generalize f.pull w.hub = pulled at hpull
    obtain ⟨hub, f', found⟩ := pulled
    have hdrop := hpull.trans (.drop_feed p hub f')
    have hended : w.Accounts p 0 0 ((w.withHub hub).endJob t s (.feeding f')) :=
      accounts_setTask ht (.of_tasks rfl) hdrop
    cases found with
    | pending => exact accounts_setTask ht (.of_tasks rfl) hpull
    | finished => exact hended
    | item r =>
      dsimp only
      cases (w.withHub hub).sessions.get? s with
      | none => exact hended
      | some session =>
        dsimp only
        split
        · exact accounts_setTask ht (.of_tasks rfl) hpull
        · exact accounts_setTask ht (.of_tasks rfl) hdrop

theorem accounts_stepInside {t : Ref .task} {work : Work} {progress : Client.Progress} {inbox : Ref .inbox}
    (ht : w.tasks.get? t = some (.inside work progress inbox)) :
    w.Accounts p (w.begins p t) (w.restates p t) (w.stepInside t work progress inbox) := by
  rw [begins_eq ht, restates_eq ht]
  cases work with
  | dispatching a =>
    obtain ⟨haccounts, hgrows, hpending⟩ := accounts_stepWork p w a
    simp only [stepInside]
    generalize w.stepWork (.dispatching a) = stepped at haccounts hgrows hpending
    obtain ⟨w', work', found⟩ := stepped
    obtain rfl := hpending
    exact accounts_setTask ht hgrows haccounts
  | feeding f =>
    have hpull := Hub.Accounts.pull_feed p w.hub f
    simp only [stepInside, stepWork]
    generalize f.pull w.hub = pulled at hpull
    obtain ⟨hub, f', found⟩ := pulled
    have hdrop := hpull.trans (.drop_feed p hub f')
    cases found with
    | pending => exact accounts_setTask ht (.of_tasks rfl) hpull
    | finished => exact accounts_setTask ht (.of_tasks rfl) hdrop
    | item r =>
      dsimp only
      split
      · exact accounts_setTask ht (.of_tasks rfl) hdrop
      · exact accounts_setTask ht (.of_tasks rfl) hpull

theorem task_of_resultOf? {t : Ref .task} {result : Result Stream} (h : w.resultOf? t = some result) :
    ∃ a, w.tasks.get? t = some (.dispatch a) ∧ a.control = .settled result := by
  unfold resultOf? at h
  split at h
  · rename_i a ht
    exact ⟨a, ht, Activity.control_of_result? h⟩
  · cases h

theorem accounts_stepDispatch {t : Ref .task} {a : Activity} (ht : w.tasks.get? t = some (.dispatch a)) :
    w.Accounts p (w.begins p t) (w.restates p t) (w.advance t (.dispatch a)) := by
  obtain ⟨haccounts, hgrows⟩ := accounts_stepActivity p w a
  rw [begins_eq ht, restates_eq ht]
  exact accounts_setTask ht hgrows haccounts

theorem accounts_stepCall {t : Ref .task} {mail : Mail} {answer : Option (Except Client.Error (Option Value))}
    (ht : w.tasks.get? t = some (.call mail answer)) : w.Accounts p 0 0 (w.stepCall t mail) := by
  have hpull := w.pullMail_eq mail
  simp only [stepCall]
  generalize w.pullMail mail = pulled at hpull
  obtain ⟨w', found⟩ := pulled
  obtain ⟨hswitch, htasks⟩ := hpull
  have hhub : w'.hub.plugins = w.hub.plugins := congrArg (fun s : Switch => s.hub.plugins) hswitch
  have hleft : w.Accounts p 0 0 w' := (Aside.of_eq hhub htasks).accounts
  cases found with
  | pending => exact hleft
  | finished => exact accounts_setTask ht (.of_tasks htasks) (.of_plugins hhub)
  | item e =>
    dsimp only
    cases e.answer? with
    | none => exact hleft
    | some answer =>
      obtain ⟨hswitch', htasks'⟩ := w'.modifyMailbox_eq Channel.close mail
      refine accounts_setTask ht (.of_tasks (htasks'.trans htasks)) (.of_plugins (Eq.trans ?_ hhub))
      exact congrArg (fun s : Switch => s.hub.plugins) hswitch'

/-! ## Connections, clocks and commands -/

theorem aside_withHub (w : World) {hub : Hub} (h : hub.plugins = w.hub.plugins) : w.Aside (w.withHub hub) :=
  .of_eq h rfl

theorem aside_startJobs (w : World) (ref : Ref .session) (s : Session) (jobs : List Session.Job) :
    w.Aside (w.startJobs ref s jobs) := by
  unfold startJobs
  induction jobs generalizing w with
  | nil => exact .refl w
  | cons job jobs ih => exact (Aside.spawn w fun _ => rfl).trans (ih _)

theorem aside_tidySession (w : World) (s : Session) : w.Aside (w.tidySession s) := by
  unfold tidySession
  split <;> exact .of_eq rfl rfl

theorem aside_settleSession (w : World) (ref : Ref .session) (s : Session) : w.Aside (w.settleSession ref s) := by
  unfold settleSession
  dsimp only
  split
  · refine .trans ?_ (aside_tidySession _ s)
    exact .of_eq (w.hub.plugins_closeScope s.scope) rfl
  · exact .of_eq rfl rfl

theorem aside_stepReadSession (w : World) (ref : Ref .session) : w.Aside (w.stepReadSession ref) := by
  unfold stepReadSession
  cases w.sessions.get? ref with
  | none => exact .refl w
  | some s =>
    dsimp only
    split
    · exact w.aside_settleSession ref _
    · cases w.wires.get? s.wire with
      | none => exact .refl w
      | some wire =>
        dsimp only
        refine .trans ?_ (aside_settleSession _ ref _)
        refine .trans ?_ (aside_startJobs _ ref _ _)
        exact .of_eq rfl rfl

theorem aside_stepWriteSession (w : World) (ref : Ref .session) : w.Aside (w.stepWriteSession ref) := by
  unfold stepWriteSession
  cases w.sessions.get? ref with
  | none => exact .refl w
  | some s =>
    dsimp only
    refine .trans ?_ (aside_tidySession _ _)
    exact .of_eq rfl rfl

theorem aside_tidyRemote (w : World) (c : Client.Remote) : w.Aside (w.tidyRemote c) := by
  unfold tidyRemote
  split <;> exact .of_eq rfl rfl

theorem aside_stepReadRemote (w : World) (ref : Ref .remote) : w.Aside (w.stepReadRemote ref) := by
  unfold stepReadRemote
  cases w.remotes.get? ref with
  | none => exact .refl w
  | some c =>
    dsimp only
    cases w.wires.get? c.wire with
    | none => exact .refl w
    | some wire =>
      dsimp only
      refine .trans ?_ (aside_tidyRemote _ _)
      exact .of_eq rfl rfl

theorem aside_stepWriteRemote (w : World) (ref : Ref .remote) : w.Aside (w.stepWriteRemote ref) := by
  unfold stepWriteRemote
  cases w.remotes.get? ref with
  | none => exact .refl w
  | some c =>
    dsimp only
    refine .trans ?_ (aside_tidyRemote _ _)
    exact .of_eq rfl rfl

theorem aside_stepTick (w : World) (ref : Ref .service) : w.Aside (w.stepTick ref) := by
  unfold stepTick
  cases w.hub.services.get? ref with
  | none => exact .refl w
  | some s =>
    dsimp only
    split
    · exact .refl w
    · exact w.aside_withHub (Hub.plugins_publish _ s.manager _ w.clockMessage)

theorem aside_settleProgram (w : World) (ref : Ref .program) (p : Program) : w.Aside (w.settleProgram ref p) := by
  unfold settleProgram cutOff
  split
  · dsimp only
    split <;> exact .of_eq rfl rfl
  · exact .of_eq rfl rfl

theorem aside_pullMail (w : World) (m : Mail) : w.Aside (w.pullMail m).1 :=
  have hpull := w.pullMail_eq m
  .of_eq (congrArg (fun s : Switch => s.hub.plugins) hpull.1) hpull.2

theorem aside_stepProgram (w : World) (ref : Ref .program) : w.Aside (w.stepProgram ref) := by
  unfold stepProgram
  cases w.programs.get? ref with
  | none => exact .refl w
  | some p =>
    dsimp only
    split
    · rename_i inbox _ _
      have hpull := w.aside_pullMail (.remote p.client inbox)
      split
      · rename_i hpulled
        rw [hpulled] at hpull
        exact hpull
      · rename_i hpulled
        rw [hpulled] at hpull
        exact hpull.trans (aside_settleProgram _ ref _)
      · rename_i hpulled
        rw [hpulled] at hpull
        split
        · exact hpull
        · exact hpull.trans (aside_settleProgram _ ref _)
    · have hpull := w.aside_pullMail (.remote p.client p.inbox)
      split
      · rename_i hpulled
        rw [hpulled] at hpull
        exact hpull
      · rename_i hpulled
        rw [hpulled] at hpull
        exact hpull.trans (aside_settleProgram _ ref _)
      · rename_i hpulled
        rw [hpulled] at hpull
        exact hpull.trans (aside_settleProgram _ ref _)

/-! ## Steps -/

/-- A step of any task keeps the accounts. -/
theorem accounts_advance {t : Ref .task} {task : Task} (ht : w.tasks.get? t = some task) :
    w.Accounts p (w.begins p t) (w.restates p t) (w.advance t task) := by
  have hrest (hnone : task.activity? = none) (h : w.Accounts p 0 0 (w.advance t task)) :
      w.Accounts p (w.begins p t) (w.restates p t) (w.advance t task) := by
    rw [begins_eq ht, restates_eq ht, hnone]
    exact h
  cases task with
  | done => exact hrest rfl (Aside.refl w).accounts
  | dispatch a => exact accounts_stepDispatch ht
  | answer s id encoding work => exact accounts_stepAnswer ht
  | inside work progress inbox => exact accounts_stepInside ht
  | call mail answer => exact hrest rfl (accounts_stepCall ht)
  | readSession s => exact hrest rfl (w.aside_stepReadSession s).accounts
  | writeSession s => exact hrest rfl (w.aside_stepWriteSession s).accounts
  | readRemote c => exact hrest rfl (w.aside_stepReadRemote c).accounts
  | writeRemote c => exact hrest rfl (w.aside_stepWriteRemote c).accounts
  | tick service => exact hrest rfl (w.aside_stepTick service).accounts
  | program ref => exact hrest rfl (w.aside_stepProgram ref).accounts

end World

/-! ## Runs -/

/-- A world, and streams that were handed out of it. -/
structure Bench where
  world : World
  held : List Stream := []

/-- What can happen on a bench. -/
inductive Happening where
  /-- A task goes on. -/
  | go (t : Ref .task)
  /-- The result of a dispatch is collected; a stream is handed out. -/
  | collect (t : Ref .task)
  /-- Somebody reads a stream that was handed out. -/
  | read (n : Nat)
  | drop (n : Nat)
  | start (p : Ref .plugin)
  | stop (p : Ref .plugin)
  | fail (p : Ref .plugin) (error : String)
  | insert (p : Ref .plugin) (name : PluginName)
  | remove (name : PluginName)
  /-- Anything else: requests come, routes change, events are published and time goes by. -/
  | other (f : World → World) (h : ∀ w : World, w.Aside (f w))

def Result.streams : Result Stream → List Stream
  | .ok { body := .stream s, .. } => [s]
  | _ => []

theorem Result.addUp_streams (p : Ref .plugin) (result : Result Stream) :
    addUp (Stream.guards p) result.streams = result.guards p := by
  cases result with
  | error f => rfl
  | ok o =>
    obtain ⟨status, statusCode, body⟩ := o
    cases body with
    | empty | message v => rfl
    | stream s => simp [streams, guards, Body.guards, addUp]

namespace Bench

def withSwitch (b : Bench) (switch : Switch) : Bench :=
  { b with world := { b.world with switch } }

def after (b : Bench) : Happening → Bench
  | .go t =>
    match b.world.tasks.get? t with
    | some task => { b with world := b.world.advance t task }
    | none => b
  | .collect t =>
    match b.world.resultOf? t with
    | some result => ⟨b.world.setTask t .done, b.held ++ result.streams⟩
    | none => b
  | .read n =>
    match b.held[n]? with
    | some s => ⟨b.world.withHub (b.world.hub.pull s).1, b.held.modify n fun _ => (b.world.hub.pull s).2.1⟩
    | none => b
  | .drop n =>
    match b.held[n]? with
    | some s => ⟨b.world.withHub (b.world.hub.dropStream s), b.held.modify n fun _ => .ended⟩
    | none => b
  | .start p => b.withSwitch (b.world.switch.revisePlugin p Plugin.start)
  | .stop p => b.withSwitch (b.world.switch.stopPlugin p)
  | .fail p error => b.withSwitch (b.world.switch.revisePlugin p (Plugin.fail error))
  | .insert p name => b.withSwitch (b.world.switch.insertPlugin p name).1
  | .remove name => b.withSwitch (b.world.switch.removePlugin name).1
  | .other f _ => { b with world := f b.world }

def run (b : Bench) (xs : List Happening) : Bench :=
  xs.foldl after b

/-- Counts along a run. -/
def tally (count : Bench → Happening → Nat) (b : Bench) : List Happening → Nat
  | [] => 0
  | x :: xs => count b x + tally count (b.after x) xs

section Counts

variable (p : Ref .plugin)

/-- What stands for active requests of the plugin in the world, and around streams that were handed out. -/
def guards (b : Bench) : Nat :=
  b.world.guards p + addUp (Stream.guards p) b.held

/-- A request comes to the plugin while it is started. -/
def begins (b : Bench) : Happening → Nat
  | .go t => b.world.begins p t
  | _ => 0

/-- How often the state of the plugin changes: starting and stopping take two changes. -/
def restates (b : Bench) : Happening → Nat
  | .go t => b.world.restates p t
  | .start q | .stop q => if q = p then 2 else 0
  | .fail q _ => if q = p then 1 else 0
  | .insert q name => if q = p ∧ (b.world.switch.insertPlugin q name).2.toBool then 2 else 0
  | .remove name => if Members.get? name.text b.world.switch.registered = some p then 2 else 0
  | _ => 0

end Counts

variable {p : Ref .plugin}

/-! ### Steps -/

/-- What is done to a switch with nothing in hand. -/
theorem accounts_withSwitch (b : Bench) {s : Switch} {restated : Nat}
    (h : Tallies p 0 restated 0 b.world.hub s.hub) :
    Accounts p 0 restated (b.guards p) ((b.withSwitch s).guards p) b.world.hub (b.withSwitch s).world.hub :=
  .of_tallies h

theorem tallies_revise (h : Hub) (q : Ref .plugin) {f : Plugin → Plugin} {n : Nat}
    (hf : ∀ a : Plugin, a.Tallies 0 n 0 (f a)) : Tallies p 0 (if q = p then n else 0) 0 h (h.revisePlugin q f) := by
  split
  · rename_i hq
    exact hq ▸ .revise h hf
  · rename_i hq
    exact .revise_other h (Ne.symm hq) f

theorem tallies_insertPlugin (s : Switch) (q : Ref .plugin) (name : PluginName) :
    Tallies p 0 (if q = p ∧ (s.insertPlugin q name).2.toBool then 2 else 0) 0 s.hub (s.insertPlugin q name).1.hub := by
  have hdrop : Tallies p 0 0 0 s.hub (s.dropPlugin q).hub :=
    .revise_aside (f := fun a => { a with held := false }) _ q fun a => ⟨rfl, rfl, rfl⟩
  cases htaken : Members.get? name.text s.registered with
  | some q' =>
    simp only [Switch.insertPlugin, htaken, Except.toBool, Bool.false_eq_true, and_false, if_false]
    split
    · exact .of_plugins rfl
    · exact hdrop
  | none =>
    have hregister := s.hub_register s.root .below name.mountPrefix (.plugin q)
    simp only [Switch.insertPlugin, htaken, Switch.mountPlugin]
    generalize s.register s.root .below name.mountPrefix (.plugin q) = registered at hregister
    obtain ⟨s', result⟩ := registered
    have hhub : s'.hub = s.hub := hregister
    rw [← hhub]
    cases result with
    | error e =>
      simp only [Except.toBool, Bool.false_eq_true, and_false, if_false]
      exact .revise_aside (f := fun a => { a with held := false }) _ q fun a => ⟨rfl, rfl, rfl⟩
    | ok _ =>
      simp only [Except.toBool, and_true]
      exact tallies_revise s'.hub q fun a => ⟨rfl, rfl, rfl⟩

/-- What is done to a stream in hand. -/
theorem accounts_held (b : Bench) {n : Nat} {s s' : Stream} {hub : Hub} (hs : b.held[n]? = some s)
    (h : Accounts p 0 0 (s.guards p) (s'.guards p) b.world.hub hub) :
    Accounts p 0 0 (b.guards p) (Bench.guards p ⟨b.world.withHub hub, b.held.modify n fun _ => s'⟩) b.world.hub hub := by
  obtain ⟨ended, htallies, hguards⟩ := h
  have hsum := addUp_modify (Stream.guards p) (fun _ => s') hs
  have hworld : (b.world.withHub hub).guards p = b.world.guards p := rfl
  exact ⟨ended, htallies, by simp only [guards]; omega⟩

theorem accounts_after (b : Bench) (x : Happening) :
    Accounts p (b.begins p x) (b.restates p x) (b.guards p) ((b.after x).guards p) b.world.hub
      (b.after x).world.hub := by
  cases x with
  | go t =>
    simp only [after, begins, restates]
    cases ht : b.world.tasks.get? t with
    | none =>
      have hnone : b.world.activity? t = none := by
        rw [World.activity?, ht, Option.bind_none]
      simp only [World.begins, World.restates, hnone]
      exact .refl _
    | some task => exact (World.accounts_advance ht).add _
  | collect t =>
    simp only [after]
    cases hresult : b.world.resultOf? t with
    | none => exact .refl _
    | some result =>
      obtain ⟨a, ht, ha⟩ := World.task_of_resultOf? hresult
      have htotal : (b.world.setTask t .done).guards p + (Task.dispatch a).guards p =
          b.world.guards p + Task.guards p .done := Store.total_set (Task.guards p) ht .done
      have hstreams := result.addUp_streams p
      simp only [Task.guards, Activity.guards, ha] at htotal
      refine .congr (.refl _) rfl ?_
      simp only [guards, addUp_append, hstreams]
      omega
  | read n =>
    simp only [after]
    cases hs : b.held[n]? with
    | none => exact .refl _
    | some s => exact accounts_held b hs (.pull p b.world.hub s)
  | drop n =>
    simp only [after]
    cases hs : b.held[n]? with
    | none => exact .refl _
    | some s => exact accounts_held b hs (.dropStream p b.world.hub s)
  | start q => exact accounts_withSwitch b (tallies_revise _ q fun a => ⟨rfl, rfl, rfl⟩)
  | stop q => exact accounts_withSwitch b (b.world.switch.tallies_stopPlugin q)
  | fail q error => exact accounts_withSwitch b (tallies_revise _ q fun a => ⟨rfl, rfl, rfl⟩)
  | insert q name => exact accounts_withSwitch b (tallies_insertPlugin b.world.switch q name)
  | remove name => exact accounts_withSwitch b (b.world.switch.tallies_removePlugin name)
  | other f h => exact (h b.world).accounts.add _

/-! ### The counters -/

/-- The counters of a plugin after so many requests have begun and its state has changed so often. -/
structure Exact (p : Ref .plugin) (start : Plugin) (begun restated : Nat) (b : Bench) (a : Plugin) : Prop where
  plugin : b.world.hub.plugins.get? p = some a
  total : a.total = start.total + begun
  active : a.active = b.guards p
  /-- Each revision is a request that began, a change of state, or a request that ended, and each of the
  last took one off the active requests: there was always one to take off. -/
  revision : ∃ ended, a.active + ended = start.active + begun ∧
    a.revision = start.revision + begun + restated + ended

theorem Exact.after {start a : Plugin} {begun restated : Nat} {b : Bench} (e : b.Exact p start begun restated a)
    (x : Happening) :
    ∃ a', (b.after x).Exact p start (begun + b.begins p x) (restated + b.restates p x) a' := by
  obtain ⟨ended, htallies, hguards⟩ := b.accounts_after (p := p) x
  obtain ⟨a', ha', htotal, hactive, hrevision⟩ := htallies a e.plugin
  obtain ⟨before, hbefore, hrevised⟩ := e.revision
  have hsame := e.active
  have hsum := e.total
  exact ⟨a', ha', by omega, by omega, before + ended, by omega, by omega⟩

theorem Exact.run {start a : Plugin} {begun restated : Nat} {b : Bench} (e : b.Exact p start begun restated a)
    (xs : List Happening) :
    ∃ a', (b.run xs).Exact p start (begun + b.tally (begins p) xs) (restated + b.tally (restates p) xs) a' := by
  induction xs generalizing b begun restated a with
  | nil => exact ⟨a, e⟩
  | cons x xs ih =>
    obtain ⟨a', e'⟩ := e.after x
    obtain ⟨a'', e''⟩ := ih e'
    rw [tally, tally, ← Nat.add_assoc, ← Nat.add_assoc]
    exact ⟨a'', e''⟩

theorem guards_le_of_activity? {w : World} {t : Ref .task} {c : Activity} (h : w.activity? t = some c) :
    c.guards p ≤ w.guards p := by
  obtain ⟨task, ht, hc⟩ := Option.bind_eq_some_iff.1 h
  have htask : task.guards p = c.guards p := by
    unfold Task.activity? at hc
    split at hc <;> cases hc <;> rfl
  exact htask ▸ Store.le_total (Task.guards p) ht

/-- Reading a stream through a guard finds what reading it without the guard finds. -/
theorem reads_counted (p : Ref .plugin) (h : Hub) (latch : Latch) (s : Stream) {acts : List (Hub → Hub)}
    (hacts : ∀ act ∈ acts, Hub.Blind act) :
    (Feed.flow latch (.counted p s)).reads h acts = (Feed.flow latch s).reads h acts := by
  have hsame : Hub.Resembles (fun q => q = p) h h := .refl h
  rw [← Feed.reads_bare hsame (.flow latch (.counted p s)) hacts, ← Feed.reads_bare hsame (.flow latch s) hacts]
  simp [Feed.bare, Stream.bare]

/-- The counters of a new plugin after any run. As many requests were counted in as came to it while it was
started; those are active that a level of a dispatch or a guard around a stream stands for. A request that
falls through to the next candidate is counted out when that one's turn comes, and what is read through a
guard is what is read without it. -/
theorem counters_exact {w : World} {p : Ref .plugin} {start : Plugin} (hplugin : w.hub.plugins.get? p = some start)
    (hactive : start.active = 0) (htotal : start.total = 0) (hguards : w.guards p = 0) (xs : List Happening) :
    let b : Bench := Bench.run ⟨w, []⟩ xs
    let begun := tally (begins p) ⟨w, []⟩ xs
    let restated := tally (restates p) ⟨w, []⟩ xs
    ∃ a, b.world.hub.plugins.get? p = some a ∧ a.total = begun ∧ a.active = b.guards p ∧
      (∃ ended, a.active + ended = begun ∧ a.revision = start.revision + begun + restated + ended) ∧
      (∀ t c f path rest above, b.world.activity? t = some c → c.control = .back (.error f) → f.isNoRoute = true →
        c.stack = .plugin p path rest :: above → path ≠ "/" →
        (c.step b.world.switch).1.control = .next rest ∧
          (c.step b.world.switch).1.guards p + 1 = c.guards p ∧
          0 < a.active ∧ (c.step b.world.switch).2.plugin? p = some a.finish) ∧
      ∀ h latch s acts, (∀ act ∈ acts, Hub.Blind act) →
        (Feed.flow latch (.counted p s)).reads h acts = (Feed.flow latch s).reads h acts := by
  have hstart : Exact p start 0 0 ⟨w, []⟩ start := by
    refine ⟨hplugin, rfl, ?_, 0, rfl, rfl⟩
    rw [hactive, guards, hguards]
    rfl
  obtain ⟨a, hget, hsum, hsame, ended, hended, hrevision⟩ := hstart.run xs
  refine ⟨a, hget, by omega, hsame, ⟨ended, by omega, by omega⟩, ?_, fun h latch s acts => reads_counted p h latch s⟩
  intro t c f path rest above hc hcontrol hroute hstack hpath
  obtain ⟨hnext, hleft, hfinish⟩ := Activity.falls_through hcontrol hroute hstack hpath _
  have hle := guards_le_of_activity? (p := p) hc
  refine ⟨hnext, hleft, ?_, ?_⟩
  · rw [hsame, guards]
    omega
  · rw [hfinish]
    exact congrArg (Option.map Plugin.finish) hget

/-- A root router, a plugin whose router has a route that streams, and nothing else. -/
def streaming : World where
  switch :=
    { hub :=
        { scopes := .push {} {}
          plugins := .push {} { name := ⟨"p"⟩, version := "1", router := ⟨1⟩, scope := ⟨0⟩ } }
      routers := .push (.push {} {}) (Table.insert {} ⟨"/ticks", [.literal "ticks"]⟩ .exact (.handler ⟨0⟩))
      handlers := .push {} fun _ => .perform (.stream [] (some "sink")) fun _ => .done (.ok ()) }

/-- The plugin is inserted, and a request for its stream comes and is answered. -/
def streamed : List Happening :=
  [.insert ⟨0⟩ ⟨"p"⟩,
    .other (fun w => (w.spawn (.dispatch (.start ⟨0⟩ { path := "/p/ticks" } ⟨0⟩))).1) fun w => .spawn w fun _ => rfl] ++
    List.replicate 8 (.go ⟨0⟩) ++ [.collect ⟨0⟩]

theorem streamed_active :
    ∃ a, (Bench.run ⟨streaming, []⟩ streamed).world.hub.plugins.get? ⟨0⟩ = some a ∧ a.total = 1 ∧ a.active = 1 := by
  obtain ⟨a, ha, htotal, hactive, -⟩ := counters_exact (w := streaming) (p := ⟨0⟩) rfl rfl rfl rfl streamed
  have hbegun : tally (begins ⟨0⟩) ⟨streaming, []⟩ streamed = 1 := by decide +kernel
  have hguards : (Bench.run ⟨streaming, []⟩ streamed).guards ⟨0⟩ = 1 := by decide +kernel
  exact ⟨a, ha, htotal.trans hbegun, hactive.trans hguards⟩

end Bench

end Exchange
