-- SUMMARY: No subscription outlives its session or its listener, whatever is under way when they go.
import Exchange.Proofs.Attribution

/-!
# Lifetimes

A `Hosting` is a world together with all sessions that listeners ever accepted
in it. Whatever happens there, each of these is either among the connections of
its listener or gone: its scope is closed, and no manager holds a record of it
(`Hosting.nothing_outlives`). A session that ends closes its scope before its
connection is forgotten, and a listener that is taken down closes the scopes of
all connections it has left. Requests go on beyond either, but what they still
try to subscribe to is refused.
-/

namespace Exchange

open Hub (Ages KeepsTrack)

/-! ## Connections that go -/

namespace Listener

/-- Forgets the connection of a session, if it is one of this listener. -/
def forget (s : Ref .session) (l : Listener) : Listener :=
  match l.sessions.find? fun p => p.2 = s with
  | some (id, _) =>
    { l with connections := l.connections.remove id, sessions := l.sessions.filter fun p => p.2 ≠ s }
  | none => l

variable (s : Ref .session) (l : Listener)

theorem forget_frame : (l.forget s).running = l.running ∧
    (l.forget s).connections.issued = l.connections.issued ∧
    (∀ p ∈ (l.forget s).sessions, p ∈ l.sessions) ∧
    ∀ e ∈ (l.forget s).connections.entries, e ∈ l.connections.entries := by
  unfold forget
  split
  · exact ⟨rfl, rfl, fun p hp => (List.mem_filter.1 hp).1, fun e he => (List.mem_filter.1 he).1⟩
  · exact ⟨rfl, rfl, fun p hp => hp, fun e he => he⟩

/-- The connection that goes is the one of the session. -/
theorem mem_forget {e : Connection} (he : e ∈ l.connections.entries) :
    e ∈ (l.forget s).connections.entries ∨ ∃ p ∈ l.sessions, p.2 = s ∧ p.1 = e.id := by
  unfold forget
  split
  · rename_i id q hfind
    by_cases hid : e.id = id
    · right
      exact ⟨(id, q), List.mem_of_find?_eq_some hfind, by simpa using List.find?_some hfind, hid.symm⟩
    · left
      exact List.mem_filter.2 ⟨he, by simpa using hid⟩
  · exact .inl he

end Listener

namespace World

/-- Anything that leaves subscriptions, scopes, sessions and listeners as they are. Managers, scopes, sessions
and tasks may come. -/
structure Spares (w w' : World) : Prop where
  records : ∀ manager, w'.hub.records manager = w.hub.records manager
  hosts : ∀ manager, w.hub.hosts manager = true → w'.hub.hosts manager = true
  scopes : ∀ scope s, w.hub.scopes.get? scope = some s → w'.hub.scopes.get? scope = some s
  sessions : ∀ s x, w.sessions.get? s = some x → w'.sessions.get? s = some x
  listeners : w'.listeners = w.listeners
  tasks : ∀ t task, w'.tasks.get? t = some task →
    w.tasks.get? t = some task ∨ ∀ s id encoding work, task ≠ .answer s id encoding work

theorem Spares.aloof {w w' : World} (h : w.Spares w') : w.Aloof w' := by
  have hsessions : w.KeepsScopes w' := fun s x hx => ⟨x, h.sessions s x hx, rfl⟩
  refine ⟨⟨.of_views h.records h.hosts h.scopes, hsessions, fun hall t task ht => ?_⟩, h.listeners⟩
  rcases h.tasks t task ht with hold | hno
  · exact hsessions.belongs (hall t task hold)
  · cases task with
    | answer s id encoding work => exact absurd rfl (hno s id encoding work)
    | _ => trivial

end World

/-! ## Runs -/

/-- A session that a listener accepted. -/
structure Accepted where
  listener : Ref .listener
  /-- The id of its connection. -/
  id : ConnectionId
  session : Ref .session
  scope : Ref .scope
  deriving DecidableEq, Repr

/-- A world, and all sessions that listeners ever accepted in it. -/
structure Hosting where
  world : World
  accepted : List Accepted := []

/-- What can happen. -/
inductive Hosting.Event where
  /-- A task goes on: a request, a half of a session or of a client, a clock or a command. -/
  | go (t : Ref .task)
  | listen (path : String) (router : Ref .router) (limit : Nat)
  /-- A listener that runs accepts a connection. -/
  | accept (l : Ref .listener) (peer : String)
  | shutdown (l : Ref .listener)
  /-- A peer writes to its end of a connection or closes it, or the connection breaks. -/
  | wire (r : Ref .wire) (f : Wire → Wire)
  /-- Somebody publishes who is no handler. -/
  | publish (manager : Ref .manager) (topic : String) (message : Value)
  | finish (manager : Ref .manager) (sid : Sid)
  | close (scope : Ref .scope)
  /-- Anything else: clients send requests, files and routes change, and time goes by. -/
  | other (f : World → World) (h : ∀ w : World, w.Spares (f w))

namespace Hosting

def withHub (h : Hosting) (hub : Hub) : Hosting :=
  { h with world := h.world.withHub hub }

/-- A listener accepts a connection, and serves it with a new session that owns a new scope. -/
def welcome (h : Hosting) (l : Ref .listener) (listener : Listener) (peer : String) : Hosting where
  world := h.world.addWire.1.accept l listener h.world.addWire.2 peer
  accepted := h.accepted ++
    [⟨l, .nth (listener.connections.issued + 1), h.world.sessions.next, h.world.hub.scopes.next⟩]

def after (h : Hosting) : Event → Hosting
  | .go t =>
    match h.world.tasks.get? t with
    | some task => { h with world := h.world.advance t task }
    | none => h
  | .listen path router limit => { h with world := (h.world.listen path router limit).1 }
  | .accept l peer =>
    match h.world.listeners.get? l with
    | some listener => if listener.running then h.welcome l listener peer else h
    | none => h
  | .shutdown l => { h with world := h.world.shutdown l }
  | .wire r f => { h with world := h.world.modifyWire r f }
  | .publish manager topic message => h.withHub (h.world.hub.publish manager topic message).1
  | .finish manager sid => h.withHub (h.world.hub.finish manager sid).1
  | .close scope => h.withHub (h.world.hub.closeScope scope).1
  | .other f _ => { h with world := f h.world }

def run (h : Hosting) (events : List Event) : Hosting :=
  events.foldl after h

/-- The session is among the connections of its listener. -/
def Lists (h : Hosting) (a : Accepted) : Prop :=
  ∃ listener, h.world.listeners.get? a.listener = some listener ∧
    ∃ e ∈ listener.connections.entries, e.id = a.id ∧ e.scope = a.scope

/-- The scope of the session is closed, and no manager holds a record of it. -/
def Released (h : Hosting) (a : Accepted) : Prop :=
  h.world.hub.isClosed a.scope = true ∧ ∀ manager, ∀ r ∈ h.world.hub.records manager, r.scope ≠ a.scope

/-- There are so few managers and connections that their ids are distinct. -/
structure Bounded (h : Hosting) : Prop where
  few : h.world.hub.Few
  issued : ∀ l listener, h.world.listeners.get? l = some listener → listener.connections.issued < 16 ^ 12

/-! ## The invariant -/

/-- Subscriptions are tracked and requests attributed; the sessions that a listener accepted are listed until
their scopes are closed; and a listener that does not run lists nothing. -/
structure Sound (h : Hosting) : Prop where
  tracked : h.world.hub.Tracked
  attributed : h.world.Attributed
  session : ∀ a ∈ h.accepted, ∃ x, h.world.sessions.get? a.session = some x ∧ x.scope = a.scope
  scope : ∀ a ∈ h.accepted, ∃ s, h.world.hub.scopes.get? a.scope = some s
  kept : ∀ a ∈ h.accepted, h.Lists a ∨ h.world.hub.isClosed a.scope = true
  apart : ∀ a ∈ h.accepted, ∀ b ∈ h.accepted, a.listener = b.listener → a.id = b.id → a = b
  numbered : ∀ a ∈ h.accepted, ∃ listener n, h.world.listeners.get? a.listener = some listener ∧
    n ≤ listener.connections.issued ∧ a.id = .nth n
  serving : ∀ l listener, h.world.listeners.get? l = some listener → ∀ p ∈ listener.sessions,
    ∃ a ∈ h.accepted, a.listener = l ∧ a.id = p.1 ∧ a.session = p.2
  stopped : ∀ l listener, h.world.listeners.get? l = some listener → listener.running = false →
    listener.connections.entries = []

/-- Listeners stay, give out more and more ids, and run no more once they have stopped. -/
def Outlasts (w w' : World) : Prop :=
  ∀ l listener, w.listeners.get? l = some listener → ∃ listener', w'.listeners.get? l = some listener' ∧
    listener.connections.issued ≤ listener'.connections.issued ∧
    (listener.running = false → listener'.running = false)

/-- What comes after a sound hosting is sound. -/
structure Leads (h h' : Hosting) : Prop where
  ages : Ages h.world.hub h'.world.hub
  listeners : Outlasts h.world h'.world
  sound : h'.Bounded → h.Sound → h'.Sound

variable {h h' h'' : Hosting}

theorem Outlasts.of_eq {w w' : World} (hsame : w'.listeners = w.listeners) : Outlasts w w' :=
  fun _ listener hl => ⟨listener, hsame ▸ hl, Nat.le_refl _, id⟩

theorem Outlasts.trans {w w' w'' : World} (a : Outlasts w w') (b : Outlasts w' w'') : Outlasts w w'' := by
  intro l listener hl
  obtain ⟨listener', hl', hissued, hstopped⟩ := a l listener hl
  obtain ⟨listener'', hl'', hissued', hstopped'⟩ := b l listener' hl'
  exact ⟨listener'', hl'', Nat.le_trans hissued hissued', fun hs => hstopped' (hstopped hs)⟩

/-- A number that was given out stays given out. -/
theorem Outlasts.numbered {w w' : World} (o : Outlasts w w') {l : Ref .listener} {id : ConnectionId}
    (hid : ∃ listener n, w.listeners.get? l = some listener ∧ n ≤ listener.connections.issued ∧ id = .nth n) :
    ∃ listener n, w'.listeners.get? l = some listener ∧ n ≤ listener.connections.issued ∧ id = .nth n := by
  obtain ⟨listener, n, hl, hn, hid⟩ := hid
  obtain ⟨listener', hl', hissued, -⟩ := o l listener hl
  exact ⟨listener', n, hl', Nat.le_trans hn hissued, hid⟩

theorem Bounded.of_older (b : h'.Bounded) (hages : Ages h.world.hub h'.world.hub)
    (hlisteners : Outlasts h.world h'.world) : h.Bounded where
  few := hages.few b.few
  issued l listener hl := by
    obtain ⟨listener', hl', hissued, -⟩ := hlisteners l listener hl
    exact Nat.lt_of_le_of_lt hissued (b.issued l listener' hl')

namespace Leads

theorem refl (h : Hosting) : h.Leads h :=
  ⟨.refl _, .of_eq rfl, fun _ a => a⟩

theorem trans (a : h.Leads h') (b : h'.Leads h'') : h.Leads h'' where
  ages := a.ages.trans b.ages
  listeners := a.listeners.trans b.listeners
  sound hbounded hsound := b.sound hbounded (a.sound (hbounded.of_older b.ages b.listeners) hsound)

/-- Where no session is accepted, all depends on what becomes of the connections that are listed. -/
theorem of_carries {w' : World} (hcarries : h.world.Carries w') (hlisteners : Outlasts h.world w')
    (hback : ∀ l listener', w'.listeners.get? l = some listener' →
      listener'.sessions = [] ∧ listener'.connections.entries = [] ∨
        ∃ listener, h.world.listeners.get? l = some listener ∧ listener.running = listener'.running ∧
          (∀ p ∈ listener'.sessions, p ∈ listener.sessions) ∧
          ∀ e ∈ listener'.connections.entries, e ∈ listener.connections.entries)
    (hkept : h.Sound → ∀ a ∈ h.accepted, h.Lists a →
      Hosting.Lists { h with world := w' } a ∨ w'.hub.isClosed a.scope = true) :
    h.Leads { h with world := w' } where
  ages := hcarries.hub.toAges
  listeners := hlisteners
  sound hbounded hsound :=
    { tracked := hcarries.hub.tracked hbounded.few hsound.tracked
      attributed := hcarries.tasks hsound.attributed
      session := fun a ha => hcarries.sessions.exists_session (hsound.session a ha)
      scope := fun a ha => hcarries.hub.exists_scope (hsound.scope a ha)
      kept := by
        intro a ha
        obtain ⟨s, hs⟩ := hsound.scope a ha
        exact (hsound.kept a ha).elim (hkept hsound a ha) fun hclosed => .inr (hcarries.hub.isClosed hs hclosed)
      apart := hsound.apart
      numbered := fun a ha => hlisteners.numbered (hsound.numbered a ha)
      serving := by
        intro l listener' hl' p hp
        rcases hback l listener' hl' with ⟨hnone, -⟩ | ⟨listener, hl, -, hsessions, -⟩
        · rw [hnone] at hp
          cases hp
        · exact hsound.serving l listener hl p (hsessions p hp)
      stopped := by
        intro l listener' hl' hstopped
        rcases hback l listener' hl' with ⟨-, hnone⟩ | ⟨listener, hl, hrunning, -, hentries⟩
        · exact hnone
        · have hempty := hsound.stopped l listener hl (hrunning.trans hstopped)
          refine List.eq_nil_iff_forall_not_mem.2 fun e he => ?_
          have hold := hentries e he
          rw [hempty] at hold
          cases hold }

theorem of_aloof {w' : World} (haloof : h.world.Aloof w') : h.Leads { h with world := w' } := by
  refine .of_carries haloof.toCarries (.of_eq haloof.listeners) ?_ ?_
  · intro l listener' hl'
    rw [haloof.listeners] at hl'
    exact .inr ⟨listener', hl', rfl, fun p hp => hp, fun e he => he⟩
  · rintro - a - ⟨listener, hl, hentry⟩
    exact .inl ⟨listener, (congrArg (fun s => s.get? a.listener) haloof.listeners).trans hl, hentry⟩

end Leads

/-! ## Sessions that end -/

/-- The scope of a session that ends is closed before its connection is forgotten. -/
theorem leads_settleSession (h : Hosting) {ref : Ref .session} {x s : Session}
    (hx : h.world.sessions.get? ref = some x) (hscope : s.scope = x.scope) :
    h.Leads { h with world := h.world.settleSession ref s } := by
  have hput : h.world.KeepsScopes { h.world with sessions := h.world.sessions.set ref s } := by
    refine .modify _ ref fun y hy => ?_
    rw [hx] at hy
    cases hy
    exact hscope
  unfold World.settleSession
  cases s.reader with
  | reading | aborted => exact .of_aloof (.of_tasks (.refl _) rfl hput rfl)
  | ended result =>
    dsimp only
    generalize hw : World.forgetSession _ ref = w'
    have hhub : w'.hub = (h.world.hub.closeScope s.scope).1 := hw ▸ rfl
    have hlisteners : w'.listeners = h.world.listeners.map (Listener.forget ref) := hw ▸ rfl
    have hget (l : Ref .listener) : w'.listeners.get? l = (h.world.listeners.get? l).map (Listener.forget ref) := by
      rw [hlisteners, Store.get?_map]
    have hsessions : h.world.KeepsScopes w' := hw ▸ hput
    have hended : h.Leads { h with world := w' } := by
      refine .of_carries (.of_tasks (hhub ▸ Hub.keepsTrack_closeScope _ s.scope) hsessions (hw ▸ rfl)) ?_ ?_ ?_
      · intro l listener hl
        obtain ⟨hrunning, hissued, -⟩ := listener.forget_frame ref
        exact ⟨listener.forget ref, by rw [hget, hl, Option.map_some], Nat.le_of_eq hissued.symm, hrunning.trans⟩
      · intro l listener' hl'
        rw [hget] at hl'
        obtain ⟨listener, hl, rfl⟩ := Option.map_eq_some_iff.1 hl'
        obtain ⟨hrunning, -, hlist, hentries⟩ := listener.forget_frame ref
        exact .inr ⟨listener, hl, hrunning.symm, hlist, hentries⟩
      · rintro hsound a ha ⟨listener, hl, e, he, hid, hescope⟩
        rcases listener.mem_forget ref he with hstill | ⟨p, hp, hpsession, hpid⟩
        · left
          refine ⟨listener.forget ref, ?_, e, hstill, hid, hescope⟩
          show w'.listeners.get? a.listener = _
          rw [hget, hl, Option.map_some]
        · right
          obtain ⟨b, hb, hblistener, hbid, hbsession⟩ := hsound.serving _ listener hl p hp
          obtain rfl : a = b := hsound.apart a ha b hb hblistener.symm (by rw [hbid, hpid, hid])
          obtain ⟨y, hy, hyscope⟩ := hsound.session a ha
          rw [hbsession, hpsession, hx] at hy
          cases hy
          show w'.hub.isClosed a.scope = true
          rw [hhub, ← hyscope, ← hscope]
          exact Hub.isClosed_closeScope _ _
    exact hended.trans (.of_aloof (w'.aloof_tidySession s))

theorem leads_stepReadSession (h : Hosting) (ref : Ref .session) :
    h.Leads { h with world := h.world.stepReadSession ref } := by
  unfold World.stepReadSession
  cases hx : h.world.sessions.get? ref with
  | none => exact .refl h
  | some x =>
    dsimp only
    split
    · exact h.leads_settleSession hx (x.scope_finish _)
    · cases h.world.wires.get? x.wire with
      | none => exact .refl h
      | some wire =>
        dsimp only
        have hscope := x.scope_read (wire.read .server).2.1 (wire.read .server).2.2
        generalize x.read (wire.read .server).2.1 (wire.read .server).2.2 = read at hscope
        obtain ⟨s, jobs⟩ := read
        generalize hw : World.mk .. = w
        have hread : h.world.Aloof w := hw ▸ .of_hub (.refl _) rfl rfl rfl
        have hwx : w.sessions.get? ref = some x := by
          rw [← hw]
          exact hx
        have hjobs := w.aloof_startJobs hwx hscope.symm jobs
        obtain ⟨y, hy, hyscope⟩ := hjobs.sessions ref x hwx
        have hsettle := leads_settleSession { h with world := w.startJobs ref s jobs } hy (hscope.trans hyscope.symm)
        exact (Leads.of_aloof (hread.trans hjobs)).trans hsettle

/-! ## Listeners -/

theorem leads_listen (h : Hosting) (path : String) (router : Ref .router) (limit : Nat) :
    h.Leads { h with world := (h.world.listen path router limit).1 } := by
  simp only [World.listen]
  cases h.world.files.bind path h.world.listeners.next with
  | error e => exact .refl h
  | ok files =>
    have hold {l : Ref .listener} {listener : Listener} (hl : h.world.listeners.get? l = some listener) :
        (h.world.listeners.push { path, router, limit }).get? l = some listener := by
      rwa [Store.get?_push_of_ne _ (Store.ne_next_of_get? hl)]
    refine .of_carries (.of_tasks (.refl _) (.of_eq rfl) rfl) ?_ ?_ ?_
    · exact fun l listener hl => ⟨listener, hold hl, Nat.le_refl _, id⟩
    · intro l listener' hl'
      have hl' : (h.world.listeners.push { path, router, limit }).get? l = some listener' := hl'
      by_cases hnew : l = h.world.listeners.next
      · left
        rw [hnew, Store.get?_push_next] at hl'
        cases hl'
        exact ⟨rfl, rfl⟩
      · right
        rw [Store.get?_push_of_ne _ hnew] at hl'
        exact ⟨listener', hl', rfl, fun p hp => hp, fun e he => he⟩
    · rintro - a - ⟨listener, hl, hentry⟩
      exact .inl ⟨listener, hold hl, hentry⟩

/-- Aborting sessions leaves their scopes as they are. -/
theorem keepsScopes_abort (w : World) (sessions : List (ConnectionId × Ref .session)) :
    w.KeepsScopes
      { w with
        sessions := sessions.foldl
          (fun (store : Store .session Session) p => store.modify p.2 fun s => { s with reader := .aborted })
          w.sessions } := by
  induction sessions generalizing w with
  | nil => exact .of_eq rfl
  | cons p sessions ih =>
    exact (World.KeepsScopes.modify w p.2 (f := fun s => { s with reader := .aborted }) fun _ _ => rfl).trans (ih _)

/-- The scopes of all connections that a listener has left close with it. -/
theorem leads_shutdown (h : Hosting) (l : Ref .listener) : h.Leads { h with world := h.world.shutdown l } := by
  unfold World.shutdown
  cases hl : h.world.listeners.get? l with
  | none => exact .refl h
  | some listener =>
    dsimp only
    split
    · exact .refl h
    · generalize hdown : Listener.mk .. = down
      generalize hw : World.withHub _ _ = w'
      have hhub : w'.hub = (listener.connections.closeAll h.world.hub).2.1 := hw ▸ rfl
      have hget (q : Ref .listener) : w'.listeners.get? q = if q = l then some down else h.world.listeners.get? q := by
        rw [← hw]
        exact Store.get?_set hl down q
      have hsessions : h.world.KeepsScopes w' := hw ▸ keepsScopes_abort h.world listener.sessions
      refine .of_carries (.of_tasks (hhub ▸ h.world.hub.keepsTrack_closeAll _) hsessions (hw ▸ rfl)) ?_ ?_ ?_
      · intro q other hq
        by_cases hql : q = l
        · subst hql
          rw [hl] at hq
          cases hq
          refine ⟨down, by rw [hget, if_pos rfl], ?_, fun _ => ?_⟩
          · subst hdown
            exact Nat.le_refl _
          · subst hdown
            rfl
        · exact ⟨other, by rw [hget, if_neg hql, hq], Nat.le_refl _, id⟩
      · intro q other hq
        rw [hget] at hq
        split at hq
        · cases hq
          subst hdown
          exact .inl ⟨rfl, rfl⟩
        · exact .inr ⟨other, hq, rfl, fun p hp => hp, fun e he => he⟩
      · rintro hsound a ha ⟨other, hother, e, he, hid, hescope⟩
        by_cases hal : a.listener = l
        · right
          rw [hal, hl] at hother
          cases hother
          obtain ⟨s, hs⟩ := hsound.scope a ha
          rw [hhub, ← hescope]
          exact h.world.hub.isClosed_closeAll he (hescope ▸ hs)
        · left
          refine ⟨other, ?_, e, he, hid, hescope⟩
          show w'.listeners.get? a.listener = _
          rw [hget, if_neg hal, hother]

/-- Serving a connection adds a session and a scope, and what is there goes on as it was. -/
theorem carries_accept (w : World) (l : Ref .listener) (listener : Listener) (wire : Ref .wire) (peer : String) :
    w.Carries (w.accept l listener wire peer) := by
  generalize hs :
    ({ router := listener.router, scope := w.hub.scopes.next, limit := listener.limit, wire } : Session) = s
  generalize hw : ({ w with switch := w.switch.addScope.1, sessions := w.sessions.push s } : World) = w₁
  have hsession : w.KeepsScopes w₁ := by
    intro q x hq
    exact ⟨x, by rw [← hw, Store.get?_push_of_ne _ (Store.ne_next_of_get? hq), hq], rfl⟩
  have hserve : w.Carries w₁ := .of_tasks (hw ▸ w.hub.keepsTrack_openScope) hsession (hw ▸ rfl)
  have hread : w₁.Aloof (w₁.spawn (.readSession w.sessions.next)).1 := .spawn w₁ fun _ => trivial
  have hwrite : (w₁.spawn (.readSession w.sessions.next)).1.Aloof
      ((w₁.spawn (.readSession w.sessions.next)).1.spawn (.writeSession w.sessions.next)).1 :=
    .spawn _ fun _ => trivial
  have hall := (hserve.trans hread.toCarries).trans hwrite.toCarries
  subst hw hs
  exact ⟨hall.hub, hall.sessions, hall.tasks⟩

/-- The session `a` is accepted: `served` is what becomes of the listener. -/
structure Welcomes (h h' : Hosting) (a : Accepted) (listener served : Listener) : Prop where
  carries : h.world.Carries h'.world
  accepted : h'.accepted = h.accepted ++ [a]
  session : ∃ x, h'.world.sessions.get? a.session = some x ∧ x.scope = a.scope
  scope : ∃ s, h'.world.hub.scopes.get? a.scope = some s
  id : a.id = .nth (listener.connections.issued + 1)
  listeners : ∀ q, h'.world.listeners.get? q = if q = a.listener then some served else h.world.listeners.get? q
  running : served.running = listener.running
  issued : served.connections.issued = listener.connections.issued + 1
  entries : ∃ peer, served.connections.entries = listener.connections.entries ++ [⟨a.id, peer, a.scope⟩]
  sessions : served.sessions = listener.sessions ++ [(a.id, a.session)]

theorem exists_welcomes (h : Hosting) {l : Ref .listener} {listener : Listener}
    (hl : h.world.listeners.get? l = some listener) (peer : String) :
    ∃ a served, a.listener = l ∧ h.Welcomes (h.welcome l listener peer) a listener served := by
  refine ⟨⟨l, .nth (listener.connections.issued + 1), h.world.sessions.next, h.world.hub.scopes.next⟩,
    { listener with
      connections := (listener.connections.create peer h.world.hub.scopes.next).1
      sessions := listener.sessions ++ [(.nth (listener.connections.issued + 1), h.world.sessions.next)] },
    rfl, ?_, rfl, ⟨_, Store.get?_push_next _ _, rfl⟩, ⟨_, Store.get?_push_next _ _⟩, rfl, ?_, rfl, rfl, ⟨peer, rfl⟩,
    rfl⟩
  · have hwire : h.world.Carries h.world.addWire.1 := .of_tasks (.refl _) (.of_eq rfl) rfl
    exact hwire.trans (carries_accept _ l listener _ peer)
  · exact fun q => Store.get?_set hl _ q

namespace Welcomes

variable {a : Accepted} {listener served : Listener} (welcomes : h.Welcomes h' a listener served)
  (hl : h.world.listeners.get? a.listener = some listener)

include welcomes hl

theorem outlasts : Outlasts h.world h'.world := by
  intro q other hq
  by_cases hqa : q = a.listener
  · rw [hqa, hl] at hq
    cases hq
    refine ⟨served, by rw [welcomes.listeners, if_pos hqa], ?_, welcomes.running.trans⟩
    exact welcomes.issued ▸ Nat.le_succ _
  · exact ⟨other, by rw [welcomes.listeners, if_neg hqa, hq], Nat.le_refl _, fun hs => hs⟩

/-- A session that is listed stays listed, and so is the new one. -/
theorem lists : h'.Lists a ∧ ∀ b, h.Lists b → h'.Lists b := by
  obtain ⟨peer, hentries⟩ := welcomes.entries
  have hserved : h'.world.listeners.get? a.listener = some served := by rw [welcomes.listeners, if_pos rfl]
  refine ⟨⟨served, hserved, ⟨a.id, peer, a.scope⟩, by simp [hentries], rfl, rfl⟩, ?_⟩
  rintro b ⟨other, hother, e, he, heb⟩
  by_cases hb : b.listener = a.listener
  · rw [hb, hl] at hother
    cases hother
    exact ⟨served, hb ▸ hserved, e, hentries ▸ List.mem_append_left _ he, heb⟩
  · exact ⟨other, by rw [welcomes.listeners, if_neg hb, hother], e, he, heb⟩

theorem leads (hrunning : listener.running = true) : h.Leads h' := by
  have houtlasts := welcomes.outlasts hl
  obtain ⟨hnew, hold⟩ := welcomes.lists hl
  have hserved : h'.world.listeners.get? a.listener = some served := by rw [welcomes.listeners, if_pos rfl]
  refine ⟨welcomes.carries.hub.toAges, houtlasts, fun hbounded hsound => ?_⟩
  have hmem {b : Accepted} (hb : b ∈ h'.accepted) : b ∈ h.accepted ∨ b = a := by
    simpa [welcomes.accepted] using hb
  -- the id is new: those given out before have smaller numbers
  have hfresh {b : Accepted} (hb : b ∈ h.accepted) (hlistener : b.listener = a.listener) : b.id ≠ a.id := by
    intro heq
    obtain ⟨other, n, hother, hn, hid⟩ := hsound.numbered b hb
    rw [hlistener, hl] at hother
    cases hother
    have hbound := hbounded.issued _ served hserved
    rw [welcomes.issued] at hbound
    rw [hid, welcomes.id] at heq
    have hsame := ConnectionId.nth_inj (by omega) hbound heq
    omega
  exact
    { tracked := welcomes.carries.hub.tracked hbounded.few hsound.tracked
      attributed := welcomes.carries.tasks hsound.attributed
      session := by
        intro b hb
        rcases hmem hb with hb | rfl
        · exact welcomes.carries.sessions.exists_session (hsound.session b hb)
        · exact welcomes.session
      scope := by
        intro b hb
        rcases hmem hb with hb | rfl
        · exact welcomes.carries.hub.exists_scope (hsound.scope b hb)
        · exact welcomes.scope
      kept := by
        intro b hb
        rcases hmem hb with hb | rfl
        · obtain ⟨s, hs⟩ := hsound.scope b hb
          exact (hsound.kept b hb).imp (hold b) (welcomes.carries.hub.isClosed hs)
        · exact .inl hnew
      apart := by
        intro b hb c hc hlistener hid
        rcases hmem hb with hb | rfl
        · rcases hmem hc with hc | rfl
          · exact hsound.apart b hb c hc hlistener hid
          · exact absurd hid (hfresh hb hlistener)
        · rcases hmem hc with hc | rfl
          · exact absurd hid.symm (hfresh hc hlistener.symm)
          · rfl
      numbered := by
        intro b hb
        rcases hmem hb with hb | rfl
        · exact houtlasts.numbered (hsound.numbered b hb)
        · exact ⟨served, _, hserved, Nat.le_of_eq welcomes.issued.symm, welcomes.id⟩
      serving := by
        intro q other hq p hp
        have hsome (hp : ∃ b ∈ h.accepted, b.listener = q ∧ b.id = p.1 ∧ b.session = p.2) :
            ∃ b ∈ h'.accepted, b.listener = q ∧ b.id = p.1 ∧ b.session = p.2 := by
          obtain ⟨b, hb, hbq⟩ := hp
          exact ⟨b, welcomes.accepted ▸ List.mem_append_left _ hb, hbq⟩
        rw [welcomes.listeners] at hq
        split at hq
        · rename_i hqa
          cases hq
          rw [welcomes.sessions, List.mem_append, List.mem_singleton] at hp
          rcases hp with hp | rfl
          · exact hsome (hsound.serving q listener (hqa ▸ hl) p hp)
          · exact ⟨a, by simp [welcomes.accepted], hqa.symm, rfl, rfl⟩
        · exact hsome (hsound.serving q other hq p hp)
      stopped := by
        intro q other hq hstopped
        rw [welcomes.listeners] at hq
        split at hq
        · cases hq
          rw [welcomes.running, hrunning] at hstopped
          cases hstopped
        · exact hsound.stopped q other hq hstopped }

end Welcomes

/-! ## Steps and runs -/

theorem leads_withHub (h : Hosting) {hub : Hub} (hkeeps : KeepsTrack h.world.hub hub) : h.Leads (h.withHub hub) :=
  .of_aloof (.withHub h.world hkeeps)

/-- Whatever happens leads from a sound hosting to a sound one. -/
theorem leads_after (h : Hosting) (e : Event) : h.Leads (h.after e) := by
  cases e with
  | go t =>
    simp only [after]
    cases ht : h.world.tasks.get? t with
    | none => exact .refl h
    | some task =>
      cases task with
      | readSession s => exact h.leads_stepReadSession s
      | _ => exact .of_aloof (World.aloof_advance ht fun _ heq => by cases heq)
  | listen path router limit => exact h.leads_listen path router limit
  | accept l peer =>
    simp only [after]
    cases hl : h.world.listeners.get? l with
    | none => exact .refl h
    | some listener =>
      dsimp only
      split
      · rename_i hrunning
        obtain ⟨a, served, rfl, welcomes⟩ := h.exists_welcomes hl peer
        exact welcomes.leads hl hrunning
      · exact .refl h
  | shutdown l => exact h.leads_shutdown l
  | wire r f => exact .of_aloof (.of_hub (.refl _) rfl rfl rfl)
  | publish manager topic message => exact h.leads_withHub (Hub.keepsTrack_publish _ manager topic message)
  | finish manager sid => exact h.leads_withHub (Hub.keepsTrack_finish _ manager sid)
  | close scope => exact h.leads_withHub (Hub.keepsTrack_closeScope _ scope)
  | other f hf => exact .of_aloof (hf h.world).aloof

theorem leads_run (h : Hosting) (events : List Event) : h.Leads (h.run events) := by
  induction events generalizing h with
  | nil => exact .refl h
  | cons e events ih => exact (h.leads_after e).trans (ih _)

theorem run_append (h : Hosting) (before rest : List Event) : h.run (before ++ rest) = (h.run before).run rest :=
  List.foldl_append

/-! ## Nothing outlives its owner -/

/-- No listener has accepted anything as yet, and what was subscribed to otherwise is tracked. -/
structure Opens (w : World) : Prop where
  tracked : w.hub.Tracked
  attributed : w.Attributed
  listeners : ∀ l listener, w.listeners.get? l = some listener →
    listener.sessions = [] ∧ listener.connections.entries = []

theorem Opens.sound {w : World} (start : Opens w) : Sound ⟨w, []⟩ where
  tracked := start.tracked
  attributed := start.attributed
  session _ ha := by cases ha
  scope _ ha := by cases ha
  kept _ ha := by cases ha
  apart _ ha := by cases ha
  numbered _ ha := by cases ha
  serving l listener hl p hp := by
    rw [(start.listeners l listener hl).1] at hp
    cases hp
  stopped l listener hl _ := (start.listeners l listener hl).2

namespace Sound

variable {a : Accepted}

theorem released (hsound : h.Sound) (hclosed : h.world.hub.isClosed a.scope = true) : h.Released a :=
  ⟨hclosed, fun _ _ hr => hsound.tracked.scope_ne hclosed hr⟩

theorem lists_or_released (hsound : h.Sound) (ha : a ∈ h.accepted) : h.Lists a ∨ h.Released a :=
  (hsound.kept a ha).imp_right hsound.released

theorem released_of_stopped (hsound : h.Sound) {listener : Listener}
    (hl : h.world.listeners.get? a.listener = some listener) (hstopped : listener.running = false)
    (ha : a ∈ h.accepted) : h.Released a := by
  refine (hsound.lists_or_released ha).resolve_left ?_
  rintro ⟨other, hother, e, he, -⟩
  rw [hl] at hother
  cases hother
  rw [hsound.stopped _ listener hl hstopped] at he
  cases he

/-- A handler of a session that is gone is refused what it subscribes to. -/
theorem refuses (hsound : h.Sound) (ha : a ∈ h.accepted) (hgone : ¬h.Lists a) {t : Ref .task} {id : Option RequestId}
    {encoding : Encoding} {c : Activity}
    (ht : h.world.tasks.get? t = some (.answer a.session id encoding (.dispatching c))) {manager : Ref .manager}
    {topic : String} {cleanup : Option Cleanup} {k : Except Failure Sid → Plan} {rest : Chain}
    (hc : c.control = .run (.perform (.subscribe manager topic cleanup) k) rest) :
    ∃ c', (h.after (.go t)).world.tasks.get? t = some (.answer a.session id encoding (.dispatching c')) ∧
      c'.control = .run (k (.error Hub.sessionClosed)) rest := by
  have hclosed := ((hsound.lists_or_released ha).resolve_left hgone).1
  obtain ⟨x, hx, hxa⟩ := hsound.session a ha
  obtain ⟨y, hy, hyc⟩ := hsound.attributed t _ ht
  rw [hx] at hy
  cases hy
  rw [← hxa, hyc] at hclosed
  have hrefused := Hub.subscribe_of_isClosed _ manager hclosed c.slot topic cleanup
  simp only [after, ht, World.advance, World.stepAnswer, World.stepWork, Activity.result?, hc, World.stepActivity,
    Activity.step, Activity.runPlan, Switch.perform]
  exact ⟨_, Store.get?_set_self ht _, congrArg (fun answer => Control.run (k answer) rest) hrefused⟩

end Sound

theorem running_shutdown (w : World) {l : Ref .listener} {listener : Listener}
    (hl : w.listeners.get? l = some listener) :
    ∃ listener', (w.shutdown l).listeners.get? l = some listener' ∧ listener'.running = false := by
  simp only [World.shutdown, hl]
  cases hrunning : listener.running with
  | false => exact ⟨listener, hl, hrunning⟩
  | true => exact ⟨_, Store.get?_set_self hl _, rfl⟩

/-- However tasks take turns, whoever connects, writes and closes, and whichever listeners are taken down:
each session ever accepted is among the connections of its listener, or its scope is closed and no manager
holds a record of it. A handler of a session that is gone gets an error for what it still subscribes to. From
when a listener was taken down on, it has no connections, and all that it ever accepted is gone. -/
theorem nothing_outlives {w : World} (start : Opens w) (events : List Event)
    (hbounded : (run ⟨w, []⟩ events).Bounded) :
    let h := run ⟨w, []⟩ events
    (∀ a ∈ h.accepted, h.Lists a ∨ h.Released a) ∧
    (∀ a ∈ h.accepted, ¬h.Lists a → ∀ t id encoding c manager topic cleanup k rest,
      h.world.tasks.get? t = some (.answer a.session id encoding (.dispatching c)) →
      c.control = .run (.perform (.subscribe manager topic cleanup) k) rest →
      ∃ c', (h.after (.go t)).world.tasks.get? t = some (.answer a.session id encoding (.dispatching c')) ∧
        c'.control = .run (k (.error (.transport "Session closed"))) rest) ∧
    ∀ before after l listener, events = before ++ .shutdown l :: after →
      (run ⟨w, []⟩ before).world.listeners.get? l = some listener →
      ∃ listener', h.world.listeners.get? l = some listener' ∧ listener'.connections.entries = [] ∧
        ∀ a ∈ h.accepted, a.listener = l → h.Released a := by
  have hsound := (leads_run ⟨w, []⟩ events).sound hbounded start.sound
  refine ⟨fun a ha => hsound.lists_or_released ha, ?_, ?_⟩
  · intro a ha hgone t id encoding c manager topic cleanup k rest ht hc
    exact hsound.refuses ha hgone ht hc
  · rintro before after l listener rfl hl
    obtain ⟨down, hdown, hstopped⟩ := running_shutdown _ hl
    have hlater : ((run ⟨w, []⟩ before).after (.shutdown l)).Leads (run ⟨w, []⟩ (before ++ .shutdown l :: after)) := by
      rw [run_append]
      exact leads_run _ after
    obtain ⟨listener', hl', -, hstill⟩ := hlater.listeners l down hdown
    refine ⟨listener', hl', hsound.stopped l listener' hl' (hstill hstopped), ?_⟩
    rintro a ha rfl
    exact hsound.released_of_stopped hl' (hstill hstopped) ha

/-! ### A handler that is still running when its listener goes -/

theorem Bounded.of_all (hmanagers : h.world.hub.managers.items.size ≤ 16 ^ 7)
    (hissued : ∀ listener ∈ h.world.listeners.items, listener.connections.issued < 16 ^ 12) : h.Bounded where
  few := .of_size hmanagers
  issued _ listener hl := hissued listener (Array.mem_of_getElem? hl)

/-- A router with a handler that subscribes twice. -/
def tenacious : World where
  switch :=
    { hub := { managers := .push {} {} }
      routers := .push {} (Table.insert {} ⟨"/ticks", [.literal "ticks"]⟩ .exact (.handler ⟨0⟩))
      handlers := .push {} fun _ =>
        .perform (.subscribe ⟨0⟩ "ticks" none) fun _ =>
          .perform (.subscribe ⟨0⟩ "tocks" none) fun result => .done (result.map fun _ => ()) }

/-- A request comes in through a listener, and its handler goes on until it has subscribed once. -/
def subscribed : List Event :=
  [.listen "/s" ⟨0⟩ 1000, .accept ⟨0⟩ "peer",
    .wire ⟨0⟩ (·.write .client (Framing.record 1 (Request.Envelope.encode { path := "/ticks" } .text).payload)),
    .go ⟨0⟩, .go ⟨2⟩, .go ⟨2⟩, .go ⟨2⟩]

/-- The text of the transport failure that a handler is about to return. -/
def failing? : Task → Option String
  | .answer _ _ _ (.dispatching c) =>
    match c.control with
    | .run (.done (.error (.transport text))) _ => some text
    | _ => none
  | _ => none

theorem opens_tenacious : Opens tenacious where
  tracked := .of_empty fun manager => by
    rcases manager with ⟨n⟩
    cases n <;> rfl
  attributed t task ht := by cases ht
  listeners l listener hl := by cases hl

/-- What the handler subscribed to goes with the listener, and the other subscription is refused. -/
theorem tenacious_refused :
    ((run ⟨tenacious, []⟩ subscribed).world.hub.records ⟨0⟩).map (·.topic) = ["ticks"] ∧
    let h := run ⟨tenacious, []⟩ (subscribed ++ [.shutdown ⟨0⟩])
    (∃ a ∈ h.accepted, h.Released a) ∧
    ((h.after (.go ⟨2⟩)).world.tasks.get? ⟨2⟩).bind failing? = some "Session closed" := by
  have hbounded : (run ⟨tenacious, []⟩ (subscribed ++ [.shutdown ⟨0⟩])).Bounded :=
    .of_all (by decide +kernel) (by decide +kernel)
  obtain ⟨-, -, hdown⟩ := nothing_outlives opens_tenacious _ hbounded
  refine ⟨by decide +kernel, ?_, by decide +kernel⟩
  have haccepted :
      (run ⟨tenacious, []⟩ (subscribed ++ [.shutdown ⟨0⟩])).accepted = [⟨⟨0⟩, .nth 1, ⟨0⟩, ⟨0⟩⟩] := by
    decide +kernel
  have hlistener : ((run ⟨tenacious, []⟩ subscribed).world.listeners.get? ⟨0⟩).isSome = true := by
    decide +kernel
  obtain ⟨listener, hl⟩ := Option.isSome_iff_exists.1 hlistener
  obtain ⟨-, -, -, hreleased⟩ := hdown subscribed [] ⟨0⟩ listener rfl hl
  have ha : _ ∈ (run ⟨tenacious, []⟩ (subscribed ++ [.shutdown ⟨0⟩])).accepted :=
    haccepted ▸ List.mem_singleton_self _
  exact ⟨_, ha, hreleased _ ha rfl⟩

end Hosting

end Exchange
