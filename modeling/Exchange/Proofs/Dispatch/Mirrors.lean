-- SUMMARY: A dispatch mirrored, step by step, by one with a router in the place of its plugin or a candidate less.
import Exchange.Proofs.Dispatch.Plans
import Exchange.Proofs.Dispatch.Standins

/-!
# Mirrored dispatches

`Mirrors` relates a dispatch to one in which a router stands in for its plugin,
or in which some candidates for a plugin that does not serve are left out. A
step of the first is met by a step of the second that invokes the same handler,
or by none when the first only passes such a candidate, on the way down or on
the way back (`Mirrors.met`). The one step that has no counterpart is the
plugin's own answer to a request for its prefix (`Owns`). `Mirrors.forth` and
`Mirrors.back` say it for whole runs.
-/

namespace Exchange

/-! ## Mirrored dispatches -/

/-- A handler with what it is shown, but for the number of candidates behind it. -/
def Stop.uncounted (stop : Stop) : Stop :=
  (stop.1, { stop.2 with remaining := 0 })

/-- What is compared of a stop: where candidates are left out, not how many there are. -/
def Stop.seen (lost : Option (Ref .plugin)) (stop : Stop) : Stop :=
  match lost with
  | none => stop
  | some _ => stop.uncounted

section Relations

variable (d : Option Standin) (lost : Option (Ref .plugin))

/-- The second chain has the standin as a candidate where the first, which has it nowhere, has the plugin, and
may lack candidates for the lost plugin. -/
inductive Links : List (Link Target) → List (Link Target) → Prop where
  | nil : Links [] []
  | cons (link : Link Target) (hlink : ∀ x ∈ d, link.target ≠ .router x.router) {l l' : List (Link Target)} :
      Links l l' → Links (link :: l) (link.map (Target.swapped d) :: l')
  | drop {p : Ref .plugin} (hp : p ∈ lost) (path : String) (params : Bindings) {l l' : List (Link Target)} :
      Links l l' → Links (⟨.plugin p, path, params⟩ :: l) l'

structure Chain.Mirrors (c c' : Chain) : Prop where
  links : Links d lost c.links c'.links
  path : c'.path = c.path

def Control.Mirrors : Control → Control → Prop
  | .run plan rest, c => ∃ rest', c = .run plan rest' ∧ rest.Mirrors d lost rest'
  | .next chain, c => ∃ chain', c = .next chain' ∧ chain.Mirrors d lost chain'
  | .call router path, c => c = .call router path
  | .back result, c => c = .back result
  | .unwind, c => c = .unwind
  | .await inbox k rest, c => ∃ rest', c = .await inbox k rest' ∧ rest.Mirrors d lost rest'
  | .settled result, c => c = .settled (result.bare (Standin.hides d))

/-- The levels of a dispatch and of the one that mirrors it. -/
inductive Stacks : List Level → List Level → Prop where
  | nil : Stacks [] []
  | handler (k : Except Failure Unit → Plan) {rest rest' : Chain} (hrest : rest.Mirrors d lost rest')
      {l l' : List Level} : Stacks l l' → Stacks (.handler k rest :: l) (.handler k rest' :: l')
  | router {rest rest' : Chain} (hrest : rest.Mirrors d lost rest') {l l' : List Level} :
      Stacks l l' → Stacks (.router rest :: l) (.router rest' :: l')
  | plugin {p : Ref .plugin} (hp : Standin.hides d p = false) (path : String) {rest rest' : Chain}
      (hrest : rest.Mirrors d lost rest') {l l' : List Level} :
      Stacks l l' → Stacks (.plugin p path rest :: l) (.plugin p path rest' :: l')
  /-- A router that is a candidate waits for the same as its plugin. -/
  | standin {p : Ref .plugin} (hp : Standin.hides d p = true) (path : String) {rest rest' : Chain}
      (hrest : rest.Mirrors d lost rest') {l l' : List Level} :
      Stacks l l' → Stacks (.plugin p path rest :: l) (.router rest' :: l')
  | bypass {p : Ref .plugin} (hp : Standin.hides d p = false) {l l' : List Level} :
      Stacks l l' → Stacks (.bypass p :: l) (.bypass p :: l')
  /-- A plugin that has let the request by makes no difference. -/
  | skip (p : Ref .plugin) {l l' : List Level} : Stacks l l' → Stacks (.bypass p :: l) l'

/-- The second dispatch is the first with the router in the place of the plugin, or without candidates. -/
structure Mirrors (q q' : Activity × Switch) : Prop where
  request : q'.1.request = q.1.request
  scope : q'.1.scope = q.1.scope
  slot : q'.1.slot = q.1.slot.bare (Standin.hides d)
  control : q.1.control.Mirrors d lost q'.1.control
  stack : Stacks d lost q.1.stack q'.1.stack
  switch : Switch.Resembles d q.2 q'.2

/-- The plugin's router has no route for the prefix itself, which the plugin answers for then. -/
def Owns (q : Activity × Switch) : Prop :=
  ∃ f p rest stack, q.1.control = .back (.error f) ∧ f.isNoRoute = true ∧ Standin.hides d p = true ∧
    q.1.stack = .plugin p "/" rest :: stack

end Relations

/-! ## Conditions -/

/-- The plugin serves: it keeps its owner and its router, and is started when its turn comes. -/
structure Standin.Serves (x : Standin) (q : Activity × Switch) : Prop where
  keeps : q.2.Keeps x
  started : ∀ path params links full, q.1.control = .next ⟨⟨.plugin x.plugin, path, params⟩ :: links, full⟩ →
    ∀ plugin, q.2.plugin? x.plugin = some plugin → plugin.state = .started

/-- The plugin cannot serve: nobody owns it any more, or it is not started. -/
def Switch.Skips (s : Switch) (p : Ref .plugin) : Prop :=
  ∀ plugin, s.plugin? p = some plugin → plugin.held = true → plugin.state ≠ .started

/-- The handler does not look at how many candidates are left. -/
def Handler.Uncounting (handler : Handler) : Prop :=
  ∀ v n, handler { v with remaining := n } = handler v

/-- The plugin does not serve, and nobody can tell that it is a candidate. -/
structure Unnoticed (p : Ref .plugin) (q : Activity × Switch) : Prop where
  skips : ∀ path params links full, q.1.control = .next ⟨⟨.plugin p, path, params⟩ :: links, full⟩ → q.2.Skips p
  uncounting : ∀ h path params links full, q.1.control = .next ⟨⟨.handler h, path, params⟩ :: links, full⟩ →
    ∀ handler ∈ q.2.handlers.get? h, handler.Uncounting

/-- What comes of calls to clients does not depend on whether a plugin or its router is mounted. -/
def Asking.Agrees (d : Option Standin) (ask : Asking) : Prop :=
  ∀ s s', Switch.Resembles d s s' → ∀ client request,
    ask s client request = none ∧ ask s' client request = none ∨
      ∃ t t' answer, ask s client request = some (t, answer) ∧ ask s' client request = some (t', answer) ∧
        Switch.Resembles d t t'

section Chains

variable {d : Option Standin} {lost : Option (Ref .plugin)}

/-- A chain of a router has all its candidates. -/
theorem Links.map {l : List (Link Target)} (hl : ∀ link ∈ l, ∀ x ∈ d, link.target ≠ .router x.router) :
    Links d lost l (l.map (Link.map (Target.swapped d))) := by
  induction l with
  | nil => exact .nil
  | cons link l ih =>
    obtain ⟨hlink, hl⟩ := List.forall_mem_cons.1 hl
    exact .cons link hlink (ih hl)

theorem Links.length_eq {l l' : List (Link Target)} (h : Links d none l l') : l'.length = l.length := by
  induction h with
  | nil => rfl
  | cons link _ _ ih => simp [ih]
  | drop hp => cases hp

end Chains

/-- Takes the result of a router back to where the router was a candidate. -/
def Activity.leaveRouter (a : Activity) (s : Switch) (rest : Chain) (result : Except Failure Unit) :
    Activity × Switch :=
  match result with
  | .error f => if f.isNoRoute then (a.goTo (.next rest), s) else (a.goTo (.back result), s)
  | .ok _ => (a.goTo (.back result), s)

theorem Activity.invokes_eq_nil {a : Activity} {s : Switch} {link : Link Target} {rest : Chain}
    (ha : a.control = .next ⟨link :: rest.links, rest.path⟩) (hlink : ∀ h, link.target ≠ .handler h) :
    a.invokes s = [] := by
  obtain ⟨target, path, params⟩ := link
  cases target with
  | handler h => exact absurd rfl (hlink h)
  | router r | plugin p => simp only [invokes, ha]

/-- A candidate that cannot serve is passed, be it that the plugin lets the request by. -/
theorem Activity.advance_skipped (ask : Asking) {a : Activity} {s : Switch} {p : Ref .plugin} {path : String}
    {params : Bindings} {rest : Chain} (ha : a.control = .next ⟨⟨.plugin p, path, params⟩ :: rest.links, rest.path⟩)
    (hskips : s.Skips p) :
    a.advance ask s = (a.goTo (.next rest), s) ∨
      a.advance ask s = (a.enter (.bypass p) (.next rest), s.revisePlugin p Plugin.receive) := by
  simp only [advance, step, tryNext, tryLink, ha]
  cases hget : s.plugin? p with
  | none => exact .inl rfl
  | some plugin =>
    cases hheld : plugin.held with
    | false => exact .inl (by simp [hheld])
    | true => exact .inr (by simp [hheld, tryPlugin, hskips plugin hget hheld, enter])

namespace Mirrors

variable {d : Option Standin} {lost : Option (Ref .plugin)} {ask : Asking} {a b : Activity} {s s' : Switch}

theorem meets (m : Mirrors d lost (a, s) (b, s')) {control : Control} (ha : a.control = control) :
    control.Mirrors d lost b.control :=
  ha ▸ m.control

theorem goTo (m : Mirrors d lost (a, s) (b, s')) {control control' : Control} (h : control.Mirrors d lost control') :
    Mirrors d lost (a.goTo control, s) (b.goTo control', s') :=
  { m with control := h }

theorem enter (m : Mirrors d lost (a, s) (b, s')) {level level' : Level} {control control' : Control}
    (h : control.Mirrors d lost control')
    (hlevel : ∀ {l l'}, Stacks d lost l l' → Stacks d lost (level :: l) (level' :: l')) :
    Mirrors d lost (a.enter level control, s) (b.enter level' control', s') :=
  { m with control := h, stack := hlevel m.stack }

theorem leave (m : Mirrors d lost (a, s) (b, s')) {l l' : List Level} (h : Stacks d lost l l') :
    Mirrors d lost ({ a with stack := l }, s) ({ b with stack := l' }, s') :=
  { m with stack := h }

theorem withSlot (m : Mirrors d lost (a, s) (b, s')) {slot slot' : Slot} (h : slot' = slot.bare (Standin.hides d)) :
    Mirrors d lost ({ a with slot }, s) ({ b with slot := slot' }, s') :=
  { m with slot := h }

theorem withSwitch (m : Mirrors d lost (a, s) (b, s')) {t t' : Switch} (h : Switch.Resembles d t t') :
    Mirrors d lost (a, t) (b, t') :=
  { m with switch := h }

/-! ## Steps of handlers and routers -/

theorem run (m : Mirrors d lost (a, s) (b, s')) {plan : Plan} {rest : Chain} (ha : a.control = .run plan rest)
    (hkeeps : ∀ x ∈ d, (a.advance ask s).2.Keeps x) (hask : ask.Agrees d) :
    Mirrors d lost (a.advance ask s) (b.advance ask s') := by
  obtain ⟨rest', hb, hrest⟩ := m.meets ha
  cases plan with
  | done result =>
    simp only [Activity.advance, Activity.step, Activity.runPlan, ha, hb]
    exact m.goTo rfl
  | panic =>
    simp only [Activity.advance, Activity.step, Activity.runPlan, ha, hb]
    exact m.goTo rfl
  | next k =>
    simp only [Activity.advance, Activity.step, Activity.runPlan, ha, hb]
    exact m.enter ⟨rest', rfl, hrest⟩ (.handler k hrest)
  | perform e k =>
    simp only [Activity.advance, Activity.step, Activity.runPlan, ha] at hkeeps
    obtain ⟨hswitch, hanswer⟩ := m.switch.perform a.slot a.scope e hkeeps
    have hslot : b.slot = a.slot.bare (Standin.hides d) := m.slot
    have hscope : b.scope = a.scope := m.scope
    simp only [Activity.advance, Activity.step, Activity.runPlan, ha, hb, hslot, hscope,
      congrArg Prod.fst hanswer, congrArg Prod.snd hanswer]
    exact { m with slot := rfl, control := ⟨rest', rfl, hrest⟩, switch := hswitch, scope := rfl }
  | install place keep handler k =>
    obtain ⟨hswitch, hanswer⟩ := m.switch.install place keep handler
    simp only [Activity.advance, Activity.step, Activity.runPlan, ha, hb, hanswer]
    exact (m.withSwitch hswitch).goTo ⟨rest', rfl, hrest⟩
  | call client request k =>
    simp only [Activity.advance, ha, hb]
    rcases hask s s' m.switch client request with ⟨hnone, hnone'⟩ | ⟨t, t', answer, hsome, hsome', hswitch⟩
    · rw [hnone, hnone']
      exact m
    · rw [hsome, hsome']
      exact (m.withSwitch hswitch).goTo ⟨rest', rfl, hrest⟩

theorem call (m : Mirrors d lost (a, s) (b, s')) {router : Ref .router} {path : String}
    (ha : a.control = .call router path) (hprivate : ∀ x ∈ d, ¬ s.Mentions (.router x.router)) :
    Mirrors d lost (a.advance ask s) (b.advance ask s') := by
  have hb := m.meets ha
  have htable : (s'.table router).resolve path = ((s.table router).resolve path).map (Link.map (Target.swapped d)) := by
    rw [m.switch.table router, Table.resolve_map]
  have hlinks : ∀ link ∈ (s.table router).resolve path, ∀ x ∈ d, link.target ≠ .router x.router :=
    fun link hlink x hx heq => hprivate x hx (heq ▸ .inl ⟨router, Switch.serves_of_resolve hlink⟩)
  simp only [Activity.advance, Activity.step, ha, show b.control = .call router path from hb, htable]
  exact m.goTo ⟨_, rfl, .map hlinks, rfl⟩

/-! ## Trying candidates -/

theorem visit_eq (m : Mirrors d lost (a, s) (b, s')) (link : Link Target) (rest rest' : Chain) :
    b.visit (link.map (Target.swapped d)) rest' = { a.visit link rest with remaining := rest'.links.length } := by
  have hrequest : b.request = a.request := m.request
  simp only [Activity.visit, hrequest, Link.map]

/-- A handler does the same for what it is shown in either dispatch. -/
theorem handler_eq (m : Mirrors d lost (a, s) (b, s')) (h : Ref .handler) (path : String) (params : Bindings)
    {rest rest' : Chain} (hrest : rest.Mirrors d lost rest') {handler : Handler}
    (hhandler : ∀ p ∈ lost, handler.Uncounting) :
    handler (b.visit ⟨.handler h, path, params⟩ rest') = handler (a.visit ⟨.handler h, path, params⟩ rest) := by
  have hvisit := m.visit_eq ⟨.handler h, path, params⟩ rest rest'
  rw [Link.map, Target.swapped_handler] at hvisit
  rw [hvisit]
  cases lost with
  | none =>
    rw [hrest.links.length_eq]
    rfl
  | some p => exact hhandler p rfl _ _

/-- A request comes to a plugin that is not hidden: it does the same in both dispatches. -/
theorem tryPlugin (m : Mirrors d lost (a, s) (b, s')) {p : Ref .plugin} (hp : Standin.hides d p = false)
    {plugin plugin' : Plugin} (hsame : plugin'.apparent = plugin.apparent) (path : String) {rest rest' : Chain}
    (hrest : rest.Mirrors d lost rest') :
    Mirrors d lost (a.tryPlugin s p plugin path rest) (b.tryPlugin s' p plugin' path rest') := by
  have hstate : plugin'.state = plugin.state := by
    have := congrArg Plugin.state hsame
    exact this
  have hrouter : plugin'.router = plugin.router := by
    have := congrArg Plugin.router hsame
    exact this
  have hreceive := m.switch.revisePlugin p (f := Plugin.receive) fun _ => rfl
  simp only [Activity.tryPlugin, hstate, hrouter]
  split
  · exact (m.withSwitch (hreceive.revisePlugin p (f := Plugin.begin) fun _ => rfl)).enter rfl (.plugin hp path hrest)
  · exact (m.withSwitch hreceive).enter ⟨rest', rfl, hrest⟩ (.bypass hp)

theorem tryLink (m : Mirrors d lost (a, s) (b, s')) {link : Link Target} {rest rest' : Chain}
    (hrest : rest.Mirrors d lost rest') (ha : a.control = .next ⟨link :: rest.links, rest.path⟩)
    (hlink : ∀ x ∈ d, link.target ≠ .router x.router) (hserves : ∀ x ∈ d, x.Serves (a, s))
    (hlost : ∀ p ∈ lost, Unnoticed p (a, s)) :
    Mirrors d lost (a.tryLink s link rest) (b.tryLink s' (link.map (Target.swapped d)) rest') := by
  obtain ⟨target, path, params⟩ := link
  cases target with
  | handler h =>
    have hhandlers : s'.handlers = s.handlers := m.switch.handlers
    simp only [Activity.tryLink, Link.map, Target.swapped_handler, hhandlers]
    cases hget : s.handlers.get? h with
    | none => exact m.goTo ⟨rest', rfl, hrest⟩
    | some handler =>
      have huncounting : ∀ p ∈ lost, handler.Uncounting := fun p hp =>
        (hlost p hp).uncounting h path params rest.links rest.path ha handler hget
      simp only [m.handler_eq h path params hrest huncounting]
      exact m.goTo ⟨rest', rfl, hrest⟩
  | router r =>
    have hr (x : Standin) (hx : x ∈ d) : r ≠ x.router := fun heq => hlink x hx (congrArg Target.router heq)
    simp only [Activity.tryLink, Link.map, Target.swapped_router hr]
    exact m.enter rfl (.router hrest)
  | plugin p =>
    cases hp : Standin.hides d p with
    | false =>
      simp only [Activity.tryLink, Link.map, Target.swapped_plugin hp]
      rcases m.switch.plugin_eq hp with ⟨hnone', hnone⟩ | ⟨plugin, plugin', hget', hget, hsame⟩
      · rw [hnone, hnone']
        exact m.goTo ⟨rest', rfl, hrest⟩
      · have hheld : plugin'.held = plugin.held := by
          have := congrArg Plugin.held hsame
          exact this
        rw [hget, hget']
        simp only [hheld]
        split
        · exact m.tryPlugin hp hsame path hrest
        · exact m.goTo ⟨rest', rfl, hrest⟩
    | true =>
      obtain ⟨x, hx, rfl⟩ := Standin.hides_iff.1 hp
      obtain ⟨plugin, hget, hrouter, hheld⟩ := (hserves x hx).keeps.held
      have hstate := (hserves x hx).started path params rest.links rest.path ha plugin hget
      have hswapped : (Target.plugin x.plugin).swapped d = .router x.router := by
        rw [hx]
        simp [Target.swapped]
      simp only [Activity.tryLink, Link.map, hswapped, hget, hheld, Activity.tryPlugin, hstate, hrouter, if_true]
      have hreceive := m.switch.revisePlugin_left x.plugin (f := Plugin.receive) (.inl hp)
      exact (m.withSwitch (hreceive.revisePlugin_left x.plugin (f := Plugin.begin) (.inl hp))).enter rfl
        (.standin hp path hrest)

/-- The same handler is invoked, and is shown the same. -/
theorem invokes_eq (m : Mirrors d lost (a, s) (b, s')) {link : Link Target} {rest rest' : Chain}
    (hrest : rest.Mirrors d lost rest') (ha : a.control = .next ⟨link :: rest.links, rest.path⟩)
    (hb : b.control = .next ⟨link.map (Target.swapped d) :: rest'.links, rest'.path⟩) :
    (b.invokes s').map (Stop.seen lost) = (a.invokes s).map (Stop.seen lost) := by
  have hhandlers : s'.handlers = s.handlers := m.switch.handlers
  obtain ⟨target, path, params⟩ := link
  have hvisit := m.visit_eq ⟨target, path, params⟩ rest rest'
  cases target with
  | handler h =>
    simp only [Activity.invokes, ha, hb, Link.map, Target.swapped_handler, hhandlers] at hvisit ⊢
    rw [hvisit]
    cases lost with
    | none =>
      rw [hrest.links.length_eq]
      rfl
    | some p =>
      simp only [List.map_map]
      rfl
  | router r | plugin p =>
    rw [Activity.invokes_eq_nil ha (by simp),
      Activity.invokes_eq_nil hb fun h => mt Target.swapped_eq_handler_iff.1 (by simp)]

/-- How far a dispatch can still be from a step that is met: the levels it may leave, and twice the
candidates it may pass, each of which can make a level. -/
def rank (a : Activity) : Nat :=
  match a.control with
  | .next chain => 2 * chain.links.length + a.stack.length
  | _ => a.stack.length

/-- A candidate that was left out is passed. -/
theorem pass (m : Mirrors d lost (a, s) (b, s')) (ask : Asking) {p : Ref .plugin} (hskips : s.Skips p) {path : String}
    {params : Bindings} {rest rest' : Chain} (hrest : rest.Mirrors d lost rest')
    (ha : a.control = .next ⟨⟨.plugin p, path, params⟩ :: rest.links, rest.path⟩) (hb : b.control = .next rest') :
    Mirrors d lost (a.advance ask s) (b, s') ∧ rank (a.advance ask s).1 < rank a := by
  have hgoTo : Mirrors d lost (a.goTo (.next rest), s) (b, s') := { m with control := ⟨rest', hb, hrest⟩ }
  have hrank : rank a = 2 * (rest.links.length + 1) + a.stack.length := by
    simp only [rank, ha, List.length_cons]
  rcases Activity.advance_skipped ask ha hskips with hstep | hstep
  · rw [hstep, hrank]
    refine ⟨hgoTo, ?_⟩
    simp only [rank, Activity.goTo]
    omega
  · rw [hstep, hrank]
    refine ⟨{ hgoTo with
      stack := .skip p m.stack
      switch := m.switch.revisePlugin_left p (f := Plugin.receive) (.inr fun _ => rfl) }, ?_⟩
    simp only [rank, Activity.enter, List.length_cons]
    omega

theorem next (m : Mirrors d lost (a, s) (b, s')) (ask : Asking) {chain : Chain} (ha : a.control = .next chain)
    (hserves : ∀ x ∈ d, x.Serves (a, s)) (hlost : ∀ p ∈ lost, Unnoticed p (a, s)) :
    (Mirrors d lost (a.advance ask s) (b.advance ask s') ∧
        (b.invokes s').map (Stop.seen lost) = (a.invokes s).map (Stop.seen lost)) ∨
      Mirrors d lost (a.advance ask s) (b, s') ∧ a.invokes s = [] ∧ rank (a.advance ask s).1 < rank a := by
  obtain ⟨⟨links', path'⟩, hb, hlinks, hpath⟩ := m.meets ha
  obtain ⟨links, path⟩ := chain
  obtain rfl : path' = path := hpath
  dsimp only at hlinks
  cases hlinks with
  | nil =>
    simp only [Activity.advance, Activity.step, Activity.tryNext, Activity.invokes, ha, hb]
    exact .inl ⟨m.goTo rfl, trivial⟩
  | @cons link hlink l l' hlinks =>
    have hrest : Chain.Mirrors d lost ⟨l, path'⟩ ⟨l', path'⟩ := ⟨hlinks, rfl⟩
    have htry := m.tryLink hrest ha hlink hserves hlost
    refine .inl ⟨?_, m.invokes_eq hrest ha hb⟩
    simp only [Activity.advance, Activity.step, ha, hb]
    exact htry
  | @drop p hp path params l l' hlinks =>
    have hrest : Chain.Mirrors d lost ⟨l, path'⟩ ⟨links', path'⟩ := ⟨hlinks, rfl⟩
    obtain ⟨hpass, hrank⟩ := m.pass ask ((hlost p hp).skips path params l path' ha) hrest ha hb
    exact .inr ⟨hpass, by simp only [Activity.invokes, ha], hrank⟩

/-! ## Going back -/

theorem settleFailed (m : Mirrors d lost (a, s) (b, s')) (f : Failure) :
    Mirrors d lost (a.settleFailed s f) (b.settleFailed s' f) where
  request := m.request
  scope := m.scope
  slot := rfl
  control := rfl
  stack := m.stack
  switch := by
    have hbody : b.slot.body = a.slot.body.bare (Standin.hides d) := congrArg Slot.body m.slot
    simp only [Activity.settleFailed, hbody]
    exact m.switch.withHub (m.switch.hub.dropBody a.slot.body)

theorem passPlugin (m : Mirrors d lost (a, s) (b, s')) {p : Ref .plugin} (result : Except Failure Unit) :
    Mirrors d lost (a.passPlugin s p result) (b.passPlugin s' p result) :=
  (m.withSwitch (m.switch.revisePlugin p fun _ => rfl)).goTo rfl

/-- A result comes back to a plugin that is not hidden: it does the same in both dispatches. -/
theorem leavePlugin (m : Mirrors d lost (a, s) (b, s')) {p : Ref .plugin} (hp : Standin.hides d p = false)
    (path : String) {rest rest' : Chain} (hrest : rest.Mirrors d lost rest') (result : Except Failure Unit) :
    Mirrors d lost (a.leavePlugin s p path rest result) (b.leavePlugin s' p path rest' result) := by
  have hslot : b.slot = a.slot.bare (Standin.hides d) := m.slot
  have hfinish := m.switch.revisePlugin p (f := Plugin.finish) fun _ => rfl
  cases result with
  | ok u =>
    have hbody : b.slot.body = a.slot.body.bare (Standin.hides d) := congrArg Slot.body hslot
    unfold Activity.leavePlugin
    rw [hbody]
    cases a.slot.body with
    | empty | message v => exact (m.withSwitch hfinish).passPlugin (.ok ())
    | stream inner =>
      refine (m.withSlot ?_).passPlugin (.ok ())
      simp [hslot, Slot.bare, Body.bare, Stream.bare, hp]
  | error f =>
    simp only [Activity.leavePlugin, hslot]
    split
    · split
      · refine ((m.withSlot ?_).withSwitch (hfinish.withHub (hfinish.hub.dropBody a.slot.body))).passPlugin (.ok ())
        rcases hfinish.plugin_eq hp with ⟨hnone', hnone⟩ | ⟨plugin, plugin', hget', hget, hsame⟩
        · rw [hnone, hnone']
          rfl
        · have hinfo := congrArg Plugin.info hsame
          rw [hget, hget']
          exact congrArg (fun v => Slot.mk _ _ (.message v)) hinfo
      · exact (m.withSwitch hfinish).enter ⟨rest', rfl, hrest⟩ (.bypass hp)
    · exact (m.withSwitch hfinish).passPlugin (.error f)

/-- A result comes back to a router that was a candidate. -/
theorem leaveRouter (m : Mirrors d lost (a, s) (b, s')) {rest rest' : Chain} (hrest : rest.Mirrors d lost rest')
    (result : Except Failure Unit) :
    Mirrors d lost (a.leaveRouter s rest result) (b.leaveRouter s' rest' result) := by
  cases result with
  | ok u => exact m.goTo rfl
  | error f =>
    simp only [Activity.leaveRouter]
    split
    · exact m.goTo ⟨rest', rfl, hrest⟩
    · exact m.goTo rfl

/-- A result comes back to the hidden plugin, and to its router: unless the plugin answers for the prefix
itself, both do the same. -/
theorem leaveStandin (m : Mirrors d lost (a, s) (b, s')) {p : Ref .plugin} (hp : Standin.hides d p = true)
    (path : String) {rest rest' : Chain} (hrest : rest.Mirrors d lost rest') (result : Except Failure Unit)
    (howns : ¬ ∃ f, result = .error f ∧ f.isNoRoute = true ∧ path = "/") :
    Mirrors d lost (a.leavePlugin s p path rest result) (b.leaveRouter s' rest' result) := by
  have hfinish := m.switch.revisePlugin_left p (f := Plugin.finish) (.inl hp)
  have hpass {t : Switch} {slot : Slot} (ht : Switch.Resembles d t s')
      (hslot : b.slot = slot.bare (Standin.hides d)) (result : Except Failure Unit) :
      Mirrors d lost (({ a with slot } : Activity).passPlugin t p result) (b.goTo (.back result), s') := by
    have hslotted : Mirrors d lost ({ a with slot }, t) (b, s') := { m with slot := hslot, switch := ht }
    exact (hslotted.withSwitch (ht.revisePlugin_left p (.inl hp))).goTo rfl
  cases result with
  | ok u =>
    have hslot : b.slot = a.slot.bare (Standin.hides d) := m.slot
    unfold Activity.leavePlugin
    cases hbody : a.slot.body with
    | empty | message v => exact hpass hfinish hslot (.ok ())
    | stream inner =>
      refine hpass m.switch ?_ (.ok ())
      simp [hslot, Slot.bare, Body.bare, Stream.bare, hp, hbody]
  | error f =>
    simp only [Activity.leavePlugin, Activity.leaveRouter]
    split
    · rename_i hf
      rw [if_neg fun hpath => howns ⟨f, rfl, hf, hpath⟩]
      have hskip : Mirrors d lost ({ a with stack := .bypass p :: a.stack }, s.revisePlugin p Plugin.finish) (b, s') :=
        { m with stack := .skip p m.stack, switch := hfinish }
      exact hskip.goTo ⟨rest', rfl, hrest⟩
    · exact hpass hfinish m.slot (.error f)

/-- A result is taken one level up, by both dispatches unless the level makes no difference. -/
theorem goBack (m : Mirrors d lost (a, s) (b, s')) (ask : Asking) {result : Except Failure Unit}
    (ha : a.control = .back result) :
    Owns d (a, s) ∨ Mirrors d lost (a.advance ask s) (b.advance ask s') ∨
      Mirrors d lost (a.advance ask s) (b, s') ∧ rank (a.advance ask s).1 < rank a := by
  have hb := m.meets ha
  have hstep : a.advance ask s = a.goBack s result := by
    simp only [Activity.advance, Activity.step, ha]
  have hstep' : b.advance ask s' = b.goBack s' result := by
    simp only [Activity.advance, Activity.step, show b.control = .back result from hb]
  have hstack : Stacks d lost a.stack b.stack := m.stack
  rw [hstep, hstep', show rank a = a.stack.length by simp only [rank, ha]]
  by_cases howns : Owns d (a, s)
  · exact .inl howns
  right
  unfold Activity.goBack
  generalize hl : a.stack = l, hl' : b.stack = l' at hstack ⊢
  cases hstack with
  | nil =>
    cases result with
    | ok u =>
      have hslot : b.slot = a.slot.bare (Standin.hides d) := m.slot
      refine .inl { m with slot := rfl, control := ?_, stack := .nil }
      show Control.settled (.ok b.slot.outcome) = _
      rw [hslot]
      rfl
    | error f => exact .inl (m.settleFailed f)
  | handler k hrest hstack => exact .inl ((m.leave hstack).goTo ⟨_, rfl, hrest⟩)
  | router hrest hstack => exact .inl ((m.leave hstack).leaveRouter hrest result)
  | plugin hp path hrest hstack => exact .inl ((m.leave hstack).leavePlugin hp path hrest result)
  | @standin p hp path rest rest' hrest l l' hstack =>
    refine .inl ((m.leave hstack).leaveStandin hp path hrest result ?_)
    rintro ⟨f, rfl, hf, rfl⟩
    exact howns ⟨f, p, rest, l, ha, hf, hp, hl⟩
  | bypass hp hstack => exact .inl ((m.leave hstack).passPlugin result)
  | @skip p l l' hstack =>
    refine .inr ⟨?_, Nat.lt_succ_self _⟩
    exact { m with
      control := hb
      stack := hl' ▸ hstack
      switch := m.switch.revisePlugin_left p (f := Plugin.release) (.inr fun _ => rfl) }

/-- A handler that has given up is left, by both dispatches unless the level makes no difference. -/
theorem unwind (m : Mirrors d lost (a, s) (b, s')) (ask : Asking) (ha : a.control = .unwind) :
    Mirrors d lost (a.advance ask s) (b.advance ask s') ∨
      Mirrors d lost (a.advance ask s) (b, s') ∧ rank (a.advance ask s).1 < rank a := by
  have hb := m.meets ha
  have hstep : a.advance ask s = a.unwind s := by
    simp only [Activity.advance, Activity.step, ha]
  have hstep' : b.advance ask s' = b.unwind s' := by
    simp only [Activity.advance, Activity.step, show b.control = .unwind from hb]
  have hstack : Stacks d lost a.stack b.stack := m.stack
  rw [hstep, hstep', show rank a = a.stack.length by simp only [rank, ha]]
  unfold Activity.unwind
  generalize a.stack = l, hl' : b.stack = l' at hstack ⊢
  cases hstack with
  | nil => exact .inl (m.settleFailed _)
  | handler k hrest hstack | router hrest hstack => exact .inl (m.leave hstack)
  | @plugin p hp path rest rest' hrest l l' hstack =>
    have hfinish := m.switch.revisePlugin p (f := Plugin.finish) fun _ => rfl
    exact .inl ((m.leave hstack).withSwitch (hfinish.revisePlugin p fun _ => rfl))
  | @standin p hp path rest rest' hrest l l' hstack =>
    have hfinish := m.switch.revisePlugin_left p (f := Plugin.finish) (.inl hp)
    exact .inl ((m.leave hstack).withSwitch (hfinish.revisePlugin_left p (.inl hp)))
  | @bypass p hp l l' hstack =>
    exact .inl ((m.leave hstack).withSwitch (m.switch.revisePlugin p fun _ => rfl))
  | @skip p l l' hstack =>
    refine .inr ⟨?_, ?_⟩
    · exact { m with
        stack := hl' ▸ hstack
        switch := m.switch.revisePlugin_left p (f := Plugin.release) (.inr fun _ => rfl) }
    · simp only [rank, ha]
      exact Nat.lt_succ_self _

/-! ## Runs -/

/-- A step is met by a step or by none, unless it is the plugin's own answer. -/
theorem met (m : Mirrors d lost (a, s) (b, s')) (hserves : ∀ x ∈ d, x.Serves (a, s) ∧ x.Serves (a.advance ask s))
    (hlost : ∀ p ∈ lost, Unnoticed p (a, s)) (hask : ask.Agrees d) :
    Owns d (a, s) ∨
      (Mirrors d lost (a.advance ask s) (b.advance ask s') ∧
        (b.invokes s').map (Stop.seen lost) = (a.invokes s).map (Stop.seen lost)) ∨
      Mirrors d lost (a.advance ask s) (b, s') ∧ a.invokes s = [] ∧ rank (a.advance ask s).1 < rank a := by
  cases ha : a.control with
  | run plan rest =>
    obtain ⟨rest', hb, -⟩ := m.meets ha
    have hkeeps (x : Standin) (hx : x ∈ d) : (a.advance ask s).2.Keeps x := (hserves x hx).2.keeps
    exact .inr (.inl ⟨m.run ha hkeeps hask, by simp only [Activity.invokes, ha, hb]⟩)
  | next chain => exact .inr (m.next ask ha (fun x hx => (hserves x hx).1) hlost)
  | call router path =>
    have hb := m.meets ha
    have hprivate (x : Standin) (hx : x ∈ d) := (hserves x hx).1.keeps.unmentioned
    refine .inr (.inl ⟨m.call ha hprivate, ?_⟩)
    simp only [Activity.invokes, ha, show b.control = .call router path from hb]
  | back result =>
    have hb := m.meets ha
    have hsilent : a.invokes s = [] := by simp only [Activity.invokes, ha]
    have hsilent' : b.invokes s' = [] := by simp only [Activity.invokes, show b.control = .back result from hb]
    rcases m.goBack ask ha with howns | hmoves | ⟨hstays, hrank⟩
    · exact .inl howns
    · exact .inr (.inl ⟨hmoves, by rw [hsilent, hsilent']⟩)
    · exact .inr (.inr ⟨hstays, hsilent, hrank⟩)
  | unwind =>
    have hb := m.meets ha
    have hsilent : a.invokes s = [] := by simp only [Activity.invokes, ha]
    have hsilent' : b.invokes s' = [] := by simp only [Activity.invokes, show b.control = .unwind from hb]
    rcases m.unwind ask ha with hmoves | ⟨hstays, hrank⟩
    · exact .inr (.inl ⟨hmoves, by rw [hsilent, hsilent']⟩)
    · exact .inr (.inr ⟨hstays, hsilent, hrank⟩)
  | await inbox k rest =>
    obtain ⟨rest', hb, -⟩ := m.meets ha
    refine .inr (.inl ⟨?_, by simp only [Activity.invokes, ha, hb]⟩)
    simp only [Activity.advance, Activity.step, ha, hb]
    exact m
  | settled result =>
    have hb : b.control = .settled (result.bare (Standin.hides d)) := m.meets ha
    refine .inr (.inl ⟨?_, by simp only [Activity.invokes, ha, hb]⟩)
    simp only [Activity.advance, Activity.step, ha, hb]
    exact m

end Mirrors

section Runs

variable {d : Option Standin} {lost : Option (Ref .plugin)} {ask : Asking} {q q' r r' : Activity × Switch}
  {invoked invoked' : List Stop}

open Activity (Steps)

/-- All that a dispatch can come to allows it to be mirrored. -/
def Mirrorable (d : Option Standin) (lost : Option (Ref .plugin)) (ask : Asking) (q : Activity × Switch) : Prop :=
  ∀ stops t, Steps ask q stops t → (∀ x ∈ d, x.Serves t) ∧ ∀ p ∈ lost, Unnoticed p t

theorem Mirrorable.now {a : Activity} {s : Switch} (h : Mirrorable d lost ask (a, s)) :
    (∀ x ∈ d, x.Serves (a, s) ∧ x.Serves (a.advance ask s)) ∧ ∀ p ∈ lost, Unnoticed p (a, s) :=
  have hnow := h [] (a, s) (.refl _)
  have hnext := h _ (a.advance ask s) (.one rfl rfl)
  ⟨fun x hx => ⟨hnow.1 x hx, hnext.1 x hx⟩, hnow.2⟩

theorem Mirrorable.steps (h : Mirrorable d lost ask q) {stops : List Stop} {t : Activity × Switch}
    (ht : Steps ask q stops t) : Mirrorable d lost ask t :=
  fun _ u hu => h _ u (ht.trans hu)

/-- Two runs invoke the same handlers on the way to where the dispatches mirror each other. -/
structure Abreast (d : Option Standin) (lost : Option (Ref .plugin)) (ask : Asking) (q q' : Activity × Switch)
    (stops stops' : List Stop) (r r' : Activity × Switch) : Prop where
  left : Steps ask q stops r
  right : Steps ask q' stops' r'
  same : stops'.map (Stop.seen lost) = stops.map (Stop.seen lost)
  mirrors : Mirrors d lost r r'

namespace Abreast

theorem refl (m : Mirrors d lost q q') : Abreast d lost ask q q' [] [] q q' :=
  ⟨.refl q, .refl q', rfl, m⟩

theorem cons {t t' : Activity × Switch} {stops stops' : List Stop}
    (h : Steps ask q invoked t) (h' : Steps ask q' invoked' t')
    (hsame : invoked'.map (Stop.seen lost) = invoked.map (Stop.seen lost))
    (b : Abreast d lost ask t t' stops stops' r r') :
    Abreast d lost ask q q' (invoked ++ stops) (invoked' ++ stops') r r' where
  left := h.trans b.left
  right := h'.trans b.right
  same := by rw [List.map_append, List.map_append, hsame, b.same]
  mirrors := b.mirrors

end Abreast

namespace Mirrors

/-- The first dispatch comes, without invoking anything, to where its next step is met by one. -/
theorem ready {b : Activity} {s' : Switch} (hask : ask.Agrees d) (m : Mirrors d lost q (b, s'))
    (hq : Mirrorable d lost ask q) :
    ∃ a s, Steps ask q [] (a, s) ∧ Mirrors d lost (a, s) (b, s') ∧
      (Owns d (a, s) ∨ Mirrors d lost (a.advance ask s) (b.advance ask s') ∧
        (b.invokes s').map (Stop.seen lost) = (a.invokes s).map (Stop.seen lost)) := by
  induction hn : rank q.1 using Nat.strongRecOn generalizing q with
  | ind n ih =>
    obtain ⟨a, s⟩ := q
    obtain ⟨hserves, hlost⟩ := hq.now
    rcases m.met hserves hlost hask with howns | hmoves | ⟨hstays, hsilent, hrank⟩
    · exact ⟨a, s, .refl _, m, .inl howns⟩
    · exact ⟨a, s, .refl _, m, .inr hmoves⟩
    · have hstep : Steps ask (a, s) [] (a.advance ask s) := .one hsilent rfl
      obtain ⟨a', t, ht, hm, hready⟩ := ih _ (hn ▸ hrank) hstays (hq.steps hstep) rfl
      exact ⟨a', t, hstep.trans ht, hm, hready⟩

/-- Whatever the second dispatch does, the first does it too, up to where the plugin answers for its prefix. -/
theorem back (hask : ask.Agrees d) (h : Steps ask q' invoked' r') (m : Mirrors d lost q q')
    (hq : Mirrorable d lost ask q) :
    (∃ stops r, Abreast d lost ask q q' stops invoked' r r') ∨
      ∃ before before' after o o', invoked' = before' ++ after ∧ Abreast d lost ask q q' before before' o o' ∧
        Owns d o ∧ Steps ask o' after r' := by
  induction h generalizing q with
  | refl q' => exact .inl ⟨[], q, .refl m⟩
  | @step b s' invoked' r' h ih =>
    have hstep' : Steps ask (b, s') (b.invokes s') (b.advance ask s') := .one rfl rfl
    obtain ⟨a, s, ht, hm, howns | ⟨hmoves, hsame⟩⟩ := m.ready hask hq
    · exact .inr ⟨[], [], _, _, _, rfl, ⟨ht, .refl _, rfl, hm⟩, howns, .step h⟩
    · have hstep : Steps ask q (a.invokes s) (a.advance ask s) := ht.trans (.one rfl rfl)
      rcases ih hmoves (hq.steps hstep) with ⟨stops, r, hr⟩ | ⟨before, before', after, o, o', rfl, ho, howns, hafter⟩
      · exact .inl ⟨_, r, .cons hstep hstep' hsame hr⟩
      · exact .inr ⟨_, _, after, o, o', (List.append_assoc ..).symm, .cons hstep hstep' hsame ho, howns, hafter⟩

end Mirrors

end Runs

/-! ## Answers -/

/-- A result without the frames that its stream has. -/
def Result.view : Result Stream → Result Unit
  | .error f => .error f
  | .ok o =>
    .ok {
      status := o.status
      statusCode := o.statusCode
      body := match o.body with
        | .empty => .empty
        | .message v => .message v
        | .stream _ => .stream () }

/-- Two dispatches have come to the same result, status, code and body, and to the same frames for whoever
reads them, whatever is done to the hubs meanwhile. -/
structure SameAnswer (q q' : Activity × Switch) : Prop where
  result : q'.1.result?.map Result.view = q.1.result?.map Result.view
  frames : ∀ result ∈ q.1.result?, ∀ result' ∈ q'.1.result?, ∀ acts : List (Hub → Hub), (∀ act ∈ acts, Hub.Blind act) →
    (Feed.ofResult result').reads q'.2.hub acts = (Feed.ofResult result).reads q.2.hub acts

theorem SameAnswer.symm {q q' : Activity × Switch} (h : SameAnswer q q') : SameAnswer q' q where
  result := h.result.symm
  frames result hresult result' hresult' acts hacts := (h.frames result' hresult' result hresult acts hacts).symm

end Exchange
