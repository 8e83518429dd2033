-- SUMMARY: Dispatch through nested routers comes to trying the candidates of one flat chain in order.
import Exchange.Proofs.Dispatch.Plans

/-!
# Flattening

A router among the candidates stands for the candidates that it resolves itself.
`Tried` says what it is to try one chain in which these take its place, and
`call_tries_flattened` that a call of a router does just that, though the dispatch
enters and leaves routers and takes the failure of one as a reason to go on with
the next candidate.
-/

namespace Exchange

/-! ## Trees of routers -/

/-- A handler settles a request with this result; to have no route is to leave it to others. -/
def Settles (result : Except Failure Unit) : Prop :=
  ∀ f, result = .error f → f.isNoRoute = false

namespace Switch

/-- A target is registered with a router. -/
def Serves (s : Switch) (r : Ref .router) (t : Target) : Prop :=
  ∃ g ∈ (s.table r).groups, t ∈ g.targets

section Trees

variable (s : Switch) (ask : Asking) (request : Request) (scope : Ref .scope) (root : Ref .router)

mutual

/-- What a switch can be while a request to `root` is dispatched: handlers do what they do before they
defer. -/
inductive Becomes : Switch → Prop where
  | refl : Becomes s
  | deferred {s' s'' : Switch} {h : Ref .handler} {handler : Handler} {v : Visit} {slot slot' : Slot} :
      Becomes s' →
      Offers (.handler h) →
      s'.handlers.get? h = some handler →
      v.request = request →
      (handler v).carryOut ask s' slot scope = (s'', slot', .defer) →
      Becomes s''

/-- The targets that the request can come to. -/
inductive Offers : Target → Prop where
  | root : Offers (.router root)
  | served {s' : Switch} {r : Ref .router} {t : Target} :
      Becomes s' →
      Offers (.router r) →
      s'.Serves r t →
      Offers t

end

/-- A router is mounted in another one, be it in the meantime. -/
def Mounts (r q : Ref .router) : Prop :=
  ∃ s', s.Becomes ask request scope root s' ∧ s'.Serves r (.router q)

/-- A handler settles the request, or it defers and ends with what comes of that. -/
def SettlesOrDefers (h : Ref .handler) : Prop :=
  ∀ s', s.Becomes ask request scope root s' → ∃ handler, s'.handlers.get? h = some handler ∧
    ∀ v : Visit, v.request = request → ∀ slot s'' slot' left,
      (handler v).carryOut ask s' slot scope = (s'', slot', left) →
        (∃ result, left = .done result ∧ Settles result) ∨ left = .defer

/-- A finite tree of routers, with handlers that settle or defer. -/
structure Nests : Prop where
  /-- No router is mounted below itself. -/
  acyclic : Acc (fun q r => s.Mounts ask request scope root r q) root
  targets : ∀ t, s.Offers ask request scope root t →
    (∃ q, t = .router q) ∨ ∃ h, t = .handler h ∧ s.SettlesOrDefers ask request scope root h

end Trees

theorem serves_of_resolve {s : Switch} {r : Ref .router} {path : String} {link : Link Target}
    (h : link ∈ (s.table r).resolve path) : s.Serves r link.target := by
  obtain ⟨g, hg, hlink⟩ := List.mem_flatMap.1 h
  refine ⟨g, hg, ?_⟩
  unfold Group.links at hlink
  split at hlink
  · obtain ⟨target, htarget, rfl⟩ := List.mem_map.1 hlink
    exact htarget
  · cases hlink

end Switch

/-! ## One chain -/

/-- Candidates, each with the number of those behind it. -/
def withRest : List (Link Target) → List (Link Target × Nat)
  | [] => []
  | link :: links => (link, links.length) :: withRest links

theorem mem_of_mem_withRest {links : List (Link Target)} {c : Link Target × Nat} (h : c ∈ withRest links) :
    c.1 ∈ links := by
  induction links with
  | nil => cases h
  | cons link links ih =>
    rcases List.mem_cons.1 h with rfl | h
    · exact List.mem_cons_self
    · exact List.mem_cons_of_mem _ (ih h)

/-- One chain is tried: its handlers are invoked in order, up to the first that settles the request. A
router is replaced by the candidates that it resolves when its turn comes. -/
inductive Tried (ask : Asking) (request : Request) (scope : Ref .scope) :
    List (Link Target × Nat) → Switch × Slot → List Stop → Switch × Slot → Option (Except Failure Unit) → Prop where
  | exhausted (p : Switch × Slot) : Tried ask request scope [] p [] p none
  | settled {h : Ref .handler} {path : String} {params : Bindings} {n : Nat} {chain : List (Link Target × Nat)}
      {s s' : Switch} {slot slot' : Slot} {handler : Handler} {result : Except Failure Unit} :
      s.handlers.get? h = some handler →
      (handler ⟨request, path, params, n⟩).carryOut ask s slot scope = (s', slot', .done result) →
      Settles result →
      Tried ask request scope ((⟨.handler h, path, params⟩, n) :: chain) (s, slot)
        [(h, ⟨request, path, params, n⟩)] (s', slot') (some result)
  | deferred {h : Ref .handler} {path : String} {params : Bindings} {n : Nat} {chain : List (Link Target × Nat)}
      {s s' : Switch} {slot slot' : Slot} {handler : Handler} {invoked : List Stop} {q : Switch × Slot}
      {result : Option (Except Failure Unit)} :
      s.handlers.get? h = some handler →
      (handler ⟨request, path, params, n⟩).carryOut ask s slot scope = (s', slot', .defer) →
      Tried ask request scope chain (s', slot') invoked q result →
      Tried ask request scope ((⟨.handler h, path, params⟩, n) :: chain) (s, slot)
        ((h, ⟨request, path, params, n⟩) :: invoked) q result
  | router {r : Ref .router} {path : String} {params : Bindings} {n : Nat} {chain : List (Link Target × Nat)}
      {s : Switch} {slot : Slot} {invoked : List Stop} {q : Switch × Slot} {result : Option (Except Failure Unit)} :
      Tried ask request scope (withRest ((s.table r).resolve path) ++ chain) (s, slot) invoked q result →
      Tried ask request scope ((⟨.router r, path, params⟩, n) :: chain) (s, slot) invoked q result

namespace Tried

variable {ask : Asking} {request : Request} {scope : Ref .scope} {chain chain' : List (Link Target × Nat)}
  {p q q' : Switch × Slot} {invoked invoked' : List Stop} {result : Option (Except Failure Unit)}

theorem settles {r : Except Failure Unit} (h : Tried ask request scope chain p invoked q (some r)) : Settles r := by
  generalize hresult : some r = result at h
  induction h with
  | exhausted p => cases hresult
  | settled _ _ hsettles =>
    obtain rfl := Option.some.inj hresult
    exact hsettles
  | deferred _ _ _ ih => exact ih hresult
  | router _ ih => exact ih hresult

theorem append (h : Tried ask request scope chain p invoked q none)
    (h' : Tried ask request scope chain' q invoked' q' result) :
    Tried ask request scope (chain ++ chain') p (invoked ++ invoked') q' result := by
  generalize hresult : none = before at h
  induction h with
  | exhausted p => exact h'
  | settled _ _ _ => cases hresult
  | deferred hhandler hleft _ ih => exact .deferred hhandler hleft (ih h' hresult)
  | router _ ih =>
    have hboth := ih h' hresult
    rw [List.append_assoc] at hboth
    exact .router hboth

theorem append_settled {r : Except Failure Unit} (h : Tried ask request scope chain p invoked q (some r))
    (chain' : List (Link Target × Nat)) : Tried ask request scope (chain ++ chain') p invoked q (some r) := by
  generalize hresult : some r = result at h ⊢
  induction h with
  | exhausted p => cases hresult
  | settled hhandler hleft hsettles => exact .settled hhandler hleft hsettles
  | deferred hhandler hleft _ ih => exact .deferred hhandler hleft (ih hresult)
  | router _ ih =>
    have hboth := ih hresult
    rw [List.append_assoc] at hboth
    exact .router hboth

end Tried

/-! ## Flat chains -/

namespace Switch

/-- The handlers of a chain, each router in it replaced by the handlers of the chain that it resolves. -/
inductive Flattens (s : Switch) (request : Request) : List (Link Target × Nat) → List Stop → Prop where
  | nil : s.Flattens request [] []
  | handler {h : Ref .handler} {path : String} {params : Bindings} {n : Nat} {chain : List (Link Target × Nat)}
      {stops : List Stop} :
      s.Flattens request chain stops →
      s.Flattens request ((⟨.handler h, path, params⟩, n) :: chain) ((h, ⟨request, path, params, n⟩) :: stops)
  | router {r : Ref .router} {path : String} {params : Bindings} {n : Nat} {chain : List (Link Target × Nat)}
      {inner stops : List Stop} :
      s.Flattens request (withRest ((s.table r).resolve path)) inner →
      s.Flattens request chain stops →
      s.Flattens request ((⟨.router r, path, params⟩, n) :: chain) (inner ++ stops)

variable {s : Switch} {ask : Asking} {request : Request} {scope : Ref .scope} {root r : Ref .router}

theorem Flattens.append {chain chain' : List (Link Target × Nat)} {stops stops' : List Stop}
    (h : s.Flattens request chain stops) (h' : s.Flattens request chain' stops') :
    s.Flattens request (chain ++ chain') (stops ++ stops') := by
  induction h with
  | nil => exact h'
  | handler _ ih => exact .handler ih
  | router hinner _ _ ih =>
    rw [List.append_assoc]
    exact .router hinner ih

theorem Offers.resolved {s' : Switch} (hs' : s.Becomes ask request scope root s')
    (hr : s.Offers ask request scope root (.router r)) {path : String} {link : Link Target}
    (h : link ∈ (s'.table r).resolve path) : s.Offers ask request scope root link.target :=
  .served hs' hr (serves_of_resolve h)

/-- Each path has a flat chain. -/
theorem Nests.exists_flattens (a : s.Nests ask request scope root) (path : String) :
    ∃ stops, s.Flattens request (withRest ((s.table root).resolve path)) stops := by
  suffices h : ∀ r, Acc (fun q r => s.Mounts ask request scope root r q) r →
      s.Offers ask request scope root (.router r) →
      ∀ path, ∃ stops, s.Flattens request (withRest ((s.table r).resolve path)) stops from
    h root a.acyclic .root path
  intro r hacc
  induction hacc with
  | intro r _ ih =>
    intro hr path
    have hserves (link : Link Target) (h : link ∈ (s.table r).resolve path) : s.Serves r link.target :=
      serves_of_resolve h
    generalize (s.table r).resolve path = links at hserves ⊢
    induction links with
    | nil => exact ⟨[], .nil⟩
    | cons link links ihlinks =>
      obtain ⟨hlink, hlinks⟩ := List.forall_mem_cons.1 hserves
      obtain ⟨stops, hstops⟩ := ihlinks hlinks
      obtain ⟨target, path, params⟩ := link
      have hoffers := Offers.served .refl hr hlink
      rcases a.targets target hoffers with ⟨q, rfl⟩ | ⟨h, rfl, -⟩
      · obtain ⟨inner, hinner⟩ := ih q ⟨s, .refl, hlink⟩ hoffers path
        exact ⟨_, .router hinner hstops⟩
      · exact ⟨_, .handler hstops⟩

/-- As long as no routes change, the handlers that are invoked are the first of the flat chain. -/
theorem Flattens.invoked {chain : List (Link Target × Nat)} {stops invoked : List Stop} {p q : Switch × Slot}
    {result : Option (Except Failure Unit)}
    (hsame : ∀ s' r, s.Becomes ask request scope root s' → s.Offers ask request scope root (.router r) →
      s'.table r = s.table r)
    (hflat : s.Flattens request chain stops) (htried : Tried ask request scope chain p invoked q result)
    (hp : s.Becomes ask request scope root p.1)
    (hchain : ∀ c ∈ chain, s.Offers ask request scope root c.1.target) :
    invoked <+: stops ∧ (result = none → invoked = stops) := by
  induction htried generalizing stops with
  | exhausted p =>
    cases hflat
    exact ⟨List.prefix_rfl, fun _ => rfl⟩
  | settled _ _ _ =>
    cases hflat
    exact ⟨List.prefix_append _ _, nofun⟩
  | deferred hhandler hleft _ ih =>
    obtain ⟨hoffers, hchain⟩ := List.forall_mem_cons.1 hchain
    cases hflat with
    | handler hflat =>
      obtain ⟨hfirst, hall⟩ := ih hflat (hp.deferred hoffers hhandler rfl hleft) hchain
      refine ⟨(List.prefix_cons_inj _).2 hfirst, ?_⟩
      intro hresult
      rw [hall hresult]
  | router _ ih =>
    obtain ⟨hoffers, hchain⟩ := List.forall_mem_cons.1 hchain
    cases hflat with
    | router hinner hflat =>
      rw [← hsame _ _ hp hoffers] at hinner
      refine ih (hinner.append hflat) hp ?_
      intro c hc
      rcases List.mem_append.1 hc with hc | hc
      · exact .resolved hp hoffers (mem_of_mem_withRest hc)
      · exact hchain c hc

end Switch

/-! ## Nested dispatch -/

namespace Activity

variable {ask : Asking} {request : Request} {scope : Ref .scope}

/-- Trying candidates comes to this, whatever waits for the result: these handlers are invoked, and the
request is settled or there is no route. -/
def Comes (ask : Asking) (request : Request) (scope : Ref .scope) (links : List (Link Target)) (p : Switch × Slot)
    (invoked : List Stop) (q : Switch × Slot) (result : Option (Except Failure Unit)) : Prop :=
  ∀ path stack, Steps ask ({ request, scope, slot := p.2, control := .next ⟨links, path⟩, stack }, p.1) invoked
    ({ request, scope, slot := q.2, control := .back (result.getD (.error (.noRoute path))), stack }, q.1)

variable {links : List (Link Target)} {params : Bindings} {seen : String} {invoked invoked' : List Stop}
  {s s' : Switch} {slot slot' : Slot} {q q' : Switch × Slot} {result : Option (Except Failure Unit)}

theorem comes_nil (p : Switch × Slot) : Comes ask request scope [] p [] p none :=
  fun _ _ => .one rfl rfl

section Handlers

variable {h : Ref .handler} {handler : Handler} {left : Plan}

/-- A handler is invoked, and its plan carried out. -/
theorem steps_handler (hhandler : s.handlers.get? h = some handler)
    (hleft : (handler ⟨request, seen, params, links.length⟩).carryOut ask s slot scope = (s', slot', left))
    (path : String) (stack : List Level) :
    Steps ask ({ request, scope, slot, control := .next ⟨⟨.handler h, seen, params⟩ :: links, path⟩, stack }, s)
      [(h, ⟨request, seen, params, links.length⟩)]
      ({ request, scope, slot := slot', control := .run left ⟨links, path⟩, stack }, s') := by
  let a : Activity := { request, scope, slot, control := .next ⟨⟨.handler h, seen, params⟩ :: links, path⟩, stack }
  have hrun := steps_carryOut ask a s (handler ⟨request, seen, params, links.length⟩) ⟨links, path⟩
  rw [hleft] at hrun
  refine Steps.silently (.one ?_ ?_) hrun
  · simp only [invokes, hhandler, visit]
    rfl
  · simp only [advance, step, tryNext, tryLink, hhandler, visit]
    rfl

theorem comes_settled {result : Except Failure Unit} (hhandler : s.handlers.get? h = some handler)
    (hleft : (handler ⟨request, seen, params, links.length⟩).carryOut ask s slot scope = (s', slot', .done result)) :
    Comes ask request scope (⟨.handler h, seen, params⟩ :: links) (s, slot)
      [(h, ⟨request, seen, params, links.length⟩)] (s', slot') (some result) := by
  intro path stack
  exact (steps_handler hhandler hleft path stack).silently (.one rfl rfl)

/-- A handler that defers waits until the rest has been tried, and ends with what came of it. -/
theorem comes_deferred (hhandler : s.handlers.get? h = some handler)
    (hleft : (handler ⟨request, seen, params, links.length⟩).carryOut ask s slot scope = (s', slot', .defer))
    (hrest : Comes ask request scope links (s', slot') invoked q result) :
    Comes ask request scope (⟨.handler h, seen, params⟩ :: links) (s, slot)
      ((h, ⟨request, seen, params, links.length⟩) :: invoked) q result := by
  intro path stack
  have hdefer : Steps ask
      ({ request, scope, slot := slot', control := .run .defer ⟨links, path⟩, stack }, s') invoked
      ({ request, scope, slot := q.2, control := .back (result.getD (.error (.noRoute path)))
         stack := .handler .done ⟨links, path⟩ :: stack }, q.1) :=
    (Steps.one rfl rfl).trans (hrest path (.handler .done ⟨links, path⟩ :: stack))
  have hback := (hdefer.silently (.one rfl rfl)).silently (.one rfl rfl)
  exact (steps_handler hhandler hleft path stack).trans hback

end Handlers

section Routers

variable {r : Ref .router}

/-- A router is entered, and its candidates are tried. -/
theorem steps_router (hinner : Comes ask request scope ((s.table r).resolve seen) (s, slot) invoked q result)
    (path : String) (stack : List Level) :
    Steps ask ({ request, scope, slot, control := .next ⟨⟨.router r, seen, params⟩ :: links, path⟩, stack }, s) invoked
      ({ request, scope, slot := q.2, control := .back (result.getD (.error (.noRoute seen)))
         stack := .router ⟨links, path⟩ :: stack }, q.1) := by
  have henter : Steps ask
      ({ request, scope, slot, control := .next ⟨⟨.router r, seen, params⟩ :: links, path⟩, stack }, s) []
      ({ request, scope, slot, control := .next ⟨(s.table r).resolve seen, seen⟩
         stack := .router ⟨links, path⟩ :: stack }, s) :=
    (Steps.one rfl rfl).silently (.one rfl rfl)
  exact henter.trans (hinner seen _)

/-- A router that has no route makes room for the rest. -/
theorem comes_router (hinner : Comes ask request scope ((s.table r).resolve seen) (s, slot) invoked q none)
    (hrest : Comes ask request scope links q invoked' q' result) :
    Comes ask request scope (⟨.router r, seen, params⟩ :: links) (s, slot) (invoked ++ invoked') q' result := by
  intro path stack
  exact ((steps_router hinner path stack).silently (.one rfl rfl)).trans (hrest path stack)

theorem comes_router_settled {result : Except Failure Unit} (hsettles : Settles result)
    (hinner : Comes ask request scope ((s.table r).resolve seen) (s, slot) invoked q (some result)) :
    Comes ask request scope (⟨.router r, seen, params⟩ :: links) (s, slot) invoked q (some result) := by
  intro path stack
  refine (steps_router hinner path stack).silently (.one rfl ?_)
  cases result with
  | ok _ => rfl
  | error f =>
    simp only [advance, step, goBack, Option.getD_some, hsettles f rfl]
    rfl

end Routers

end Activity

namespace Switch

open Activity

variable {s s' : Switch} {ask : Asking} {request : Request} {scope : Ref .scope} {root r : Ref .router}

/-- Candidates are tried as one chain, and only handlers that defer change the switch until it is
exhausted. -/
def TriesFlat (s : Switch) (ask : Asking) (request : Request) (scope : Ref .scope) (root : Ref .router)
    (links : List (Link Target)) (p : Switch × Slot) : Prop :=
  ∃ invoked q result, Tried ask request scope (withRest links) p invoked q result ∧
    Comes ask request scope links p invoked q result ∧ (result = none → s.Becomes ask request scope root q.1)

/-- If the routers among them try their own candidates so, then all candidates are tried so. -/
theorem Nests.triesFlat_links (a : s.Nests ask request scope root) {links : List (Link Target)}
    (hrouters : ∀ q, s.Mounts ask request scope root r q → ∀ path s' slot,
      s.Becomes ask request scope root s' →
      s.TriesFlat ask request scope root ((s'.table q).resolve path) (s', slot))
    (hoffers : ∀ link ∈ links, s.Offers ask request scope root link.target)
    (hmounts : ∀ link ∈ links, ∀ q, link.target = .router q → s.Mounts ask request scope root r q)
    (hs' : s.Becomes ask request scope root s') (slot : Slot) :
    s.TriesFlat ask request scope root links (s', slot) := by
  induction links generalizing s' slot with
  | nil => exact ⟨[], (s', slot), none, .exhausted _, comes_nil _, fun _ => hs'⟩
  | cons link links ih =>
    obtain ⟨hoffer, hrest⟩ := List.forall_mem_cons.1 hoffers
    obtain ⟨hmount, hmountsRest⟩ := List.forall_mem_cons.1 hmounts
    obtain ⟨target, path, params⟩ := link
    rcases a.targets target hoffer with ⟨q, rfl⟩ | ⟨h, rfl, hbehaves⟩
    · obtain ⟨invoked, p, result, htried, hcomes, hp⟩ := hrouters q (hmount q rfl) path s' slot hs'
      cases result with
      | some result =>
        exact ⟨_, _, _, .router (htried.append_settled _), comes_router_settled htried.settles hcomes, nofun⟩
      | none =>
        obtain ⟨invoked', p', result, htried', hcomes', hp'⟩ := ih hrest hmountsRest (hp rfl) p.2
        exact ⟨_, _, _, .router (htried.append htried'), comes_router hcomes hcomes', hp'⟩
    · obtain ⟨handler, hhandler, hends⟩ := hbehaves s' hs'
      rcases hleft : (handler ⟨request, path, params, links.length⟩).carryOut ask s' slot scope with ⟨s₁, slot₁, left⟩
      rcases hends _ rfl _ _ _ _ hleft with ⟨result, rfl, hsettles⟩ | rfl
      · exact ⟨_, _, _, .settled hhandler hleft hsettles, comes_settled hhandler hleft, nofun⟩
      · have hs₁ := hs'.deferred hoffer hhandler rfl hleft
        obtain ⟨invoked, p, result, htried, hcomes, hp⟩ := ih hrest hmountsRest hs₁ slot₁
        exact ⟨_, _, _, .deferred hhandler hleft htried, comes_deferred hhandler hleft hcomes, hp⟩

theorem Nests.triesFlat (a : s.Nests ask request scope root) (path : String) (slot : Slot) :
    s.TriesFlat ask request scope root ((s.table root).resolve path) (s, slot) := by
  suffices h : ∀ r, Acc (fun q r => s.Mounts ask request scope root r q) r →
      s.Offers ask request scope root (.router r) → ∀ path s' slot, s.Becomes ask request scope root s' →
      s.TriesFlat ask request scope root ((s'.table r).resolve path) (s', slot) from
    h root a.acyclic .root path s slot .refl
  intro r hacc
  induction hacc with
  | intro r _ ih =>
    intro hr path s' slot hs'
    refine a.triesFlat_links (r := r) ?_ ?_ ?_ hs' slot
    · intro q hmounts
      obtain ⟨s₁, hs₁, hserves⟩ := hmounts
      exact ih q ⟨s₁, hs₁, hserves⟩ (.served hs₁ hr hserves)
    · intro link hlink
      exact .resolved hs' hr hlink
    · intro link hlink q hq
      exact ⟨s', hs', hq ▸ serves_of_resolve hlink⟩

/-- A call of the router at the top of a finite tree, whatever waits for its result, comes to trying one
chain: handlers are invoked in order, each with what its own route shows of the request, up to the first
that settles it, whose result is returned. If none does, there is no route for the path of the call. As
long as no routes change, the chain is the flat chain from the start. -/
theorem call_tries_flattened (a : s.Nests ask request scope root) (path : String) (slot : Slot) :
    ∃ invoked s' slot' result,
      Tried ask request scope (withRest ((s.table root).resolve path)) (s, slot) invoked (s', slot') result ∧
      (∀ stack, Steps ask ({ request, scope, slot, control := .call root path, stack }, s) invoked
        ({ request, scope, slot := slot', control := .back (result.getD (.error (.noRoute path))), stack }, s')) ∧
      ((∀ s' r, s.Becomes ask request scope root s' → s.Offers ask request scope root (.router r) →
          s'.table r = s.table r) →
        ∃ stops, s.Flattens request (withRest ((s.table root).resolve path)) stops ∧
          invoked <+: stops ∧ (result = none → invoked = stops)) := by
  obtain ⟨invoked, ⟨s', slot'⟩, result, htried, hcomes, -⟩ := a.triesFlat path slot
  refine ⟨invoked, s', slot', result, htried, ?_, ?_⟩
  · intro stack
    exact (Steps.one rfl rfl).trans (hcomes path stack)
  · intro hsame
    obtain ⟨stops, hflat⟩ := a.exists_flattens path
    refine ⟨stops, hflat, hflat.invoked hsame htried .refl ?_⟩
    intro c hc
    exact .resolved .refl .root (mem_of_mem_withRest hc)

/-- A router that is mounted before a handler, and has a handler of its own. -/
def mounted : Switch where
  routers := ⟨#[
    { groups := [
        ⟨⟨"/plugin", [.literal "plugin"]⟩, .below, [.router ⟨1⟩]⟩,
        ⟨⟨"/", []⟩, .below, [.handler ⟨1⟩]⟩] },
    { groups := [⟨⟨"/:name", [.parameter "name"]⟩, .exact, [.handler ⟨0⟩]⟩] }]⟩
  handlers := ⟨#[fun _ => .defer, fun v => .perform (.respond (.text v.path)) fun _ => .succeed]⟩

theorem mounted_becomes {s' : Switch} (h : mounted.Becomes ask request scope root s') : s' = mounted := by
  match h with
  | .refl => rfl
  | .deferred (h := h) hs' _ hhandler _ hleft =>
    obtain rfl := mounted_becomes hs'
    obtain ⟨index⟩ := h
    match index, hhandler with
    | 0, hhandler =>
      cases hhandler
      cases hleft
      rfl
    | 1, hhandler =>
      cases hhandler
      cases hleft
    | index + 2, hhandler => cases hhandler

theorem mounted_serves {r : Ref .router} {t : Target} (h : mounted.Serves r t) :
    r = ⟨0⟩ ∧ (t = .router ⟨1⟩ ∨ t = .handler ⟨1⟩) ∨ r = ⟨1⟩ ∧ t = .handler ⟨0⟩ := by
  obtain ⟨g, hg, ht⟩ := h
  obtain ⟨index⟩ := r
  match index, hg with
  | 0, hg =>
    left
    refine ⟨rfl, ?_⟩
    rcases List.mem_cons.1 hg with rfl | hg
    · exact .inl (List.mem_singleton.1 ht)
    · obtain rfl := List.mem_singleton.1 hg
      exact .inr (List.mem_singleton.1 ht)
  | 1, hg =>
    obtain rfl := List.mem_singleton.1 hg
    exact .inr ⟨rfl, List.mem_singleton.1 ht⟩
  | index + 2, hg => cases hg

theorem mounted_nests : mounted.Nests ask request scope ⟨0⟩ := by
  have hmounts {r q : Ref .router} (h : mounted.Mounts ask request scope ⟨0⟩ r q) : r = ⟨0⟩ ∧ q = ⟨1⟩ := by
    obtain ⟨s', hs', hserves⟩ := h
    obtain rfl := mounted_becomes hs'
    rcases mounted_serves hserves with ⟨rfl, h | h⟩ | ⟨-, h⟩
    · exact ⟨rfl, Target.router.inj h⟩
    · cases h
    · cases h
  refine ⟨.intro _ ?_, ?_⟩
  · intro q hq
    obtain ⟨-, rfl⟩ := hmounts hq
    refine .intro _ ?_
    intro q hq
    cases (hmounts hq).1
  · intro t ht
    cases ht with
    | root => exact .inl ⟨_, rfl⟩
    | served hs' _ hserves =>
      obtain rfl := mounted_becomes hs'
      rcases mounted_serves hserves with ⟨-, rfl | rfl⟩ | ⟨-, rfl⟩
      · exact .inl ⟨_, rfl⟩
      · refine .inr ⟨_, rfl, ?_⟩
        intro s' hs'
        obtain rfl := mounted_becomes hs'
        refine ⟨_, rfl, ?_⟩
        rintro v - slot s'' slot' left hleft
        cases hleft
        exact .inl ⟨.ok (), rfl, nofun⟩
      · refine .inr ⟨_, rfl, ?_⟩
        intro s' hs'
        obtain rfl := mounted_becomes hs'
        refine ⟨_, rfl, ?_⟩
        rintro v - slot s'' slot' left hleft
        cases hleft
        exact .inr rfl

/-- The handler below the mounted router defers, that router has nothing more, and so the last handler
settles the request. -/
theorem mounted_falls_through :
    ∃ s' slot', Steps .nobody
      ({ request := { path := "/plugin/method" }, scope := ⟨0⟩, control := .call ⟨0⟩ "/plugin/method" }, mounted)
      [(⟨0⟩, ⟨{ path := "/plugin/method" }, "/method", [("name", "method")], 0⟩),
        (⟨1⟩, ⟨{ path := "/plugin/method" }, "/plugin/method", [], 0⟩)]
      ({ request := { path := "/plugin/method" }, scope := ⟨0⟩, slot := slot', control := .back (.ok ()) }, s') := by
  obtain ⟨invoked, s', slot', result, htried, hsteps, -⟩ :=
    call_tries_flattened mounted_nests "/plugin/method" {}
  have hchain : withRest ((mounted.table ⟨0⟩).resolve "/plugin/method") =
      [(⟨.router ⟨1⟩, "/method", []⟩, 1), (⟨.handler ⟨1⟩, "/plugin/method", []⟩, 0)] := by
    rfl
  have hinner : withRest ((mounted.table ⟨1⟩).resolve "/method") =
      [(⟨.handler ⟨0⟩, "/method", [("name", "method")]⟩, 0)] := by
    rfl
  rw [hchain] at htried
  cases htried with
  | router htried =>
    rw [hinner] at htried
    cases htried with
    | settled hhandler hleft _ =>
      cases hhandler
      cases hleft
    | deferred hhandler hleft htried =>
      cases hhandler
      cases hleft
      cases htried with
      | settled hhandler hleft _ =>
        cases hhandler
        cases hleft
        exact ⟨_, _, hsteps []⟩
      | deferred hhandler hleft _ =>
        cases hhandler
        cases hleft

end Switch

end Exchange
