-- SUMMARY: Subscribing, closing and publishing as sequences of atomic steps that may interleave.
import Exchange.Proofs.Hub.Tables

/-!
# Calls in atomic steps

A call is the list of the steps that it has yet to take, and a step may put
others in front. What steps share is a `Scene`: the hub, the slots of the
contexts, and the subscriptions that have returned. In a `Race` several calls
are under way; a schedule says whose turn it is, and every call returns when it
gets its turns (`Race.exists_over`). A call that is alone does just what the
operation of the hub does (`completes_subscribe`, `completes_close`,
`completes_publish`).
-/

namespace Exchange.Hub

/-- What a call does at once. -/
inductive Step where
  /-- The stream of a subscription is opened, and its record put into the table. -/
  | enrol (context : Nat) (scope : Ref .scope) (topic : String) (cleanup : Option Cleanup)
  /-- The sid of a new record is tracked, unless the scope is closed. -/
  | track (r : Record)
  /-- A record that could not be tracked is taken out of the table. -/
  | withdraw (r : Record)
  /-- A scope is closed, and what it tracked is taken. -/
  | takeScope (scope : Ref .scope)
  /-- A release takes its record out of the table. -/
  | release (sid : Sid) (release : Release)
  /-- The cleanup of a record that has left the table runs. -/
  | retire (r : Record)
  /-- The subscribers of a topic are collected. -/
  | collect (topic : String) (message : Value)
  /-- An event is sent to a subscriber. -/
  | deliver (topic : String) (message : Value) (r : Record)
  /-- The record of a subscriber whose stream is gone is taken out of the table. -/
  | prune (r : Record)
  /-- A scope forgets the sid of a record that was taken out. -/
  | untrack (r : Record)

/-- What calls share. -/
structure Scene where
  hub : Hub
  /-- The slots of the contexts on which subscriptions are opened. -/
  slots : Nat → Slot := fun _ => {}
  /-- The subscriptions that have succeeded. -/
  accepted : List Record := []
  /-- The subscriptions that have failed. -/
  refused : List Record := []

/-- Takes a step; gives the steps that must follow. -/
def Scene.exec (c : Scene) (manager : Ref .manager) : Step → Scene × List Step
  | .enrol context scope topic cleanup =>
    match c.hub.managers.get? manager with
    | none => (c, [])
    | some m =>
      let (h, slot, r) := c.hub.enrol (c.slots context) scope manager m topic cleanup
      ({ c with hub := h, slots := fun i => if i = context then slot else c.slots i }, [.track r])
  | .track r =>
    match c.hub.track? r.scope r.sid (.forget manager) with
    | some h => ({ c with hub := h, accepted := c.accepted ++ [r] }, [])
    | none => (c, [.withdraw r])
  | .withdraw r =>
    ({ c with
        hub := ((c.hub.takeRecord manager r.sid none).1).dropSink r.sink
        refused := c.refused ++ [r] }, [])
  | .takeScope scope =>
    let (h, owned) := c.hub.takeScope scope
    ({ c with hub := h }, owned.map fun p => .release p.1 p.2)
  | .release _ (.report text) => ({ c with hub := c.hub.note (.released text) }, [])
  | .release sid (.forget manager) =>
    match c.hub.takeRecord manager sid none with
    | (h, some r) => ({ c with hub := h }, [.retire r])
    | (h, none) => ({ c with hub := h }, [])
  | .retire r => ({ c with hub := c.hub.retire r }, [])
  | .collect topic message => (c, (c.hub.subscribers manager topic).map (.deliver topic message))
  | .deliver topic message r =>
    match c.hub.send r.sink (.event r.sid topic message) with
    | (h, true) => ({ c with hub := h }, [])
    | (h, false) => ({ c with hub := h }, [.prune r])
  | .prune r =>
    match c.hub.takeRecord manager r.sid none with
    | (h, some r) => ({ c with hub := h }, [.untrack r, .retire r])
    | (h, none) => ({ c with hub := h }, [])
  | .untrack r => ({ c with hub := (c.hub.untrack r.scope r.sid).1 }, [])

/-! ## Races -/

inductive Call where
  | subscribe (context : Nat) (scope : Ref .scope) (topic : String) (cleanup : Option Cleanup)
  | close (scope : Ref .scope)
  | publish (topic : String) (message : Value)

/-- The step with which a call begins. -/
def Call.first : Call → Step
  | .subscribe context scope topic cleanup => .enrol context scope topic cleanup
  | .close scope => .takeScope scope
  | .publish topic message => .collect topic message

/-- Calls under way, each with the steps that it has yet to take. -/
structure Race where
  scene : Scene
  calls : List (List Step)

namespace Race

/-- Calls that have not begun. -/
def start (hub : Hub) (slots : Nat → Slot) (calls : List Call) : Race where
  scene := { hub, slots }
  calls := calls.map fun c => [c.first]

/-- The `i`th call takes its next step, if it has not returned. -/
def step (manager : Ref .manager) (race : Race) (i : Nat) : Race :=
  match race.calls[i]? with
  | some (s :: rest) =>
    let (scene, next) := race.scene.exec manager s
    { scene, calls := race.calls.set i (next ++ rest) }
  | _ => race

def run (manager : Ref .manager) (race : Race) (schedule : List Nat) : Race :=
  schedule.foldl (step manager) race

/-- All calls have returned. -/
def Over (race : Race) : Prop :=
  ∀ steps ∈ race.calls, steps = []

theorem step_eq {manager : Ref .manager} {race : Race} {i : Nat} {s : Step} {rest : List Step}
    (h : race.calls[i]? = some (s :: rest)) :
    race.step manager i =
      ⟨(race.scene.exec manager s).1, race.calls.set i ((race.scene.exec manager s).2 ++ rest)⟩ := by
  simp only [step, h]

theorem run_append (manager : Ref .manager) (race : Race) (schedule more : List Nat) :
    race.run manager (schedule ++ more) = (race.run manager schedule).run manager more :=
  List.foldl_append

end Race

/-! ## A call that is alone -/

/-- Steps that are taken one after the other, with those that they call for, lead from one scene to another. -/
inductive Completes (manager : Ref .manager) : Scene → List Step → Scene → Prop where
  | done (c : Scene) : Completes manager c [] c
  | step {c d : Scene} {s : Step} {rest : List Step} :
      Completes manager (c.exec manager s).1 ((c.exec manager s).2 ++ rest) d →
        Completes manager c (s :: rest) d

section Alone

variable {manager : Ref .manager} {c d : Scene}

theorem Completes.releases {owned : List (Sid × Release)} {rest : List Step} (c : Scene)
    (h : Completes manager { c with hub := owned.foldl (fun h p => h.runRelease p.1 p.2) c.hub } rest d) :
    Completes manager c ((owned.map fun p => .release p.1 p.2) ++ rest) d := by
  induction owned generalizing c with
  | nil => exact h
  | cons p owned ih =>
    obtain ⟨sid, release⟩ := p
    have hrest := ih { c with hub := c.hub.runRelease sid release } h
    refine .step ?_
    cases release with
    | report text => exact hrest
    | forget m =>
      rcases takeRecord_none_cases c.hub m sid with ⟨r, -, -, htake⟩ | ⟨htake, -⟩
      · simp only [runRelease, htake] at hrest
        simp only [Scene.exec, htake]
        exact .step hrest
      · simp only [runRelease, htake] at hrest
        simp only [Scene.exec, htake]
        exact hrest

theorem Completes.deliveries {rs : List Record} {topic : String} {message : Value} {rest : List Step} (c : Scene)
    (n : Nat)
    (h : Completes manager { c with hub := (rs.foldl (Hub.deliver manager topic message) (c.hub, n)).1 } rest d) :
    Completes manager c (rs.map (.deliver topic message) ++ rest) d := by
  induction rs generalizing c n with
  | nil => exact h
  | cons r rs ih =>
    refine .step ?_
    rw [List.foldl_cons] at h
    cases hsend : c.hub.send r.sink (.event r.sid topic message) with
    | mk sent received =>
      cases received with
      | true =>
        simp only [Hub.deliver, hsend] at h
        simp only [Scene.exec, hsend]
        exact ih { c with hub := sent } (n + 1) h
      | false =>
        simp only [Hub.deliver, hsend] at h
        simp only [Scene.exec, hsend]
        have hrest := ih { c with hub := (sent.remove manager r.sid none).1 } n h
        refine .step ?_
        rcases takeRecord_none_cases sent manager r.sid with ⟨q, -, hsid, htake⟩ | ⟨htake, -⟩
        · simp only [remove, htake] at hrest
          simp only [Scene.exec, htake]
          rw [← hsid] at hrest ⊢
          exact .step (.step hrest)
        · simp only [remove, htake] at hrest
          simp only [Scene.exec, htake]
          exact hrest

/-- Alone, a call to close does what `closeScope` does, but for the order in the journal. -/
theorem completes_close (c : Scene) (scope : Ref .scope) :
    ∃ h, Completes manager c [(Call.close scope).first] { c with hub := h } ∧
      (c.hub.closeScope scope).1 = { h with journal := h.journal.sortFrom c.hub.journal.length } := by
  refine ⟨_, .step (.releases { c with hub := (c.hub.takeScope scope).1 } (.done _)), rfl⟩

/-- Alone, a call to publish does what `publish` does. -/
theorem completes_publish (c : Scene) (topic : String) (message : Value) :
    Completes manager c [(Call.publish topic message).first]
      { c with hub := (c.hub.publish manager topic message).1 } :=
  .step (.deliveries c 0 (.done _))

theorem exec_enrol {m : Manager} (hm : c.hub.managers.get? manager = some m) (context : Nat)
    (scope : Ref .scope) (topic : String) (cleanup : Option Cleanup) :
    c.exec manager (.enrol context scope topic cleanup) =
      ({ c with
          hub := (c.hub.enrol (c.slots context) scope manager m topic cleanup).1
          slots := fun i => if i = context then
            (c.hub.enrol (c.slots context) scope manager m topic cleanup).2.1 else c.slots i },
        [.track (c.hub.recordOf manager scope topic cleanup)]) := by
  simp only [Scene.exec, hm, ← enrol_record hm (c.slots context) scope topic cleanup]

/-- Alone, a call to subscribe does what `subscribe` does. -/
theorem completes_subscribe {m : Manager} (hm : c.hub.managers.get? manager = some m) (context : Nat)
    (scope : Ref .scope) (topic : String) (cleanup : Option Cleanup) :
    ∃ d, Completes manager c [(Call.subscribe context scope topic cleanup).first] d ∧
      (d.hub, d.slots context, (d.accepted, d.refused)) =
        ((c.hub.subscribe (c.slots context) scope manager topic cleanup).1,
          (c.hub.subscribe (c.slots context) scope manager topic cleanup).2.1,
          match (c.hub.subscribe (c.slots context) scope manager topic cleanup).2.2 with
          | .ok _ => (c.accepted ++ [c.hub.recordOf manager scope topic cleanup], c.refused)
          | .error _ => (c.accepted, c.refused ++ [c.hub.recordOf manager scope topic cleanup])) := by
  have hexec := exec_enrol hm context scope topic cleanup
  rw [subscribe_eq hm]
  generalize c.hub.recordOf manager scope topic cleanup = r at *
  generalize c.hub.enrol (c.slots context) scope manager m topic cleanup = e at *
  cases htrack : e.1.track? r.scope r.sid (.forget manager) with
  | some h =>
    refine ⟨{ c with
      hub := h, slots := fun i => if i = context then e.2.1 else c.slots i, accepted := c.accepted ++ [r] },
      ?_, ?_⟩
    · refine .step ?_
      rw [Call.first, hexec]
      refine .step ?_
      simp only [Scene.exec, htrack]
      exact .done _
    · simp [settle, htrack]
  | none =>
    refine ⟨{ c with
      hub := ((e.1.takeRecord manager r.sid none).1).dropSink r.sink
      slots := fun i => if i = context then e.2.1 else c.slots i, refused := c.refused ++ [r] }, ?_, ?_⟩
    · refine .step ?_
      rw [Call.first, hexec]
      refine .step ?_
      simp only [Scene.exec, htrack]
      exact .step (.done _)
    · simp [settle, htrack]

end Alone

/-! ## Every call returns -/

/-- Steps call for steps of lower rank only. -/
def Step.rank : Step → Nat
  | .withdraw _ | .retire _ | .untrack _ => 0
  | .track _ | .release _ _ | .prune _ => 1
  | .enrol _ _ _ _ | .takeScope _ | .deliver _ _ _ => 2
  | .collect _ _ => 3

theorem Scene.rank_lt_of_exec (c : Scene) (manager : Ref .manager) {s t : Step}
    (h : t ∈ (c.exec manager s).2) : t.rank < s.rank := by
  cases s with
  | enrol context scope topic cleanup =>
    cases hm : c.hub.managers.get? manager with
    | none =>
      rw [exec, hm] at h
      cases h
    | some m =>
      rw [exec_enrol hm] at h
      obtain rfl := List.mem_singleton.1 h
      exact Nat.one_lt_two
  | track r =>
    cases htrack : c.hub.track? r.scope r.sid (.forget manager) with
    | none =>
      rw [exec, htrack] at h
      obtain rfl := List.mem_singleton.1 h
      exact Nat.one_pos
    | some h' =>
      rw [exec, htrack] at h
      cases h
  | takeScope scope =>
    obtain ⟨p, -, rfl⟩ := List.mem_map.1 h
    exact Nat.one_lt_two
  | collect topic message =>
    obtain ⟨r, -, rfl⟩ := List.mem_map.1 h
    exact Nat.lt_succ_self 2
  | release sid release =>
    cases release with
    | report text => cases h
    | forget m =>
      rcases takeRecord_none_cases c.hub m sid with ⟨r, -, -, htake⟩ | ⟨htake, -⟩
      · rw [exec, htake] at h
        obtain rfl := List.mem_singleton.1 h
        exact Nat.one_pos
      · rw [exec, htake] at h
        cases h
  | deliver topic message r =>
    cases hsend : c.hub.send r.sink (.event r.sid topic message) with
    | mk sent received =>
      rw [exec, hsend] at h
      cases received with
      | true => cases h
      | false =>
        obtain rfl := List.mem_singleton.1 h
        exact Nat.one_lt_two
  | prune r =>
    rcases takeRecord_none_cases c.hub manager r.sid with ⟨q, -, -, htake⟩ | ⟨htake, -⟩
    · rw [exec, htake] at h
      simp only [List.mem_cons, List.not_mem_nil, or_false] at h
      rcases h with rfl | rfl <;> exact Nat.one_pos
    · rw [exec, htake] at h
      cases h
  | withdraw | retire | untrack => cases h

section Returns

variable {manager : Ref .manager} {c d e : Scene}

theorem Completes.append {steps rest : List Step} (h : Completes manager c steps d)
    (hrest : Completes manager d rest e) : Completes manager c (steps ++ rest) e := by
  induction h with
  | done c => exact hrest
  | step h ih =>
    have happend := ih hrest
    rw [List.append_assoc] at happend
    exact .step happend

theorem exists_completes (manager : Ref .manager) (c : Scene) (steps : List Step) :
    ∃ d, Completes manager c steps d := by
  have hall (n : Nat) : ∀ (steps : List Step) (c : Scene), (∀ s ∈ steps, s.rank < n) →
      ∃ d, Completes manager c steps d := by
    -- what a step calls for is of lower rank, and what comes after it is a shorter list
    induction n with
    | zero =>
      intro steps c hrank
      cases steps with
      | nil => exact ⟨c, .done c⟩
      | cons s rest => exact absurd (hrank s List.mem_cons_self) (Nat.not_lt_zero _)
    | succ n ih =>
      intro steps
      induction steps with
      | nil =>
        intro c _
        exact ⟨c, .done c⟩
      | cons s rest ihrest =>
        intro c hrank
        obtain ⟨hs, hrest⟩ := List.forall_mem_cons.1 hrank
        obtain ⟨d, hnext⟩ := ih (c.exec manager s).2 (c.exec manager s).1 fun t ht =>
          Nat.lt_of_lt_of_le (c.rank_lt_of_exec manager ht) (Nat.le_of_lt_succ hs)
        obtain ⟨e, he⟩ := ihrest d hrest
        exact ⟨e, .step (hnext.append he)⟩
  apply hall 4
  intro s _
  cases s <;> simp [Step.rank]

/-- A call that takes all turns returns. -/
theorem Completes.run {steps : List Step} {calls : List (List Step)} {i : Nat}
    (h : Completes manager c steps d) (hi : calls[i]? = some steps) :
    ∃ turns, Race.run manager ⟨c, calls⟩ turns = ⟨d, calls.set i []⟩ := by
  induction h generalizing calls with
  | done c =>
    obtain ⟨hlt, hget⟩ := List.getElem?_eq_some_iff.1 hi
    refine ⟨[], ?_⟩
    rw [← hget, List.set_getElem_self]
    rfl
  | step h ih =>
    obtain ⟨hlt, -⟩ := List.getElem?_eq_some_iff.1 hi
    obtain ⟨turns, hturns⟩ := ih (List.getElem?_set_self hlt)
    rw [List.set_set] at hturns
    refine ⟨i :: turns, ?_⟩
    show Race.run manager (Race.step manager ⟨_, calls⟩ i) turns = _
    rw [Race.step_eq hi, hturns]

/-- Whatever has happened, all calls return when they get more turns. -/
theorem Race.exists_over (manager : Ref .manager) (race : Race) :
    ∃ turns, (race.run manager turns).Over := by
  have hall (calls returned : List (List Step)) (hreturned : ∀ steps ∈ returned, steps = []) (c : Scene) :
      ∃ turns, (Race.run manager ⟨c, returned ++ calls⟩ turns).Over := by
    -- one call after the other gets all the turns that it needs
    induction calls generalizing returned c with
    | nil =>
      refine ⟨[], ?_⟩
      intro steps hsteps
      exact hreturned steps (by simpa [Race.run] using hsteps)
    | cons call calls ih =>
      obtain ⟨d, hd⟩ := exists_completes manager c call
      have hcall : (returned ++ call :: calls)[returned.length]? = some call := by
        simp
      obtain ⟨turns, hturns⟩ := hd.run hcall
      have hset : (returned ++ call :: calls).set returned.length [] = (returned ++ [[]]) ++ calls := by
        simp
      obtain ⟨more, hmore⟩ := ih (returned ++ [[]]) (by simpa [or_imp, forall_and] using hreturned) d
      refine ⟨turns ++ more, ?_⟩
      rwa [Race.run_append, hturns, hset]
  exact hall race.calls [] (by simp) race.scene

end Returns

end Exchange.Hub
