-- SUMMARY: What every step of a call keeps: where each record is, and who will see to it.
import Exchange.Proofs.Hub.Steps
import Exchange.Proofs.Ident

/-!
# Scenes that settle

A record is in the table before its scope tracks it, so that a scope may close
in between. `Scene.Settling` is what every step of every call keeps. It says
where each record is: in the table, on its way out, cleaned up, or withdrawn.
It says why a record may be cleaned up: its stream is gone, or its scope has
closed and its subscription had succeeded. And it says who will see to a record
that is in the table: its own subscription, its open scope, or a release.
`Scene.Unshared` adds that no stream is dropped as long as no two subscriptions
share a context.
-/

namespace Exchange.Hub

/-! ## Records and steps -/

theorem filterMap_map_eq_nil {α β γ : Type} {f : β → Option γ} {g : α → β} (h : ∀ a, f (g a) = none)
    (l : List α) : (l.map g).filterMap f = [] := by
  rw [List.filterMap_map, List.filterMap_eq_nil_iff]
  intro a _
  exact h a

/-- The record that a step is to track or to withdraw. -/
def Step.entering? : Step → Option Record
  | .track r | .withdraw r => some r
  | _ => none

/-- The record that a step is to clean up. -/
def Step.held? : Step → Option Record
  | .retire r => some r
  | _ => none

/-- The context on which a step is to open a stream. -/
def Step.context? : Step → Option Nat
  | .enrol context _ _ _ => some context
  | _ => none

namespace Scene

/-- The records that were ever put into the table. -/
def begun (c : Scene) (pending : List Step) : List Record :=
  c.accepted ++ c.refused ++ pending.filterMap Step.entering?

theorem begun_perm (c : Scene) {pending others : List Step} (hp : pending.Perm others) :
    (c.begun pending).Perm (c.begun others) :=
  (hp.filterMap _).append_left _

/-- A record may be cleaned up. -/
def Due (c : Scene) (r : Record) : Prop :=
  c.hub.reading? r.sink = some false ∨ (c.hub.owned? r.scope = none ∧ r ∈ c.accepted)

/-- What a pending step relies on. -/
def Sound (c : Scene) (manager : Ref .manager) (begun : List Record) : Step → Prop
  | .withdraw r => c.hub.owned? r.scope = none
  | .release sid release =>
    release = .forget manager ∧ ∃ r ∈ c.accepted, r.sid = sid ∧ c.hub.owned? r.scope = none
  | .retire r => c.Due r
  | .deliver _ _ r => r ∈ begun
  | .prune r => r ∈ begun ∧ c.hub.reading? r.sink = some false
  | .untrack r => r ∈ begun ∧ r ∉ c.hub.records manager
  | _ => True

/-- Somebody will see to a record in the table. -/
def Minded (c : Scene) (manager : Ref .manager) (pending : List Step) (r : Record) : Prop :=
  .track r ∈ pending ∨ .withdraw r ∈ pending ∨ .release r.sid (.forget manager) ∈ pending ∨
    ∃ owned, c.hub.owned? r.scope = some owned ∧ (r.sid, .forget manager) ∈ owned

theorem Minded.mono {c : Scene} {manager : Ref .manager} {pending others : List Step} {r : Record}
    (h : c.Minded manager pending r) (hsub : ∀ s ∈ pending, s ∈ others) : c.Minded manager others r :=
  h.imp (hsub _) (Or.imp (hsub _) (Or.imp (hsub _) id))

/-- A step that is not about the record sees to nothing. -/
theorem Minded.of_cons {c : Scene} {manager : Ref .manager} {s : Step} {pending : List Step} {r : Record}
    (h : c.Minded manager (s :: pending) r) (htrack : s ≠ .track r) (hwithdraw : s ≠ .withdraw r)
    (hrelease : s ≠ .release r.sid (.forget manager)) : c.Minded manager pending r :=
  h.imp (List.mem_of_ne_of_mem htrack.symm) (Or.imp (List.mem_of_ne_of_mem hwithdraw.symm)
    (Or.imp (List.mem_of_ne_of_mem hrelease.symm) id))

/-- What every step keeps, with the records that have been cleaned up and those that were withdrawn. -/
structure Settling (h₀ : Hub) (manager : Ref .manager) (c : Scene) (pending : List Step)
    (cleaned withdrawn : List Record) : Prop where
  distinct : ((c.begun pending).map (·.sid)).Nodup
  issued : ∀ r ∈ c.begun pending, ∃ n ≤ c.hub.issued manager, r.sid = Sid.nth manager.index n
  parts : (c.hub.records manager ++ pending.filterMap Step.held? ++ cleaned ++ withdrawn).Perm (c.begun pending)
  cleanedUp : CleanedUp h₀ c.hub cleaned
  sinks : ∀ r ∈ c.begun pending, (c.hub.reading? r.sink).isSome
  sound : ∀ s ∈ pending, c.Sound manager (c.begun pending) s
  due : ∀ r ∈ cleaned, c.Due r
  withdrawn : ∀ r ∈ withdrawn, r ∈ c.refused
  refused : ∀ r ∈ c.refused, c.hub.owned? r.scope = none ∧ r ∉ c.hub.records manager
  tracked : ∀ scope owned, c.hub.owned? scope = some owned →
    ∀ p ∈ owned, p.2 = .forget manager ∧ ∃ r ∈ c.accepted, r.sid = p.1 ∧ r.scope = scope
  minded : ∀ r ∈ c.hub.records manager, c.Minded manager pending r

/-! ## What later scenes keep -/

/-- What never changes back: subscriptions that have returned, scopes that are closed, streams that
are gone, and records that have left the table. -/
structure Later (manager : Ref .manager) (begun : List Record) (c c' : Scene) : Prop where
  accepted : ∀ r ∈ c.accepted, r ∈ c'.accepted
  closed : ∀ scope, c.hub.owned? scope = none → c'.hub.owned? scope = none
  sinks : ∀ sink, (c.hub.reading? sink).isSome → (c'.hub.reading? sink).isSome
  gone : ∀ sink, c.hub.reading? sink = some false → c'.hub.reading? sink = some false
  absent : ∀ r ∈ begun, r ∉ c.hub.records manager → r ∉ c'.hub.records manager

section Later

variable {manager : Ref .manager} {c c' : Scene} {begun begun' : List Record}

theorem Later.refl (manager : Ref .manager) (begun : List Record) (c : Scene) : Later manager begun c c :=
  ⟨fun _ => id, fun _ => id, fun _ => id, fun _ => id, fun _ _ => id⟩

/-- All but tables and scopes may change in any way that drops no stream. -/
theorem Later.of_views {h : Hub} (hrecords : h.records manager = c.hub.records manager)
    (howned : ∀ scope, h.owned? scope = c.hub.owned? scope)
    (hreading : ∀ sink, h.reading? sink = c.hub.reading? sink) : Later manager begun c { c with hub := h } := by
  refine ⟨fun _ => id, ?_, ?_, ?_, ?_⟩
  · intro scope hclosed
    rwa [howned]
  · intro sink hsink
    rwa [hreading]
  · intro sink hgone
    rwa [hreading]
  · intro r _ habsent
    rwa [hrecords]

/-- A new subscription may drop a stream, and adds a record that has not been there. -/
theorem Later.of_enrolled {h : Hub} {r : Record} {slot : Slot} (henrolled : Enrolled c.hub manager h r)
    (hreading : ∀ sink, h.reading? sink = (c.hub.openStream slot).1.reading? sink)
    (hfresh : ∀ q ∈ begun, q.sid ≠ r.sid) (slots : Nat → Slot) :
    Later manager begun c { c with hub := h, slots } := by
  refine ⟨fun _ => id, ?_, ?_, ?_, ?_⟩
  · intro scope hs
    rwa [henrolled.owned?]
  · intro sink hs
    obtain ⟨b, hb⟩ := Option.isSome_iff_exists.1 hs
    rw [hreading]
    rcases reading?_openStream c.hub sink slot hb with hs | hs
    · exact Option.isSome_iff_exists.2 ⟨b, hs⟩
    · exact Option.isSome_iff_exists.2 ⟨false, hs⟩
  · intro sink hs
    rw [hreading]
    exact (reading?_openStream c.hub sink slot hs).elim id id
  · intro q hq habsent hmem
    rw [henrolled.records] at hmem
    rcases List.mem_append.1 hmem with hmem | hmem
    · exact habsent hmem
    · obtain rfl := List.mem_singleton.1 hmem
      exact hfresh q hq rfl

theorem Due.later {r : Record} (h : c.Due r) (l : Later manager begun c c') : c'.Due r := by
  rcases h with hgone | ⟨hclosed, hr⟩
  · exact .inl (l.gone r.sink hgone)
  · exact .inr ⟨l.closed r.scope hclosed, l.accepted r hr⟩

theorem Sound.later {s : Step} (h : c.Sound manager begun s) (l : Later manager begun c c')
    (hbegun : ∀ r ∈ begun, r ∈ begun') : c'.Sound manager begun' s := by
  cases s with
  | withdraw r => exact l.closed r.scope h
  | release sid release =>
    obtain ⟨hrelease, r, hr, hsid, hclosed⟩ := h
    exact ⟨hrelease, r, l.accepted r hr, hsid, l.closed r.scope hclosed⟩
  | retire r => exact Due.later h l
  | deliver topic message r => exact hbegun r h
  | prune r => exact ⟨hbegun r h.1, l.gone r.sink h.2⟩
  | untrack r => exact ⟨hbegun r h.1, l.absent r h.1 h.2⟩
  | enrol | track | takeScope | collect => exact h

end Later

/-! ## What a scene that settles says -/

namespace Settling

section

variable {h₀ : Hub} {manager : Ref .manager} {c c' : Scene} {s : Step} {pending others : List Step}
  {cleaned withdrawn : List Record} {r : Record}

theorem start {hub : Hub} (slots : Nat → Slot) (hempty : hub.records manager = [])
    (hscopes : ∀ scope owned, hub.owned? scope = some owned → owned = []) (calls : List Call) :
    Settling hub manager { hub, slots } (calls.map Call.first) [] [] := by
  have hentering : (calls.map Call.first).filterMap Step.entering? = [] := by
    apply filterMap_map_eq_nil
    intro call
    cases call <;> rfl
  have hheld : (calls.map Call.first).filterMap Step.held? = [] := by
    apply filterMap_map_eq_nil
    intro call
    cases call <;> rfl
  have hbegun : begun { hub, slots } (calls.map Call.first) = [] := by
    simp [begun, hentering]
  refine ⟨?_, ?_, ?_, .start hub, ?_, ?_, ?_, ?_, ?_, ?_, ?_⟩
  · simp [hbegun]
  · simp [hbegun]
  · simp [hbegun, hheld, hempty]
  · simp [hbegun]
  · intro s hs
    obtain ⟨call, -, rfl⟩ := List.mem_map.1 hs
    cases call <;> trivial
  · simp
  · simp
  · simp
  · intro scope owned howned p hp
    rw [hscopes scope owned howned] at hp
    cases hp
  · simp [hempty]

theorem mem_begun (a : Settling h₀ manager c pending cleaned withdrawn) (hr : r ∈ c.hub.records manager) :
    r ∈ c.begun pending := by
  apply a.parts.mem_iff.1
  simp [hr]

theorem nodup_records (a : Settling h₀ manager c pending cleaned withdrawn) :
    ((c.hub.records manager).map (·.sid)).Nodup := by
  have hnodup := (a.parts.map (·.sid)).nodup_iff.2 a.distinct
  simp only [List.map_append, List.append_assoc] at hnodup
  exact (List.nodup_append.1 hnodup).1

/-- Only the record itself bears its sid. -/
theorem eq_of_sid {q : Record} (a : Settling h₀ manager c pending cleaned withdrawn) (hr : r ∈ c.begun pending)
    (hq : q ∈ c.begun pending) (hsid : q.sid = r.sid) : q = r :=
  Hub.eq_of_sid a.distinct hq hr hsid

/-- What a step is to show: where the records are now, and what is new about pending steps, cleanups,
subscriptions that failed, scopes and those who see to records. -/
theorem of_later {cleaned' withdrawn' : List Record} (a : Settling h₀ manager c pending cleaned withdrawn)
    (l : Later manager (c.begun pending) c c') (hbegun : (c.begun pending).Perm (c'.begun others))
    (hissued : c'.hub.issued manager = c.hub.issued manager)
    (hparts : (c'.hub.records manager ++ others.filterMap Step.held? ++ cleaned' ++ withdrawn').Perm
      (c.hub.records manager ++ pending.filterMap Step.held? ++ cleaned ++ withdrawn))
    (hcleanedUp : CleanedUp h₀ c'.hub cleaned')
    (hsound : ∀ s ∈ others, s ∈ pending ∨ c'.Sound manager (c'.begun others) s)
    (hdue : ∀ r ∈ cleaned', r ∈ cleaned ∨ c.Due r) (hwithdrawn : ∀ r ∈ withdrawn', r ∈ c'.refused)
    (hrefused : ∀ r ∈ c'.refused,
      r ∈ c.refused ∨ c'.hub.owned? r.scope = none ∧ r ∉ c'.hub.records manager)
    (htracked : ∀ scope owned, c'.hub.owned? scope = some owned →
      ∀ p ∈ owned, p.2 = .forget manager ∧ ∃ r ∈ c'.accepted, r.sid = p.1 ∧ r.scope = scope)
    (hminded : ∀ r ∈ c'.hub.records manager, c'.Minded manager others r) :
    Settling h₀ manager c' others cleaned' withdrawn' := by
  refine ⟨?_, ?_, (hparts.trans a.parts).trans hbegun, hcleanedUp, ?_, ?_, ?_, hwithdrawn, ?_, htracked, hminded⟩
  · exact (hbegun.map _).nodup_iff.1 a.distinct
  · intro r hr
    rw [hissued]
    exact a.issued r (hbegun.mem_iff.2 hr)
  · intro r hr
    exact l.sinks r.sink (a.sinks r (hbegun.mem_iff.2 hr))
  · intro s hs
    rcases hsound s hs with hold | hnew
    · apply (a.sound s hold).later l
      intro r hr
      exact hbegun.mem_iff.1 hr
    · exact hnew
  · intro r hr
    rcases hdue r hr with hold | hnew
    · exact (a.due r hold).later l
    · exact hnew.later l
  · intro r hr
    rcases hrefused r hr with hold | hnew
    · obtain ⟨hclosed, habsent⟩ := a.refused r hold
      exact ⟨l.closed r.scope hclosed, l.absent r (by simp [begun, hold]) habsent⟩
    · exact hnew

theorem perm (a : Settling h₀ manager c pending cleaned withdrawn) (hp : pending.Perm others) :
    Settling h₀ manager c others cleaned withdrawn := by
  refine a.of_later (.refl _ _ _) (begun_perm c hp) rfl ?_ a.cleanedUp ?_ (fun r => .inl) a.withdrawn
    (fun r => .inl) a.tracked ?_
  · exact (((hp.symm.filterMap _).append_left _).append_right _).append_right _
  · intro s hs
    exact .inl (hp.mem_iff.2 hs)
  · intro r hr
    exact (a.minded r hr).mono fun s => hp.mem_iff.1

/-- A step that has nothing to do any more is done with. -/
theorem drop (a : Settling h₀ manager c (s :: pending) cleaned withdrawn) (hentering : s.entering? = none)
    (hheld : s.held? = none) (hrelease : ∀ r ∈ c.hub.records manager, s ≠ .release r.sid (.forget manager)) :
    Settling h₀ manager c pending cleaned withdrawn := by
  have hbegun : c.begun (s :: pending) = c.begun pending := by
    simp only [begun, List.filterMap_cons_none hentering]
  refine a.of_later (.refl _ _ _) (.of_eq hbegun) rfl ?_ a.cleanedUp ?_ (fun r => .inl) a.withdrawn
    (fun r => .inl) a.tracked ?_
  · rw [List.filterMap_cons_none hheld]
  · intro t ht
    exact .inl (List.mem_cons_of_mem s ht)
  · intro r hr
    refine (a.minded r hr).of_cons ?_ ?_ (hrelease r hr)
    · rintro rfl
      cases hentering
    · rintro rfl
      cases hentering

/-- A sound step that moves no record may be added. -/
theorem add (a : Settling h₀ manager c pending cleaned withdrawn) (hentering : s.entering? = none)
    (hheld : s.held? = none) (hsound : c.Sound manager (c.begun pending) s) :
    Settling h₀ manager c (s :: pending) cleaned withdrawn := by
  have hbegun : c.begun (s :: pending) = c.begun pending := by
    simp only [begun, List.filterMap_cons_none hentering]
  refine a.of_later (.refl _ _ _) (.of_eq hbegun.symm) rfl ?_ a.cleanedUp ?_ (fun r => .inl) a.withdrawn
    (fun r => .inl) a.tracked ?_
  · rw [List.filterMap_cons_none hheld]
  · rw [hbegun]
    exact List.forall_mem_cons.2 ⟨.inr hsound, fun t => .inl⟩
  · intro r hr
    exact (a.minded r hr).mono fun t => List.mem_cons_of_mem s

theorem addAll {steps : List Step} (a : Settling h₀ manager c pending cleaned withdrawn)
    (h : ∀ s ∈ steps, s.entering? = none ∧ s.held? = none ∧ c.Sound manager (c.begun pending) s) :
    Settling h₀ manager c (steps ++ pending) cleaned withdrawn := by
  induction steps with
  | nil => exact a
  | cons s steps ih =>
    obtain ⟨⟨hentering, hheld, hsound⟩, hsteps⟩ := List.forall_mem_cons.1 h
    apply (ih hsteps).add hentering hheld
    have hbegun : c.begun (steps ++ pending) = c.begun pending := by
      have hnone : steps.filterMap Step.entering? = [] :=
        List.filterMap_eq_nil_iff.2 fun s hs => (hsteps s hs).1
      simp only [begun, List.filterMap_append, hnone, List.nil_append]
    rwa [hbegun]

/-! ## One step -/

/-- A hub whose views are the same settles in the same way. -/
theorem of_views {h : Hub} (a : Settling h₀ manager c pending cleaned withdrawn)
    (hrecords : h.records manager = c.hub.records manager) (hissued : h.issued manager = c.hub.issued manager)
    (howned : ∀ scope, h.owned? scope = c.hub.owned? scope)
    (hreading : ∀ sink, h.reading? sink = c.hub.reading? sink) (hservices : h.services = c.hub.services)
    (hjournal : h.journal = c.hub.journal) :
    Settling h₀ manager { c with hub := h } pending cleaned withdrawn := by
  refine a.of_later (.of_views hrecords howned hreading) (.refl _) hissued ?_
    (a.cleanedUp.of_eq hservices (.of_eq hjournal)) (fun s => .inl) (fun r => .inl) a.withdrawn
    (fun r => .inl) ?_ ?_
  · rw [hrecords]
  · intro scope owned hs
    exact a.tracked scope owned (by rwa [howned] at hs)
  · intro r hr
    rw [hrecords] at hr
    simpa only [Minded, howned] using a.minded r hr

/-- A record that is due leaves the table to be cleaned up. -/
theorem take (a : Settling h₀ manager c pending cleaned withdrawn) (hr : r ∈ c.hub.records manager)
    (hdue : c.Due r) :
    Settling h₀ manager { c with hub := c.hub.erased manager r.sid } (.retire r :: pending) cleaned
      withdrawn := by
  have hlater : Later manager (c.begun pending) c { c with hub := c.hub.erased manager r.sid } := by
    refine ⟨fun _ => id, fun _ => id, fun _ => id, fun _ => id, ?_⟩
    intro q _ habsent hq
    rw [records_erased] at hq
    exact habsent (List.mem_filter.1 hq).1
  refine a.of_later hlater (.refl _) (issued_erased ..) ?_ (a.cleanedUp.of_eq rfl (.refl _)) ?_ (fun q => .inl)
    a.withdrawn (fun q => .inl) a.tracked ?_
  · rw [records_erased, List.perm_iff_count]
    intro q
    have hcount := (perm_cons_filter_sid a.nodup_records hr).count_eq q
    simp only [Step.held?, List.filterMap_cons, List.count_append, List.count_cons] at hcount ⊢
    omega
  · exact List.forall_mem_cons.2 ⟨.inr (hdue.later hlater), fun s => .inl⟩
  · intro q hq
    rw [records_erased] at hq
    exact (a.minded q (List.mem_filter.1 hq).1).mono fun t => List.mem_cons_of_mem _

/-- The cleanup of a record runs. -/
theorem retire (a : Settling h₀ manager c (.retire r :: pending) cleaned withdrawn) :
    Settling h₀ manager { c with hub := c.hub.retire r } pending (cleaned ++ [r]) withdrawn := by
  refine a.of_later (.of_views (by simp) (by simp) (by simp)) (.refl _) (issued_retire ..) ?_
    (a.cleanedUp.retire r) ?_ ?_ a.withdrawn (fun q => .inl) ?_ ?_
  · rw [records_retire, List.perm_iff_count]
    intro q
    simp only [Step.held?, List.filterMap_cons, List.count_append, List.count_cons, List.count_nil]
    omega
  · intro s hs
    exact .inl (List.mem_cons_of_mem _ hs)
  · intro q hq
    rcases List.mem_append.1 hq with hq | hq
    · exact .inl hq
    · obtain rfl := List.mem_singleton.1 hq
      exact .inr (a.sound (.retire q) List.mem_cons_self)
  · intro scope owned hs
    rw [owned?_retire] at hs
    exact a.tracked scope owned hs
  · intro q hq
    rw [records_retire] at hq
    simpa [Minded] using a.minded q hq

/-- A scope forgets a sid whose record has left the table. -/
theorem untrack (a : Settling h₀ manager c pending cleaned withdrawn) (hr : r ∈ c.begun pending)
    (habsent : r ∉ c.hub.records manager) :
    Settling h₀ manager { c with hub := (c.hub.untrack r.scope r.sid).1 } pending cleaned withdrawn := by
  have hself := owned?_untrack_self c.hub r.scope r.sid
  have hother (scope : Ref .scope) (hs : scope ≠ r.scope) := owned?_untrack_of_ne c.hub r.scope r.sid hs
  have hscope := untrack_eq c.hub r.scope r.sid
  generalize (c.hub.untrack r.scope r.sid).1 = h at *
  have hlater : Later manager (c.begun pending) c { c with hub := h } := by
    refine ⟨fun _ => id, ?_, ?_, ?_, ?_⟩
    · intro scope hs
      by_cases heq : scope = r.scope
      · rw [heq] at hs ⊢
        rw [hself, hs]
        rfl
      · rwa [hother scope heq]
    all_goals simp [hscope]
  refine a.of_later hlater (.refl _) ?_ ?_ ?_ (fun s => .inl) (fun q => .inl) a.withdrawn (fun q => .inl) ?_ ?_
  · rw [hscope, issued_rescoped]
  · rw [hscope, records_rescoped]
  · rw [hscope]
    exact a.cleanedUp.of_eq rfl (.refl _)
  · intro scope owned hs p hp
    by_cases heq : scope = r.scope
    · rw [heq] at hs ⊢
      rw [hself] at hs
      obtain ⟨owned, hopen, rfl⟩ := Option.map_eq_some_iff.1 hs
      exact a.tracked r.scope owned hopen p (List.mem_filter.1 hp).1
    · rw [hother scope heq] at hs
      exact a.tracked scope owned hs p hp
  · intro q hq
    rw [hscope, records_rescoped] at hq
    refine (a.minded q hq).imp id (Or.imp id (Or.imp id ?_))
    rintro ⟨owned, hopen, hmem⟩
    by_cases heq : q.scope = r.scope
    · have hne : q.sid ≠ r.sid := by
        intro hsid
        rw [a.eq_of_sid hr (a.mem_begun hq) hsid] at hq
        exact habsent hq
      refine ⟨owned.filter fun p => p.1 ≠ r.sid, ?_, List.mem_filter.2 ⟨hmem, by simpa using hne⟩⟩
      rw [heq, hself, ← heq, hopen]
      rfl
    · refine ⟨owned, ?_, hmem⟩
      rw [hother q.scope heq, hopen]

/-- A scope closes, and a release for each sid that it tracked is to run. -/
theorem takeScope (a : Settling h₀ manager c pending cleaned withdrawn) (scope : Ref .scope) :
    Settling h₀ manager { c with hub := (c.hub.takeScope scope).1 }
      (((c.hub.takeScope scope).2.map fun p => .release p.1 p.2) ++ pending) cleaned withdrawn := by
  have hself := owned?_takeScope_self c.hub scope
  have hother (s : Ref .scope) (hs : s ≠ scope) := owned?_takeScope_of_ne c.hub scope hs
  have howned : (c.hub.takeScope scope).2 = (c.hub.owned? scope).getD [] := by
    rw [takeScope_eq]
  have hscope : (c.hub.takeScope scope).1 = c.hub.rescoped scope fun s => s.close.1 := by
    rw [takeScope_eq]
  rw [howned]
  generalize (c.hub.takeScope scope).1 = h at *
  have hlater : Later manager (c.begun pending) c { c with hub := h } := by
    refine ⟨fun _ => id, ?_, ?_, ?_, ?_⟩
    · intro s hs
      by_cases heq : s = scope
      · rw [heq, hself]
      · rwa [hother s heq]
    all_goals simp [hscope]
  -- the change of the scope alone leaves its records unminded, so the releases come with it
  have hentering : (((c.hub.owned? scope).getD []).map fun p => Step.release p.1 p.2).filterMap
      Step.entering? = [] := filterMap_map_eq_nil (fun _ => rfl) _
  have hheld : (((c.hub.owned? scope).getD []).map fun p => Step.release p.1 p.2).filterMap
      Step.held? = [] := filterMap_map_eq_nil (fun _ => rfl) _
  refine a.of_later hlater ?_ ?_ ?_ ?_ ?_ (fun r => .inl) a.withdrawn (fun r => .inl) ?_ ?_
  · simp only [begun, List.filterMap_append, hentering, List.nil_append]
    exact .refl _
  · rw [hscope, issued_rescoped]
  · rw [hscope, records_rescoped, List.filterMap_append, hheld, List.nil_append]
  · rw [hscope]
    exact a.cleanedUp.of_eq rfl (.refl _)
  · intro s hs
    rcases List.mem_append.1 hs with hs | hs
    · right
      obtain ⟨p, hp, rfl⟩ := List.mem_map.1 hs
      cases hs : c.hub.owned? scope with
      | none =>
        rw [hs] at hp
        cases hp
      | some owned =>
        rw [hs] at hp
        obtain ⟨hforget, r, hr, hsid, hrscope⟩ := a.tracked scope owned hs p hp
        refine ⟨hforget, r, hr, hsid, ?_⟩
        rw [hrscope]
        exact hself
    · exact .inl hs
  · intro s owned hs
    have hne : s ≠ scope := by
      rintro rfl
      rw [hself] at hs
      cases hs
    rw [hother s hne] at hs
    exact a.tracked s owned hs
  · intro r hr
    rw [hscope, records_rescoped] at hr
    rcases a.minded r hr with h | h | h | ⟨owned, hs, hmem⟩
    · exact .inl (List.mem_append_right _ h)
    · exact .inr (.inl (List.mem_append_right _ h))
    · exact .inr (.inr (.inl (List.mem_append_right _ h)))
    · by_cases heq : r.scope = scope
      · refine .inr (.inr (.inl (List.mem_append_left _ ?_)))
        rw [← heq, hs]
        exact List.mem_map.2 ⟨_, hmem, rfl⟩
      · refine .inr (.inr (.inr ⟨owned, ?_, hmem⟩))
        rw [hother r.scope heq, hs]

/-- A record whose scope is closed must be withdrawn. -/
theorem untrackable (a : Settling h₀ manager c (.track r :: pending) cleaned withdrawn)
    (hclosed : c.hub.owned? r.scope = none) :
    Settling h₀ manager c (.withdraw r :: pending) cleaned withdrawn := by
  refine a.of_later (.refl _ _ _) (.refl _) rfl (.refl _) a.cleanedUp ?_ (fun q => .inl) a.withdrawn
    (fun q => .inl) a.tracked ?_
  · exact List.forall_mem_cons.2 ⟨.inr hclosed, fun s hs => .inl (List.mem_cons_of_mem _ hs)⟩
  · intro q hq
    by_cases heq : q = r
    · rw [heq]
      exact .inr (.inl List.mem_cons_self)
    · refine ((a.minded q hq).of_cons ?_ ?_ ?_).mono fun t => List.mem_cons_of_mem _ <;> simp [Ne.symm heq]

/-- What is still to be tracked or withdrawn has not returned. -/
theorem entering_ne (a : Settling h₀ manager c (s :: pending) cleaned withdrawn) (hs : s.entering? = some r) :
    ∀ q ∈ c.accepted ++ c.refused, q.sid ≠ r.sid := by
  intro q hq
  have hdistinct := a.distinct
  rw [begun, List.filterMap_cons_some hs, List.map_append] at hdistinct
  exact (List.nodup_append.1 hdistinct).2.2 q.sid (List.mem_map.2 ⟨q, hq, rfl⟩) r.sid List.mem_cons_self

/-- A record is tracked by its scope, and its subscription has succeeded. -/
theorem track (a : Settling h₀ manager c (.track r :: pending) cleaned withdrawn)
    {owned : List (Sid × Release)} (hopen : c.hub.owned? r.scope = some owned) :
    Settling h₀ manager
      { c with
        hub := c.hub.rescoped r.scope fun _ => ⟨some (Scope.put r.sid (.forget manager) owned)⟩
        accepted := c.accepted ++ [r] } pending cleaned withdrawn := by
  have hput : Scope.put r.sid (.forget manager) owned = owned ++ [(r.sid, .forget manager)] := by
    apply put_of_not_tracked
    intro p hp hsid
    obtain ⟨-, q, hq, hqsid, -⟩ := a.tracked r.scope owned hopen p hp
    exact a.entering_ne rfl q (List.mem_append_left _ hq) (hqsid.trans hsid)
  rw [hput]
  have htracked := owned?_rescoped_append c.hub r.scope hopen (r.sid, .forget manager)
  have hbegun : (c.begun (.track r :: pending)).Perm ((c.accepted ++ [r]) ++ c.refused ++
      pending.filterMap Step.entering?) := by
    rw [List.perm_iff_count]
    intro q
    simp only [begun, Step.entering?, List.filterMap_cons, List.count_append, List.count_cons, List.count_nil]
    omega
  have hlater : Later manager (c.begun (.track r :: pending)) c
      { c with
        hub := c.hub.rescoped r.scope fun _ => ⟨some (owned ++ [(r.sid, .forget manager)])⟩
        accepted := c.accepted ++ [r] } := by
    refine ⟨fun q => List.mem_append_left [r], ?_, fun _ => id, fun _ => id, fun _ _ => id⟩
    intro scope hs
    have hscope : scope ≠ r.scope := by
      rintro rfl
      rw [hopen] at hs
      cases hs
    exact (owned?_rescoped_of_ne _ _ _ hscope).trans hs
  refine a.of_later hlater hbegun rfl (.refl _) (a.cleanedUp.of_eq rfl (.refl _)) ?_ (fun q => .inl) a.withdrawn
    (fun q => .inl) ?_ ?_
  · intro s hs
    exact .inl (List.mem_cons_of_mem _ hs)
  · intro scope tracked hs p hp
    rcases (htracked p scope).1 ⟨tracked, hs, hp⟩ with ⟨old, hs, hp⟩ | ⟨rfl, rfl⟩
    · obtain ⟨hforget, q, hq, hqsid⟩ := a.tracked scope old hs p hp
      exact ⟨hforget, q, List.mem_append_left _ hq, hqsid⟩
    · exact ⟨rfl, r, by simp, rfl, rfl⟩
  · intro q hq
    by_cases heq : q = r
    · rw [heq]
      exact .inr (.inr (.inr ((htracked _ _).2 (.inr ⟨rfl, rfl⟩))))
    · have hminded : c.Minded manager pending q := by
        refine (a.minded q hq).of_cons ?_ ?_ ?_ <;> simp [Ne.symm heq]
      exact hminded.imp id (Or.imp id (Or.imp id fun hold => (htracked _ _).2 (.inl hold)))

/-- Where the records are once the table has lost a record, if it was there. -/
theorem parts_without (a : Settling h₀ manager c pending cleaned withdrawn) (hr : r ∈ c.begun pending) :
    ∃ gone, (((c.hub.records manager).filter fun q => q.sid ≠ r.sid) ++ pending.filterMap Step.held? ++ cleaned ++
        (withdrawn ++ gone)).Perm
          (c.hub.records manager ++ pending.filterMap Step.held? ++ cleaned ++ withdrawn) ∧
      ∀ q ∈ gone, q = r := by
  by_cases hpresent : r ∈ c.hub.records manager
  · refine ⟨[r], ?_, fun q => List.mem_singleton.1⟩
    rw [List.perm_iff_count]
    intro q
    have hcount := (perm_cons_filter_sid a.nodup_records hpresent).count_eq q
    simp only [List.count_append, List.count_cons, List.count_nil] at hcount ⊢
    omega
  · refine ⟨[], ?_, by simp⟩
    rw [filter_sid_eq_self, List.append_nil]
    intro q hq hsid
    rw [a.eq_of_sid hr (a.mem_begun hq) hsid] at hq
    exact hpresent hq

/-- A record that could not be tracked has left the table, if it was still there, and its subscription has failed. -/
theorem withdraw (a : Settling h₀ manager c (.withdraw r :: pending) cleaned withdrawn) :
    ∃ withdrawn', Settling h₀ manager
      { c with
        hub := ((c.hub.takeRecord manager r.sid none).1).dropSink r.sink
        refused := c.refused ++ [r] } pending cleaned withdrawn' := by
  have hbegun : (c.begun (.withdraw r :: pending)).Perm (c.accepted ++ (c.refused ++ [r]) ++
      pending.filterMap Step.entering?) := by
    rw [List.perm_iff_count]
    intro q
    simp only [begun, Step.entering?, List.filterMap_cons, List.count_append, List.count_cons, List.count_nil]
    omega
  have hr : r ∈ c.begun (.withdraw r :: pending) := by
    simp [begun, Step.entering?]
  have hrecords := records_takeRecord c.hub manager r.sid
  have hissued : (c.hub.takeRecord manager r.sid none).1.issued manager = c.hub.issued manager :=
    issued_takeRecord manager
  have hrest := sameButManagers_takeRecord c.hub manager r.sid none
  have hsame := reading?_takeRecord c.hub manager r.sid none
  generalize (c.hub.takeRecord manager r.sid none).1 = h at *
  have howned (scope : Ref .scope) : (h.dropSink r.sink).owned? scope = c.hub.owned? scope := by
    simp only [Hub.owned?, dropSink, hrest.scopes]
  have hreading (sink : Ref .channel) : (h.dropSink r.sink).reading? sink = c.hub.reading? sink := by
    rw [reading?_dropSink, hsame]
  have hmem {q : Record} (hq : q ∈ (h.dropSink r.sink).records manager) :
      q ∈ c.hub.records manager ∧ q.sid ≠ r.sid := by
    have hq' : q ∈ (c.hub.records manager).filter fun q => q.sid ≠ r.sid := hrecords ▸ hq
    simpa using hq'
  have hlater : Later manager (c.begun (.withdraw r :: pending)) c
      { c with hub := h.dropSink r.sink, refused := c.refused ++ [r] } := by
    refine ⟨fun _ => id, ?_, ?_, ?_, ?_⟩
    · intro scope hs
      rwa [howned]
    · intro sink hs
      rwa [hreading]
    · intro sink hs
      rwa [hreading]
    · intro q _ habsent hq
      exact habsent (hmem hq).1
  obtain ⟨gone, hparts, hgone⟩ := a.parts_without hr
  rw [← hrecords] at hparts
  refine ⟨withdrawn ++ gone, a.of_later hlater hbegun hissued hparts
    (a.cleanedUp.of_eq hrest.services (.of_eq hrest.journal)) ?_ (fun q => .inl) ?_ ?_ ?_ ?_⟩
  · intro s hs
    exact .inl (List.mem_cons_of_mem _ hs)
  · intro q hq
    rcases List.mem_append.1 hq with hq | hq
    · exact List.mem_append_left _ (a.withdrawn q hq)
    · rw [hgone q hq]
      exact List.mem_append_right _ List.mem_cons_self
  · intro q hq
    rcases List.mem_append.1 hq with hq | hq
    · exact .inl hq
    · right
      obtain rfl := List.mem_singleton.1 hq
      exact ⟨hlater.closed q.scope (a.sound (.withdraw q) List.mem_cons_self), fun hq => (hmem hq).2 rfl⟩
  · intro scope owned hs
    rw [howned] at hs
    exact a.tracked scope owned hs
  · intro q hq
    obtain ⟨hq, hne⟩ := hmem hq
    have heq : q ≠ r := by
      rintro rfl
      exact hne rfl
    simp only [Minded, howned]
    refine (a.minded q hq).of_cons ?_ ?_ ?_ <;> simp [heq.symm]

/-- A record enters the table under a sid of its own. -/
theorem enrol {m : Manager} (a : Settling h₀ manager c pending cleaned withdrawn)
    (hm : c.hub.managers.get? manager = some m) (hsids : Sid.Distinct manager.index (c.hub.issued manager + 1))
    (slot : Slot) (scope : Ref .scope) (topic : String) (cleanup : Option Cleanup) (slots : Nat → Slot) :
    Settling h₀ manager
      { c with hub := (c.hub.enrol slot scope manager m topic cleanup).1, slots }
      (.track (c.hub.recordOf manager scope topic cleanup) :: pending) cleaned withdrawn := by
  have henrolled := enrolled hm slot scope topic cleanup
  have hreading (sink : Ref .channel) :
      (c.hub.enrol slot scope manager m topic cleanup).1.reading? sink = (c.hub.openStream slot).1.reading? sink :=
    reading?_enrol slot scope topic cleanup sink
  have hsink : (c.hub.recordOf manager scope topic cleanup).sink = c.hub.channels.next := rfl
  have hsid : (c.hub.recordOf manager scope topic cleanup).sid =
      Sid.nth manager.index (c.hub.issued manager + 1) := rfl
  generalize c.hub.recordOf manager scope topic cleanup = r at *
  generalize (c.hub.enrol slot scope manager m topic cleanup).1 = h at *
  have hbegun : (r :: c.begun pending).Perm (c.accepted ++ c.refused ++
      (Step.track r :: pending).filterMap Step.entering?) := by
    rw [List.perm_iff_count]
    intro q
    simp only [begun, Step.entering?, List.filterMap_cons, List.count_append, List.count_cons]
    omega
  have hfresh : ∀ q ∈ c.begun pending, q.sid ≠ r.sid := by
    intro q hq heq
    obtain ⟨n, hn, hqsid⟩ := a.issued q hq
    rw [hqsid, hsid] at heq
    exact hsids.ne_next hn heq
  have hlater := Later.of_enrolled henrolled hreading hfresh slots
  refine ⟨?_, ?_, ?_, ?_, ?_, ?_, ?_, a.withdrawn, ?_, ?_, ?_⟩
  · apply (hbegun.map _).nodup_iff.1
    refine List.nodup_cons.2 ⟨?_, a.distinct⟩
    intro hmem
    obtain ⟨q, hq, heq⟩ := List.mem_map.1 hmem
    exact hfresh q hq heq
  · intro q hq
    rw [henrolled.issued]
    rcases List.mem_cons.1 (hbegun.mem_iff.2 hq) with rfl | hq
    · exact ⟨_, Nat.le_refl _, hsid⟩
    · obtain ⟨n, hn, hqsid⟩ := a.issued q hq
      exact ⟨n, Nat.le_succ_of_le hn, hqsid⟩
  · refine List.Perm.trans ?_ ((a.parts.cons r).trans hbegun)
    rw [henrolled.records, List.perm_iff_count]
    intro q
    simp only [Step.held?, List.filterMap_cons, List.count_append, List.count_cons, List.count_nil]
    omega
  · exact a.cleanedUp.of_eq henrolled.services (.of_eq henrolled.journal)
  · intro q hq
    rcases List.mem_cons.1 (hbegun.mem_iff.2 hq) with rfl | hq
    · rw [hsink, hreading]
      exact reading?_openStream_next c.hub slot
    · exact hlater.sinks q.sink (a.sinks q hq)
  · intro s hs
    rcases List.mem_cons.1 hs with rfl | hs
    · trivial
    · apply (a.sound s hs).later hlater
      intro q hq
      exact hbegun.mem_iff.1 (List.mem_cons_of_mem _ hq)
  · intro q hq
    exact (a.due q hq).later hlater
  · intro q hq
    obtain ⟨hclosed, habsent⟩ := a.refused q hq
    exact ⟨hlater.closed q.scope hclosed, hlater.absent q (by simp [begun, hq]) habsent⟩
  · intro s owned hs
    rw [henrolled.owned?] at hs
    exact a.tracked s owned hs
  · intro q hq
    rw [henrolled.records] at hq
    rcases List.mem_append.1 hq with hq | hq
    · simp only [Minded, henrolled.owned?]
      exact (a.minded q hq).mono fun t => List.mem_cons_of_mem _
    · obtain rfl := List.mem_singleton.1 hq
      exact .inl List.mem_cons_self

end

/-! ## Any step -/

section

variable {h₀ : Hub} {manager : Ref .manager} {c : Scene} {others : List Step} {cleaned withdrawn : List Record}

theorem exec {s : Step} (a : Settling h₀ manager c (s :: others) cleaned withdrawn)
    (hsids : s.context?.isSome → Sid.Distinct manager.index (c.hub.issued manager + 1)) :
    ∃ cleaned' withdrawn', Settling h₀ manager (c.exec manager s).1 ((c.exec manager s).2 ++ others)
      cleaned' withdrawn' := by
  cases s with
  | enrol context scope topic cleanup =>
    cases hm : c.hub.managers.get? manager with
    | none =>
      simp only [Scene.exec, hm]
      exact ⟨cleaned, withdrawn, a.drop rfl rfl (by simp)⟩
    | some m =>
      have hdone := a.drop rfl rfl (by simp)
      rw [exec_enrol hm]
      exact ⟨cleaned, withdrawn, hdone.enrol hm (hsids rfl) (c.slots context) scope topic cleanup _⟩
  | track r =>
    cases hs : c.hub.owned? r.scope with
    | none =>
      simp only [Scene.exec, track?_eq_none c.hub r.scope hs]
      exact ⟨cleaned, withdrawn, a.untrackable hs⟩
    | some owned =>
      simp only [Scene.exec, track?_eq_some c.hub r.scope hs]
      exact ⟨cleaned, withdrawn, a.track hs⟩
  | withdraw r =>
    obtain ⟨withdrawn', hdone⟩ := a.withdraw
    exact ⟨cleaned, withdrawn', hdone⟩
  | takeScope scope =>
    have hdone := a.drop rfl rfl (by simp)
    exact ⟨cleaned, withdrawn, hdone.takeScope scope⟩
  | release sid release =>
    obtain ⟨rfl, r, hr, rfl, hclosed⟩ := a.sound _ List.mem_cons_self
    have hbegun : r ∈ c.begun (.release r.sid (.forget manager) :: others) := by
      simp [begun, hr]
    rcases takeRecord_none_cases c.hub manager r.sid with ⟨q, hq, hsid, htake⟩ | ⟨htake, hno⟩
    · obtain rfl := a.eq_of_sid hbegun (a.mem_begun hq) hsid
      simp only [Scene.exec, htake]
      refine ⟨cleaned, withdrawn, ((a.take hq (.inr ⟨hclosed, hr⟩)).perm (.swap _ _ _)).drop rfl rfl ?_⟩
      intro p hp heq
      rw [records_erased] at hp
      have hne : p.sid ≠ q.sid := by simpa using (List.mem_filter.1 hp).2
      exact hne (Step.release.inj heq).1.symm
    · simp only [Scene.exec, htake]
      refine ⟨cleaned, withdrawn, a.drop rfl rfl ?_⟩
      intro p hp heq
      exact hno p hp (Step.release.inj heq).1.symm
  | retire r => exact ⟨cleaned ++ [r], withdrawn, a.retire⟩
  | collect topic message =>
    have hdone := a.drop rfl rfl (by simp)
    refine ⟨cleaned, withdrawn, hdone.addAll ?_⟩
    intro s hs
    obtain ⟨r, hr, rfl⟩ := List.mem_map.1 hs
    rw [subscribers_eq] at hr
    exact ⟨rfl, rfl, hdone.mem_begun (List.mem_filter.1 hr).1⟩
  | deliver topic message r =>
    have hbegun : r ∈ c.begun (.deliver topic message r :: others) := a.sound _ List.mem_cons_self
    have hbooks := sameBooks_send c.hub r.sink (.event r.sid topic message)
    have hreading (sink : Ref .channel) := reading?_send c.hub sink r.sink (.event r.sid topic message)
    have hreceived := send_snd c.hub r.sink (.event r.sid topic message)
    rw [isRead_eq] at hreceived
    have hdone := (a.of_views (hbooks.records manager) (hbooks.issued manager) hbooks.owned? hreading
      hbooks.services hbooks.journal).drop rfl rfl (by simp)
    cases hsend : c.hub.send r.sink (.event r.sid topic message) with
    | mk h received =>
      rw [hsend] at hdone hreceived hreading
      cases received with
      | true =>
        simp only [Scene.exec, hsend]
        exact ⟨cleaned, withdrawn, hdone⟩
      | false =>
        simp only [Scene.exec, hsend]
        refine ⟨cleaned, withdrawn, hdone.add rfl rfl ⟨hbegun, ?_⟩⟩
        obtain ⟨b, hb⟩ := Option.isSome_iff_exists.1 (a.sinks r hbegun)
        cases b with
        | true =>
          rw [hb] at hreceived
          cases hreceived
        | false => exact (hreading r.sink).trans hb
  | prune r =>
    obtain ⟨hbegun, hgone⟩ := a.sound _ List.mem_cons_self
    rcases takeRecord_none_cases c.hub manager r.sid with ⟨q, hq, hsid, htake⟩ | ⟨htake, -⟩
    · obtain rfl := a.eq_of_sid hbegun (a.mem_begun hq) hsid
      simp only [Scene.exec, htake]
      have htaken := ((a.take hq (.inl hgone)).perm (.swap _ _ _)).drop rfl rfl (by simp)
      refine ⟨cleaned, withdrawn, htaken.add rfl rfl ⟨hbegun, ?_⟩⟩
      rw [records_erased]
      simp
    · simp only [Scene.exec, htake]
      exact ⟨cleaned, withdrawn, a.drop rfl rfl (by simp)⟩
  | untrack r =>
    obtain ⟨hr, habsent⟩ := a.sound _ List.mem_cons_self
    exact ⟨cleaned, withdrawn, (a.untrack hr habsent).drop rfl rfl (by simp)⟩

end

end Settling

/-! ## Contexts that are not shared -/

section Exec

variable {manager : Ref .manager} {s : Step}

/-- Only a new subscription issues a sid, drops a stream and fills a slot. -/
theorem exec_rest (c : Scene) (manager : Ref .manager) (hs : s.context? = none) :
    (c.exec manager s).1.hub.issued manager = c.hub.issued manager ∧
      (c.exec manager s).1.hub.hosts manager = c.hub.hosts manager ∧
      (∀ sink, (c.exec manager s).1.hub.reading? sink = c.hub.reading? sink) ∧
      (c.exec manager s).1.slots = c.slots ∧ (c.exec manager s).2.filterMap Step.context? = [] := by
  cases s with
  | enrol => cases hs
  | track r =>
    cases htrack : c.hub.owned? r.scope with
    | none => simp [Scene.exec, track?_eq_none c.hub r.scope htrack, Step.context?]
    | some owned => simp [Scene.exec, track?_eq_some c.hub r.scope htrack]
  | withdraw r =>
    refine ⟨issued_takeRecord manager, hosts_takeRecord manager, ?_, rfl, rfl⟩
    intro sink
    simp [Scene.exec]
  | takeScope scope =>
    simp [Scene.exec, takeScope_eq, List.filterMap_map, Function.comp_def, Step.context?]
  | release sid release =>
    cases release with
    | report text => exact ⟨rfl, rfl, fun _ => rfl, rfl, rfl⟩
    | forget m =>
      rcases takeRecord_none_cases c.hub m sid with ⟨r, -, -, htake⟩ | ⟨htake, -⟩
      · simp [Scene.exec, htake, Step.context?]
      · simp [Scene.exec, htake]
  | retire r => simp [Scene.exec]
  | collect topic message => simp [Scene.exec, List.filterMap_map, Function.comp_def, Step.context?]
  | deliver topic message r =>
    have hbooks := sameBooks_send c.hub r.sink (.event r.sid topic message)
    have hreading (sink : Ref .channel) := reading?_send c.hub sink r.sink (.event r.sid topic message)
    have hissued := hbooks.issued manager
    have hhosts := hbooks.hosts manager
    cases hsend : c.hub.send r.sink (.event r.sid topic message) with
    | mk h received =>
      rw [hsend] at hissued hhosts hreading
      cases received with
      | true => simp [Scene.exec, hsend, hissued, hhosts, hreading]
      | false => simp [Scene.exec, hsend, hissued, hhosts, hreading, Step.context?]
  | prune r =>
    rcases takeRecord_none_cases c.hub manager r.sid with ⟨q, -, -, htake⟩ | ⟨htake, -⟩
    · simp [Scene.exec, htake, Step.context?]
    · simp [Scene.exec, htake]
  | untrack r => simp [Scene.exec, untrack_eq]

/-- The other steps only move records on. -/
theorem begun_exec (c : Scene) (manager : Ref .manager) (hs : s.context? = none) (others : List Step) :
    ((c.exec manager s).1.begun ((c.exec manager s).2 ++ others)).Perm (c.begun (s :: others)) := by
  cases s with
  | enrol => cases hs
  | track r =>
    cases htrack : c.hub.owned? r.scope with
    | none =>
      simp only [Scene.exec, track?_eq_none c.hub r.scope htrack]
      exact .refl _
    | some owned =>
      simp only [Scene.exec, track?_eq_some c.hub r.scope htrack]
      rw [List.perm_iff_count]
      intro q
      simp only [begun, Step.entering?, List.nil_append, List.filterMap_cons, List.count_append,
        List.count_cons, List.count_nil]
      omega
  | withdraw r =>
    rw [List.perm_iff_count]
    intro q
    simp only [Scene.exec, begun, Step.entering?, List.nil_append, List.filterMap_cons, List.count_append,
      List.count_cons, List.count_nil]
    omega
  | takeScope scope =>
    have hentering : ((c.hub.takeScope scope).2.map fun p => Step.release p.1 p.2).filterMap
        Step.entering? = [] := filterMap_map_eq_nil (fun _ => rfl) _
    simp [Scene.exec, begun, hentering, Step.entering?, List.filterMap_cons]
  | release sid release =>
    cases release with
    | report text => exact .refl _
    | forget m =>
      rcases takeRecord_none_cases c.hub m sid with ⟨r, -, -, htake⟩ | ⟨htake, -⟩
      · simp [Scene.exec, htake, begun, Step.entering?, List.filterMap_cons]
      · simp [Scene.exec, htake, begun, Step.entering?, List.filterMap_cons]
  | retire r => exact .refl _
  | collect topic message =>
    have hentering : ((c.hub.subscribers manager topic).map (Step.deliver topic message)).filterMap
        Step.entering? = [] := filterMap_map_eq_nil (fun _ => rfl) _
    simp [Scene.exec, begun, hentering, Step.entering?, List.filterMap_cons]
  | deliver topic message r =>
    cases hsend : c.hub.send r.sink (.event r.sid topic message) with
    | mk h received =>
      cases received with
      | true => simp [Scene.exec, hsend, begun, Step.entering?, List.filterMap_cons]
      | false => simp [Scene.exec, hsend, begun, Step.entering?, List.filterMap_cons]
  | prune r =>
    rcases takeRecord_none_cases c.hub manager r.sid with ⟨q, -, -, htake⟩ | ⟨htake, -⟩
    · simp [Scene.exec, htake, begun, Step.entering?, List.filterMap_cons]
    · simp [Scene.exec, htake, begun, Step.entering?, List.filterMap_cons]
  | untrack r => exact .refl _

end Exec

/-- Each subscription has a context of its own, in whose slot there is no stream, and all streams are read. -/
structure Unshared (c : Scene) (pending : List Step) : Prop where
  contexts : (pending.filterMap Step.context?).Nodup
  slots : ∀ i ∈ pending.filterMap Step.context?, ∀ s, (c.slots i).body ≠ .stream s
  read : ∀ r ∈ c.begun pending, c.hub.reading? r.sink = some true

namespace Unshared

variable {manager : Ref .manager} {c : Scene} {pending others : List Step} {s : Step}

theorem perm (a : Unshared c pending) (hp : pending.Perm others) : Unshared c others := by
  have hcontexts := hp.filterMap Step.context?
  refine ⟨hcontexts.nodup_iff.1 a.contexts, ?_, ?_⟩
  · intro i hi
    exact a.slots i (hcontexts.mem_iff.2 hi)
  · intro r hr
    exact a.read r ((begun_perm c hp).mem_iff.2 hr)

theorem enrol {context : Nat} {scope : Ref .scope} {topic : String} {cleanup : Option Cleanup} {m : Manager}
    (a : Unshared c (.enrol context scope topic cleanup :: others)) (hm : c.hub.managers.get? manager = some m) :
    Unshared (c.exec manager (.enrol context scope topic cleanup)).1
      ((c.exec manager (.enrol context scope topic cleanup)).2 ++ others) := by
  obtain ⟨hcontext, hcontexts⟩ := List.nodup_cons.1 a.contexts
  have hbody := a.slots context List.mem_cons_self
  rw [exec_enrol hm]
  refine ⟨hcontexts, ?_, ?_⟩
  · intro i hi s
    have hne : i ≠ context := by
      rintro rfl
      exact hcontext hi
    show (if i = context then _ else c.slots i).body ≠ _
    rw [if_neg hne]
    exact a.slots i (List.mem_cons_of_mem _ hi) s
  · intro r hr
    show (c.hub.enrol (c.slots context) scope manager m topic cleanup).1.reading? r.sink = some true
    rw [reading?_enrol, reading?_openStream_of_body c.hub r.sink hbody]
    have hmem : r = c.hub.recordOf manager scope topic cleanup ∨
        r ∈ c.begun (.enrol context scope topic cleanup :: others) := by
      simp only [begun, Step.entering?, List.filterMap_cons, List.mem_append, List.mem_cons,
        List.nil_append, List.cons_append] at hr ⊢
      rcases hr with (hr | hr) | rfl | hr
      · exact .inr (.inl (.inl hr))
      · exact .inr (.inl (.inr hr))
      · exact .inl rfl
      · exact .inr (.inr hr)
    rcases hmem with rfl | hmem
    · exact reading?_next c.hub
    · have hread := a.read r hmem
      rw [reading?_openChannel_of_ne c.hub r.sink (ne_next_of_reading? c.hub r.sink hread), hread]

theorem exec (a : Unshared c (s :: others)) :
    Unshared (c.exec manager s).1 ((c.exec manager s).2 ++ others) := by
  cases hs : s.context? with
  | none =>
    obtain ⟨-, -, hreading, hslots, hnext⟩ := exec_rest c manager hs
    have hcontexts := a.contexts
    have hempty := a.slots
    rw [List.filterMap_cons_none hs] at hcontexts hempty
    refine ⟨?_, ?_, ?_⟩
    · rwa [List.filterMap_append, hnext]
    · rwa [List.filterMap_append, hnext, hslots]
    · intro r hr
      rw [hreading]
      exact a.read r ((begun_exec c manager hs others).mem_iff.1 hr)
  | some i =>
    cases s with
    | enrol context scope topic cleanup =>
      cases hm : c.hub.managers.get? manager with
      | none =>
        simp only [Scene.exec, hm]
        exact ⟨(List.nodup_cons.1 a.contexts).2, fun i hi => a.slots i (List.mem_cons_of_mem _ hi), a.read⟩
      | some m => exact a.enrol hm
    | _ => cases hs

end Unshared

end Scene

end Exchange.Hub
