-- SUMMARY: However calls interleave, a scope that closes leaves no subscription behind, and each is cleaned up once.
import Exchange.Proofs.Hub.Settling

/-!
# Subscribing while a scope closes

Every schedule of every set of calls keeps a scene settling. Once all calls
have returned, nobody is left to see to a record but an open scope, and each
record is in the table or gone for good.
-/

namespace Exchange

/-- What a subscription was asked for with: a scope, a topic and a cleanup. -/
def Record.terms (r : Record) : Ref .scope × String × Option Cleanup :=
  (r.scope, r.topic, r.cleanup)

namespace Hub

/-- What a step is to ask for. -/
def Step.terms? : Step → Option (Ref .scope × String × Option Cleanup)
  | .enrol _ scope topic cleanup => some (scope, topic, cleanup)
  | _ => none

/-! ## Turns -/

/-- What a turn of one call makes of the steps that are pending in all calls. -/
theorem flatten_set_perm {calls : List (List Step)} {i : Nat} {s : Step} {rest : List Step}
    (h : calls[i]? = some (s :: rest)) :
    ∃ others, calls.flatten.Perm (s :: others) ∧
      ∀ next, (calls.set i (next ++ rest)).flatten.Perm (next ++ others) := by
  induction calls generalizing i with
  | nil => cases h
  | cons call calls ih =>
    cases i with
    | zero =>
      cases h
      refine ⟨rest ++ calls.flatten, .refl _, ?_⟩
      intro next
      simp
    | succ i =>
      obtain ⟨others, hflatten, hset⟩ := ih h
      refine ⟨call ++ others, (hflatten.append_left call).trans List.perm_middle, ?_⟩
      intro next
      exact ((hset next).append_left call).trans (List.perm_append_comm_assoc ..)

/-- A step issues no more sids than it is to. -/
theorem Scene.issued_exec_le (c : Scene) (manager : Ref .manager) (s : Step) (others : List Step) :
    (c.exec manager s).1.hub.issued manager +
        (((c.exec manager s).2 ++ others).filterMap Step.context?).length ≤
      c.hub.issued manager + ((s :: others).filterMap Step.context?).length := by
  cases hs : s.context? with
  | none =>
    obtain ⟨hissued, -, -, -, hnext⟩ := exec_rest c manager hs
    apply Nat.le_of_eq
    rw [hissued, List.filterMap_append, hnext, List.filterMap_cons_none hs, List.nil_append]
  | some i =>
    cases s with
    | enrol context scope topic cleanup =>
      cases hm : c.hub.managers.get? manager with
      | none =>
        simp only [exec, hm, List.nil_append, Step.context?, List.filterMap_cons, List.length_cons]
        omega
      | some m =>
        rw [exec_enrol hm]
        simp only [(enrolled hm (c.slots context) scope topic cleanup).issued, List.cons_append,
          List.nil_append, Step.context?, List.filterMap_cons, List.length_cons]
        omega
    | _ => cases hs

/-- What was asked for, whether it has begun or not. -/
def Scene.asked (c : Scene) (pending : List Step) : List (Ref .scope × String × Option Cleanup) :=
  (c.begun pending).map (·.terms) ++ pending.filterMap Step.terms?

theorem Scene.asked_perm {c : Scene} {pending others : List Step} (hp : pending.Perm others) :
    (c.asked pending).Perm (c.asked others) :=
  ((begun_perm c hp).map _).append (hp.filterMap _)

theorem Step.terms?_eq_none {s : Step} (hs : s.context? = none) : s.terms? = none := by
  cases s with
  | enrol => cases hs
  | _ => rfl

/-- Nothing that was asked for is lost on the way. -/
theorem Scene.asked_exec {c : Scene} {manager : Ref .manager} (hhosts : c.hub.hosts manager = true)
    (s : Step) (others : List Step) :
    ((c.exec manager s).1.asked ((c.exec manager s).2 ++ others)).Perm (c.asked (s :: others)) ∧
      (c.exec manager s).1.hub.hosts manager = true := by
  cases hs : s.context? with
  | none =>
    obtain ⟨-, hsame, -, -, hnext⟩ := exec_rest c manager hs
    have hterms : (c.exec manager s).2.filterMap Step.terms? = [] := by
      apply List.filterMap_eq_nil_iff.2
      intro t ht
      exact Step.terms?_eq_none (List.filterMap_eq_nil_iff.1 hnext t ht)
    refine ⟨?_, hsame.trans hhosts⟩
    rw [asked, asked, List.filterMap_append, hterms, List.filterMap_cons_none (Step.terms?_eq_none hs)]
    exact ((begun_exec c manager hs others).map _).append_right _
  | some i =>
    cases s with
    | enrol context scope topic cleanup =>
      obtain ⟨m, hm⟩ := Option.isSome_iff_exists.1 hhosts
      rw [exec_enrol hm]
      constructor
      · rw [List.perm_iff_count]
        intro t
        simp only [asked, begun, recordOf, Record.terms, Step.entering?, Step.terms?, List.filterMap_cons,
          List.map_append, List.map_cons, List.cons_append, List.nil_append, List.count_append,
          List.count_cons]
        omega
      · show (c.hub.enrol (c.slots context) scope manager m topic cleanup).1.hosts manager = true
        rw [hosts, managers_enrol hm]
        rfl
    | _ => cases hs

namespace Race

variable {h₀ : Hub} {manager : Ref .manager} {race : Race}

/-- The scene settles. -/
def Settles (h₀ : Hub) (manager : Ref .manager) (race : Race) : Prop :=
  ∃ cleaned withdrawn, Scene.Settling h₀ manager race.scene race.calls.flatten cleaned withdrawn

/-- How many sids will have been issued once all calls have returned. -/
def demand (race : Race) (manager : Ref .manager) : Nat :=
  race.scene.hub.issued manager + (race.calls.flatten.filterMap Step.context?).length

/-- It is the turn of a call that is not there or has returned, or a step is taken. -/
theorem step_cases (race : Race) (manager : Ref .manager) (i : Nat) :
    race.step manager i = race ∨
      ∃ s others, race.calls.flatten.Perm (s :: others) ∧
        (race.step manager i).scene = (race.scene.exec manager s).1 ∧
        (race.step manager i).calls.flatten.Perm ((race.scene.exec manager s).2 ++ others) := by
  cases hcall : race.calls[i]? with
  | none =>
    left
    simp only [step, hcall]
  | some call =>
    cases call with
    | nil =>
      left
      simp only [step, hcall]
    | cons s rest =>
      right
      obtain ⟨others, hflatten, hset⟩ := flatten_set_perm hcall
      rw [step_eq hcall]
      exact ⟨s, others, hflatten, rfl, hset _⟩

theorem Settles.step (a : race.Settles h₀ manager) (hsids : Sid.Distinct manager.index (race.demand manager))
    (i : Nat) :
    (race.step manager i).Settles h₀ manager ∧ (race.step manager i).demand manager ≤ race.demand manager := by
  rcases step_cases race manager i with hsame | ⟨s, others, hflatten, hscene, hcalls⟩
  · rw [hsame]
    exact ⟨a, Nat.le_refl _⟩
  · obtain ⟨cleaned, withdrawn, a⟩ := a
    have hbefore := (hflatten.filterMap Step.context?).length_eq
    have hafter := (hcalls.filterMap Step.context?).length_eq
    have hissued := race.scene.issued_exec_le manager s others
    have hdistinct : s.context?.isSome → Sid.Distinct manager.index (race.scene.hub.issued manager + 1) := by
      intro hs
      obtain ⟨i, hi⟩ := Option.isSome_iff_exists.1 hs
      apply hsids.mono
      rw [demand, hbefore, List.filterMap_cons_some hi, List.length_cons]
      omega
    obtain ⟨cleaned', withdrawn', a'⟩ := (a.perm hflatten).exec hdistinct
    refine ⟨⟨cleaned', withdrawn', ?_⟩, ?_⟩
    · rw [hscene]
      exact a'.perm hcalls.symm
    · rw [demand, demand, hscene, hbefore, hafter]
      exact hissued

theorem Settles.run (a : race.Settles h₀ manager) (hsids : Sid.Distinct manager.index (race.demand manager))
    (schedule : List Nat) : (race.run manager schedule).Settles h₀ manager := by
  induction schedule generalizing race with
  | nil => exact a
  | cons i schedule ih =>
    obtain ⟨hsettles, hdemand⟩ := a.step hsids i
    exact ih hsettles (hsids.mono hdemand)

theorem unshared_run (a : race.scene.Unshared race.calls.flatten) (schedule : List Nat) :
    (race.run manager schedule).scene.Unshared (race.run manager schedule).calls.flatten := by
  induction schedule generalizing race with
  | nil => exact a
  | cons i schedule ih =>
    apply ih
    rcases step_cases race manager i with hsame | ⟨s, others, hflatten, hscene, hcalls⟩
    · rwa [hsame]
    · rw [hscene]
      exact ((a.perm hflatten).exec).perm hcalls.symm

/-- What was asked for in all calls. -/
def asked (race : Race) : List (Ref .scope × String × Option Cleanup) :=
  race.scene.asked race.calls.flatten

theorem asked_step (hhosts : race.scene.hub.hosts manager = true) (i : Nat) :
    (race.step manager i).asked.Perm race.asked ∧ (race.step manager i).scene.hub.hosts manager = true := by
  rcases step_cases race manager i with hsame | ⟨s, others, hflatten, hscene, hcalls⟩
  · rw [hsame]
    exact ⟨.refl _, hhosts⟩
  · obtain ⟨hasked, hstill⟩ := Scene.asked_exec hhosts s others
    rw [← hscene] at hasked hstill
    exact ⟨((Scene.asked_perm hcalls).trans hasked).trans (Scene.asked_perm hflatten).symm, hstill⟩

theorem asked_run (hhosts : race.scene.hub.hosts manager = true) (schedule : List Nat) :
    (race.run manager schedule).asked.Perm race.asked := by
  induction schedule generalizing race with
  | nil => exact .refl _
  | cons i schedule ih =>
    obtain ⟨hasked, hstill⟩ := asked_step hhosts i
    exact (ih hstill).trans hasked

end Race

/-! ## When all calls have returned -/

namespace Scene

theorem begun_nil (c : Scene) : c.begun [] = c.accepted ++ c.refused :=
  List.append_nil _

/-- A subscription is open: its record is in the table, its scope is open and tracks it, and its cleanup has not run. -/
def Kept (c : Scene) (manager : Ref .manager) (cleaned : List Record) (r : Record) : Prop :=
  r ∈ c.hub.records manager ∧ r ∉ cleaned ∧
    ∃ owned, c.hub.owned? r.scope = some owned ∧ (r.sid, .forget manager) ∈ owned

/-- A subscription has ended: its record is not in the table, and its cleanup has run. -/
def Ended (c : Scene) (manager : Ref .manager) (cleaned : List Record) (r : Record) : Prop :=
  r ∉ c.hub.records manager ∧ r ∈ cleaned

namespace Settling

variable {h₀ : Hub} {manager : Ref .manager} {c : Scene} {cleaned withdrawn : List Record} {r : Record}

theorem nodup_parts (a : Settling h₀ manager c [] cleaned withdrawn) :
    ((c.hub.records manager ++ cleaned ++ withdrawn).map (·.sid)).Nodup := by
  have hparts := a.parts
  rw [List.filterMap_nil, List.append_nil] at hparts
  exact ((hparts.map (·.sid)).nodup_iff).2 a.distinct

theorem nodup_cleaned (a : Settling h₀ manager c [] cleaned withdrawn) : (cleaned.map (·.sid)).Nodup := by
  have hparts := a.nodup_parts
  rw [List.map_append, List.map_append] at hparts
  exact (List.nodup_append.1 (List.nodup_append.1 hparts).1).2.1

theorem not_cleaned (a : Settling h₀ manager c [] cleaned withdrawn) (hr : r ∈ c.hub.records manager) :
    r ∉ cleaned := by
  intro hcleaned
  have hparts := a.nodup_parts
  rw [List.map_append, List.map_append] at hparts
  exact (List.nodup_append.1 (List.nodup_append.1 hparts).1).2.2 r.sid (List.mem_map_of_mem hr) r.sid
    (List.mem_map_of_mem hcleaned) rfl

/-- A subscription either succeeds or fails. -/
theorem not_refused (a : Settling h₀ manager c [] cleaned withdrawn) (hr : r ∈ c.accepted) : r ∉ c.refused := by
  intro hrefused
  have hdistinct := a.distinct
  rw [begun_nil, List.map_append] at hdistinct
  exact (List.nodup_append.1 hdistinct).2.2 r.sid (List.mem_map_of_mem hr) r.sid
    (List.mem_map_of_mem hrefused) rfl

/-- With no step to come, a record in the table is minded by its scope. -/
theorem kept (a : Settling h₀ manager c [] cleaned withdrawn) (hr : r ∈ c.hub.records manager) :
    c.Kept manager cleaned r := by
  refine ⟨hr, a.not_cleaned hr, ?_⟩
  rcases a.minded r hr with h | h | h | h
  · cases h
  · cases h
  · cases h
  · exact h

theorem accepted_of_record (a : Settling h₀ manager c [] cleaned withdrawn) (hr : r ∈ c.hub.records manager) :
    r ∈ c.accepted := by
  have hbegun := a.mem_begun hr
  rw [begun_nil] at hbegun
  rcases List.mem_append.1 hbegun with h | h
  · exact h
  · exact absurd hr (a.refused r h).2

theorem mem_of_cleaned (a : Settling h₀ manager c [] cleaned withdrawn) (hr : r ∈ cleaned) :
    r ∈ c.accepted ++ c.refused := by
  rw [← begun_nil]
  apply a.parts.mem_iff.1
  simp [hr]

theorem kept_or_ended (a : Settling h₀ manager c [] cleaned withdrawn) (hr : r ∈ c.accepted) :
    c.Kept manager cleaned r ∨ c.Ended manager cleaned r := by
  by_cases hrecord : r ∈ c.hub.records manager
  · exact .inl (a.kept hrecord)
  · right
    refine ⟨hrecord, ?_⟩
    have hparts : r ∈ c.hub.records manager ++ [].filterMap Step.held? ++ cleaned ++ withdrawn := by
      apply a.parts.mem_iff.2
      simp [begun_nil, hr]
    rw [List.filterMap_nil, List.append_nil] at hparts
    rcases List.mem_append.1 hparts with h | h
    · exact (List.mem_append.1 h).resolve_left hrecord
    · exact absurd (a.withdrawn r h) (a.not_refused hr)

/-- Where the stream is read, a cleanup runs only if the subscription had succeeded and its scope has closed. -/
theorem closed_of_cleaned (a : Settling h₀ manager c [] cleaned withdrawn) (hr : r ∈ cleaned)
    (hread : c.hub.isRead r.sink = true) : c.hub.owned? r.scope = none ∧ r ∈ c.accepted := by
  rw [isRead_eq, beq_iff_eq] at hread
  apply (a.due r hr).resolve_left
  simp [hread]

theorem kept_of_read (a : Settling h₀ manager c [] cleaned withdrawn) (hr : r ∈ c.accepted)
    (hopen : c.hub.isClosed r.scope = false) (hread : c.hub.isRead r.sink = true) : c.Kept manager cleaned r := by
  rcases a.kept_or_ended hr with h | ⟨-, hcleaned⟩
  · exact h
  · rw [isClosed_eq, (a.closed_of_cleaned hcleaned hread).1] at hopen
    cases hopen

theorem ended_of_closed (a : Settling h₀ manager c [] cleaned withdrawn) (hr : r ∈ c.accepted)
    (hclosed : c.hub.isClosed r.scope = true) : c.Ended manager cleaned r := by
  rcases a.kept_or_ended hr with ⟨-, -, owned, hopen, -⟩ | h
  · rw [isClosed_eq, hopen] at hclosed
    cases hclosed
  · exact h

theorem not_cleaned_of_refused (a : Settling h₀ manager c [] cleaned withdrawn) (hr : r ∈ c.refused)
    (hread : c.hub.isRead r.sink = true) : r ∉ cleaned := by
  intro hcleaned
  exact a.not_refused (a.closed_of_cleaned hcleaned hread).2 hr

end Settling

end Scene

namespace Race

/-- No two subscriptions share a context, and in no context there is a stream as yet. -/
def Private (slots : Nat → Slot) (calls : List Call) : Prop :=
  (calls.filterMap (·.first.context?)).Nodup ∧ ∀ i s, (slots i).body ≠ .stream s

variable {hub : Hub} {manager : Ref .manager} {slots : Nat → Slot} {calls : List Call} {race : Race}

theorem flatten_start (hub : Hub) (slots : Nat → Slot) (calls : List Call) :
    (start hub slots calls).calls.flatten = calls.map Call.first := by
  induction calls with
  | nil => rfl
  | cons call calls ih => exact congrArg (call.first :: ·) ih

theorem Over.flatten (h : race.Over) : race.calls.flatten = [] :=
  List.flatten_eq_nil_iff.2 h

theorem begun_start (hub : Hub) (slots : Nat → Slot) (calls : List Call) :
    (start hub slots calls).scene.begun (calls.map Call.first) = [] := by
  apply filterMap_map_eq_nil
  intro call
  cases call <;> rfl

theorem asked_start (hub : Hub) (slots : Nat → Slot) (calls : List Call) :
    (start hub slots calls).asked = calls.filterMap (·.first.terms?) := by
  rw [asked, flatten_start, Scene.asked, begun_start, List.filterMap_map]
  rfl

theorem Over.asked (h : race.Over) :
    race.asked = (race.scene.accepted ++ race.scene.refused).map (·.terms) := by
  rw [Race.asked, h.flatten, Scene.asked, Scene.begun_nil, List.filterMap_nil, List.append_nil]

theorem demand_start_le (hub : Hub) (manager : Ref .manager) (slots : Nat → Slot) (calls : List Call) :
    (start hub slots calls).demand manager ≤ hub.issued manager + calls.length := by
  have hle := List.length_filterMap_le Step.context? (calls.map Call.first)
  rw [List.length_map] at hle
  rw [demand, flatten_start]
  exact Nat.add_le_add_left hle _

theorem Private.unshared (h : Private slots calls) (hub : Hub) :
    (start hub slots calls).scene.Unshared (start hub slots calls).calls.flatten := by
  rw [flatten_start]
  refine ⟨?_, fun i _ => h.2 i, ?_⟩
  · rw [List.filterMap_map]
    exact h.1
  · simp [begun_start]

/-- However subscriptions, closes and publishes take turns, all return when they get more turns. Once
they have, each subscription has succeeded or failed; a record that is in the table belongs to an open
scope, and each cleanup has run at most once. A subscription that succeeded is open or has ended, and
has ended if its scope is closed; it is open if its scope is open and its stream is read. One that failed
has left no record, and its cleanup has not run if its stream is read. All streams are read if no context
is shared. -/
theorem kept_or_ended_of_over {schedule : List Nat} (hhosts : hub.hosts manager = true)
    (hempty : hub.records manager = [])
    (hscopes : ∀ scope owned, hub.owned? scope = some owned → owned = [])
    (hsids : Sid.Distinct manager.index (hub.issued manager + calls.length))
    (hrun : (start hub slots calls).run manager schedule = race) :
    (∃ turns, (race.run manager turns).Over) ∧
      (race.Over →
        ((race.scene.accepted ++ race.scene.refused).map (·.terms)).Perm (calls.filterMap (·.first.terms?)) ∧
        (∀ r ∈ race.scene.hub.records manager,
          r ∈ race.scene.accepted ∧ race.scene.hub.isClosed r.scope = false) ∧
        (∃ cleaned, CleanedUp hub race.scene.hub cleaned ∧ (cleaned.map (·.sid)).Nodup ∧
          (∀ label, race.scene.hub.journal.count (.cleaned label) =
            hub.journal.count (.cleaned label) + cleaned.countP fun r => r.cleanup = some (.report label)) ∧
          (∀ r ∈ cleaned, r ∈ race.scene.accepted ++ race.scene.refused) ∧
          (∀ r ∈ race.scene.accepted,
            (race.scene.Kept manager cleaned r ∨ race.scene.Ended manager cleaned r) ∧
              (race.scene.hub.isClosed r.scope = true → race.scene.Ended manager cleaned r) ∧
              (race.scene.hub.isClosed r.scope = false → race.scene.hub.isRead r.sink = true →
                race.scene.Kept manager cleaned r)) ∧
          ∀ r ∈ race.scene.refused, r ∉ race.scene.hub.records manager ∧
            (race.scene.hub.isRead r.sink = true → r ∉ cleaned)) ∧
        (Private slots calls →
          ∀ r ∈ race.scene.accepted ++ race.scene.refused, race.scene.hub.isRead r.sink = true)) := by
  refine ⟨exists_over manager race, ?_⟩
  intro hover
  have hstart : (start hub slots calls).Settles hub manager := by
    refine ⟨[], [], ?_⟩
    rw [flatten_start]
    exact .start slots hempty hscopes calls
  obtain ⟨cleaned, withdrawn, a⟩ := hstart.run (hsids.mono (demand_start_le hub manager slots calls)) schedule
  have hasked : ((start hub slots calls).run manager schedule).asked.Perm (start hub slots calls).asked :=
    asked_run hhosts schedule
  rw [hrun, hover.flatten] at a
  rw [hrun, hover.asked, asked_start] at hasked
  refine ⟨hasked, ?_, ⟨cleaned, a.cleanedUp, a.nodup_cleaned, a.cleanedUp.count, ?_, ?_, ?_⟩, ?_⟩
  · intro r hr
    refine ⟨a.accepted_of_record hr, ?_⟩
    obtain ⟨-, -, owned, hopen, -⟩ := a.kept hr
    rw [isClosed_eq, hopen]
    rfl
  · intro r hr
    exact a.mem_of_cleaned hr
  · intro r hr
    exact ⟨a.kept_or_ended hr, a.ended_of_closed hr, a.kept_of_read hr⟩
  · intro r hr
    exact ⟨(a.refused r hr).2, a.not_cleaned_of_refused hr⟩
  · intro hprivate r hr
    have hunshared : ((start hub slots calls).run manager schedule).scene.Unshared _ :=
      unshared_run (hprivate.unshared hub) schedule
    rw [hrun, hover.flatten] at hunshared
    rw [isRead_eq, hunshared.read r (Scene.begun_nil race.scene ▸ hr)]
    rfl

/-- A hub with an empty table and an open scope. -/
def oneScope : Hub where
  scopes := ⟨#[{}]⟩
  managers := ⟨#[{}]⟩

/-- Two subscriptions, each in a context of its own, and their scope closes. -/
def closing : List Call :=
  [.subscribe 0 ⟨0⟩ "a" (some (.report "first")), .subscribe 1 ⟨0⟩ "a" (some (.report "second")), .close ⟨0⟩]

/-- The first subscription returns, and the scope closes halfway through the second. -/
def halfway : List Nat :=
  [0, 0, 1, 2, 1, 1, 2, 2]

/-- The first subscription ends with one cleanup; the second is refused and never cleaned up. -/
theorem halfway_ended_refused :
    ((start oneScope (fun _ => {}) closing).run ⟨0⟩ halfway).scene.hub.records ⟨0⟩ = [] ∧
      ((start oneScope (fun _ => {}) closing).run ⟨0⟩ halfway).scene.hub.journal.count (.cleaned "first") = 1 ∧
      ((start oneScope (fun _ => {}) closing).run ⟨0⟩ halfway).scene.hub.journal.count (.cleaned "second") = 0 := by
  have hscopes : ∀ scope owned, oneScope.owned? scope = some owned → owned = [] := by
    apply owned_eq_nil_of_new
    intro scope s hs
    have hmem := Array.mem_of_getElem? hs
    simpa [oneScope] using hmem
  have hprivate : Private (fun _ => {}) closing := by
    refine ⟨by decide, ?_⟩
    intro i s h
    cases h
  generalize hrun : (start oneScope (fun _ => {}) closing).run ⟨0⟩ halfway = race
  have hover : race.Over := by
    subst hrun
    unfold Over
    decide +kernel
  obtain ⟨r, haccepted, hfirst⟩ :
      ∃ r, race.scene.accepted = [r] ∧ r.terms = (⟨0⟩, "a", some (.report "first")) := by
    apply List.map_eq_singleton_iff.1
    subst hrun
    decide +kernel
  obtain ⟨q, hrefused, -⟩ :
      ∃ q, race.scene.refused = [q] ∧ q.terms = (⟨0⟩, "a", some (.report "second")) := by
    apply List.map_eq_singleton_iff.1
    subst hrun
    decide +kernel
  have hclosed : race.scene.hub.isClosed ⟨0⟩ = true := by
    subst hrun
    decide +kernel
  obtain ⟨-, hopen, ⟨cleaned, -, hdistinct, hcount, hmem, hsucceeded, hfailed⟩, hread⟩ :=
    (kept_or_ended_of_over rfl rfl hscopes (Sid.distinct_of_lt (by decide)) hrun).2 hover
  simp only [haccepted, hrefused] at hopen hmem hsucceeded hfailed hread
  have hscope : r.scope = ⟨0⟩ := congrArg (·.1) hfirst
  have hlabel : r.cleanup = some (.report "first") := congrArg (·.2.2) hfirst
  have hin : r ∈ cleaned := by
    apply And.right
    apply (hsucceeded r List.mem_cons_self).2.1
    rw [hscope, hclosed]
  have hout : q ∉ cleaned := (hfailed q List.mem_cons_self).2 (hread hprivate q (by simp))
  have honly : ∀ p ∈ cleaned, p = r := by
    intro p hp
    rcases List.mem_cons.1 (hmem p hp) with hpr | hpq
    · exact hpr
    · rw [List.mem_singleton.1 hpq] at hp
      exact absurd hp hout
  have hcleaned : cleaned = [r] := by
    match cleaned, hin, honly, hdistinct with
    | [p], _, honly, _ => rw [honly p List.mem_cons_self]
    | p :: p' :: rest, _, honly, hdistinct =>
      rw [honly p (by simp), honly p' (by simp)] at hdistinct
      simp at hdistinct
  refine ⟨?_, ?_, ?_⟩
  · apply List.eq_nil_iff_forall_not_mem.2
    intro p hp
    obtain ⟨hpr, hpopen⟩ := hopen p hp
    rw [List.mem_singleton.1 hpr, hscope, hclosed] at hpopen
    cases hpopen
  · rw [hcount, hcleaned]
    simp [hlabel, oneScope]
  · rw [hcount, hcleaned]
    simp [hlabel, oneScope]

/-- Two subscriptions in one context, the second of which drops the stream of the first, and a publish. -/
def sharing : List Call :=
  [.subscribe 0 ⟨0⟩ "a" (some (.report "first")), .subscribe 0 ⟨0⟩ "b" (some (.report "second")),
    .publish "a" (.bool true)]

/-- One call after the other. -/
def inTurn : List Nat :=
  [0, 0, 1, 1, 2, 2, 2, 2, 2]

/-- The first subscription has succeeded and its scope is open, but its record is gone. -/
theorem sharing_not_kept :
    ((start oneScope (fun _ => {}) sharing).run ⟨0⟩ inTurn).Over ∧
      ((start oneScope (fun _ => {}) sharing).run ⟨0⟩ inTurn).scene.hub.isClosed ⟨0⟩ = false ∧
      ((start oneScope (fun _ => {}) sharing).run ⟨0⟩ inTurn).scene.accepted.map (·.topic) = ["a", "b"] ∧
      ((start oneScope (fun _ => {}) sharing).run ⟨0⟩ inTurn).scene.hub.journal.count (.cleaned "first") = 1 ∧
      ∃ r ∈ ((start oneScope (fun _ => {}) sharing).run ⟨0⟩ inTurn).scene.accepted,
        r.scope = ⟨0⟩ ∧ r ∉ ((start oneScope (fun _ => {}) sharing).run ⟨0⟩ inTurn).scene.hub.records ⟨0⟩ := by
  unfold Over
  decide +kernel

end Race

end Hub

end Exchange
