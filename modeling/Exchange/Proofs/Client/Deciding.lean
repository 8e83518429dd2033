-- SUMMARY: Requests that race with the end of the connection are decided once, and none is forgotten in the table.
import Exchange.Proofs.Client.Calls

/-!
# Decisions on requests that race with the end

However requests and calls to shut take turns, each request is decided once
(`Scene.names_exec`), one that is refused is not valid or finds the client closed
(`Grounded`), and an entry of the table belongs to a request that is not decided
yet, or a call to shut is to collect it or to take it (`Swept`).
-/

namespace Exchange.Client.Shutdown

/-! ## What steps are about -/

namespace Step

/-- The request that a call is sending. -/
def request? : Step → Option RequestId
  | check id _ | enter id _ | recheck id _ _ | send id _ _ | discard id => some id
  | _ => none

/-- The request that has entered the table, and is not decided yet. -/
def entered? : Step → Option RequestId
  | recheck id _ _ | send id _ _ | discard id => some id
  | _ => none

/-- The request that may yet succeed, with its stream. -/
def open? : Step → Option (RequestId × Ref .inbox)
  | recheck id inbox _ | send id inbox _ => some (id, inbox)
  | _ => none

/-- The entry that was taken out of the table, and is not told yet. -/
def held? : Step → Option Pending
  | tell _ q => some q
  | _ => none

/-- How the connection ended, as a call to shut has it. -/
def failure? : Step → Option (Option String)
  | close failure | part failure | collect failure | take failure _ | tell failure _ => some failure
  | _ => none

end Step

namespace Scene

/-- The requests that have been decided, and those that are being sent. -/
def names (c : Scene) (todo : List Step) : List RequestId :=
  c.accepted.map (·.1) ++ c.refused.map (·.1) ++ todo.filterMap Step.request?

/-- The requests that have been decided, and those that have entered the table. -/
def known (c : Scene) (todo : List Step) : List RequestId :=
  c.accepted.map (·.1) ++ c.refused.map (·.1) ++ todo.filterMap Step.entered?

/-- The requests that have succeeded, and those that may yet. -/
def streams (c : Scene) (todo : List Step) : List (RequestId × Ref .inbox) :=
  c.accepted ++ todo.filterMap Step.open?

/-- The entries of the table, and those that were taken out and are not told yet. -/
def held (c : Scene) (todo : List Step) : List Pending :=
  c.desk.pending ++ todo.filterMap Step.held?

end Scene

/-! ## Each request is decided once -/

theorem Scene.names_exec (c : Scene) (t : Step) (todo : List Step) :
    ((c.exec t).1.names ((c.exec t).2 ++ todo)).Perm (c.names (t :: todo)) := by
  have hrefuse (c : Scene) (id : RequestId) (e : Error) (t : Step) (ht : t.request? = some id) :
      (c.refuse id e).names todo = c.names (t :: todo) := by
    simp [names, refuse, ht]
  have hsame (u : Step) (hu : u.request? = t.request?) : c.names (u :: todo) = c.names (t :: todo) := by
    simp [names, List.filterMap_cons, hu]
  cases t with
  | check id r =>
    simp only [exec]
    split
    · exact .of_eq (hrefuse c id _ _ rfl)
    · split
      · exact .of_eq (hrefuse c id _ _ rfl)
      · exact .of_eq (hsame _ rfl)
  | enter id r => exact .of_eq (hsame _ rfl)
  | recheck id inbox r =>
    simp only [exec]
    split
    · exact .of_eq (hsame _ rfl)
    · exact .of_eq (hsame _ rfl)
  | send id inbox r =>
    simp only [exec]
    split
    · simp only [names, accept, List.map_append, List.map_singleton, List.append_assoc, List.singleton_append,
        List.nil_append]
      refine .append_left _ ?_
      exact List.perm_middle.symm
    · exact .of_eq (hsame _ rfl)
  | discard id => exact .of_eq (hrefuse _ id _ _ rfl)
  | close | part | tell => exact .refl _
  | collect failure =>
    have hnone : (c.desk.ids.map (Step.take failure)).filterMap Step.request? = [] := by
      simp [Step.request?]
    simp only [exec, names, List.filterMap_append, hnone]
    exact .refl _
  | take failure id =>
    simp only [exec]
    split <;> exact .refl _

theorem kept_names (names : List RequestId) :
    Interleaving.Kept Scene.exec fun c todo => (c.names todo).Perm names where
  perm hsteps h := (List.Perm.append_left _ (hsteps.filterMap _)).symm.trans h
  exec h := (Scene.names_exec _ _ _).trans h

/-! ## No entry is forgotten -/

namespace Step

/-- The step is one of a call to shut that has yet to part with the writer. -/
def Parts : Step → Prop
  | close _ | part _ => True
  | _ => False

/-- The step is to decide on the entry of a request. -/
def Minds (id : RequestId) : Step → Prop
  | recheck id' _ _ | send id' _ _ | discard id' | take _ id' => id' = id
  | collect _ => True
  | _ => False

end Step

/-- While the writer takes frames a call to shut has yet to part with it. Once the writer takes none,
each entry is minded. -/
structure Swept (c : Scene) (todo : List Step) : Prop where
  parting : c.taking = true → ∃ u ∈ todo, u.Parts
  minded : c.taking = false → ∀ q ∈ c.desk.pending, ∃ u ∈ todo, u.Minds q.id

section Swept

variable {c c' : Scene} {t : Step} {todo next : List Step}

theorem exists_next {P : Step → Prop} (h : ∃ u ∈ t :: todo, P u) (hnext : P t → ∃ u ∈ next, P u) :
    ∃ u ∈ next ++ todo, P u := by
  obtain ⟨u, hu, hP⟩ := h
  rcases List.mem_cons.1 hu with rfl | hu
  · obtain ⟨v, hv, hP⟩ := hnext hP
    exact ⟨v, List.mem_append_left _ hv, hP⟩
  · exact ⟨u, List.mem_append_right _ hu, hP⟩

/-- A step that leaves the writer as it is, and each entry to a step that follows or that was to come. -/
theorem Swept.after (h : Swept c (t :: todo)) (htaking : c'.taking = c.taking)
    (hparts : t.Parts → ∃ u ∈ next, u.Parts)
    (hminds : c.taking = false → ∀ q ∈ c'.desk.pending,
      (∃ u ∈ next, u.Minds q.id) ∨ (q ∈ c.desk.pending ∧ ¬t.Minds q.id)) :
    Swept c' (next ++ todo) where
  parting htakes := exists_next (h.parting (htaking ▸ htakes)) hparts
  minded hparted q hq := by
    rcases hminds (htaking ▸ hparted) q hq with ⟨u, hu, hminds⟩ | ⟨hold, hother⟩
    · exact ⟨u, List.mem_append_left _ hu, hminds⟩
    · exact exists_next (h.minded (htaking ▸ hparted) q hold) fun hminds => absurd hminds hother

theorem Swept.exec (h : Swept c (t :: todo)) : Swept (c.exec t).1 ((c.exec t).2 ++ todo) := by
  have hothers {id : RequestId} {q : Pending} (hq : q ∈ (c.desk.without id).pending) :
      q ∈ c.desk.pending ∧ id ≠ q.id :=
    (Desk.mem_without.1 hq).imp_right Ne.symm
  cases t with
  | check id r =>
    simp only [Scene.exec]
    split
    · exact h.after rfl False.elim fun _ q hq => .inr ⟨hq, False.elim⟩
    · split
      · exact h.after rfl False.elim fun _ q hq => .inr ⟨hq, False.elim⟩
      · exact h.after rfl False.elim fun _ q hq => .inr ⟨hq, False.elim⟩
  | enter id r =>
    refine h.after rfl False.elim fun _ q hq => ?_
    rcases List.mem_append.1 hq with hold | hnew
    · exact .inr ⟨hold, False.elim⟩
    · obtain rfl := List.mem_singleton.1 hnew
      exact .inl ⟨_, List.mem_cons_self, rfl⟩
  | recheck id inbox r =>
    refine h.after rfl False.elim fun _ q hq => ?_
    by_cases hid : id = q.id
    · refine .inl ⟨_, List.mem_cons_self, ?_⟩
      split <;> exact hid
    · exact .inr ⟨hq, hid⟩
  | send id inbox r =>
    simp only [Scene.exec]
    split
    · rename_i htakes
      exact h.after rfl False.elim fun hparted => absurd (htakes.symm.trans hparted) (by decide)
    · refine h.after rfl False.elim fun _ q hq => ?_
      by_cases hid : id = q.id
      · exact .inl ⟨_, List.mem_cons_self, hid⟩
      · exact .inr ⟨hq, hid⟩
  | discard id =>
    have hpending : (c.desk.remove id).pending = (c.desk.without id).pending := Desk.pending_remove c.desk id
    refine h.after rfl False.elim fun _ q hq => .inr (hothers ?_)
    rw [← hpending]
    exact hq
  | close failure =>
    exact h.after rfl (fun _ => ⟨_, List.mem_cons_self, trivial⟩) fun _ q hq => .inr ⟨hq, False.elim⟩
  | part failure => exact ⟨Bool.noConfusion, fun _ q _ => ⟨.collect failure, List.mem_cons_self, trivial⟩⟩
  | collect failure =>
    refine h.after rfl False.elim fun _ q hq => .inl ⟨.take failure q.id, ?_, rfl⟩
    exact List.mem_map_of_mem (List.mem_map_of_mem hq)
  | take failure id =>
    simp only [Scene.exec]
    split
    · exact h.after rfl False.elim fun _ q hq => .inr (hothers hq)
    · rename_i hnone
      refine h.after rfl False.elim fun _ q hq => .inr ⟨hq, fun hid => ?_⟩
      exact Desk.find?_eq_none_iff.1 hnone q hq hid.symm
  | tell failure q₀ => exact h.after rfl False.elim fun _ q hq => .inr ⟨hq, False.elim⟩

/-- When nothing is to come, nobody is left in the table. -/
theorem Swept.pending_eq_nil (h : Swept c []) : c.desk.pending = [] := by
  have hparted : c.taking = false := by
    rw [← Bool.not_eq_true]
    intro htakes
    obtain ⟨u, hu, -⟩ := h.parting htakes
    cases hu
  refine List.eq_nil_iff_forall_not_mem.2 fun q hq => ?_
  obtain ⟨u, hu, -⟩ := h.minded hparted q hq
  cases hu

end Swept

theorem kept_swept : Interleaving.Kept Scene.exec Swept where
  perm hsteps h :=
    { parting := fun htakes => by
        obtain ⟨u, hu, hparts⟩ := h.parting htakes
        exact ⟨u, hsteps.subset hu, hparts⟩
      minded := fun hparted q hq => by
        obtain ⟨u, hu, hminds⟩ := h.minded hparted q hq
        exact ⟨u, hsteps.subset hu, hminds⟩ }
  exec h := h.exec

/-! ## Why requests are refused -/

/-- A request is refused because it is not valid or because the client is closed. -/
structure Grounded (requests : List (RequestId × Request)) (c : Scene) (todo : List Step) : Prop where
  asked : ∀ id r, .check id r ∈ todo → (id, r) ∈ requests
  grounds : ∀ p ∈ c.refused, p.2 = .closed ∨ ∃ r, (p.1, r) ∈ requests ∧ validate r = .error p.2

section Grounded

variable {requests : List (RequestId × Request)} {c c' : Scene} {t : Step} {todo next : List Step}

theorem Grounded.after (h : Grounded requests c (t :: todo)) (hnext : ∀ id r, .check id r ∉ next)
    (hgrounds : ∀ p ∈ c'.refused, p ∈ c.refused ∨ p.2 = .closed ∨
      ∃ r, (p.1, r) ∈ requests ∧ validate r = .error p.2) : Grounded requests c' (next ++ todo) where
  asked id r hin := by
    rcases List.mem_append.1 hin with hin | hin
    · exact absurd hin (hnext id r)
    · exact h.asked id r (List.mem_cons_of_mem _ hin)
  grounds p hp := (hgrounds p hp).elim (h.grounds p) id

theorem Grounded.exec (h : Grounded requests c (t :: todo)) :
    Grounded requests (c.exec t).1 ((c.exec t).2 ++ todo) := by
  have hrefuse {c' : Scene} {id : RequestId} {e : Error} (hsame : c'.refused = c.refused)
      (he : e = .closed ∨ ∃ r, (id, r) ∈ requests ∧ validate r = .error e) :
      ∀ p ∈ (c'.refuse id e).refused, p ∈ c.refused ∨ p.2 = .closed ∨
        ∃ r, (p.1, r) ∈ requests ∧ validate r = .error p.2 := by
    intro p hp
    rcases List.mem_append.1 hp with hp | hp
    · exact .inl (hsame ▸ hp)
    · obtain rfl := List.mem_singleton.1 hp
      exact .inr he
  have hsame {c' : Scene} (hsame : c'.refused = c.refused) :
      ∀ p ∈ c'.refused, p ∈ c.refused ∨ p.2 = .closed ∨
        ∃ r, (p.1, r) ∈ requests ∧ validate r = .error p.2 :=
    fun p hp => .inl (hsame ▸ hp)
  cases t with
  | check id r =>
    have hasked := h.asked id r List.mem_cons_self
    simp only [Scene.exec]
    split
    · rename_i e hinvalid
      exact h.after (by simp) (hrefuse rfl (.inr ⟨r, hasked, hinvalid⟩))
    · split
      · exact h.after (by simp) (hrefuse rfl (.inl rfl))
      · exact h.after (by simp) (hsame rfl)
  | recheck id inbox r =>
    refine h.after (fun id' r' hin => ?_) (hsame rfl)
    have heq := List.mem_singleton.1 hin
    split at heq <;> cases heq
  | send id inbox r =>
    simp only [Scene.exec]
    split
    · exact h.after (by simp) (hsame rfl)
    · exact h.after (by simp) (hsame rfl)
  | discard id => exact h.after (by simp [Scene.exec]) (hrefuse rfl (.inl rfl))
  | collect failure => exact h.after (by simp [Scene.exec]) (hsame rfl)
  | take failure id =>
    simp only [Scene.exec]
    split
    · exact h.after (by simp) (hsame rfl)
    · exact h.after (by simp) (hsame rfl)
  | enter | close | part => exact h.after (by simp [Scene.exec]) (hsame rfl)
  | tell failure q => exact h.after (by simp [Scene.exec]) (hsame rfl)

end Grounded

theorem kept_grounded (requests : List (RequestId × Request)) :
    Interleaving.Kept Scene.exec (Grounded requests) where
  perm hsteps h := ⟨fun id r hin => h.asked id r (hsteps.symm.subset hin), h.grounds⟩
  exec h := h.exec

end Exchange.Client.Shutdown
