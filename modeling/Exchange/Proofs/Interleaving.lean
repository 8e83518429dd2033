-- SUMMARY: Calls that share a state and take turns, each with the steps that it has yet to take.
import Mathlib.Data.List.Basic

/-!
# Interleaved calls

A call is the list of the steps that it has yet to take, and a step may put
others in front. In an `Interleaving` several calls are under way over a state
that they share, and a schedule says whose turn it is. What each step keeps
holds however the calls take turns (`Kept.run`), and if steps call for steps of
lower rank only, all calls return when they get their turns (`exists_over`).
-/

namespace Exchange

structure Interleaving (σ τ : Type) where
  shared : σ
  calls : List (List τ)

namespace Interleaving

variable {σ τ : Type} {exec : σ → τ → σ × List τ} {c : Interleaving σ τ}

/-- The `i`th call takes its next step, if it has not returned. -/
def step (exec : σ → τ → σ × List τ) (c : Interleaving σ τ) (i : Nat) : Interleaving σ τ :=
  match c.calls[i]? with
  | some (t :: rest) => ⟨(exec c.shared t).1, c.calls.set i ((exec c.shared t).2 ++ rest)⟩
  | _ => c

def run (exec : σ → τ → σ × List τ) (c : Interleaving σ τ) (schedule : List Nat) : Interleaving σ τ :=
  schedule.foldl (step exec) c

/-- All calls have returned. -/
def Over (c : Interleaving σ τ) : Prop :=
  ∀ steps ∈ c.calls, steps = []

/-- The steps that have yet to be taken, by whatever call. -/
def todo (c : Interleaving σ τ) : List τ :=
  c.calls.flatten

theorem Over.todo (h : c.Over) : c.todo = [] :=
  List.flatten_eq_nil_iff.2 h

theorem run_append (exec : σ → τ → σ × List τ) (c : Interleaving σ τ) (schedule more : List Nat) :
    c.run exec (schedule ++ more) = (c.run exec schedule).run exec more :=
  List.foldl_append

theorem step_eq {i : Nat} {t : τ} {rest : List τ} (h : c.calls[i]? = some (t :: rest)) :
    c.step exec i = ⟨(exec c.shared t).1, c.calls.set i ((exec c.shared t).2 ++ rest)⟩ := by
  simp only [step, h]

/-! ## Invariants -/

theorem flatten_set_perm {calls : List (List τ)} {i : Nat} {t : τ} {rest : List τ}
    (h : calls[i]? = some (t :: rest)) :
    ∃ others, calls.flatten.Perm (t :: others) ∧
      ∀ next, (calls.set i (next ++ rest)).flatten.Perm (next ++ others) := by
  induction calls generalizing i with
  | nil => cases h
  | cons call calls ih =>
    cases i with
    | zero =>
      cases h
      refine ⟨rest ++ calls.flatten, .refl _, fun next => ?_⟩
      exact .of_eq (List.append_assoc next rest calls.flatten)
    | succ i =>
      obtain ⟨others, hflatten, hset⟩ := ih h
      refine ⟨call ++ others, (hflatten.append_left call).trans List.perm_middle, fun next => ?_⟩
      exact ((hset next).append_left call).trans (List.perm_append_comm_assoc ..)

/-- A turn takes one of the steps to come, or it is that of a call that has returned. -/
theorem step_cases (exec : σ → τ → σ × List τ) (c : Interleaving σ τ) (i : Nat) :
    c.step exec i = c ∨
      ∃ t others, c.todo.Perm (t :: others) ∧ (c.step exec i).shared = (exec c.shared t).1 ∧
        (c.step exec i).todo.Perm ((exec c.shared t).2 ++ others) := by
  rcases hcall : c.calls[i]? with _ | _ | ⟨t, rest⟩
  · left
    simp only [step, hcall]
  · left
    simp only [step, hcall]
  · right
    obtain ⟨others, hflatten, hset⟩ := flatten_set_perm hcall
    rw [step_eq hcall]
    exact ⟨t, others, hflatten, rfl, hset _⟩

/-- A property of the state and of the steps to come, in whatever order, that each step keeps. -/
structure Kept (exec : σ → τ → σ × List τ) (inv : σ → List τ → Prop) : Prop where
  perm : ∀ {s steps steps'}, List.Perm steps steps' → inv s steps → inv s steps'
  exec : ∀ {s t steps}, inv s (t :: steps) → inv (exec s t).1 ((exec s t).2 ++ steps)

theorem Kept.run {inv : σ → List τ → Prop} (h : Kept exec inv) (hc : inv c.shared c.todo)
    (schedule : List Nat) : inv (c.run exec schedule).shared (c.run exec schedule).todo := by
  induction schedule generalizing c with
  | nil => exact hc
  | cons i schedule ih =>
    apply ih
    rcases c.step_cases exec i with hsame | ⟨t, others, hbefore, hshared, hafter⟩
    · rw [hsame]
      exact hc
    · rw [hshared]
      exact h.perm hafter.symm (h.exec (h.perm hbefore hc))

/-! ## Calls that return -/

/-- Steps that are taken one after the other, with those that they call for, lead from one state to another. -/
inductive Completes (exec : σ → τ → σ × List τ) : σ → List τ → σ → Prop where
  | done (s : σ) : Completes exec s [] s
  | step {s s' : σ} {t : τ} {rest : List τ} :
      Completes exec (exec s t).1 ((exec s t).2 ++ rest) s' → Completes exec s (t :: rest) s'

section Returns

variable {s s' s'' : σ} {steps rest : List τ}

theorem Completes.append (h : Completes exec s steps s') (hrest : Completes exec s' rest s'') :
    Completes exec s (steps ++ rest) s'' := by
  induction h with
  | done s => exact hrest
  | step h ih =>
    have happend := ih hrest
    rw [List.append_assoc] at happend
    exact .step happend

theorem exists_completes {rank : τ → Nat} (hrank : ∀ s t, ∀ u ∈ (exec s t).2, rank u < rank t)
    (s : σ) (steps : List τ) : ∃ s', Completes exec s steps s' := by
  have hstep (n : Nat) : ∀ t, rank t < n → ∀ s, ∃ s', Completes exec s [t] s' := by
    -- what a step calls for is of lower rank, and what comes after it is a shorter list
    induction n with
    | zero => exact fun t ht => absurd ht (Nat.not_lt_zero _)
    | succ n ih =>
      intro t ht s
      have hnext (steps : List τ) (hsteps : ∀ u ∈ steps, rank u < n) :
          ∀ s, ∃ s', Completes exec s steps s' := by
        induction steps with
        | nil => exact fun s => ⟨s, .done s⟩
        | cons u steps ihsteps =>
          intro s
          obtain ⟨hu, hsteps⟩ := List.forall_mem_cons.1 hsteps
          obtain ⟨s', hs'⟩ := ih u hu s
          obtain ⟨s'', hs''⟩ := ihsteps hsteps s'
          exact ⟨s'', hs'.append hs''⟩
      obtain ⟨s', hs'⟩ := hnext (exec s t).2
        (fun u hu => Nat.lt_of_lt_of_le (hrank s t u hu) (Nat.le_of_lt_succ ht)) (exec s t).1
      exact ⟨s', .step (by rwa [List.append_nil])⟩
  induction steps generalizing s with
  | nil => exact ⟨s, .done s⟩
  | cons t steps ih =>
    obtain ⟨s', hs'⟩ := hstep _ t (Nat.lt_succ_self _) s
    obtain ⟨s'', hs''⟩ := ih s'
    exact ⟨s'', hs'.append hs''⟩

/-- A call that takes all turns returns. -/
theorem Completes.run {calls : List (List τ)} {i : Nat} (h : Completes exec s steps s')
    (hi : calls[i]? = some steps) :
    ∃ turns, Interleaving.run exec ⟨s, calls⟩ turns = ⟨s', calls.set i []⟩ := by
  induction h generalizing calls with
  | done s =>
    obtain ⟨hlt, hget⟩ := List.getElem?_eq_some_iff.1 hi
    refine ⟨[], ?_⟩
    rw [← hget, List.set_getElem_self]
    rfl
  | step h ih =>
    obtain ⟨hlt, -⟩ := List.getElem?_eq_some_iff.1 hi
    obtain ⟨turns, hturns⟩ := ih (List.getElem?_set_self hlt)
    rw [List.set_set] at hturns
    refine ⟨i :: turns, ?_⟩
    show Interleaving.run exec (Interleaving.step exec ⟨_, calls⟩ i) turns = _
    rw [step_eq hi]
    exact hturns

/-- Whatever has happened, all calls return when they get more turns. -/
theorem exists_over {rank : τ → Nat} (hrank : ∀ s t, ∀ u ∈ (exec s t).2, rank u < rank t)
    (c : Interleaving σ τ) : ∃ turns, (c.run exec turns).Over := by
  have hall (calls returned : List (List τ)) (hreturned : ∀ steps ∈ returned, steps = []) (s : σ) :
      ∃ turns, (Interleaving.run exec ⟨s, returned ++ calls⟩ turns).Over := by
    -- one call after the other gets all the turns that it needs
    induction calls generalizing returned s with
    | nil =>
      refine ⟨[], ?_⟩
      rw [List.append_nil]
      exact hreturned
    | cons call calls ih =>
      obtain ⟨s', hs'⟩ := exists_completes hrank s call
      have hcall : (returned ++ call :: calls)[returned.length]? = some call := by simp
      obtain ⟨turns, hturns⟩ := hs'.run hcall
      have hset : (returned ++ call :: calls).set returned.length [] = (returned ++ [[]]) ++ calls := by simp
      have hmore : ∀ steps ∈ returned ++ [[]], steps = [] := by
        intro steps hsteps
        rcases List.mem_append.1 hsteps with h | h
        · exact hreturned steps h
        · exact List.mem_singleton.1 h
      obtain ⟨more, hover⟩ := ih (returned ++ [[]]) hmore s'
      refine ⟨turns ++ more, ?_⟩
      rw [run_append, hturns, hset]
      exact hover
  exact hall c.calls [] nofun c.shared

end Returns

end Interleaving

end Exchange
