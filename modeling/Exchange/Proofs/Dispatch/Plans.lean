-- SUMMARY: A plan carried out in one go is what the steps of a dispatch come to.
import Exchange.World.Schedule

/-!
# Plans in one go

A dispatch performs a plan effect by effect. `Plan.carryOut` performs all the
effects that come before the plan ends, defers or gives up, and `steps_carryOut`
says that the steps lead there. `Activity.Steps` are steps of a dispatch together
with the handlers that they invoke. What comes of calls to clients is up to an
`Asking`, which stands for all that the world does while a handler waits.
-/

namespace Exchange

/-- What comes of a call to a client: the switch as it is by then, and the answer. -/
abbrev Asking := Switch → String → Request → Option (Switch × Except Client.Error (Option Value))

/-- No call is ever answered. -/
def Asking.nobody : Asking :=
  fun _ _ _ => none

/-! ## Steps and what they invoke -/

/-- A handler with what it is shown of a request. -/
abbrev Stop := Ref .handler × Visit

namespace Activity

/-- One step of a dispatch, calls to clients included. -/
def advance (ask : Asking) (a : Activity) (s : Switch) : Activity × Switch :=
  match a.control with
  | .run (.call client request k) rest =>
    match ask s client request with
    | some (s, answer) => (a.goTo (.run (k answer) rest), s)
    | none => (a, s)
  | _ => a.step s

/-- The handler that the next step invokes. -/
def invokes (a : Activity) (s : Switch) : List Stop :=
  match a.control with
  | .next ⟨link :: links, path⟩ =>
    match link.target with
    | .handler h => (s.handlers.get? h).toList.map fun _ => (h, a.visit link ⟨links, path⟩)
    | _ => []
  | _ => []

/-- Steps lead from one activity to another, and invoke handlers in this order. -/
inductive Steps (ask : Asking) : Activity × Switch → List Stop → Activity × Switch → Prop where
  | refl (p : Activity × Switch) : Steps ask p [] p
  | step {a : Activity} {s : Switch} {invoked : List Stop} {q : Activity × Switch} :
      Steps ask (a.advance ask s) invoked q → Steps ask (a, s) (a.invokes s ++ invoked) q

namespace Steps

variable {ask : Asking} {p q r : Activity × Switch} {invoked invoked' : List Stop}

theorem trans (h : Steps ask p invoked q) (h' : Steps ask q invoked' r) : Steps ask p (invoked ++ invoked') r := by
  induction h with
  | refl => exact h'
  | step _ ih =>
    rw [List.append_assoc]
    exact .step (ih h')

theorem one {a : Activity} {s : Switch} (hinvokes : a.invokes s = invoked) (h : a.advance ask s = q) :
    Steps ask (a, s) invoked q := by
  have hstep := Steps.step (a := a) (s := s) (.refl (a.advance ask s))
  rwa [hinvokes, h, List.append_nil] at hstep

/-- Steps after which nothing more is invoked. -/
theorem silently (h : Steps ask p invoked q) (h' : Steps ask q [] r) : Steps ask p invoked r := by
  rw [← List.append_nil invoked]
  exact h.trans h'

end Steps

end Activity

/-! ## Carrying out -/

/-- Performs the effects of a plan until it ends, defers, gives up or waits for a client in vain; what
is left of the plan says which. -/
def Plan.carryOut (ask : Asking) : Plan → Switch → Slot → Ref .scope → Switch × Slot × Plan
  | .perform e k, s, slot, scope =>
    let (s, slot, answer) := s.perform slot scope e
    (k answer).carryOut ask s slot scope
  | .install place keep handler k, s, slot, scope =>
    let (s, result) := s.install place keep handler
    (k result).carryOut ask s slot scope
  | .call client request k, s, slot, scope =>
    match ask s client request with
    | some (s, answer) => (k answer).carryOut ask s slot scope
    | none => (s, slot, .call client request k)
  | .done result, s, slot, _ => (s, slot, .done result)
  | .panic, s, slot, _ => (s, slot, .panic)
  | .next k, s, slot, _ => (s, slot, .next k)

/-- A dispatch that runs a plan comes to what carrying it out comes to, and invokes no handler meanwhile. -/
theorem Activity.steps_carryOut (ask : Asking) (a : Activity) (s : Switch) (plan : Plan) (rest : Chain) :
    Steps ask (a.goTo (.run plan rest), s) []
      ({ a with
          slot := (plan.carryOut ask s a.slot a.scope).2.1
          control := .run (plan.carryOut ask s a.slot a.scope).2.2 rest },
        (plan.carryOut ask s a.slot a.scope).1) := by
  induction plan generalizing a s with
  | perform e k ih =>
    have hstep : Steps ask (a.goTo (.run (.perform e k) rest), s) []
        ({ a with slot := (s.perform a.slot a.scope e).2.1 }.goTo
            (.run (k (s.perform a.slot a.scope e).2.2) rest), (s.perform a.slot a.scope e).1) :=
      .one rfl rfl
    exact hstep.trans (ih _ { a with slot := (s.perform a.slot a.scope e).2.1 } _)
  | install place keep handler k _ ih =>
    have hstep : Steps ask (a.goTo (.run (.install place keep handler k) rest), s) []
        (a.goTo (.run (k (s.install place keep handler).2) rest), (s.install place keep handler).1) :=
      .one rfl rfl
    exact hstep.trans (ih _ a _)
  | call client request k ih =>
    simp only [Plan.carryOut]
    rcases hask : ask s client request with _ | ⟨s', answer⟩
    · exact .refl _
    · have hstep : Steps ask (a.goTo (.run (.call client request k) rest), s) []
          (a.goTo (.run (k answer) rest), s') :=
        .one rfl (by simp only [advance, goTo, hask])
      exact hstep.trans (ih answer a s')
  | done result => exact .refl _
  | panic => exact .refl _
  | next k => exact .refl _

/-! ## In the world -/

namespace World

variable (w : World) (a : Activity)

/-- The world takes a dispatch the same step further, unless it waits for a client. -/
theorem stepActivity_eq_advance (ask : Asking) (hcall : ∀ client r k rest, a.control ≠ .run (.call client r k) rest)
    (hawait : ∀ inbox k rest, a.control ≠ .await inbox k rest) :
    w.stepActivity a = ({ w with switch := (a.advance ask w.switch).2 }, (a.advance ask w.switch).1) := by
  have hadvance : a.advance ask w.switch = a.step w.switch := by
    unfold Activity.advance
    split
    · rename_i hcontrol
      exact absurd hcontrol (hcall _ _ _ _)
    · rfl
  rw [hadvance]
  unfold stepActivity
  split
  · rename_i hcontrol
    exact absurd hcontrol (hcall _ _ _ _)
  · rename_i hcontrol
    exact absurd hcontrol (hawait _ _ _)
  · rfl

/-- A handler that calls a client waits, goes on with an answer, or gives up. -/
theorem stepActivity_asking {client : String} {r : Request} {k : Except Client.Error (Option Value) → Plan}
    {rest : Chain}
    (hcontrol : a.control = .run (.call client r k) rest ∨ ∃ inbox, a.control = .await inbox k rest) :
    ∃ control, (w.stepActivity a).2 = a.goTo control ∧
      ((∃ inbox, control = .await inbox k rest) ∨ (∃ answer, control = .run (k answer) rest) ∨ control = .unwind) := by
  rcases hcontrol with hcall | ⟨inbox, hawait⟩
  · simp only [stepActivity, hcall, startCall]
    split
    · exact ⟨_, rfl, .inr (.inr rfl)⟩
    · split
      · exact ⟨_, rfl, .inl ⟨_, rfl⟩⟩
      · exact ⟨_, rfl, .inr (.inl ⟨_, rfl⟩)⟩
  · have hself : a = a.goTo (.await inbox k rest) := by
      rw [← hawait]
      rfl
    simp only [stepActivity, hawait, receiveCall]
    split
    · exact ⟨_, hself, .inl ⟨inbox, rfl⟩⟩
    · exact ⟨_, rfl, .inr (.inl ⟨_, rfl⟩)⟩
    · split
      · exact ⟨_, hself, .inl ⟨inbox, rfl⟩⟩
      · exact ⟨_, rfl, .inr (.inl ⟨_, rfl⟩)⟩

end World

end Exchange
