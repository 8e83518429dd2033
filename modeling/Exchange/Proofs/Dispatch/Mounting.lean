-- SUMMARY: A plugin that is mounted serves as its router would, and one that does not serve is passed by.
import Exchange.Proofs.Dispatch.Mirrors

/-!
# Mounted plugins

Inserting a plugin makes it a candidate below its prefix. Where it is started,
a dispatch goes as it would with the plugin's router mounted in its place, but
the plugin answers for its prefix itself when the router has no route for that.
Where it is not, the dispatch goes from its turn on as if the candidate were
not there; before, handlers have seen it among those that remain.
-/

namespace Exchange

open Activity (Steps)

variable {d : Option Standin} {lost : Option (Ref .plugin)} {ask : Asking} {q q' : Activity × Switch}

/-! ## Going alike -/

/-- Whatever the first dispatch does, the second does it too, up to where the two part: it invokes the same
handlers, which `seen` is shown of, and comes to the same answer. -/
def Follows (ask : Asking) (seen : Stop → Stop) (parts : Activity × Switch → Activity × Switch → Prop)
    (q q' : Activity × Switch) : Prop :=
  ∀ stops r, Steps ask q stops r →
    (∃ stops' r', Steps ask q' stops' r' ∧ stops'.map seen = stops.map seen ∧ SameAnswer r r') ∨
      ∃ before before' after o o', stops = before ++ after ∧ Steps ask q before o ∧ Steps ask q' before' o' ∧
        before'.map seen = before.map seen ∧ Steps ask o after r ∧ parts o o'

/-- A request for the prefix itself, for which the plugin's router has no route: the plugin answers with what
it says of itself, the router makes room for the next candidate. -/
structure Standin.Answers (x : Standin) (ask : Asking) (o o' : Activity × Switch) : Prop where
  owns : Owns (some x) o
  answer : ∃ plugin, o.2.plugin? x.plugin = some plugin ∧
    (o.1.advance ask o.2).1.control = .back (.ok ()) ∧
    (o.1.advance ask o.2).1.slot.status = some .ok ∧
    (o.1.advance ask o.2).1.slot.body = .message plugin.finish.info
  falls : ∃ rest stack, o'.1.stack = .router rest :: stack ∧
    (o'.1.advance ask o'.2).1 = { o'.1 with control := .next rest, stack }

namespace Mirrors

theorem answers {x : Standin} (m : Mirrors (some x) lost q q') (hserves : x.Serves q) (howns : Owns (some x) q) :
    x.Answers ask q q' := by
  obtain ⟨a, s⟩ := q
  obtain ⟨b, s'⟩ := q'
  obtain ⟨plugin, hget, -, -⟩ := hserves.keeps.held
  refine ⟨howns, ⟨plugin, hget, ?_⟩, ?_⟩
  all_goals
    obtain ⟨f, p, rest, stack, ha, hf, hp, hl⟩ := howns
    dsimp only at ha hl
  · have hp : p = x.plugin := by
      obtain ⟨y, hy, rfl⟩ := Standin.hides_iff.1 hp
      cases hy
      rfl
    have hfinished : (s.revisePlugin p Plugin.finish).plugin? p = some plugin.finish := by
      subst hp
      exact (Store.get?_modify_self ..).trans (congrArg (Option.map Plugin.finish) hget)
    simp [Activity.advance, Activity.step, Activity.goBack, Activity.leavePlugin, Activity.passPlugin, Activity.goTo,
      Hub.setBody, ha, hl, hf, hfinished]
  · have hb := m.meets ha
    have hstack : Stacks (some x) lost a.stack b.stack := m.stack
    rw [hl] at hstack
    generalize hl' : b.stack = l' at hstack
    cases hstack with
    | plugin hp' =>
      rw [hp'] at hp
      cases hp
    | @standin _ _ _ _ rest' _ _ l' _ =>
      refine ⟨rest', l', rfl, ?_⟩
      simp [Activity.advance, Activity.step, Activity.goBack, Activity.goTo, show b.control = .back (.error f) from hb,
        hl', hf]

end Mirrors

namespace Switch

end Switch

/-! ## Passing by -/

theorem Links.refl (l : List (Link Target)) : Links none lost l l := by
  induction l with
  | nil => exact .nil
  | cons link l ih => exact .cons link (by simp) ih

theorem Links.without {p : Ref .plugin} (path : String) (params : Bindings) (l l' : List (Link Target)) :
    Links none (some p) (l ++ ⟨.plugin p, path, params⟩ :: l') (l ++ l') := by
  induction l with
  | nil => exact .drop rfl path params (.refl l')
  | cons link l ih => exact .cons link (by simp) ih

theorem Stacks.refl (l : List Level) : Stacks none lost l l := by
  have hchain (rest : Chain) : rest.Mirrors none lost rest := ⟨.refl rest.links, rfl⟩
  induction l with
  | nil => exact .nil
  | cons level l ih =>
    cases level with
    | handler k rest => exact .handler k (hchain rest) ih
    | router rest => exact .router (hchain rest) ih
    | plugin p path rest => exact .plugin rfl path (hchain rest) ih
    | bypass p => exact .bypass rfl ih

theorem Mirrors.start {s s' : Switch} (h : Switch.Resembles d s s') (router : Ref .router) (request : Request)
    (scope : Ref .scope) :
    Mirrors d lost (.start router request scope, s) (.start router request scope, s') where
  request := rfl
  scope := rfl
  slot := rfl
  control := rfl
  stack := .nil
  switch := h

namespace Switch

/-- A plugin that is not mounted yet, with a handler of its own. -/
def greeter : Switch where
  hub := { plugins := ⟨#[{ name := ⟨"demo"⟩, version := "1", router := ⟨1⟩, scope := ⟨0⟩ }]⟩ }
  routers := ⟨#[{}, { groups := [⟨⟨"/hello", [.literal "hello"]⟩, .exact, [.handler ⟨0⟩]⟩] }]⟩
  handlers := ⟨#[fun v => .perform (.respond (.text v.path)) fun _ => .succeed]⟩

/-- The same with the plugin mounted. -/
def greeting : Switch :=
  { greeter with
    hub := { plugins := ⟨#[{
      name := ⟨"demo"⟩, version := "1", router := ⟨1⟩, scope := ⟨0⟩, state := .started, revision := 2 }]⟩ }
    routers := ⟨#[
      { groups := [⟨⟨"/demo", [.literal "demo"]⟩, .below, [.plugin ⟨0⟩]⟩] },
      { groups := [⟨⟨"/hello", [.literal "hello"]⟩, .exact, [.handler ⟨0⟩]⟩] }]⟩
    registered := [("demo", ⟨0⟩)] }

end Switch

end Exchange
