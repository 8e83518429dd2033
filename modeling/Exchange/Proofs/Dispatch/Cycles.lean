-- SUMMARY: Dispatch through routers that are mounted in a cycle comes to its end if each cycle uses up a segment of the path.
import Mathlib.Data.Fintype.Card
import Mathlib.Data.Finite.Defs
import Mathlib.Data.Set.Finite.Basic
import Mathlib.Order.WellFounded
import Mathlib.Tactic.IntervalCases
import Exchange.Proofs.Dispatch.Flattening
import Exchange.Proofs.Route.Paths

/-!
# Cyclic mounts

Routers may be mounted in each other and in themselves, and what is mounted where
may change while a request is under way. A call still ends, if no cycle of mounts
hands a path on as long as it came: each candidate of a call lies below the call,
by the segments of the path that it sees or else by the mounts that take no
segment. `Activity.call_returns` is the induction on that order; the candidates of
one call, the levels that wait and the plans of handlers are finite by themselves.
-/

namespace Exchange

open Relation (TransGen)

/-! ## Segments that are used up -/

namespace Group

variable {τ : Type}

/-- How many segments a path loses on its way to the targets of a group. -/
def loss (g : Group τ) : Nat :=
  match g.mount with
  | .exact => 0
  | .below => g.pattern.segments.length

theorem split_of_view? {g : Group τ} {path seen : String} {params : Bindings}
    (h : g.view? path (Path.split path) = some (seen, params)) :
    g.loss ≤ (Path.split path).length ∧ Path.split seen = (Path.split path).drop g.loss := by
  unfold view? at h
  unfold loss
  cases hmount : g.mount with
  | exact =>
    rw [hmount] at h
    obtain ⟨_, -, heq⟩ := Option.map_eq_some_iff.mp h
    obtain rfl : path = seen := congrArg Prod.fst heq
    exact ⟨Nat.zero_le _, rfl⟩
  | below =>
    rw [hmount] at h
    obtain ⟨⟨_, suffix⟩, hprefix, heq⟩ := Option.map_eq_some_iff.mp h
    obtain rfl : suffix = seen := congrArg Prod.fst heq
    simp only [Pattern.matchPrefix] at hprefix
    split at hprefix
    · cases hprefix
    · rename_i hlength
      obtain ⟨_, -, heq⟩ := Option.map_eq_some_iff.mp hprefix
      obtain rfl : Path.ofSegments _ = suffix := congrArg Prod.snd heq
      refine ⟨Nat.not_lt.mp hlength, Path.split_ofSegments fun part hpart => ?_⟩
      exact Path.isPart_of_mem_split (List.mem_of_mem_drop hpart)

end Group

/-! ## Ways through a switch -/

/-- A switch hands a request from one target on to another, with a path that has lost so many segments. -/
inductive Switch.Hands (s : Switch) : Target → Nat → Target → Prop where
  | served {r : Ref .router} {g : Group Target} {t : Target} :
      g ∈ (s.table r).groups → t ∈ g.targets → s.Hands (.router r) g.loss t
  | plugin {p : Ref .plugin} {plugin : Plugin} :
      s.plugin? p = some plugin → s.Hands (.plugin p) 0 (.router plugin.router)

/-- Only the routers and plugins that there are hand requests on. -/
theorem Switch.finite_hands (s : Switch) : {t | ∃ n u, s.Hands t n u}.Finite := by
  have hlisted (m : Nat) (f : Nat → Target) : {t | ∃ i < m, f i = t}.Finite := by
    refine ((List.range m).map f).finite_toSet.subset ?_
    rintro t ⟨i, hi, rfl⟩
    exact List.mem_map_of_mem (List.mem_range.mpr hi)
  have hrouters := hlisted s.routers.items.size fun i => .router ⟨i⟩
  have hplugins := hlisted s.hub.plugins.items.size fun i => .plugin ⟨i⟩
  refine (hrouters.union hplugins).subset ?_
  rintro t ⟨n, u, hhands⟩
  cases hhands with
  | @served r g _ hg _ =>
    refine .inl ⟨r.index, ?_, rfl⟩
    by_contra hsize
    have hnone : s.routers.get? r = none := Array.getElem?_eq_none (Nat.not_lt.mp hsize)
    simp [Switch.table, hnone] at hg
  | @plugin p plugin hplugin => exact .inr ⟨p.index, (Array.getElem?_eq_some_iff.mp hplugin).1, rfl⟩

/-- Ways from target to target, with the segments that they take. -/
abbrev Ways := Target → Nat → Target → Prop

/-- A switch has no other ways than these. -/
def Switch.Within (s : Switch) (ways : Ways) : Prop :=
  ∀ t n u, s.Hands t n u → ways t n u

namespace Ways

variable {ways : Ways}

/-- Some way leads on from the target without taking a segment. -/
def Free (ways : Ways) (t u : Target) : Prop :=
  ways t 0 u

/-- A target that sees so many segments lies below another one that sees more, or that leads there freely. -/
def Lower (ways : Ways) (x y : Nat × Target) : Prop :=
  Prod.Lex (· < ·) (fun u t => TransGen ways.Free t u) x y

theorem Lower.of_lt {m n : Nat} (h : m < n) (u t : Target) : ways.Lower (m, u) (n, t) :=
  .left _ _ h

theorem Lower.of_free {n : Nat} {t u : Target} (h : ways.Free t u) : ways.Lower (n, u) (n, t) :=
  .right _ (.single h)

theorem Lower.trans {x y z : Nat × Target} (h : ways.Lower x y) (h' : ways.Lower y z) : ways.Lower x z := by
  obtain ⟨m, u⟩ := x
  cases h with
  | left _ _ hlt =>
    cases h' with
    | left _ _ hlt' => exact .left _ _ (Nat.lt_trans hlt hlt')
    | right _ _ => exact .left _ _ hlt
  | right _ hfree =>
    cases h' with
    | left _ _ hlt' => exact .left _ _ hlt'
    | right _ hfree' => exact .right _ (hfree'.trans hfree)

/-- Finitely many targets hand requests on, and no cycle of ways leaves the path as it is. -/
structure Shortening (ways : Ways) : Prop where
  finite : {t | ∃ n u, ways t n u}.Finite
  acyclic : ∀ t, ¬ TransGen ways.Free t t

namespace Shortening

variable (h : ways.Shortening)

include h

/-- What leads on without taking a segment is one of finitely many targets, so free ways end. -/
theorem wellFounded_free : WellFounded fun u t => TransGen ways.Free t u := by
  let sources := {t | ∃ n u, ways t n u}
  have hsource {t u : Target} (hfree : TransGen ways.Free t u) : t ∈ sources := by
    obtain ⟨v, hway, -⟩ := TransGen.head'_iff.mp hfree
    exact ⟨0, v, hway⟩
  have : Finite sources := h.finite
  let below (u t : sources) : Prop := TransGen ways.Free t.1 u.1
  have : IsTrans sources below := ⟨fun _ _ _ hab hbc => hbc.trans hab⟩
  have : Std.Irrefl below := ⟨fun t ht => h.acyclic t.1 ht⟩
  have hbelow : WellFounded below := Finite.wellFounded_of_trans_of_irrefl below
  have hacc (t : sources) : Acc (fun u t => TransGen ways.Free t u) t.1 := by
    induction t using hbelow.induction with
    | _ t ih =>
      refine .intro _ fun u hu => ?_
      by_cases hmem : u ∈ sources
      · exact ih ⟨u, hmem⟩ hu
      · exact .intro _ fun v hv => absurd (hsource hv) hmem
  refine ⟨fun t => .intro _ fun u hu => ?_⟩
  exact (hacc ⟨t, hsource hu⟩).inv hu

theorem wellFounded_lower : WellFounded ways.Lower :=
  WellFounded.prod_lex Nat.lt_wfRel.wf h.wellFounded_free

/-- On the way back to where it was a path has become shorter. -/
theorem lt_of_lower {m n : Nat} {t : Target} (hlower : ways.Lower (m, t) (n, t)) : m < n := by
  cases hlower with
  | left _ _ hlt => exact hlt
  | right _ hfree => exact absurd hfree (h.acyclic t)

end Shortening

end Ways

theorem Ways.Lower.le {ways : Ways} {m n : Nat} {t u : Target} (h : ways.Lower (m, u) (n, t)) : m ≤ n := by
  cases h with
  | left _ _ hlt => exact Nat.le_of_lt hlt
  | right _ _ => exact Nat.le_refl _

/-- The segments of a path, counted. -/
def Path.size (path : String) : Nat :=
  (Path.split path).length

/-- The candidates of a path lie below the router that resolves it. -/
theorem Switch.Within.lower_of_resolve {s : Switch} {ways : Ways} (hs : s.Within ways) {r : Ref .router} {path : String}
    {link : Link Target} (h : link ∈ (s.table r).resolve path) :
    ways.Lower (Path.size link.path, link.target) (Path.size path, .router r) := by
  obtain ⟨g, hg, hlink⟩ := List.mem_flatMap.1 h
  unfold Group.links at hlink
  split at hlink
  · rename_i seen params hview
    obtain ⟨t, ht, rfl⟩ := List.mem_map.1 hlink
    have hway : ways (.router r) g.loss t := hs _ _ _ (.served hg ht)
    obtain ⟨hloss, hseen⟩ := Group.split_of_view? hview
    have hsize : Path.size seen = Path.size path - g.loss := by rw [Path.size, hseen, List.length_drop, Path.size]
    have hle : g.loss ≤ Path.size path := hloss
    rcases Nat.eq_zero_or_pos g.loss with hzero | hpos
    · rw [hzero] at hway hsize
      dsimp only
      rw [hsize]
      exact .of_free hway
    · exact .of_lt (by dsimp only; omega) t (.router r)
  · cases hlink

/-- The router of a plugin lies below the plugin. -/
theorem Switch.Within.lower_of_plugin {s : Switch} {ways : Ways} (hs : s.Within ways) {p : Ref .plugin} {plugin : Plugin}
    (h : s.plugin? p = some plugin) (n : Nat) : ways.Lower (n, .router plugin.router) (n, .plugin p) :=
  .of_free (hs _ _ _ (.plugin h))

/-- Every call to a client is answered. -/
def Asking.Answers (ask : Asking) : Prop :=
  ∀ s client request, ∃ answered, ask s client request = some answered

namespace Activity

/-! ## Coming back -/

/-- The activity has come back to these levels, with a result or without. -/
def HasReturned (base : List Level) (a : Activity) : Prop :=
  a.stack = base ∧ (a.control = .unwind ∨ ∃ result, a.control = .back result)

/-- Whatever becomes of the switch meanwhile, the activity will come back to these levels. -/
inductive Returns (ways : Ways) (base : List Level) : Activity → Prop where
  | here {a : Activity} : HasReturned base a → Returns ways base a
  | step {a : Activity} :
      (∀ ask s, Asking.Answers ask → s.Within ways → Returns ways base (a.advance ask s).1) → Returns ways base a

variable {ways : Ways} {base : List Level}

namespace Returns

theorem bind {levels : List Level} {a : Activity} (h : Returns ways levels a)
    (hback : ∀ a', HasReturned levels a' → Returns ways base a') : Returns ways base a := by
  induction h with
  | here ha => exact hback _ ha
  | step _ ih => exact .step fun ask s hask hs => ih ask s hask hs

theorem back {request : Request} {scope : Ref .scope} {slot : Slot} {result : Except Failure Unit} :
    Returns ways base { request, scope, slot, control := .back result, stack := base } :=
  .here ⟨rfl, .inr ⟨result, rfl⟩⟩

/-- What comes back one level higher comes back here, if it does so from each result; to unwind is no matter. -/
theorem leave {level : Level} {a : Activity} (h : Returns ways (level :: base) a)
    (hback : ∀ request scope slot result,
      Returns ways base { request, scope, slot, control := .back result, stack := level :: base }) :
    Returns ways base a := by
  refine h.bind fun a' ha' => ?_
  obtain ⟨request, scope, slot, control, stack⟩ := a'
  obtain ⟨hstack, hcontrol⟩ := ha'
  dsimp only at hstack hcontrol
  subst hstack
  rcases hcontrol with rfl | ⟨result, rfl⟩
  · refine .step fun ask s _ _ => .here ?_
    cases level with
    | handler k rest => exact ⟨rfl, .inl rfl⟩
    | router rest => exact ⟨rfl, .inl rfl⟩
    | plugin p path rest => exact ⟨rfl, .inl rfl⟩
    | bypass p => exact ⟨rfl, .inl rfl⟩
  · exact hback request scope slot result

end Returns

/-- Trying the candidates of a chain always comes back. -/
def ChainReturns (ways : Ways) (chain : Chain) : Prop :=
  ∀ request scope slot stack, Returns ways stack { request, scope, slot, control := .next chain, stack }

/-- A call of a router always comes back. -/
def CallReturns (ways : Ways) (r : Ref .router) (path : String) : Prop :=
  ∀ request scope slot stack, Returns ways stack { request, scope, slot, control := .call r path, stack }

/-- The routers that a candidate leads to come back. -/
def LinkReturns (ways : Ways) (link : Link Target) : Prop :=
  match link.target with
  | .handler _ => True
  | .router r => CallReturns ways r link.path
  | .plugin p => ∀ r, ways (.plugin p) 0 (.router r) → CallReturns ways r link.path

/-- A plan comes back, as it is finite, however often it defers to a chain that does. -/
theorem plan_returns {rest : Chain} (hrest : ChainReturns ways rest) (plan : Plan) :
    ∀ request scope slot stack,
      Returns ways stack { request, scope, slot, control := .run plan rest, stack } := by
  induction plan with
  | done result => exact fun _ _ _ _ => .step fun _ _ _ _ => .back
  | panic => exact fun _ _ _ _ => .step fun _ _ _ _ => .here ⟨rfl, .inl rfl⟩
  | next k ih =>
    intro request scope slot stack
    refine .step fun _ _ _ _ => (hrest request scope slot (.handler k rest :: stack)).leave ?_
    exact fun request scope slot result => .step fun _ _ _ _ => ih result request scope slot stack
  | perform e k ih => exact fun request scope slot stack => .step fun _ _ _ _ => ih _ request scope _ stack
  | install place keep handler k _ ih =>
    exact fun request scope slot stack => .step fun _ _ _ _ => ih _ request scope slot stack
  | call client r k ih =>
    intro request scope slot stack
    refine .step fun ask s hask _ => ?_
    obtain ⟨⟨s', answer⟩, hanswer⟩ := hask s client r
    simp only [advance, hanswer]
    exact ih answer request scope slot stack

/-- A request that comes to a plugin comes back, by way of its router or past it. -/
theorem tryPlugin_returns {rest : Chain} (hrest : ChainReturns ways rest) {plugin : Plugin} {seen : String}
    (hcall : CallReturns ways plugin.router seen) (a : Activity) (s : Switch) (p : Ref .plugin) :
    Returns ways a.stack (a.tryPlugin s p plugin seen rest).1 := by
  obtain ⟨request, scope, slot, control, stack⟩ := a
  have hbypass (request : Request) (scope : Ref .scope) (slot : Slot) :
      Returns ways stack { request, scope, slot, control := .next rest, stack := .bypass p :: stack } :=
    (hrest request scope slot (.bypass p :: stack)).leave fun _ _ _ _ => .step fun _ _ _ _ => .back
  unfold tryPlugin
  dsimp only
  split
  · refine (hcall request scope slot (.plugin p seen rest :: stack)).leave fun request scope slot result => ?_
    refine .step fun ask s _ _ => ?_
    cases result with
    | ok _ =>
      simp only [advance, step, goBack, leavePlugin]
      split
      · exact .back
      · exact .back
    | error f =>
      simp only [advance, step, goBack, leavePlugin]
      split
      · split
        · exact .back
        · exact hbypass request scope slot
      · exact .back
  · exact hbypass request scope slot

/-- Candidates come back one after another, if the routers that they lead to do. -/
theorem chain_returns {links : List (Link Target)} (path : String) (hlinks : ∀ link ∈ links, LinkReturns ways link) :
    ChainReturns ways ⟨links, path⟩ := by
  induction links with
  | nil => exact fun _ _ _ _ => .step fun _ _ _ _ => .back
  | cons link links ih =>
    intro request scope slot stack
    have hrest : ChainReturns ways ⟨links, path⟩ := ih fun l hl => hlinks l (List.mem_cons_of_mem link hl)
    have hlink : LinkReturns ways link := hlinks link List.mem_cons_self
    obtain ⟨target, seen, params⟩ := link
    refine .step fun ask s _ hs => ?_
    cases target with
    | handler h =>
      simp only [advance, step, tryNext, tryLink]
      split
      · exact plan_returns hrest _ request scope slot stack
      · exact hrest request scope slot stack
    | router r =>
      refine (hlink request scope slot (.router ⟨links, path⟩ :: stack)).leave fun request scope slot result => ?_
      refine .step fun ask s _ _ => ?_
      cases result with
      | ok _ => exact .back
      | error f =>
        simp only [advance, step, goBack]
        split
        · exact hrest request scope slot stack
        · exact .back
    | plugin p =>
      simp only [advance, step, tryNext, tryLink]
      split
      · rename_i plugin hplugin
        split
        · have hcall := hlink plugin.router (hs _ _ _ (.plugin hplugin))
          exact tryPlugin_returns hrest hcall
            { request, scope, slot, control := .next ⟨⟨.plugin p, seen, params⟩ :: links, path⟩, stack } s p
        · exact hrest request scope slot stack
      · exact hrest request scope slot stack

/-- Calls come back, by induction on what is left of the path and the ways that take nothing of it. -/
theorem call_returns (hways : ways.Shortening) (r : Ref .router) (path : String) : CallReturns ways r path := by
  suffices h : ∀ x : Nat × Target, ∀ r path, x = (Path.size path, .router r) → CallReturns ways r path from
    h _ r path rfl
  intro x
  induction x using hways.wellFounded_lower.induction with
  | _ x ih =>
    rintro r path rfl request scope slot stack
    refine .step fun ask s _ hs => ?_
    refine chain_returns path (fun link hlink => ?_) request scope slot stack
    have hlower := hs.lower_of_resolve hlink
    obtain ⟨target, seen, params⟩ := link
    cases target with
    | handler h => trivial
    | router q => exact ih _ hlower q seen rfl
    | plugin p => exact fun q hway => ih _ ((Ways.Lower.of_free hway).trans hlower) q seen rfl

/-! ## What lies below a call -/

/-- All candidates of a chain lie below a call of `top`. -/
def ChainBelow (ways : Ways) (top : Nat × Target) (chain : Chain) : Prop :=
  ∀ link ∈ chain.links, ways.Lower (Path.size link.path, link.target) top

def LevelBelow (ways : Ways) (top : Nat × Target) : Level → Prop
  | .handler _ rest | .router rest | .plugin _ _ rest => ChainBelow ways top rest
  | .bypass _ => True

def ControlBelow (ways : Ways) (top : Nat × Target) : Control → Prop
  | .run _ rest | .next rest | .await _ _ rest => ChainBelow ways top rest
  | .call r path => ways.Lower (Path.size path, .router r) top
  | .back _ | .unwind => True
  | .settled _ => False

/-- A call of `top` is under way in the activity: all that it is about and all that waits for it above the
levels `base` lies below the call. -/
def Under (ways : Ways) (top : Nat × Target) (base : List Level) (a : Activity) : Prop :=
  ControlBelow ways top a.control ∧
    ∃ above, a.stack = above ++ base ∧ ∀ level ∈ above, LevelBelow ways top level

namespace Under

variable {top : Nat × Target}

theorem goTo {a : Activity} {control : Control} (h : Under ways top base a) (hcontrol : ControlBelow ways top control) :
    Under ways top base (a.goTo control) :=
  ⟨hcontrol, h.2⟩

theorem enter {a : Activity} {level : Level} {control : Control} (h : Under ways top base a)
    (hlevel : LevelBelow ways top level) (hcontrol : ControlBelow ways top control) :
    Under ways top base (a.enter level control) := by
  obtain ⟨-, above, hstack, habove⟩ := h
  refine ⟨hcontrol, level :: above, ?_, List.forall_mem_cons.mpr ⟨hlevel, habove⟩⟩
  simp [Activity.enter, hstack]

/-- A call that has not come back waits for the level on top. -/
theorem pop {a : Activity} (h : Under ways top base a) (hnot : ¬ HasReturned base a)
    (hcontrol : a.control = .unwind ∨ ∃ result, a.control = .back result) :
    ∃ level stack, a.stack = level :: stack ∧ LevelBelow ways top level ∧ Under ways top base { a with stack } := by
  obtain ⟨hbelow, above, hstack, habove⟩ := h
  cases above with
  | nil => exact absurd ⟨hstack, hcontrol⟩ hnot
  | cons level above =>
    obtain ⟨hlevel, habove⟩ := List.forall_mem_cons.mp habove
    exact ⟨level, above ++ base, hstack, hlevel, hbelow, above, rfl, habove⟩

end Under

theorem tryPlugin_under {top : Nat × Target} {a : Activity} {s : Switch} (hs : s.Within ways)
    (h : Under ways top base a) {p : Ref .plugin} {plugin : Plugin} (hplugin : s.plugin? p = some plugin)
    {path : String} {rest : Chain} (hlink : ways.Lower (Path.size path, .plugin p) top) (hrest : ChainBelow ways top rest) :
    Under ways top base (a.tryPlugin s p plugin path rest).1 := by
  unfold tryPlugin
  dsimp only
  split
  · exact h.enter hrest ((hs.lower_of_plugin hplugin _).trans hlink)
  · exact h.enter trivial hrest

theorem tryNext_under {top : Nat × Target} {a : Activity} {s : Switch} (hs : s.Within ways) (h : Under ways top base a)
    {chain : Chain} (hchain : ChainBelow ways top chain) : Under ways top base (a.tryNext s chain).1 := by
  obtain ⟨links, path⟩ := chain
  cases links with
  | nil => exact h.goTo trivial
  | cons link links =>
    obtain ⟨hlink, hrest⟩ := List.forall_mem_cons.mp hchain
    obtain ⟨target, seen, params⟩ := link
    simp only [tryNext, tryLink]
    cases target with
    | handler handler =>
      dsimp only
      split
      · exact h.goTo hrest
      · exact h.goTo hrest
    | router r => exact h.enter hrest hlink
    | plugin p =>
      dsimp only
      split
      · rename_i plugin hplugin
        split
        · exact tryPlugin_under hs h hplugin hlink hrest
        · exact h.goTo hrest
      · exact h.goTo hrest

theorem leavePlugin_under {top : Nat × Target} {a : Activity} (s : Switch) (h : Under ways top base a) (p : Ref .plugin)
    (path : String) {rest : Chain} (hrest : ChainBelow ways top rest) (result : Except Failure Unit) :
    Under ways top base (a.leavePlugin s p path rest result).1 := by
  cases result with
  | ok _ =>
    simp only [leavePlugin]
    split
    · exact h.goTo trivial
    · exact h.goTo trivial
  | error f =>
    simp only [leavePlugin]
    split
    · split
      · exact h.goTo trivial
      · exact h.enter trivial hrest
    · exact h.goTo trivial

theorem runPlan_under {top : Nat × Target} {a : Activity} (s : Switch) (h : Under ways top base a) {plan : Plan}
    {rest : Chain} (hcontrol : a.control = .run plan rest) (hrest : ChainBelow ways top rest) :
    Under ways top base (a.runPlan s plan rest).1 := by
  cases plan with
  | done result => exact h.goTo trivial
  | panic => exact h.goTo trivial
  | next k => exact h.enter hrest hrest
  | perform e k => exact ⟨hrest, h.2⟩
  | install place keep handler k => exact h.goTo hrest
  | call client r k => exact h

theorem goBack_under {top : Nat × Target} {a : Activity} (s : Switch) (h : Under ways top base a)
    (hnot : ¬ HasReturned base a) {result : Except Failure Unit} (hcontrol : a.control = .back result) :
    Under ways top base (a.goBack s result).1 := by
  obtain ⟨level, stack, hstack, hlevel, hpop⟩ := h.pop hnot (.inr ⟨result, hcontrol⟩)
  simp only [goBack, hstack]
  cases level with
  | handler k rest => exact hpop.goTo hlevel
  | router rest =>
    cases result with
    | ok _ => exact hpop.goTo trivial
    | error f =>
      dsimp only
      split
      · exact hpop.goTo hlevel
      · exact hpop.goTo trivial
  | plugin p path rest => exact leavePlugin_under s hpop p path hlevel result
  | bypass p => exact hpop.goTo trivial

theorem unwind_under {top : Nat × Target} {a : Activity} (s : Switch) (h : Under ways top base a)
    (hnot : ¬ HasReturned base a) (hcontrol : a.control = .unwind) : Under ways top base (a.unwind s).1 := by
  obtain ⟨level, stack, hstack, hlevel, hpop⟩ := h.pop hnot (.inl hcontrol)
  simp only [unwind, hstack]
  cases level with
  | handler k rest => exact hpop
  | router rest => exact hpop
  | plugin p path rest => exact hpop
  | bypass p => exact hpop

/-- A call that is under way is still so after a step, unless it has come back. -/
theorem advance_under {top : Nat × Target} {a : Activity} {s : Switch} (ask : Asking) (hs : s.Within ways)
    (h : Under ways top base a) (hnot : ¬ HasReturned base a) : Under ways top base (a.advance ask s).1 := by
  have hbelow := h.1
  unfold advance
  split
  · rename_i client r k rest hcontrol
    rw [hcontrol] at hbelow
    cases ask s client r with
    | none => exact h
    | some answered => exact h.goTo hbelow
  · unfold step
    cases hcontrol : a.control with
    | run plan rest =>
      rw [hcontrol] at hbelow
      exact runPlan_under s h hcontrol hbelow
    | next chain =>
      rw [hcontrol] at hbelow
      exact tryNext_under hs h hbelow
    | call r path =>
      rw [hcontrol] at hbelow
      exact h.goTo fun link hlink => (hs.lower_of_resolve hlink).trans hbelow
    | back result => exact goBack_under s h hnot hcontrol
    | unwind => exact unwind_under s h hnot hcontrol
    | await inbox k rest => exact h
    | settled result => exact h

/-! ## Courses -/

/-- What becomes of a dispatch: calls to clients are answered by `ask`, and `others` do to the switch what they
do after each step. -/
def course (ask : Nat → Asking) (others : Nat → Switch → Switch) (p : Activity × Switch) : Nat → Activity × Switch
  | 0 => p
  | n + 1 =>
    let (a, s) := course ask others p n
    let (a, s) := a.advance (ask n) s
    (a, others n s)

/-- The handlers that are invoked in the first so many steps. -/
def invoked (ask : Nat → Asking) (others : Nat → Switch → Switch) (p : Activity × Switch) (n : Nat) : List Stop :=
  (List.range n).flatMap fun i => (course ask others p i).1.invokes (course ask others p i).2

section Courses

variable {ask : Nat → Asking} {others : Nat → Switch → Switch} {p : Activity × Switch}

theorem course_succ (n : Nat) :
    (course ask others p (n + 1)).1 = ((course ask others p n).1.advance (ask n) (course ask others p n).2).1 :=
  rfl

theorem Returns.exists_course (hask : ∀ n, (ask n).Answers) (hs : ∀ n, (course ask others p n).2.Within ways)
    {a : Activity} (h : Returns ways base a) :
    ∀ i, (course ask others p i).1 = a → ∃ n, HasReturned base (course ask others p n).1 := by
  induction h with
  | here ha =>
    rintro i rfl
    exact ⟨i, ha⟩
  | step _ ih =>
    rintro i rfl
    exact ih (ask i) _ (hask i) (hs i) (i + 1) (course_succ i)

/-- While a call has not come back, all that goes on lies below it. -/
theorem under_of_course (hs : ∀ n, (course ask others p n).2.Within ways) {i : Nat} {r : Ref .router} {path : String}
    (hcall : (course ask others p i).1.control = .call r path) {j : Nat} (hij : i < j)
    (hnot : ∀ k, i < k → k < j → ¬ HasReturned (course ask others p i).1.stack (course ask others p k).1) :
    Under ways (Path.size path, .router r) (course ask others p i).1.stack (course ask others p j).1 := by
  induction j, hij using Nat.le_induction with
  | base =>
    have hnext : (course ask others p (i + 1)).1 = (course ask others p i).1.goTo
        (.next ⟨((course ask others p i).2.table r).resolve path, path⟩) := by
      simp only [course_succ, advance, step, hcall]
    rw [hnext]
    exact ⟨fun link hlink => (hs i).lower_of_resolve hlink, [], rfl, List.forall_mem_nil _⟩
  | succ j hij ih =>
    have hunder := ih fun k hik hkj => hnot k hik (Nat.lt_succ_of_lt hkj)
    exact advance_under (ask j) (hs j) hunder (hnot j hij (Nat.lt_succ_self j))

theorem HasReturned.settles {a : Activity} (h : HasReturned [] a) (ask : Asking) (s : Switch) :
    ∃ result, (a.advance ask s).1.control = .settled result := by
  obtain ⟨request, scope, slot, control, stack⟩ := a
  obtain ⟨hstack, hcontrol⟩ := h
  dsimp only at hstack hcontrol
  subst hstack
  rcases hcontrol with rfl | ⟨result, rfl⟩
  · exact ⟨_, rfl⟩
  · cases result with
    | ok _ => exact ⟨_, rfl⟩
    | error f => exact ⟨_, rfl⟩

/-- A dispatch that is settled stays as it is and invokes no more handlers. -/
theorem course_of_settled {n : Nat} {result : Result Stream} (h : (course ask others p n).1.control = .settled result) :
    ∀ m, n ≤ m → (course ask others p m).1 = (course ask others p n).1 ∧
      invoked ask others p m = invoked ask others p n := by
  intro m hnm
  induction m, hnm using Nat.le_induction with
  | base => exact ⟨rfl, rfl⟩
  | succ m _ ih =>
    obtain ⟨hsame, hinvoked⟩ := ih
    have hsettled : (course ask others p m).1.control = .settled result := by rw [hsame, h]
    constructor
    · rw [course_succ, ← hsame]
      simp only [advance, step, hsettled]
    · rw [invoked, List.range_succ, List.flatMap_append, List.flatMap_singleton, ← invoked, hinvoked]
      simp only [invokes, hsettled, List.append_nil]

end Courses

/-- A call comes back, however routers are mounted in each other and whatever handlers, clients and others do
meanwhile, if there are finitely many routers at all and each cycle of mounts takes a segment of the path. Calls that
are nested in a call see no more segments, and strictly fewer if they are of the same router. A dispatch settles after
finitely many handlers were invoked. -/
theorem call_finishes (ask : Nat → Asking) (others : Nat → Switch → Switch) {a : Activity} {s : Switch}
    {root : Ref .router} {path : String} (hcall : a.control = .call root path) (hask : ∀ n, (ask n).Answers)
    (hways : Ways.Shortening fun t n u => ∃ i, (course ask others (a, s) i).2.Hands t n u) :
    (∃ n, HasReturned a.stack (course ask others (a, s) n).1) ∧
    (∀ i j r r' path path', i < j →
      (course ask others (a, s) i).1.control = .call r path →
      (course ask others (a, s) j).1.control = .call r' path' →
      (∀ k, i < k → k < j →
        ¬ HasReturned (course ask others (a, s) i).1.stack (course ask others (a, s) k).1) →
      (Path.split path').length ≤ (Path.split path).length ∧
        (r' = r → (Path.split path').length < (Path.split path).length)) ∧
    (a.stack = [] → ∃ n, ∀ m, n ≤ m →
      (course ask others (a, s) m).1.result?.isSome ∧
        invoked ask others (a, s) m = invoked ask others (a, s) n) := by
  have hs (n : Nat) : (course ask others (a, s) n).2.Within fun t n u =>
      ∃ i, (course ask others (a, s) i).2.Hands t n u := fun t m u h => ⟨n, h⟩
  obtain ⟨request, scope, slot, control, stack⟩ := a
  dsimp only at hcall
  subst hcall
  obtain ⟨n, hn⟩ := (call_returns hways root path request scope slot stack).exists_course hask hs 0 rfl
  refine ⟨⟨n, hn⟩, fun i j r r' path path' hij hi hj hnot => ?_, fun hstack => ?_⟩
  · have hlower := (under_of_course hs hi hij hnot).1
    rw [hj] at hlower
    refine ⟨hlower.le, ?_⟩
    rintro rfl
    exact hways.lt_of_lower hlower
  · dsimp only at hstack hn
    subst hstack
    obtain ⟨result, hsettled⟩ := hn.settles (ask n) (course ask others _ n).2
    rw [← course_succ] at hsettled
    refine ⟨n + 1, fun m hm => ?_⟩
    obtain ⟨hsame, hinvoked⟩ := course_of_settled hsettled m hm
    exact ⟨by rw [hsame, result?, hsettled, Option.isSome_some], hinvoked⟩

/-- A router that is mounted in itself at `/a`, with a handler at its root that defers. -/
def looping : Switch where
  routers := ⟨#[
    { groups := [
        ⟨⟨"/", []⟩, .exact, [.handler ⟨0⟩]⟩,
        ⟨⟨"/a", [.literal "a"]⟩, .below, [.router ⟨0⟩]⟩] }]⟩
  handlers := ⟨#[fun _ => .defer]⟩

theorem looping_hands {t u : Target} {n : Nat} (h : looping.Hands t n u) :
    t = .router ⟨0⟩ ∧ (n = 0 ∧ u = .handler ⟨0⟩ ∨ n = 1 ∧ u = .router ⟨0⟩) := by
  cases h with
  | @served r g _ hg ht =>
    obtain ⟨index⟩ := r
    cases index with
    | zero =>
      have hgroups : g = ⟨⟨"/", []⟩, .exact, [.handler ⟨0⟩]⟩ ∨
          g = ⟨⟨"/a", [.literal "a"]⟩, .below, [.router ⟨0⟩]⟩ := by
        simpa [looping, Switch.table, Store.get?] using hg
      rcases hgroups with rfl | rfl
      · exact ⟨rfl, .inl ⟨rfl, List.mem_singleton.mp ht⟩⟩
      · exact ⟨rfl, .inr ⟨rfl, List.mem_singleton.mp ht⟩⟩
    | succ index => simp [looping, Switch.table, Store.get?] at hg
  | plugin hplugin => simp [looping, Switch.plugin?, Store.get?] at hplugin

/-- Every call to a client fails at once. -/
def refusing : Asking :=
  fun s _ _ => some (s, .error .closed)

/-- The request of `/a` goes once around and finds the handler, which is the only one that is invoked. -/
theorem call_finishes_looping :
    let p := (Activity.start ⟨0⟩ { path := "/a" } ⟨0⟩, looping)
    ∃ n, ∀ m, n ≤ m →
      (course (fun _ => refusing) (fun _ s => s) p m).1.result?.isSome ∧
        invoked (fun _ => refusing) (fun _ s => s) p m = invoked (fun _ => refusing) (fun _ s => s) p n := by
  intro p
  have hsettled : (course (fun _ => refusing) (fun _ s => s) p 11).1.control = .settled (.error (.noRoute "/a")) := rfl
  have hswitch (n : Nat) : (course (fun _ => refusing) (fun _ s => s) p n).2 = looping := by
    rcases Nat.le_total n 11 with hn | hn
    · interval_cases n <;> rfl
    · induction n, hn using Nat.le_induction with
      | base => rfl
      | succ n hn ih =>
        have hcontrol := congrArg Activity.control (course_of_settled hsettled n hn).1
        rw [hsettled] at hcontrol
        unfold course
        simp only [advance, step, hcontrol, ih]
  have hways : Ways.Shortening fun t n u => ∃ i, (course (fun _ => refusing) (fun _ s => s) p i).2.Hands t n u := by
    simp only [hswitch, exists_const]
    refine ⟨looping.finite_hands, fun t ht => ?_⟩
    obtain ⟨u, hfirst, -⟩ := TransGen.head'_iff.mp ht
    obtain ⟨v, -, hlast⟩ := TransGen.tail'_iff.mp ht
    obtain ⟨rfl, -⟩ := looping_hands hfirst
    obtain ⟨-, ⟨-, hcycle⟩ | ⟨hone, -⟩⟩ := looping_hands hlast
    · cases hcycle
    · cases hone
  exact (call_finishes (fun _ => refusing) (fun _ s => s) rfl (fun _ s _ _ => ⟨(s, .error .closed), rfl⟩) hways).2.2 rfl

end Activity

end Exchange
