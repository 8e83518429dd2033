-- SUMMARY: Renaming the targets of a route table commutes with all that is done to the table.
import Mathlib.Data.List.Basic
import Exchange.Route.Table

/-!
# Renamed targets

Nothing that a table does looks into its targets; some compare them. A renaming
that tells targets apart can thus be made before a change or after it.
-/

namespace Exchange

variable {τ τ' : Type}

def Link.map (f : τ → τ') (link : Link τ) : Link τ' :=
  ⟨f link.target, link.path, link.params⟩

def Group.map (f : τ → τ') (g : Group τ) : Group τ' :=
  ⟨g.pattern, g.mount, g.targets.map f⟩

def Table.map (f : τ → τ') (t : Table τ) : Table τ' :=
  ⟨t.groups.map (Group.map f)⟩

namespace Table

theorem resolve_map (f : τ → τ') (t : Table τ) (path : String) :
    (t.map f).resolve path = (t.resolve path).map (Link.map f) := by
  simp only [resolve, map, List.flatMap_map, List.map_flatMap]
  refine congrArg (List.flatMap · t.groups) (funext fun g => ?_)
  unfold Group.links
  rw [show (g.map f).view? path (Path.split path) = g.view? path (Path.split path) from rfl]
  cases g.view? path (Path.split path) with
  | none => rfl
  | some view =>
    simp only [Group.map, List.map_map]
    rfl

theorem place_map (f : τ → τ') (g : Group τ) (l : List (Group τ)) :
    place (g.map f) (l.map (Group.map f)) = (place g l).map (Group.map f) := by
  induction l with
  | nil => rfl
  | cons k l ih =>
    simp only [List.map_cons, place, ih]
    rw [show (g.map f).precedes (k.map f) = g.precedes k from rfl]
    split <;> rfl

section Injective

variable [DecidableEq τ] [DecidableEq τ'] {f : τ → τ'} (hf : Function.Injective f)

include hf

theorem insert_map (t : Table τ) (pattern : Pattern) (mount : Mount) (target : τ) :
    (t.map f).insert pattern mount (f target) = (t.insert pattern mount target).map f := by
  unfold insert
  have hany : (t.map f).groups.any (·.isAt pattern mount) = t.groups.any (·.isAt pattern mount) :=
    List.any_map
  rw [hany]
  split
  · simp only [map, List.map_map]
    refine congrArg _ (List.map_congr_left fun g _ => ?_)
    have hmem : f target ∈ (g.map f).targets ↔ target ∈ g.targets := List.mem_map_of_injective hf
    simp only [Function.comp_apply, hmem, show (g.map f).isAt pattern mount = g.isAt pattern mount from rfl]
    split
    · simp [Group.map]
    · rfl
  · exact congrArg _ (place_map f ⟨pattern, mount, [target]⟩ t.groups)

theorem holds_map (t : Table τ) (pattern : Pattern) (target : τ) :
    (t.map f).holds pattern (f target) = t.holds pattern target := by
  simp only [holds, map, List.any_map]
  refine congrArg (List.any t.groups) (funext fun g => ?_)
  have hmem : (g.map f).targets.contains (f target) = g.targets.contains target := by
    simp [Group.map, hf.eq_iff]
  simp only [Function.comp_apply, hmem]
  rfl

theorem erase_map (t : Table τ) (pattern : Pattern) (target : τ) :
    (t.map f).erase pattern (f target) = (t.erase pattern target).map f := by
  have hstrip : (fun g : Group τ' =>
        if g.pattern.same pattern then { g with targets := g.targets.filter (· ≠ f target) } else g) ∘ Group.map f =
      Group.map f ∘ fun g =>
        if g.pattern.same pattern then { g with targets := g.targets.filter (· ≠ target) } else g := by
    funext g
    simp only [Function.comp_apply, show (g.map f).pattern = g.pattern from rfl]
    split
    · simp [Group.map, List.filter_map, Function.comp_def, hf.eq_iff]
    · rfl
  have hempty : (fun g : Group τ' => !g.targets.isEmpty) ∘ Group.map f = fun g => !g.targets.isEmpty := by
    funext g
    simp [Group.map]
  simp only [erase, map, List.map_map]
  rw [hstrip, ← List.map_map, List.filter_map, hempty]

theorem register_map (t : Table τ) (mount : Mount) (raw : String) (target : τ) :
    (t.map f).register mount raw (f target) = (t.register mount raw target).map (Table.map f) := by
  unfold register
  cases readPattern mount raw with
  | error e => rfl
  | ok pattern => exact congrArg Except.ok (insert_map hf t pattern mount target)

theorem unregister_map (t : Table τ) (raw : String) (target : τ) :
    (t.map f).unregister raw (f target) = ((t.unregister raw target).1.map f, (t.unregister raw target).2) := by
  unfold unregister
  cases Pattern.parse raw with
  | error e => rfl
  | ok pattern =>
    simp only [holds_map hf, erase_map hf]
    split <;> rfl

end Injective

end Table

end Exchange
