-- SUMMARY: Route tables keep an ordered set of registrations, and resolve paths by how specific these are.
import Exchange.Route.Table
import Mathlib.Data.List.Nodup
import Mathlib.Data.Prod.Lex
import Mathlib.Order.Basic

/-!
# Registrations

A `Registry` says what is registered, without groups: the live registrations in
the order in which they were made, and the sites that have some in the order in
which they came to have some. `Table.Refines` is how the groups of a table
stand for it, and `changeAll_refines` says that they do after any changes.
-/

namespace Exchange

/-! ## Sites -/

/-- Where something is registered; how the pattern was spelled does not matter. -/
structure Site where
  segments : List Segment
  mount : Mount
  deriving DecidableEq

namespace Site

/-- Literal before parameters before wildcard before mount. -/
def tier (s : Site) : Nat :=
  match s.mount with
  | .below => 3
  | .exact =>
    if s.segments.getLast? = some .wildcard then 2
    else if s.segments.any (fun | .parameter _ => true | _ => false) then 1
    else 0

/-- By tier, then more literals first, then longer first. -/
def rank (s : Site) : ℕ ×ₗ ℕᵒᵈ ×ₗ ℕᵒᵈ :=
  toLex (s.tier, toLex (.toDual (s.segments.countP fun | .literal _ => true | _ => false),
    .toDual s.segments.length))

/-- What a target registered here sees of a path, if the pattern matches it. -/
def view? (s : Site) (path : String) : Option (String × Bindings) :=
  match s.mount with
  | .exact => (Pattern.capture s.segments (Path.split path) []).map fun params => (path, params)
  | .below =>
    if (Path.split path).length < s.segments.length then none
    else (Pattern.capture s.segments ((Path.split path).take s.segments.length) []).map fun params =>
      (Path.ofSegments ((Path.split path).drop s.segments.length), params)

end Site

namespace Group

variable {τ : Type}

def site (g : Group τ) : Site :=
  ⟨g.pattern.segments, g.mount⟩

theorem isAt_iff (g : Group τ) (pattern : Pattern) (mount : Mount) :
    g.isAt pattern mount = true ↔ g.site = ⟨pattern.segments, mount⟩ := by
  simp [isAt, site, Pattern.same]

theorem same_iff (g : Group τ) (pattern : Pattern) :
    g.pattern.same pattern = true ↔ g.site.segments = pattern.segments := by
  simp [site, Pattern.same]

theorem tier_site (g : Group τ) : g.site.tier = g.tier := by
  obtain ⟨pattern, mount, targets⟩ := g
  cases mount with
  | exact =>
    simp only [site, Site.tier, tier, Pattern.hasWildcard, Pattern.hasParameters, decide_eq_true_eq]
    rfl
  | below => rfl

theorem precedes_iff (g k : Group τ) : g.precedes k = true ↔ g.site.rank < k.site.rank := by
  simp only [precedes, Site.rank, Prod.Lex.toLex_lt_toLex, tier_site, OrderDual.toDual_lt_toDual,
    OrderDual.toDual_inj]
  show _ ↔ _ ∨ _ ∧ (k.pattern.literalCount < g.pattern.literalCount ∨
    g.pattern.literalCount = k.pattern.literalCount ∧ k.pattern.segments.length < g.pattern.segments.length)
  split
  · rename_i htier
    simp [htier]
  · rename_i htier
    have htier : g.tier = k.tier := by simpa using htier
    split
    · rename_i hliterals
      simp [htier, hliterals]
    · rename_i hliterals
      have hliterals : g.pattern.literalCount = k.pattern.literalCount := by simpa using hliterals
      simp [htier, hliterals]

theorem view?_eq (g : Group τ) (path : String) : g.view? path (Path.split path) = g.site.view? path := by
  obtain ⟨pattern, mount, targets⟩ := g
  cases mount with
  | exact => rfl
  | below =>
    show (pattern.matchPrefix (Path.split path)).map _ =
      if (Path.split path).length < pattern.segments.length then none else _
    unfold Pattern.matchPrefix
    dsimp only
    by_cases hlength : (Path.split path).length < pattern.segments.length
    · rw [if_pos hlength, if_pos hlength]
      rfl
    · rw [if_neg hlength, if_neg hlength, Option.map_map]
      rfl

end Group

/-! ## Registries -/

@[ext]
structure Registration (τ : Type) where
  site : Site
  target : τ
  deriving DecidableEq

/-- The candidate that a registration is for a path. -/
def Registration.link? {τ : Type} (e : Registration τ) (path : String) : Option (Link τ) :=
  (e.site.view? path).map fun view => ⟨e.target, view.1, view.2⟩

structure Registry (τ : Type) where
  /-- What is registered, oldest first. -/
  registrations : List (Registration τ) := []
  /-- Where something is registered, in the order in which each site came to have something. -/
  sites : List Site := []

/-- What can be done with a table. -/
inductive Table.Change (τ : Type) where
  | register (mount : Mount) (raw : String) (target : τ)
  | unregister (raw : String) (target : τ)

namespace Registry

variable {τ : Type}

/-- A site is tried before another. -/
def Before (r : Registry τ) (s s' : Site) : Prop :=
  s.rank < s'.rank ∨ s.rank = s'.rank ∧ [s, s'].Sublist r.sites

/-- A registration is tried before another. -/
def Ahead (r : Registry τ) (e e' : Registration τ) : Prop :=
  r.Before e.site e'.site ∨ e.site = e'.site ∧ [e, e'].Sublist r.registrations

variable [DecidableEq τ]

/-- Registers something, unless it is registered already. -/
def add (r : Registry τ) (e : Registration τ) : Registry τ :=
  if e ∈ r.registrations then r
  else ⟨r.registrations ++ [e], if e.site ∈ r.sites then r.sites else r.sites ++ [e.site]⟩

/-- A registration is of a target at a pattern, in whichever way of matching. -/
def IsAt (segments : List Segment) (target : τ) (e : Registration τ) : Prop :=
  e.site.segments = segments ∧ e.target = target

instance (segments : List Segment) (target : τ) : DecidablePred (IsAt segments target) :=
  fun _ => inferInstanceAs (Decidable (_ ∧ _))

/-- Removes a target from a pattern; sites without registrations go. -/
def remove (r : Registry τ) (segments : List Segment) (target : τ) : Registry τ :=
  let left := r.registrations.filter fun e => ¬ IsAt segments target e
  ⟨left, r.sites.filter fun s => s ∈ left.map (·.site)⟩

def change (r : Registry τ) : Table.Change τ → Registry τ
  | .register mount raw target =>
    match Table.readPattern mount raw with
    | .ok p => r.add ⟨⟨p.segments, mount⟩, target⟩
    | .error _ => r
  | .unregister raw target =>
    match Pattern.parse raw with
    | .ok p => r.remove p.segments target
    | .error _ => r

def changeAll (r : Registry τ) (changes : List (Table.Change τ)) : Registry τ :=
  changes.foldl change r

end Registry

namespace Table

variable {τ : Type} [DecidableEq τ]

def change (t : Table τ) : Change τ → Table τ
  | .register mount raw target =>
    match t.register mount raw target with
    | .ok t => t
    | .error _ => t
  | .unregister raw target => (t.unregister raw target).1

def changeAll (t : Table τ) (changes : List (Change τ)) : Table τ :=
  changes.foldl change t

end Table

namespace Registry

variable {τ : Type}

theorem mem_at_site {r : Registry τ} {s : Site} {e : Registration τ} :
    (e ∈ r.registrations.filter fun e => e.site = s) ↔ e ∈ r.registrations ∧ e.site = s := by
  rw [List.mem_filter, decide_eq_true_eq]

theorem Before.rank_le {r : Registry τ} {s s' : Site} (h : r.Before s s') : s.rank ≤ s'.rank := by
  rcases h with hlt | ⟨heq, -⟩
  · exact hlt.le
  · exact heq.le

theorem Before.mono {r r' : Registry τ} (hsites : r.sites.Sublist r'.sites) {s s' : Site} (h : r.Before s s') :
    r'.Before s s' := by
  rcases h with hlt | ⟨heq, hsub⟩
  · exact .inl hlt
  · exact .inr ⟨heq, hsub.trans hsites⟩

end Registry

/-! ## Refinement -/

namespace Table

variable {τ : Type}

theorem perm_place (g : Group τ) (l : List (Group τ)) : (place g l).Perm (g :: l) := by
  induction l with
  | nil => exact .refl _
  | cons k rest ih =>
    unfold place
    split
    · exact .refl _
    · exact (ih.cons k).trans (.swap g k rest)

theorem exists_mem_insert [DecidableEq τ] (t : Table τ) (pattern : Pattern) (mount : Mount) (target : τ) :
    ∃ g ∈ (t.insert pattern mount target).groups, target ∈ g.targets := by
  unfold insert
  split
  · rename_i hany
    obtain ⟨g, hg, hat⟩ := List.any_eq_true.1 hany
    refine ⟨_, List.mem_map_of_mem hg, ?_⟩
    split
    · exact List.mem_append_right _ List.mem_cons_self
    · rename_i hthere
      exact Classical.not_not.1 fun hnot => hthere ⟨hat, hnot⟩
  · exact ⟨_, (perm_place _ _).mem_iff.2 List.mem_cons_self, List.mem_cons_self⟩

/-- A new group comes behind its equals, which are all older. -/
theorem sorted_place {r r' : Registry τ} {g : Group τ} {l : List (Group τ)} (hsites : r'.sites = r.sites ++ [g.site])
    (hl : ∀ k ∈ l, k.site ∈ r.sites) (hsorted : (l.map Group.site).Pairwise r.Before) :
    ((place g l).map Group.site).Pairwise r'.Before := by
  have hsub : r.sites.Sublist r'.sites := by
    rw [hsites]
    exact List.sublist_append_left _ _
  induction l with
  | nil => exact List.pairwise_singleton _ _
  | cons k rest ih =>
    obtain ⟨hk, hrest⟩ := List.forall_mem_cons.1 hl
    obtain ⟨hhead, htail⟩ := List.pairwise_cons.1 hsorted
    have hkept : ((k :: rest).map Group.site).Pairwise r'.Before := hsorted.imp fun h => h.mono hsub
    unfold place
    split
    · rename_i hprecedes
      rw [Group.precedes_iff] at hprecedes
      refine List.pairwise_cons.2 ⟨?_, hkept⟩
      intro s hs
      left
      rcases List.mem_cons.1 hs with rfl | hs
      · exact hprecedes
      · exact lt_of_lt_of_le hprecedes (hhead s hs).rank_le
    · rename_i hprecedes
      rw [Group.precedes_iff, not_lt] at hprecedes
      refine List.pairwise_cons.2 ⟨?_, ih hrest htail⟩
      intro s hs
      rcases List.mem_cons.1 (((perm_place g rest).map Group.site).subset hs) with rfl | hs
      · rcases lt_or_eq_of_le hprecedes with hlt | heq
        · exact .inl hlt
        · refine .inr ⟨heq, ?_⟩
          rw [hsites]
          exact (List.singleton_sublist.2 hk).append (.refl [g.site])
      · exact (hhead s hs).mono hsub

/-- The groups of a table stand for a registry: one group a site, in the order in which sites are
tried, with the targets registered there, oldest first. -/
structure Refines (t : Table τ) (r : Registry τ) : Prop where
  distinct : r.registrations.Nodup
  sites : r.sites.Nodup
  site_iff : ∀ s, s ∈ r.sites ↔ s ∈ r.registrations.map (·.site)
  perm : (t.groups.map Group.site).Perm r.sites
  sorted : (t.groups.map Group.site).Pairwise r.Before
  targets : ∀ g ∈ t.groups, g.targets = (r.registrations.filter fun e => e.site = g.site).map (·.target)

namespace Refines

variable {t : Table τ} {r : Registry τ}

theorem start : Refines ({} : Table τ) {} where
  distinct := List.nodup_nil
  sites := List.nodup_nil
  site_iff := by simp
  perm := .refl _
  sorted := List.Pairwise.nil
  targets := by simp

theorem exists_group (a : Refines t r) {s : Site} (hs : s ∈ r.sites) : ∃ g ∈ t.groups, g.site = s :=
  List.mem_map.1 (a.perm.mem_iff.2 hs)

theorem site_mem (a : Refines t r) {g : Group τ} (hg : g ∈ t.groups) : g.site ∈ r.sites :=
  a.perm.subset (List.mem_map_of_mem hg)

theorem mem_targets (a : Refines t r) {g : Group τ} (hg : g ∈ t.groups) (target : τ) :
    target ∈ g.targets ↔ ⟨g.site, target⟩ ∈ r.registrations := by
  rw [a.targets g hg]
  constructor
  · intro h
    obtain ⟨e, he, rfl⟩ := List.mem_map.1 h
    obtain ⟨he, hsite⟩ := Registry.mem_at_site.1 he
    rwa [← hsite]
  · intro h
    exact List.mem_map.2 ⟨_, Registry.mem_at_site.2 ⟨h, rfl⟩, rfl⟩

theorem any_isAt (a : Refines t r) (pattern : Pattern) (mount : Mount) :
    t.groups.any (·.isAt pattern mount) = true ↔ ⟨pattern.segments, mount⟩ ∈ r.sites := by
  rw [List.any_eq_true]
  constructor
  · rintro ⟨g, hg, hat⟩
    rw [← (g.isAt_iff pattern mount).1 hat]
    exact a.site_mem hg
  · intro hs
    obtain ⟨g, hg, hsite⟩ := a.exists_group hs
    exact ⟨g, hg, (g.isAt_iff pattern mount).2 hsite⟩

variable [DecidableEq τ]

/-- A group after a target was added at a pattern. -/
def joined (pattern : Pattern) (mount : Mount) (target : τ) (g : Group τ) : Group τ :=
  if g.isAt pattern mount ∧ target ∉ g.targets then { g with targets := g.targets ++ [target] } else g

@[simp] theorem site_joined (pattern : Pattern) (mount : Mount) (target : τ) (g : Group τ) :
    (joined pattern mount target g).site = g.site := by
  unfold joined
  split <;> rfl

/-- A target joins the group of its site. -/
theorem join (a : Refines t r) {pattern : Pattern} {mount : Mount} (target : τ)
    (hsite : ⟨pattern.segments, mount⟩ ∈ r.sites) :
    Refines ⟨t.groups.map (joined pattern mount target)⟩ (r.add ⟨⟨pattern.segments, mount⟩, target⟩) := by
  have hjoins {g : Group τ} (hg : g ∈ t.groups) : g.isAt pattern mount ∧ target ∉ g.targets ↔
      g.site = ⟨pattern.segments, mount⟩ ∧ ⟨⟨pattern.segments, mount⟩, target⟩ ∉ r.registrations := by
    rw [g.isAt_iff, a.mem_targets hg]
    apply and_congr_right
    intro hat
    rw [hat]
  have hsites : (t.groups.map (joined pattern mount target)).map Group.site = t.groups.map Group.site := by
    rw [List.map_map]
    exact List.map_congr_left fun g _ => site_joined pattern mount target g
  by_cases hmem : ⟨⟨pattern.segments, mount⟩, target⟩ ∈ r.registrations
  · have hsame : t.groups.map (joined pattern mount target) = t.groups := by
      rw [List.map_congr_left (g := id), List.map_id]
      intro g hg
      exact if_neg fun h => ((hjoins hg).1 h).2 hmem
    rw [Registry.add, if_pos hmem, hsame]
    exact a
  · rw [Registry.add, if_neg hmem, if_pos hsite]
    refine ⟨?_, a.sites, ?_, ?_, ?_, ?_⟩
    · rw [List.nodup_append]
      refine ⟨a.distinct, by simp, ?_⟩
      intro e he e' he' heq
      obtain rfl := List.mem_singleton.1 he'
      exact hmem (heq ▸ he)
    · intro s
      rw [a.site_iff, List.map_append, List.mem_append]
      constructor
      · exact .inl
      · rintro (hs | hs)
        · exact hs
        · obtain rfl := List.mem_singleton.1 hs
          exact (a.site_iff _).1 hsite
    · rw [hsites]
      exact a.perm
    · rw [hsites]
      exact a.sorted.imp fun h => h.mono (.refl _)
    · intro g' hg'
      obtain ⟨g, hg, rfl⟩ := List.mem_map.1 hg'
      rw [List.filter_append, List.map_append, site_joined, ← a.targets g hg]
      by_cases hat : g.site = ⟨pattern.segments, mount⟩
      · rw [joined, if_pos ((hjoins hg).2 ⟨hat, hmem⟩)]
        simp [hat]
      · rw [joined, if_neg fun h => hat ((hjoins hg).1 h).1]
        simp [Ne.symm hat]

/-- A target that is the first at its site gets a new group. -/
theorem place (a : Refines t r) {pattern : Pattern} {mount : Mount} (target : τ)
    (hsite : ⟨pattern.segments, mount⟩ ∉ r.sites) :
    Refines ⟨Table.place ⟨pattern, mount, [target]⟩ t.groups⟩ (r.add ⟨⟨pattern.segments, mount⟩, target⟩) := by
  have hnone : ∀ e ∈ r.registrations, e.site ≠ ⟨pattern.segments, mount⟩ := by
    intro e he heq
    exact hsite ((a.site_iff _).2 (List.mem_map.2 ⟨e, he, heq⟩))
  have hmem : ⟨⟨pattern.segments, mount⟩, target⟩ ∉ r.registrations := fun h => hnone _ h rfl
  have hperm := perm_place ⟨pattern, mount, [target]⟩ t.groups
  rw [Registry.add, if_neg hmem, if_neg hsite]
  refine ⟨?_, ?_, ?_, ?_, ?_, ?_⟩
  · rw [List.nodup_append]
    refine ⟨a.distinct, by simp, ?_⟩
    intro e he e' he' heq
    obtain rfl := List.mem_singleton.1 he'
    exact hmem (heq ▸ he)
  · rw [List.nodup_append]
    refine ⟨a.sites, by simp, ?_⟩
    intro s hs s' hs' heq
    obtain rfl := List.mem_singleton.1 hs'
    subst heq
    exact hsite hs
  · intro s
    rw [List.mem_append, a.site_iff, List.map_append, List.mem_append]
    rfl
  · refine (hperm.map Group.site).trans ?_
    exact (a.perm.cons _).trans (List.perm_append_singleton _ _).symm
  · exact sorted_place rfl (fun g hg => a.site_mem hg) a.sorted
  · intro g hg
    rw [List.filter_append, List.map_append]
    rcases List.mem_cons.1 (hperm.subset hg) with rfl | hg
    · rw [List.filter_eq_nil_iff.2]
      · simp [Group.site]
      · intro e he
        rw [decide_eq_true_eq]
        exact hnone e he
    · have hne : g.site ≠ ⟨pattern.segments, mount⟩ := fun heq => hsite (heq ▸ a.site_mem hg)
      rw [← a.targets g hg]
      simp [Ne.symm hne]

theorem insert (a : Refines t r) (pattern : Pattern) (mount : Mount) (target : τ) :
    Refines (t.insert pattern mount target) (r.add ⟨⟨pattern.segments, mount⟩, target⟩) := by
  have hany := a.any_isAt pattern mount
  unfold Table.insert
  split
  · rename_i h
    exact a.join target (hany.1 h)
  · rename_i h
    exact a.place target (mt hany.2 h)

/-! ### Unregistering -/

theorem holds_iff (a : Refines t r) (pattern : Pattern) (target : τ) :
    t.holds pattern target = true ↔ ∃ e ∈ r.registrations, Registry.IsAt pattern.segments target e := by
  simp only [holds, List.any_eq_true, Bool.and_eq_true, List.contains_iff_mem]
  constructor
  · rintro ⟨g, hg, hsame, hmem⟩
    exact ⟨_, (a.mem_targets hg target).1 hmem, (g.same_iff pattern).1 hsame, rfl⟩
  · rintro ⟨e, he, hsegments, rfl⟩
    obtain ⟨g, hg, hsite⟩ := a.exists_group ((a.site_iff e.site).2 (List.mem_map_of_mem he))
    refine ⟨g, hg, ?_, ?_⟩
    · rw [g.same_iff, hsite]
      exact hsegments
    · rw [a.mem_targets hg, hsite]
      exact he

theorem remove_of_not_holds (a : Refines t r) {segments : List Segment} {target : τ}
    (hno : ∀ e ∈ r.registrations, ¬ Registry.IsAt segments target e) : r.remove segments target = r := by
  have hall : r.registrations.filter (fun e => ¬ Registry.IsAt segments target e) = r.registrations := by
    rw [List.filter_eq_self]
    intro e he
    simpa using hno e he
  have hsites : r.sites.filter (fun s => s ∈ r.registrations.map (·.site)) = r.sites := by
    rw [List.filter_eq_self]
    intro s hs
    simpa using (a.site_iff s).1 hs
  rw [Registry.remove, hall, hsites]

/-- A group after a target was taken away from a pattern. -/
def stripped (pattern : Pattern) (target : τ) (g : Group τ) : Group τ :=
  if g.pattern.same pattern then { g with targets := g.targets.filter (· ≠ target) } else g

@[simp] theorem site_stripped (pattern : Pattern) (target : τ) (g : Group τ) :
    (stripped pattern target g).site = g.site := by
  unfold stripped
  split <;> rfl

theorem targets_stripped (a : Refines t r) (pattern : Pattern) (target : τ) {g : Group τ} (hg : g ∈ t.groups) :
    (stripped pattern target g).targets =
      ((r.remove pattern.segments target).registrations.filter fun e => e.site = g.site).map (·.target) := by
  unfold Registry.remove stripped
  rw [List.filter_filter]
  split
  · rename_i hsame
    have hsegments := (g.same_iff pattern).1 hsame
    show g.targets.filter _ = _
    rw [a.targets g hg, List.filter_map, List.filter_filter]
    congr 1
    apply List.filter_congr
    intro e _
    by_cases hsite : e.site = g.site
    · simp [Registry.IsAt, hsite, hsegments]
    · simp [hsite]
  · rename_i hsame
    have hsegments := mt (g.same_iff pattern).2 hsame
    rw [a.targets g hg]
    congr 1
    apply List.filter_congr
    intro e _
    by_cases hsite : e.site = g.site
    · simp [Registry.IsAt, hsite, hsegments]
    · simp [hsite]

theorem erase (a : Refines t r) (pattern : Pattern) (target : τ) :
    Refines (t.erase pattern target) (r.remove pattern.segments target) := by
  have hleft (s : Site) : s ∈ (r.remove pattern.segments target).sites ↔
      s ∈ (r.remove pattern.segments target).registrations.map (·.site) := by
    unfold Registry.remove
    rw [List.mem_filter, decide_eq_true_eq, and_iff_right_iff_imp]
    intro hs
    obtain ⟨e, he, rfl⟩ := List.mem_map.1 hs
    exact (a.site_iff _).2 (List.mem_map_of_mem (List.mem_filter.1 he).1)
  -- The groups that stay are those whose sites stay.
  have hsites : (t.erase pattern target).groups.map Group.site =
      (t.groups.map Group.site).filter fun s => s ∈ (r.remove pattern.segments target).sites := by
    show ((t.groups.map (stripped pattern target)).filter _).map Group.site = _
    rw [List.filter_map, List.map_map, List.filter_map]
    have hfilter : t.groups.filter ((fun g => !g.targets.isEmpty) ∘ stripped pattern target) =
        t.groups.filter ((fun s => s ∈ (r.remove pattern.segments target).sites) ∘ Group.site) := by
      apply List.filter_congr
      intro g hg
      rw [Function.comp_apply, Function.comp_apply, a.targets_stripped pattern target hg, Bool.eq_iff_iff,
        decide_eq_true_eq, hleft]
      simp
    rw [hfilter]
    exact List.map_congr_left fun g _ => site_stripped pattern target g
  have hself : r.sites.filter (fun s => s ∈ (r.remove pattern.segments target).sites) =
      (r.remove pattern.segments target).sites :=
    List.filter_congr fun s _ => decide_eq_decide.2 (hleft s)
  refine ⟨a.distinct.filter _, a.sites.filter _, hleft, ?_, ?_, ?_⟩
  · rw [hsites]
    exact (a.perm.filter _).trans (.of_eq hself)
  · rw [hsites]
    refine (a.sorted.filter _).imp_of_mem ?_
    intro s s' hs hs' hbefore
    rcases hbefore with hlt | ⟨heq, hsub⟩
    · exact .inl hlt
    · refine .inr ⟨heq, ?_⟩
      have hkept := hsub.filter fun s => decide (s ∈ (r.remove pattern.segments target).sites)
      rw [hself] at hkept
      simpa only [List.filter_cons, (List.mem_filter.1 hs).2, (List.mem_filter.1 hs').2, if_true, List.filter_nil]
        using hkept
  · intro g' hg'
    obtain ⟨g, hg, rfl⟩ := List.mem_map.1 (List.mem_filter.1 hg').1
    have htargets := a.targets_stripped pattern target hg
    rw [← site_stripped pattern target g] at htargets
    exact htargets

theorem change (a : Refines t r) (c : Change τ) : Refines (t.change c) (r.change c) := by
  cases c with
  | register mount raw target =>
    simp only [Table.change, Registry.change, Table.register]
    cases readPattern mount raw with
    | error e => exact a
    | ok p => exact a.insert p mount target
  | unregister raw target =>
    simp only [Table.change, Registry.change, Table.unregister]
    cases Pattern.parse raw with
    | error e => exact a
    | ok p =>
      dsimp only
      split
      · exact a.erase p target
      · rename_i hholds
        rw [a.remove_of_not_holds]
        · exact a
        · intro e he hat
          exact hholds ((a.holds_iff p target).2 ⟨e, he, hat⟩)

theorem changeAll (a : Refines t r) (changes : List (Change τ)) :
    Refines (t.changeAll changes) (r.changeAll changes) := by
  induction changes generalizing t r with
  | nil => exact a
  | cons c changes ih => exact ih (a.change c)

end Refines

/-! ## Resolving -/

/-- What is registered in a table, in the order in which it is tried. -/
def registrations (t : Table τ) : List (Registration τ) :=
  t.groups.flatMap fun g => g.targets.map fun target => ⟨g.site, target⟩

theorem resolve_eq (t : Table τ) (path : String) :
    t.resolve path = t.registrations.filterMap fun e => e.link? path := by
  have hlinks (g : Group τ) : g.links path (Path.split path) =
      (g.targets.map fun target => (⟨g.site, target⟩ : Registration τ)).filterMap fun e => e.link? path := by
    simp only [Group.links, g.view?_eq, List.filterMap_map, Function.comp_def, Registration.link?]
    cases g.site.view? path with
    | none => simp
    | some view => simp
  unfold resolve registrations
  rw [List.filterMap_flatMap]
  exact List.flatMap_congr fun g _ => hlinks g

theorem count_eq (t : Table τ) : t.count = t.registrations.length := by
  simp [count, registrations, List.length_flatMap]

/-! ## Order under change -/

/-- A new group comes somewhere among the others. -/
theorem exists_place (g : Group τ) (l : List (Group τ)) :
    ∃ before after, l = before ++ after ∧ place g l = before ++ g :: after := by
  induction l with
  | nil => exact ⟨[], [], rfl, rfl⟩
  | cons k rest ih =>
    unfold place
    split
    · exact ⟨[], k :: rest, rfl, rfl⟩
    · obtain ⟨before, after, hrest, hplace⟩ := ih
      exact ⟨k :: before, after, congrArg (k :: ·) hrest, congrArg (k :: ·) hplace⟩

section Order

variable [DecidableEq τ]

/-- Adding a target leaves the others in their order. -/
theorem registrations_insert {t : Table τ} {pattern : Pattern} {mount : Mount} {target : τ}
    (h : (⟨⟨pattern.segments, mount⟩, target⟩ : Registration τ) ∉ t.registrations) :
    ((t.insert pattern mount target).registrations.filter fun e => e ≠ ⟨⟨pattern.segments, mount⟩, target⟩) =
      t.registrations := by
  have hkept : ∀ g ∈ t.groups, ((g.targets.map fun x => (⟨g.site, x⟩ : Registration τ)).filter fun e =>
      e ≠ ⟨⟨pattern.segments, mount⟩, target⟩) = g.targets.map fun x => ⟨g.site, x⟩ := by
    intro g hg
    rw [List.filter_eq_self]
    intro e he
    rw [decide_eq_true_eq]
    rintro rfl
    exact h (List.mem_flatMap.2 ⟨g, hg, he⟩)
  unfold insert registrations
  split
  · dsimp only
    rw [List.flatMap_map, List.filter_flatMap]
    apply List.flatMap_congr
    intro g hg
    split
    · rename_i hjoins
      have hsite := (g.isAt_iff pattern mount).1 hjoins.1
      have hlast : ([target].map fun x => (⟨g.site, x⟩ : Registration τ)).filter
          (fun e => e ≠ ⟨⟨pattern.segments, mount⟩, target⟩) = [] := by
        simp [hsite]
      rw [List.map_append, List.filter_append]
      exact (congrArg₂ (· ++ ·) (hkept g hg) hlast).trans (List.append_nil _)
    · exact hkept g hg
  · obtain ⟨before, after, hgroups, hplace⟩ := exists_place ⟨pattern, mount, [target]⟩ t.groups
    have hnew : ([target].map fun x => (⟨⟨pattern.segments, mount⟩, x⟩ : Registration τ)).filter
        (fun e => e ≠ ⟨⟨pattern.segments, mount⟩, target⟩) = [] := by
      simp
    dsimp only
    rw [hplace, List.flatMap_append, List.flatMap_cons, List.filter_append, List.filter_append]
    rw [show ([target].map fun x => (⟨Group.site ⟨pattern, mount, [target]⟩, x⟩ : Registration τ)).filter
        (fun e => e ≠ ⟨⟨pattern.segments, mount⟩, target⟩) = [] from hnew, List.nil_append, ← List.filter_append,
      ← List.flatMap_append, ← hgroups, List.filter_flatMap]
    exact List.flatMap_congr hkept

namespace Refines

theorem registrations_stripped (pattern : Pattern) (target : τ) (g : Group τ) :
    ((stripped pattern target g).targets.map fun x => (⟨(stripped pattern target g).site, x⟩ : Registration τ)) =
      (g.targets.map fun x => ⟨g.site, x⟩).filter fun e => ¬ Registry.IsAt pattern.segments target e := by
  rw [site_stripped, List.filter_map]
  unfold stripped
  split
  · rename_i hsame
    have hsegments := (g.same_iff pattern).1 hsame
    simp [Registry.IsAt, hsegments, Function.comp_def]
  · rename_i hsame
    have hsegments := mt (g.same_iff pattern).2 hsame
    simp [Registry.IsAt, hsegments, Function.comp_def]

end Refines

/-- Taking a target away leaves the others in their order. -/
theorem registrations_erase (t : Table τ) (pattern : Pattern) (target : τ) :
    (t.erase pattern target).registrations =
      t.registrations.filter fun e => ¬ Registry.IsAt pattern.segments target e := by
  show ((t.groups.map (Refines.stripped pattern target)).filter fun g => !g.targets.isEmpty).flatMap _ = _
  unfold registrations
  induction t.groups with
  | nil => rfl
  | cons g groups ih =>
    rw [List.flatMap_cons, List.filter_append, ← Refines.registrations_stripped, ← ih, List.map_cons, List.filter_cons]
    split
    · rfl
    · rename_i hempty
      have hnil : (Refines.stripped pattern target g).targets = [] := by
        cases htargets : (Refines.stripped pattern target g).targets with
        | nil => rfl
        | cons _ _ => simp [htargets] at hempty
      rw [hnil]
      rfl

end Order

namespace Refines

variable {t : Table τ} {r : Registry τ}

theorem registrations_eq (a : Refines t r) :
    t.registrations = t.groups.flatMap fun g => r.registrations.filter fun e => e.site = g.site := by
  apply List.flatMap_congr
  intro g hg
  rw [a.targets g hg, List.map_map, List.map_congr_left (g := id), List.map_id]
  intro e he
  rw [Function.comp_apply, ← (Registry.mem_at_site.1 he).2]
  rfl

theorem mem_registrations (a : Refines t r) (e : Registration τ) : e ∈ t.registrations ↔ e ∈ r.registrations := by
  rw [a.registrations_eq, List.mem_flatMap]
  constructor
  · rintro ⟨g, -, he⟩
    exact (Registry.mem_at_site.1 he).1
  · intro he
    obtain ⟨g, hg, hsite⟩ := a.exists_group ((a.site_iff e.site).2 (List.mem_map_of_mem he))
    exact ⟨g, hg, Registry.mem_at_site.2 ⟨he, hsite.symm⟩⟩

theorem ahead (a : Refines t r) : t.registrations.Pairwise r.Ahead := by
  rw [a.registrations_eq, List.pairwise_flatMap]
  refine ⟨?_, ?_⟩
  · intro g _
    rw [List.pairwise_iff_forall_sublist]
    intro e e' hsub
    right
    have hmem := hsub.subset
    refine ⟨?_, hsub.trans List.filter_sublist⟩
    rw [(Registry.mem_at_site.1 (hmem List.mem_cons_self)).2,
      (Registry.mem_at_site.1 (hmem (List.mem_cons_of_mem _ List.mem_cons_self))).2]
  · refine (List.pairwise_map.1 a.sorted).imp ?_
    intro g k hbefore e he e' he'
    left
    rwa [(Registry.mem_at_site.1 he).2, (Registry.mem_at_site.1 he').2]

/-- Nothing is ahead of itself. -/
theorem not_ahead_self (a : Refines t r) (e : Registration τ) : ¬ r.Ahead e e := by
  rintro ((hlt | ⟨-, hsub⟩) | ⟨-, hsub⟩)
  · exact lt_irrefl _ hlt
  · simpa using a.sites.sublist hsub
  · simpa using a.distinct.sublist hsub

theorem perm_registrations (a : Refines t r) : t.registrations.Perm r.registrations := by
  have hnodup : t.registrations.Nodup := by
    refine a.ahead.imp ?_
    rintro e e' hahead rfl
    exact a.not_ahead_self e hahead
  exact (List.perm_ext_iff_of_nodup hnodup a.distinct).2 a.mem_registrations

/-- A target that is added is registered; what was there already stays. -/
theorem perm_registrations_insert [DecidableEq τ] (a : Refines t r) (pattern : Pattern) (mount : Mount) (target : τ) :
    (t.insert pattern mount target).registrations.Perm
      (if ⟨⟨pattern.segments, mount⟩, target⟩ ∈ t.registrations then t.registrations
        else ⟨⟨pattern.segments, mount⟩, target⟩ :: t.registrations) := by
  have hinserted := (a.insert pattern mount target).perm_registrations
  rw [Registry.add] at hinserted
  simp only [a.mem_registrations]
  split
  · rename_i hin
    rw [if_pos hin] at hinserted
    exact hinserted.trans a.perm_registrations.symm
  · rename_i hnot
    rw [if_neg hnot] at hinserted
    exact hinserted.trans ((List.perm_append_singleton _ _).trans (a.perm_registrations.symm.cons _))

end Refines

variable [DecidableEq τ]

/-- After any changes to an empty table: each site with registrations has one group, in the order in
which sites are tried, and in it its targets, oldest first. Registrations are counted, a target is
taken away just if it was registered at the pattern, and texts that are no patterns change nothing.
The candidates for a path are the registrations that match it, each once and in order. -/
theorem changeAll_refines (changes : List (Change τ)) :
    let t := ({} : Table τ).changeAll changes
    let r := ({} : Registry τ).changeAll changes
    ((t.groups.map Group.site).Nodup ∧ (t.groups.map Group.site).Pairwise r.Before ∧
        ∀ s, s ∈ t.groups.map Group.site ↔ s ∈ r.registrations.map (·.site)) ∧
      (∀ g ∈ t.groups, g.targets ≠ [] ∧ g.targets.Nodup ∧
        g.targets = (r.registrations.filter fun e => e.site = g.site).map (·.target)) ∧
      (r.registrations.Nodup ∧ t.count = r.registrations.length) ∧
      (∀ raw target, (t.unregister raw target).2 = true ↔
        ∃ p, Pattern.parse raw = .ok p ∧ ∃ e ∈ r.registrations, Registry.IsAt p.segments target e) ∧
      (∀ mount raw target f, readPattern mount raw = .error f → t.register mount raw target = .error f) ∧
      (∀ raw target f, Pattern.parse raw = .error f → t.unregister raw target = (t, false)) ∧
      ∃ ordered : List (Registration τ), ordered.Perm r.registrations ∧ ordered.Pairwise r.Ahead ∧
        ∀ path, t.resolve path = ordered.filterMap fun e => e.link? path := by
  intro t r
  have a : Refines t r := .changeAll .start changes
  refine ⟨⟨?_, a.sorted, ?_⟩, ?_, ⟨a.distinct, ?_⟩, ?_, ?_, ?_, ?_⟩
  · exact a.perm.nodup_iff.2 a.sites
  · intro s
    rw [a.perm.mem_iff, a.site_iff]
  · intro g hg
    refine ⟨?_, ?_, a.targets g hg⟩
    · obtain ⟨e, he, hsite⟩ := List.mem_map.1 ((a.site_iff g.site).1 (a.site_mem hg))
      have hmem : e.target ∈ g.targets := by
        rw [a.mem_targets hg, ← hsite]
        exact he
      exact List.ne_nil_of_mem hmem
    · rw [a.targets g hg]
      apply (a.distinct.filter _).map_on
      intro e he e' he' htarget
      have hsite := (Registry.mem_at_site.1 he).2
      have hsite' := (Registry.mem_at_site.1 he').2
      exact Registration.ext (hsite.trans hsite'.symm) htarget
  · rw [count_eq, a.perm_registrations.length_eq]
  · intro raw target
    unfold unregister
    cases Pattern.parse raw with
    | error f => simp
    | ok p =>
      have hsnd : (if t.holds p target then (t.erase p target, true) else (t, false)).2 = t.holds p target := by
        cases t.holds p target <;> rfl
      dsimp only
      rw [hsnd, a.holds_iff p target]
      simp
  · intro mount raw target f hf
    simp only [register, hf]
    rfl
  · intro raw target f hf
    simp only [unregister, hf]
  · exact ⟨t.registrations, a.perm_registrations, a.ahead, t.resolve_eq⟩

end Table

end Exchange
