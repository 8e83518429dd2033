-- SUMMARY: The plugins that are registered and the mounts on the root router stay in step, whatever is done to both.
import Exchange.Proofs.Data.Members
import Exchange.Proofs.Data.Store
import Exchange.Proofs.Route.Registry
import Exchange.Switch
import Mathlib.Data.List.Induction

/-!
# The roster of plugins

Registered plugins are kept by name, their mounts by pattern, and names that
differ can spell the same pattern. `Switch.InStep` relates the two, next to
routes that the root has of its own. Each deed keeps it, and from it follows
what inserting and removing do in any state that deeds can reach.
-/

namespace Exchange

/-! ## Mounts -/

def Target.isPlugin : Target → Bool
  | .plugin _ => true
  | _ => false

/-- Where a plugin with this name is mounted, if the name can be mounted. -/
def PluginName.site? (name : PluginName) : Option Site :=
  match Pattern.parsePrefix name.mountPrefix with
  | .ok p => some ⟨p.segments, .below⟩
  | .error _ => none

/-- What a plugin that is registered under a name is to the root router. -/
def Plugin.mount? (m : String × Ref .plugin) : Option (Registration Target) :=
  (PluginName.site? ⟨m.1⟩).map fun site => ⟨site, .plugin m.2⟩

namespace Switch

/-- What is registered on the root router, in the order in which it is tried. -/
def rootRoutes (s : Switch) : List (Registration Target) :=
  (s.table s.root).registrations

/-- The mounts of plugins on the root router. -/
def mounts (s : Switch) : List (Registration Target) :=
  s.rootRoutes.filter fun e => e.target.isPlugin

end Switch

/-! ## Deeds -/

/-- What is done to the plugins and to the routes of the root router. -/
inductive Deed where
  | insert (p : Ref .plugin) (name : PluginName)
  | remove (name : PluginName)
  /-- The root router has routes of its own, which lead to no plugin. -/
  | register (mount : Mount) (pattern : String) (target : {t : Target // t.isPlugin = false})
  | unregister (pattern : String) (target : {t : Target // t.isPlugin = false})

namespace Deed

/-- The plugin that is handed over, be it accepted or not. -/
def handed? : Deed → Option (Ref .plugin)
  | insert p _ => some p
  | _ => none

/-- The names in use after a deed, given those before it. -/
def namesAfter (names : List String) : Deed → List String
  | insert _ name => if name.text ∈ names ∨ name.site? = none then names else name.text :: names
  | remove name => names.filter (· ≠ name.text)
  | _ => names

/-- The names in use after deeds, as these tell. -/
def names (deeds : List Deed) : List String :=
  deeds.foldl namesAfter []

end Deed

theorem Pattern.parse_of_parsePrefix {raw : String} {p : Pattern} (h : parsePrefix raw = .ok p) : parse raw = .ok p := by
  unfold parsePrefix at h
  cases hparse : parse raw with
  | error e => simp [hparse, bind, Except.bind] at h
  | ok q =>
    simp only [hparse, bind, Except.bind] at h
    split at h
    · cases h
    · exact h

namespace PluginName

variable {name : PluginName}

theorem site?_of_error {e : Pattern.Error} (h : Pattern.parsePrefix name.mountPrefix = .error e) : name.site? = none := by
  simp only [site?, h]

theorem site?_of_ok {pattern : Pattern} (h : Pattern.parsePrefix name.mountPrefix = .ok pattern) :
    name.site? = some ⟨pattern.segments, .below⟩ := by
  simp only [site?, h]

theorem isSome_site?_iff : name.site?.isSome ↔ ∃ pattern, Pattern.parsePrefix name.mountPrefix = .ok pattern := by
  cases h : Pattern.parsePrefix name.mountPrefix with
  | ok pattern => simp [site?_of_ok h]
  | error e => simp [site?_of_error h]

end PluginName

theorem Plugin.mount?_of_ok (m : String × Ref .plugin) {pattern : Pattern}
    (h : Pattern.parsePrefix (PluginName.mountPrefix ⟨m.1⟩) = .ok pattern) :
    mount? m = some ⟨⟨pattern.segments, .below⟩, .plugin m.2⟩ := by
  rw [mount?, PluginName.site?_of_ok h, Option.map_some]

theorem Plugin.mount_of_mount? {m : String × Ref .plugin} {e : Registration Target} (h : mount? m = some e) :
    e.site.mount = .below ∧ e.target = .plugin m.2 := by
  obtain ⟨site, hsite, rfl⟩ := Option.map_eq_some_iff.1 h
  unfold PluginName.site? at hsite
  split at hsite
  · cases hsite
    exact ⟨rfl, rfl⟩
  · cases hsite

namespace Switch

def manage (s : Switch) : Deed → Switch
  | .insert p name => (s.insertPlugin p name).1
  | .remove name => (s.removePlugin name).1
  | .register mount pattern target => (s.register s.root mount pattern target.1).1
  | .unregister pattern target => (s.unregister s.root pattern target.1).1

def manageAll (s : Switch) (deeds : List Deed) : Switch :=
  deeds.foldl manage s

variable {s : Switch} {p : Ref .plugin} {name : PluginName}

/-! ## What inserting and removing do -/

/-- The plugin is mounted, started and registered. -/
def inserted (s : Switch) (p : Ref .plugin) (name : PluginName) (pattern : Pattern) : Switch :=
  { s.revisePlugin p Plugin.start with
    routers := s.routers.set s.root ((s.table s.root).insert pattern .below (.plugin p)),
    registered := Members.insert name.text p s.registered }

/-- The plugin is no longer mounted and registered, and nobody owns it. -/
def removed (s : Switch) (p : Ref .plugin) (name : PluginName) (pattern : Pattern) : Switch :=
  { (s.stopPlugin p).dropPlugin p with
    routers := s.routers.set s.root ((s.table s.root).erase pattern (.plugin p)),
    registered := Members.erase name.text s.registered }

theorem insertPlugin_taken {q : Ref .plugin} (htaken : Members.get? name.text s.registered = some q) (hne : q ≠ p) :
    s.insertPlugin p name = (s.dropPlugin p, .error (.alreadyPresent name)) := by
  simp only [insertPlugin, htaken, if_neg hne]

theorem insertPlugin_invalid (hfree : Members.get? name.text s.registered = none) {e : Pattern.Error}
    (hpattern : Pattern.parsePrefix name.mountPrefix = .error e) :
    s.insertPlugin p name = (s.dropPlugin p, .error (.invalidName e)) := by
  have hmount : s.mountPlugin s.root p name = (s, .error e) := by
    simp [mountPlugin, register, Table.register, Table.readPattern, hpattern, Except.map]
  simp only [insertPlugin, hfree, hmount]

theorem insertPlugin_valid (hfree : Members.get? name.text s.registered = none) {pattern : Pattern}
    (hpattern : Pattern.parsePrefix name.mountPrefix = .ok pattern) :
    s.insertPlugin p name = (s.inserted p name pattern, .ok ()) := by
  have hmount : s.mountPlugin s.root p name =
      ({ s.revisePlugin p Plugin.start with
          routers := s.routers.set s.root ((s.table s.root).insert pattern .below (.plugin p)) }, .ok ()) := by
    simp [mountPlugin, register, Table.register, Table.readPattern, hpattern, Except.map, revisePlugin]
  simp only [insertPlugin, hfree, hmount]
  rfl

theorem removePlugin_unknown (hfree : Members.get? name.text s.registered = none) :
    s.removePlugin name = (s, false) := by
  simp only [removePlugin, hfree]

/-- Stopping and dropping a plugin has to do with the hub alone. -/
theorem dropPlugin_stopPlugin_with (s : Switch) (p : Ref .plugin) (routers : Store .router (Table Target))
    (registered : List (String × Ref .plugin)) :
    (({ s with routers, registered }).stopPlugin p).dropPlugin p =
      { (s.stopPlugin p).dropPlugin p with routers, registered } := by
  unfold stopPlugin plugin?
  cases s.hub.plugins.get? p <;> rfl

theorem removePlugin_known (hknown : Members.get? name.text s.registered = some p) {pattern : Pattern}
    (hpattern : Pattern.parsePrefix name.mountPrefix = .ok pattern)
    (hholds : (s.table s.root).holds pattern (.plugin p) = true) :
    s.removePlugin name = (s.removed p name pattern, true) := by
  have htable : (({ s with registered := Members.erase name.text s.registered }).unregister s.root name.mountPrefix
      (.plugin p)).1 =
      { s with
          routers := s.routers.set s.root ((s.table s.root).erase pattern (.plugin p)),
          registered := Members.erase name.text s.registered } := by
    have hsame : ({ s with registered := Members.erase name.text s.registered }).table s.root = s.table s.root := rfl
    simp only [unregister, hsame, Table.unregister, Pattern.parse_of_parsePrefix hpattern, hholds, if_true]
  simp only [removePlugin, hknown, htable]
  rw [dropPlugin_stopPlugin_with]
  rfl

@[simp] theorem root_removed (s : Switch) (p : Ref .plugin) (name : PluginName) (pattern : Pattern) :
    (s.removed p name pattern).root = s.root := by
  unfold removed stopPlugin
  cases s.plugin? p <;> rfl

/-! ## What stays in step -/

/-- The registered plugins and the mounts of the root router are in step; `handed` are the plugins
that were ever handed over, `names` the names in use. -/
structure InStep (s : Switch) (handed : List (Ref .plugin)) (names : List String) : Prop where
  rooted : ∃ t, s.routers.get? s.root = some t
  refines : ∃ r, (s.table s.root).Refines r
  sorted : Members.Sorted s.registered
  names : (Members.keys s.registered).Perm names
  handed : ∀ m ∈ s.registered, m.2 ∈ handed
  mountable : ∀ m ∈ s.registered, (Plugin.mount? m).isSome
  mounts : s.mounts.Perm (s.registered.filterMap Plugin.mount?)

theorem table_of_routers {s' : Switch} {t : Table Target} (hrooted : ∃ t, s.routers.get? s.root = some t)
    (hroot : s'.root = s.root) (hrouters : s'.routers = s.routers.set s.root t) : s'.table s'.root = t := by
  obtain ⟨t₀, ht₀⟩ := hrooted
  rw [hroot, table, hrouters, Store.get?_set_self ht₀]
  rfl

theorem table_of_ne {s' : Switch} {t : Table Target} (hrouters : s'.routers = s.routers.set s.root t) {r : Ref .router}
    (hr : r ≠ s.root) : s'.table r = s.table r := by
  rw [table, table, hrouters, Store.set, Store.get?_modify_of_ne _ hr]

theorem mem_mounts {e : Registration Target} : e ∈ s.mounts ↔ e ∈ s.rootRoutes ∧ e.target.isPlugin = true := by
  rw [mounts, List.mem_filter]

namespace InStep

variable {handed : List (Ref .plugin)} {names : List String} (a : InStep s handed names)

include a

theorem nodup_rootRoutes : s.rootRoutes.Nodup := by
  obtain ⟨r, hr⟩ := a.refines
  exact hr.perm_registrations.nodup_iff.2 hr.distinct

theorem nodup_mounts : s.mounts.Nodup :=
  a.nodup_rootRoutes.filter _

theorem registered_iff : Members.get? name.text s.registered = none ↔ name.text ∉ names := by
  rw [Members.get?_eq_none_iff, a.names.mem_iff]

/-- Each plugin mount is that of a registered plugin. -/
theorem exists_of_mem {e : Registration Target} (he : e ∈ s.rootRoutes) (hplugin : e.target.isPlugin = true) :
    ∃ m ∈ s.registered, Plugin.mount? m = some e :=
  List.mem_filterMap.1 (a.mounts.subset (mem_mounts.2 ⟨he, hplugin⟩))

/-- A registered plugin has its mount. -/
theorem exists_mount {m : String × Ref .plugin} (hm : m ∈ s.registered) :
    ∃ pattern, Pattern.parsePrefix (PluginName.mountPrefix ⟨m.1⟩) = .ok pattern ∧
      ⟨⟨pattern.segments, .below⟩, .plugin m.2⟩ ∈ s.rootRoutes := by
  have hmountable := a.mountable m hm
  rw [Plugin.mount?, Option.isSome_map, PluginName.isSome_site?_iff] at hmountable
  obtain ⟨pattern, hpattern⟩ := hmountable
  refine ⟨pattern, hpattern, ?_⟩
  have hmount : Plugin.mount? m = some ⟨⟨pattern.segments, .below⟩, .plugin m.2⟩ := Plugin.mount?_of_ok m hpattern
  exact (mem_mounts.1 (a.mounts.symm.subset (List.mem_filterMap.2 ⟨m, hm, hmount⟩))).1

/-! ### Changes that leave the plugins alone -/

theorem of_mounts {s' : Switch} (hregistered : s'.registered = s.registered)
    (hrooted : ∃ t, s'.routers.get? s'.root = some t) (hrefines : ∃ r, (s'.table s'.root).Refines r)
    (hmounts : s'.mounts.Perm s.mounts) : InStep s' handed names where
  rooted := hrooted
  refines := hrefines
  sorted := hregistered ▸ a.sorted
  names := hregistered ▸ a.names
  handed := hregistered ▸ a.handed
  mountable := hregistered ▸ a.mountable
  mounts := hregistered ▸ hmounts.trans a.mounts

theorem drop (p : Ref .plugin) : InStep (s.dropPlugin p) handed names :=
  a.of_mounts rfl a.rooted a.refines (.refl _)

theorem mono {handed' : List (Ref .plugin)} (h : handed ⊆ handed') : InStep s handed' names :=
  { a with handed := fun m hm => h (a.handed m hm) }

/-- The root router has another table in which the mounts are the same. -/
theorem setTable {t : Table Target} {r : Registry Target} (ht : t.Refines r)
    (hmounts : (t.registrations.filter fun e => e.target.isPlugin).Perm s.mounts) :
    InStep { s with routers := s.routers.set s.root t } handed names := by
  have htable : Switch.table { s with routers := s.routers.set s.root t } s.root = t := table_of_routers a.rooted rfl rfl
  obtain ⟨t₀, ht₀⟩ := a.rooted
  refine a.of_mounts rfl ⟨t, Store.get?_set_self ht₀ t⟩ ⟨r, ?_⟩ ?_
  · rw [htable]
    exact ht
  · rw [Switch.mounts, rootRoutes, htable]
    exact hmounts

theorem register (mount : Mount) (pattern : String) {target : Target} (hown : target.isPlugin = false) :
    InStep (s.register s.root mount pattern target).1 handed names := by
  obtain ⟨r, hr⟩ := a.refines
  unfold Switch.register Table.register
  cases Table.readPattern mount pattern with
  | error e => exact a
  | ok q =>
    refine a.setTable (hr.insert q mount target) ?_
    refine ((hr.perm_registrations_insert q mount target).filter _).trans ?_
    split
    · exact .refl _
    · rw [List.filter_cons_of_neg (by simp [hown])]
      exact .refl _

theorem unregister (pattern : String) {target : Target} (hown : target.isPlugin = false) :
    InStep (s.unregister s.root pattern target).1 handed names := by
  obtain ⟨r, hr⟩ := a.refines
  have hsame : InStep { s with routers := s.routers.set s.root (s.table s.root) } handed names :=
    a.setTable hr (.refl _)
  unfold Switch.unregister Table.unregister
  cases Pattern.parse pattern with
  | error e => exact hsame
  | ok q =>
    dsimp only
    split
    · refine a.setTable (hr.erase q target) (.of_eq ?_)
      rw [Table.registrations_erase, List.filter_filter]
      apply List.filter_congr
      intro e _
      by_cases hplugin : e.target.isPlugin = true
      · have hother : e.target ≠ target := fun heq => by simp [← heq, hplugin] at hown
        simp [Registry.IsAt, hother]
      · simp [hplugin]
    · exact hsame

/-! ### Inserting -/

/-- A plugin that is new to the root router has no mount there. -/
theorem not_mem_of_new (hnew : p ∉ handed) (site : Site) : ⟨site, .plugin p⟩ ∉ (s.table s.root).registrations := by
  intro hin
  obtain ⟨m, hm, hmount⟩ := a.exists_of_mem hin rfl
  have hp : p = m.2 := Target.plugin.inj (Plugin.mount_of_mount? hmount).2
  exact hnew (hp ▸ a.handed m hm)

theorem table_inserted (p : Ref .plugin) (name : PluginName) (pattern : Pattern) :
    (s.inserted p name pattern).table (s.inserted p name pattern).root =
      (s.table s.root).insert pattern .below (.plugin p) :=
  table_of_routers a.rooted rfl rfl

theorem inserted (hfree : name.text ∉ names) {pattern : Pattern}
    (hpattern : Pattern.parsePrefix name.mountPrefix = .ok pattern) (hnew : p ∉ handed) :
    InStep (s.inserted p name pattern) (p :: handed) (name.text :: names) := by
  obtain ⟨r, hr⟩ := a.refines
  obtain ⟨t₀, ht₀⟩ := a.rooted
  have hperm : (s.inserted p name pattern).registered.Perm ((name.text, p) :: s.registered) :=
    Members.perm_insert (Members.get?_eq_none_iff.1 (a.registered_iff.2 hfree)) p
  have hmount := Plugin.mount?_of_ok (name.text, p) hpattern
  have hmem {m : String × Ref .plugin} (hm : m ∈ (s.inserted p name pattern).registered) :
      m = (name.text, p) ∨ m ∈ s.registered :=
    List.mem_cons.1 (hperm.subset hm)
  have htable := a.table_inserted p name pattern
  refine ⟨⟨_, Store.get?_set_self ht₀ _⟩, ⟨_, htable ▸ hr.insert pattern .below (.plugin p)⟩,
    Members.sorted_insert a.sorted, ?_, ?_, ?_, ?_⟩
  · exact (hperm.map Prod.fst).trans (a.names.cons _)
  · intro m hm
    rcases hmem hm with rfl | hm
    · exact List.mem_cons_self
    · exact List.mem_cons_of_mem _ (a.handed m hm)
  · intro m hm
    rcases hmem hm with rfl | hm
    · rw [hmount]
      rfl
    · exact a.mountable m hm
  · have hroutes := hr.perm_registrations_insert pattern .below (.plugin p)
    rw [if_neg (a.not_mem_of_new hnew _)] at hroutes
    rw [Switch.mounts, rootRoutes, htable]
    refine (hroutes.filter _).trans ?_
    rw [List.filter_cons_of_pos (by rfl)]
    refine (a.mounts.cons _).trans ?_
    refine .trans (.of_eq ?_) (hperm.filterMap _).symm
    rw [List.filterMap_cons, hmount]

/-! ### Removing -/

theorem table_removed (p : Ref .plugin) (name : PluginName) (pattern : Pattern) :
    (s.removed p name pattern).table (s.removed p name pattern).root =
      (s.table s.root).erase pattern (.plugin p) :=
  table_of_routers a.rooted (root_removed s p name pattern) rfl

/-- Only the mount of the plugin is taken away. -/
theorem rootRoutes_removed (p : Ref .plugin) (name : PluginName) (pattern : Pattern) :
    (s.removed p name pattern).rootRoutes =
      s.rootRoutes.filter fun e => e ≠ ⟨⟨pattern.segments, .below⟩, .plugin p⟩ := by
  rw [rootRoutes, a.table_removed, Table.registrations_erase]
  apply List.filter_congr
  intro e he
  rw [decide_eq_decide, not_iff_not]
  constructor
  · rintro ⟨hsegments, htarget⟩
    obtain ⟨m, -, hmount⟩ := a.exists_of_mem he (by rw [htarget]; rfl)
    have hbelow : e.site.mount = .below := (Plugin.mount_of_mount? hmount).1
    obtain ⟨⟨segments, mount⟩, target⟩ := e
    simp_all
  · rintro rfl
    exact ⟨rfl, rfl⟩

theorem removed (hp : (name.text, p) ∈ s.registered) {pattern : Pattern}
    (hpattern : Pattern.parsePrefix name.mountPrefix = .ok pattern) :
    InStep (s.removed p name pattern) handed (names.filter (· ≠ name.text)) := by
  obtain ⟨r, hr⟩ := a.refines
  have hrooted : ∃ t, (s.removed p name pattern).routers.get? (s.removed p name pattern).root = some t := by
    obtain ⟨t₀, ht₀⟩ := a.rooted
    rw [root_removed]
    exact ⟨_, Store.get?_set_self ht₀ _⟩
  have hperm : s.registered.Perm ((name.text, p) :: (s.removed p name pattern).registered) :=
    Members.perm_erase a.sorted.nodup hp
  have htable := a.table_removed p name pattern
  have hmem {m : String × Ref .plugin} (hm : m ∈ (s.removed p name pattern).registered) : m ∈ s.registered :=
    List.mem_of_mem_filter hm
  refine ⟨hrooted, ⟨_, htable ▸ hr.erase pattern (.plugin p)⟩,
    a.sorted.filter _, ?_, fun m hm => a.handed m (hmem hm), fun m hm => a.mountable m (hmem hm), ?_⟩
  · refine .trans (.of_eq ?_) (a.names.filter _)
    simp [Switch.removed, Members.keys, Members.erase, List.filter_map, Function.comp_def]
  · -- The mount comes but once among those of registered plugins, so it is gone from these too.
    have hmounts := a.mounts.trans (hperm.filterMap Plugin.mount?)
    rw [List.filterMap_cons, Plugin.mount?_of_ok (name.text, p) hpattern] at hmounts
    have hnot := (List.nodup_cons.1 (hmounts.nodup_iff.1 a.nodup_mounts)).1
    rw [Switch.mounts, a.rootRoutes_removed, List.filter_comm]
    refine (hmounts.filter _).trans (.of_eq ?_)
    rw [List.filter_cons_of_neg (by simp), List.filter_eq_self]
    intro e he
    rw [decide_eq_true_eq]
    rintro rfl
    exact hnot he

/-- A plugin that is registered can be removed. -/
theorem removePlugin_eq (hp : (name.text, p) ∈ s.registered) :
    ∃ pattern, Pattern.parsePrefix name.mountPrefix = .ok pattern ∧
      ⟨⟨pattern.segments, .below⟩, .plugin p⟩ ∈ s.rootRoutes ∧
      s.removePlugin name = (s.removed p name pattern, true) := by
  obtain ⟨pattern, hpattern, hmount⟩ := a.exists_mount hp
  obtain ⟨r, hr⟩ := a.refines
  have hholds : (s.table s.root).holds pattern (.plugin p) = true :=
    (hr.holds_iff pattern _).2 ⟨_, (hr.mem_registrations _).1 hmount, rfl, rfl⟩
  exact ⟨pattern, hpattern, hmount, removePlugin_known (Members.get?_of_mem a.sorted.nodup hp) hpattern hholds⟩

/-! ### Runs -/

theorem manage (d : Deed) (hfresh : ∀ p ∈ d.handed?, p ∉ handed) :
    InStep (s.manage d) (d.handed?.toList ++ handed) (d.namesAfter names) := by
  cases d with
  | insert p name =>
    have hnew : p ∉ handed := hfresh p rfl
    have hkept : InStep (s.dropPlugin p) (p :: handed) names := (a.drop p).mono (List.subset_cons_self _ _)
    simp only [Switch.manage, Deed.namesAfter]
    cases hget : Members.get? name.text s.registered with
    | some q =>
      have hq := Members.mem_of_get? hget
      have hne : q ≠ p := fun heq => hnew (heq ▸ a.handed _ hq)
      have hin : name.text ∈ names := a.names.subset (List.mem_map_of_mem hq)
      rw [insertPlugin_taken hget hne, if_pos (.inl hin)]
      exact hkept
    | none =>
      have hfree := a.registered_iff.1 hget
      cases hpattern : Pattern.parsePrefix name.mountPrefix with
      | error e =>
        rw [insertPlugin_invalid hget hpattern, if_pos (.inr (PluginName.site?_of_error hpattern))]
        exact hkept
      | ok pattern =>
        rw [insertPlugin_valid hget hpattern, if_neg (by simp [hfree, PluginName.site?_of_ok hpattern])]
        exact a.inserted hfree hpattern hnew
  | remove name =>
    simp only [Switch.manage, Deed.namesAfter]
    cases hget : Members.get? name.text s.registered with
    | some p =>
      have hp := Members.mem_of_get? hget
      obtain ⟨pattern, hpattern, -, hremove⟩ := a.removePlugin_eq hp
      rw [hremove]
      exact a.removed hp hpattern
    | none =>
      have hfree := a.registered_iff.1 hget
      have hsame : names.filter (· ≠ name.text) = names := by
        rw [List.filter_eq_self]
        intro n hn
        simpa using fun heq : n = name.text => hfree (heq ▸ hn)
      rw [removePlugin_unknown hget, hsame]
      exact a
  | register mount pattern target => exact a.register mount pattern target.2
  | unregister pattern target => exact a.unregister pattern target.2

end InStep

theorem inStep_start (hroot : s.routers.get? s.root = some {}) (hnone : s.registered = []) : InStep s [] [] := by
  have htable : s.table s.root = {} := by rw [table, hroot, Option.getD_some]
  have hmounts : s.mounts = [] := by
    rw [mounts, rootRoutes, htable]
    rfl
  refine ⟨⟨_, hroot⟩, ⟨{}, htable ▸ .start⟩, ?_, ?_, ?_, ?_, ?_⟩
  · exact hnone ▸ Members.sorted_nil
  · exact hnone ▸ .refl _
  · simp [hnone]
  · simp [hnone]
  · rw [hnone, hmounts]
    exact .refl _

theorem inStep_manageAll (hroot : s.routers.get? s.root = some {}) (hnone : s.registered = []) {deeds : List Deed}
    (hfresh : (deeds.filterMap Deed.handed?).Nodup) :
    InStep (s.manageAll deeds) (deeds.filterMap Deed.handed?) (Deed.names deeds) := by
  induction deeds using List.reverseRecOn with
  | nil => exact inStep_start hroot hnone
  | append_singleton deeds d ih =>
    have hlast : [d].filterMap Deed.handed? = d.handed?.toList := by
      cases h : d.handed? <;> simp [h]
    rw [List.filterMap_append, hlast] at hfresh ⊢
    obtain ⟨hbefore, -, happart⟩ := List.nodup_append.1 hfresh
    have hnew : ∀ p ∈ d.handed?, p ∉ deeds.filterMap Deed.handed? :=
      fun p hp hin => happart p hin p (Option.mem_toList.2 hp) rfl
    rw [manageAll, Deed.names, List.foldl_concat, List.foldl_concat]
    exact ((ih hbefore).manage d hnew).mono (List.perm_append_comm.subset)

/-! ## The roster -/

/-- How it ends when a plugin is handed over under a name. -/
structure Inserts (s : Switch) (p : Ref .plugin) (name : PluginName) (s' : Switch)
    (result : Except Plugin.InsertError Unit) : Prop where
  ok_iff : result = .ok () ↔
    name.text ∉ Members.keys s.registered ∧ ∃ pattern, Pattern.parsePrefix name.mountPrefix = .ok pattern
  /-- Nothing changes, but that nobody owns the plugin that was refused. -/
  refused : ∀ e, result = .error e → s' = s.dropPlugin p ∧
    if name.text ∈ Members.keys s.registered then e = .alreadyPresent name
    else ∃ cause, Pattern.parsePrefix name.mountPrefix = .error cause ∧ e = .invalidName cause
  /-- The plugin is started, and its mount comes among the routes that were there. -/
  accepted : result = .ok () → ∃ mount, Plugin.mount? (name.text, p) = some mount ∧
    s'.registered = Members.insert name.text p s.registered ∧
    mount ∈ s'.rootRoutes ∧ (s'.rootRoutes.filter fun e => e ≠ mount) = s.rootRoutes ∧
    (∀ r ≠ s.root, s'.table r = s.table r) ∧ s'.hub = s.hub.revisePlugin p Plugin.start

/-- How it ends when the plugin with a name is removed. -/
structure Removes (s : Switch) (name : PluginName) (s' : Switch) (removed : Bool) : Prop where
  removed_iff : removed = true ↔ name.text ∈ Members.keys s.registered
  unknown : removed = false → s' = s
  /-- The plugin is stopped, and its mount alone is gone. -/
  known : removed = true → ∃ p mount, (name.text, p) ∈ s.registered ∧ Plugin.mount? (name.text, p) = some mount ∧
    s'.registered = Members.erase name.text s.registered ∧
    mount ∈ s.rootRoutes ∧ s'.rootRoutes = s.rootRoutes.filter (fun e => e ≠ mount) ∧
    (∀ r ≠ s.root, s'.table r = s.table r) ∧ s'.hub = ((s.stopPlugin p).dropPlugin p).hub

namespace InStep

variable {handed : List (Ref .plugin)} {names : List String}

theorem inserts (a : InStep s handed names) (hnew : p ∉ handed) (name : PluginName) :
    s.Inserts p name (s.insertPlugin p name).1 (s.insertPlugin p name).2 := by
  cases hget : Members.get? name.text s.registered with
  | some q =>
    have hq := Members.mem_of_get? hget
    have hin : name.text ∈ Members.keys s.registered := List.mem_map_of_mem hq
    have hne : q ≠ p := fun heq => hnew (heq ▸ a.handed _ hq)
    rw [insertPlugin_taken hget hne]
    refine ⟨by simp [hin], ?_, by simp⟩
    rintro e ⟨⟩
    rw [if_pos hin]
    exact ⟨rfl, rfl⟩
  | none =>
    have hfree := Members.get?_eq_none_iff.1 hget
    cases hpattern : Pattern.parsePrefix name.mountPrefix with
    | error cause =>
      rw [insertPlugin_invalid hget hpattern]
      refine ⟨by simp [hpattern], ?_, by simp⟩
      rintro e ⟨⟩
      rw [if_neg hfree]
      exact ⟨rfl, cause, hpattern, rfl⟩
    | ok pattern =>
      rw [insertPlugin_valid hget hpattern]
      refine ⟨by simp [hfree, hpattern], by simp, fun _ => ?_⟩
      obtain ⟨r, hr⟩ := a.refines
      have habsent := a.not_mem_of_new hnew ⟨pattern.segments, .below⟩
      have hroutes := hr.perm_registrations_insert pattern .below (.plugin p)
      rw [if_neg habsent] at hroutes
      refine ⟨_, Plugin.mount?_of_ok (name.text, p) hpattern, rfl, ?_, ?_, ?_, rfl⟩
      · rw [rootRoutes, a.table_inserted]
        exact hroutes.symm.subset List.mem_cons_self
      · rw [rootRoutes, a.table_inserted]
        exact Table.registrations_insert habsent
      · exact fun r hr => table_of_ne rfl hr

theorem removes (a : InStep s handed names) (name : PluginName) :
    s.Removes name (s.removePlugin name).1 (s.removePlugin name).2 := by
  cases hget : Members.get? name.text s.registered with
  | none =>
    have hfree := Members.get?_eq_none_iff.1 hget
    rw [removePlugin_unknown hget]
    exact ⟨by simp [hfree], fun _ => rfl, by simp⟩
  | some p =>
    have hp := Members.mem_of_get? hget
    have hin : name.text ∈ Members.keys s.registered := List.mem_map_of_mem hp
    obtain ⟨pattern, hpattern, hmount, hremove⟩ := a.removePlugin_eq hp
    rw [hremove]
    refine ⟨by simp [hin], by simp, fun _ => ?_⟩
    refine ⟨p, _, hp, Plugin.mount?_of_ok (name.text, p) hpattern, rfl, hmount, a.rootRoutes_removed p name pattern,
      fun r hr => table_of_ne rfl hr, rfl⟩

end InStep

/-- Whatever plugins are handed over, each once, and removed again, and whatever routes of its own the
root router gets and loses: its plugin mounts are those of the registered plugins, one for each, at
the place that its name spells. The names are those that the deeds leave in use, in order. From any
such state, what inserting and removing do is as `Inserts` and `Removes` say. -/
theorem roster_in_step {s₀ : Switch} (hroot : s₀.routers.get? s₀.root = some {}) (hnone : s₀.registered = [])
    {deeds : List Deed} (hfresh : (deeds.filterMap Deed.handed?).Nodup) :
    let s := s₀.manageAll deeds
    ((∀ m ∈ s.registered, (Plugin.mount? m).isSome) ∧ s.mounts.Perm (s.registered.filterMap Plugin.mount?)) ∧
      ((Members.keys s.registered).Pairwise (· < ·) ∧ (Members.keys s.registered).Perm (Deed.names deeds)) ∧
      (∀ p ∉ deeds.filterMap Deed.handed?, ∀ name,
        s.Inserts p name (s.insertPlugin p name).1 (s.insertPlugin p name).2) ∧
      ∀ name, s.Removes name (s.removePlugin name).1 (s.removePlugin name).2 := by
  have a := inStep_manageAll hroot hnone hfresh
  refine ⟨⟨a.mountable, a.mounts⟩, ⟨List.Pairwise.map _ (fun _ _ h => h) a.sorted, a.names⟩, ?_, a.removes⟩
  intro p hp name
  exact a.inserts hp name

/-- A root router without routes, and nothing else. -/
def bare : Switch where
  routers := .push {} {}

/-- Two plugins whose names spell one prefix, and a route of the root router that comes between them. -/
def crowded : List Deed :=
  [.insert ⟨0⟩ ⟨"a"⟩, .register .below "/a" ⟨.handler ⟨0⟩, rfl⟩, .insert ⟨1⟩ ⟨"a/"⟩]

theorem crowded_in_step :
    let s := bare.manageAll crowded
    (Members.keys s.registered).Perm ["a/", "a"] ∧ s.mounts.Perm (s.registered.filterMap Plugin.mount?) ∧
      s.rootRoutes.map (·.target) = [.plugin ⟨0⟩, .handler ⟨0⟩, .plugin ⟨1⟩] ∧
      (s.removePlugin ⟨"a"⟩).2 = true ∧
      (s.removePlugin ⟨"a"⟩).1.rootRoutes.map (·.target) = [.handler ⟨0⟩, .plugin ⟨1⟩] := by
  have hfresh : (crowded.filterMap Deed.handed?).Nodup := by decide
  have hnames : Deed.names crowded = ["a/", "a"] := by decide +kernel
  obtain ⟨⟨-, hmounts⟩, ⟨-, hkeys⟩, -, hremoves⟩ := @roster_in_step bare rfl rfl _ hfresh
  rw [hnames] at hkeys
  have hin : "a" ∈ Members.keys (bare.manageAll crowded).registered := hkeys.symm.subset (by simp)
  exact ⟨hkeys, hmounts, by decide +kernel, (hremoves ⟨"a"⟩).removed_iff.2 hin, by decide +kernel⟩

end Switch

end Exchange
