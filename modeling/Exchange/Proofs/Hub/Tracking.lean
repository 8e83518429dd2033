-- SUMMARY: Every open subscription is tracked by the scope that owns it, and a closed scope stays closed.
import Exchange.Connections
import Exchange.Proofs.Hub.Tables
import Exchange.Proofs.Ident

/-!
# Subscriptions and their owners

In a hub whose records are tracked (`Hub.Tracked`), each record of each manager
has its release in the scope that owns it, and that scope is open. While an
operation is half done this may fail for some records; `Hub.Owes` names the
releases that will take them away. Every operation of the hub keeps records
tracked and closed scopes closed (`Hub.KeepsTrack`), also where several managers
share scopes: their sids are apart as long as there are not too many of them.
-/

namespace Exchange.Hub

/-! ## Hubs that grow older -/

/-- Managers and scopes stay, and scopes that are closed stay closed. -/
structure Ages (h h' : Hub) : Prop where
  hosts : ∀ manager, h.hosts manager = true → h'.hosts manager = true
  scopes : ∀ scope s, h.scopes.get? scope = some s →
    ∃ s', h'.scopes.get? scope = some s' ∧ (s.isClosed = true → s'.isClosed = true)

namespace Ages

variable {h h' h'' : Hub}

theorem of_scopes (hhosts : ∀ manager, h'.hosts manager = h.hosts manager) (hscopes : h'.scopes = h.scopes) : Ages h h' where
  hosts manager hm := (hhosts manager).trans hm
  scopes _ s hs := ⟨s, hscopes ▸ hs, id⟩

theorem refl (h : Hub) : Ages h h :=
  .of_scopes (fun _ => rfl) rfl

theorem trans (a : Ages h h') (b : Ages h' h'') : Ages h h'' where
  hosts manager hm := b.hosts manager (a.hosts manager hm)
  scopes scope s hs := by
    obtain ⟨s', hs', hclosed⟩ := a.scopes scope s hs
    obtain ⟨s'', hs'', hclosed'⟩ := b.scopes scope s' hs'
    exact ⟨s'', hs'', fun hc => hclosed' (hclosed hc)⟩

theorem rescoped (h : Hub) (scope : Ref .scope) {f : Scope → Scope}
    (hf : ∀ s, h.scopes.get? scope = some s → s.isClosed = true → (f s).isClosed = true) :
    Ages h (h.rescoped scope f) where
  hosts _ hm := hm
  scopes q s hs := by
    by_cases hq : q = scope
    · subst hq
      exact ⟨f s, by rw [Hub.rescoped, Store.get?_modify_self, hs, Option.map_some], hf s hs⟩
    · exact ⟨s, by rwa [Hub.rescoped, Store.get?_modify_of_ne f hq], id⟩

theorem erased (h : Hub) (manager : Ref .manager) (sid : Sid) : Ages h (h.erased manager sid) :=
  .of_scopes (hosts_erased h manager sid) rfl

theorem takeRecord (h : Hub) (manager : Ref .manager) (sid : Sid) : Ages h (h.takeRecord manager sid none).1 :=
  .of_scopes hosts_takeRecord (sameButManagers_takeRecord h manager sid none).scopes

theorem retire (h : Hub) (r : Record) : Ages h (h.retire r) :=
  .of_scopes (hosts_retire h r) (sameTables_runCleanup h r.cleanup).scopes

theorem untrack (h : Hub) (scope : Ref .scope) (sid : Sid) : Ages h (h.untrack scope sid).1 := by
  rw [untrack_eq]
  refine .rescoped h scope fun s _ hs => ?_
  rw [Scope.isClosed, Option.isNone_iff_eq_none] at hs
  simp [Scope.untrack, Scope.isClosed, hs]

theorem takeScope (h : Hub) (scope : Ref .scope) : Ages h (h.takeScope scope).1 := by
  rw [takeScope_eq]
  exact .rescoped h scope fun _ _ _ => rfl

theorem runRelease (h : Hub) (sid : Sid) (release : Release) : Ages h (h.runRelease sid release) := by
  cases release with
  | report text => exact .of_scopes (fun _ => rfl) rfl
  | forget manager =>
    have htake := Ages.takeRecord h manager sid
    simp only [Hub.runRelease]
    generalize h.takeRecord manager sid none = taken at htake
    obtain ⟨h', r⟩ := taken
    cases r with
    | none => exact htake
    | some r => exact htake.trans (.retire h' r)

theorem closeScope (h : Hub) (scope : Ref .scope) : Ages h (h.closeScope scope).1 := by
  have hall (owned : List (Sid × Release)) (h : Hub) :
      Ages h (owned.foldl (fun h p => h.runRelease p.1 p.2) h) := by
    induction owned generalizing h with
    | nil => exact .refl h
    | cons p owned ih => exact (Ages.runRelease h p.1 p.2).trans (ih _)
  have hclose := (Ages.takeScope h scope).trans (hall (h.takeScope scope).2 _)
  exact ⟨hclose.hosts, hclose.scopes⟩

theorem exists_scope (a : Ages h h') {scope : Ref .scope} (hs : ∃ s, h.scopes.get? scope = some s) :
    ∃ s, h'.scopes.get? scope = some s := by
  obtain ⟨s, hs⟩ := hs
  obtain ⟨s', hs', -⟩ := a.scopes scope s hs
  exact ⟨s', hs'⟩

theorem isClosed (a : Ages h h') {scope : Ref .scope} {s : Scope} (hs : h.scopes.get? scope = some s)
    (hclosed : h.isClosed scope = true) : h'.isClosed scope = true := by
  obtain ⟨s', hs', hstill⟩ := a.scopes scope s hs
  simp only [Hub.isClosed, hs] at hclosed
  simp only [Hub.isClosed, hs', hstill hclosed]

end Ages

theorem isClosed_closeScope (h : Hub) (scope : Ref .scope) : (h.closeScope scope).1.isClosed scope = true := by
  have hall (owned : List (Sid × Release)) (h : Hub) (howned : h.owned? scope = none) :
      (owned.foldl (fun h p => h.runRelease p.1 p.2) h).owned? scope = none := by
    induction owned generalizing h with
    | nil => exact howned
    | cons p owned ih =>
      apply ih
      obtain ⟨sid, release⟩ := p
      cases release with
      | report text => exact howned
      | forget manager =>
        rcases takeRecord_none_cases h manager sid with ⟨r, -, -, htake⟩ | ⟨htake, -⟩
        · simpa [runRelease, htake] using howned
        · simpa [runRelease, htake] using howned
  have hclosed := hall (h.takeScope scope).2 _ (h.owned?_takeScope_self scope)
  rw [isClosed_eq, Option.isNone_iff_eq_none]
  exact hclosed

/-! ## Tracked records -/

/-- There are so few managers that no two of them issue the same sid. -/
def Few (h : Hub) : Prop :=
  ∀ manager, h.hosts manager = true → manager.index < 16 ^ 7

theorem Few.of_size {h : Hub} (hmanagers : h.managers.items.size ≤ 16 ^ 7) : h.Few := by
  intro manager hhosts
  obtain ⟨m, hm⟩ := Option.isSome_iff_exists.1 hhosts
  exact Nat.lt_of_lt_of_le (Array.getElem?_eq_some_iff.1 hm).1 hmanagers

theorem hosts_of_mem {h : Hub} {manager : Ref .manager} {r : Record} (hr : r ∈ h.records manager) :
    h.hosts manager = true := by
  unfold hosts
  cases hm : h.managers.get? manager with
  | none => simp [records, hm] at hr
  | some m => rfl

/-- The scope of a record is open, and releases the record when it closes. -/
def Tracks (h : Hub) (manager : Ref .manager) (r : Record) : Prop :=
  ∃ owned, h.owned? r.scope = some owned ∧ (r.sid, .forget manager) ∈ owned

/-- Each record is tracked, but for those that the releases `left` will take away. -/
structure Owes (left : List (Sid × Release)) (h : Hub) : Prop where
  named : ∀ manager, ∀ r ∈ h.records manager, ∃ n, r.sid = Sid.nth manager.index n
  tracked : ∀ manager, ∀ r ∈ h.records manager, h.Tracks manager r ∨ (r.sid, .forget manager) ∈ left

/-- Each record is tracked by the scope that owns it. -/
def Tracked : Hub → Prop :=
  Owes []

theorem Tracked.of_empty {h : Hub} (hempty : ∀ manager, h.records manager = []) : h.Tracked where
  named manager r hr := by simp [hempty] at hr
  tracked manager r hr := by simp [hempty] at hr

theorem Tracked.tracks {h : Hub} (a : h.Tracked) {manager : Ref .manager} {r : Record} (hr : r ∈ h.records manager) :
    h.Tracks manager r :=
  (a.tracked manager r hr).resolve_right List.not_mem_nil

/-- A closed scope owns no record. -/
theorem Tracked.scope_ne {h : Hub} (a : h.Tracked) {scope : Ref .scope} (hclosed : h.isClosed scope = true)
    {manager : Ref .manager} {r : Record} (hr : r ∈ h.records manager) : r.scope ≠ scope := by
  rintro rfl
  obtain ⟨owned, hopen, -⟩ := a.tracks hr
  rw [isClosed_eq, hopen] at hclosed
  cases hclosed

namespace Owes

variable {h h' : Hub} {left : List (Sid × Release)} {manager : Ref .manager} {sid : Sid}

theorem of_views (a : Owes left h) (hrecords : ∀ manager, h'.records manager = h.records manager)
    (howned : ∀ scope, h'.owned? scope = h.owned? scope) : Owes left h' where
  named := by
    intro manager r hr
    rw [hrecords] at hr
    exact a.named manager r hr
  tracked := by
    intro manager r hr
    rw [hrecords] at hr
    simpa only [Tracks, howned] using a.tracked manager r hr

theorem retire (a : Owes left h) (r : Record) : Owes left (h.retire r) :=
  a.of_views (records_retire h r) (owned?_retire h r)

/-- Records that are apart in their managers are apart in their sids. -/
theorem manager_eq (a : Owes left h) (hfew : h.Few) {m m' : Ref .manager} {r q : Record} (hr : r ∈ h.records m)
    (hq : q ∈ h.records m') (hsid : r.sid = q.sid) : m = m' := by
  obtain ⟨n, hn⟩ := a.named m r hr
  obtain ⟨n', hn'⟩ := a.named m' q hq
  rw [hn, hn'] at hsid
  have hindex := Sid.manager_eq_of_nth (hfew m (hosts_of_mem hr)) (hfew m' (hosts_of_mem hq)) hsid
  cases m
  cases m'
  exact congrArg Ref.mk hindex

/-- What a release was to take away is gone. -/
theorem erased (a : Owes ((sid, .forget manager) :: left) h) : Owes left (h.erased manager sid) := by
  have hmem {m : Ref .manager} {r : Record} (hr : r ∈ (h.erased manager sid).records m) :
      r ∈ h.records m ∧ ¬(r.sid = sid ∧ m = manager) := by
    by_cases hm : m = manager
    · subst hm
      rw [records_erased, List.mem_filter] at hr
      exact ⟨hr.1, fun h => by simpa [h.1] using hr.2⟩
    · rw [records_erased_of_ne h manager sid hm] at hr
      exact ⟨hr, fun h => hm h.2⟩
  refine ⟨fun m r hr => a.named m r (hmem hr).1, fun m r hr => ?_⟩
  obtain ⟨hr, hne⟩ := hmem hr
  refine (a.tracked m r hr).imp_right fun hleft => ?_
  rcases List.mem_cons.1 hleft with heq | hleft
  · simp only [Prod.mk.injEq, Release.forget.injEq] at heq
    exact absurd heq hne
  · exact hleft

theorem takeRecord (a : Owes ((sid, .forget manager) :: left) h) : Owes left (h.takeRecord manager sid none).1 := by
  rcases takeRecord_none_cases h manager sid with ⟨r, -, -, htake⟩ | ⟨htake, hno⟩
  · rw [htake]
    exact a.erased
  · rw [htake]
    refine ⟨a.named, fun m r hr => (a.tracked m r hr).imp_right fun hleft => ?_⟩
    rcases List.mem_cons.1 hleft with heq | hleft
    · simp only [Prod.mk.injEq, Release.forget.injEq] at heq
      obtain ⟨hsid, rfl⟩ := heq
      exact absurd hsid (hno r hr)
    · exact hleft

theorem runRelease {release : Release} (a : Owes ((sid, release) :: left) h) : Owes left (h.runRelease sid release) := by
  cases release with
  | report text =>
    exact ⟨a.named, fun m r hr => (a.tracked m r hr).imp_right fun hleft => by simpa using hleft⟩
  | forget manager =>
    have htake := a.takeRecord
    simp only [Hub.runRelease]
    generalize h.takeRecord manager sid none = taken at htake
    obtain ⟨h', r⟩ := taken
    cases r with
    | none => exact htake
    | some r => exact htake.retire r

theorem releaseAll (a : Owes left h) : Tracked (left.foldl (fun h p => h.runRelease p.1 p.2) h) := by
  induction left generalizing h with
  | nil => exact a
  | cons p left ih => exact ih a.runRelease

end Owes

namespace Tracked

variable {h : Hub}

/-- A scope that closes owes what it tracked. -/
theorem takeScope (a : h.Tracked) (scope : Ref .scope) : Owes (h.takeScope scope).2 (h.takeScope scope).1 := by
  refine ⟨?_, ?_⟩
  · rw [takeScope_eq]
    exact a.named
  · intro m r hr
    rw [takeScope_eq] at hr
    obtain ⟨owned, hopen, hmem⟩ := a.tracks hr
    by_cases hscope : r.scope = scope
    · right
      rw [takeScope_eq, ← hscope, hopen]
      exact hmem
    · left
      exact ⟨owned, by rwa [owned?_takeScope_of_ne h scope hscope], hmem⟩

theorem closeScope (a : h.Tracked) (scope : Ref .scope) : (h.closeScope scope).1.Tracked :=
  (a.takeScope scope).releaseAll.of_views (fun _ => rfl) fun _ => rfl

/-- A sid that its scope forgets is owed. -/
theorem untrack (a : h.Tracked) (hfew : h.Few) {manager : Ref .manager} {r : Record} (hr : r ∈ h.records manager)
    (scope : Ref .scope) : Owes [(r.sid, .forget manager)] (h.untrack scope r.sid).1 := by
  refine ⟨?_, ?_⟩
  · rw [untrack_eq]
    exact a.named
  · intro m q hq
    rw [untrack_eq] at hq
    obtain ⟨owned, hopen, hmem⟩ := a.tracks hq
    by_cases hsid : q.sid = r.sid
    · right
      rw [Owes.manager_eq a hfew hq hr hsid, hsid]
      exact List.mem_singleton_self _
    left
    by_cases hscope : q.scope = scope
    · subst hscope
      refine ⟨owned.filter fun p => p.1 ≠ r.sid, ?_, List.mem_filter.2 ⟨hmem, by simpa using hsid⟩⟩
      rw [owned?_untrack_self, hopen, Option.map_some]
    · exact ⟨owned, by rwa [owned?_untrack_of_ne h scope _ hscope], hmem⟩

theorem remove (a : h.Tracked) (hfew : h.Few) (manager : Ref .manager) (sid : Sid) (topic : Option String) :
    (h.remove manager sid topic).1.Tracked := by
  rcases remove_cases h manager sid topic with ⟨r, hr, rfl, -, hremove⟩ | hremove
  · have hleft := (a.untrack hfew hr r.scope).erased.retire r
    rw [hremove]
    rw [untrack_eq] at hleft ⊢
    exact hleft
  · rw [hremove]
    exact a

section Settle

variable {manager : Ref .manager} {h' : Hub} {r : Record}

theorem mem_of_enrolled (henrolled : Enrolled h manager h' r) (hothers : ∀ m ≠ manager, h'.records m = h.records m)
    {m : Ref .manager} {q : Record} (hq : q ∈ h'.records m) : q ∈ h.records m ∨ m = manager ∧ q = r := by
  by_cases hm : m = manager
  · subst hm
    rw [henrolled.records, List.mem_append, List.mem_singleton] at hq
    exact hq.imp_right fun h => ⟨rfl, h⟩
  · left
    rwa [hothers m hm] at hq

/-- Before it is tracked, a record that was added is owed. -/
theorem enrolled (a : h.Tracked) (henrolled : Enrolled h manager h' r)
    (hothers : ∀ m ≠ manager, h'.records m = h.records m) (hsid : ∃ n, r.sid = Sid.nth manager.index n) :
    Owes [(r.sid, .forget manager)] h' := by
  refine ⟨fun m q hq => ?_, fun m q hq => ?_⟩
  · rcases mem_of_enrolled henrolled hothers hq with hq | ⟨rfl, rfl⟩
    · exact a.named m q hq
    · exact hsid
  · rcases mem_of_enrolled henrolled hothers hq with hq | ⟨rfl, rfl⟩
    · left
      simpa only [Tracks, henrolled.owned?] using a.tracks hq
    · exact .inr (List.mem_singleton_self _)

/-- A record that was added is tracked, or is taken out again. -/
theorem settle (a : h.Tracked) (hfew : h'.Few) (henrolled : Enrolled h manager h' r)
    (hothers : ∀ m ≠ manager, h'.records m = h.records m) (hsid : ∃ n, r.sid = Sid.nth manager.index n) :
    (h'.settle manager r).1.Tracked := by
  have hleft := a.enrolled henrolled hothers hsid
  cases hs : h'.owned? r.scope with
  | none =>
    rw [settle_of_closed hs]
    exact hleft.takeRecord.of_views (fun _ => rfl) fun _ => rfl
  | some owned =>
    rw [settle_of_open hs]
    refine ⟨hleft.named, fun m q hq => .inl ?_⟩
    have hself : (h'.rescoped r.scope fun _ => ⟨some (Scope.put r.sid (.forget manager) owned)⟩).owned? r.scope =
        some (Scope.put r.sid (.forget manager) owned) :=
      owned?_rescoped_open h' r.scope hs
    have hr : r ∈ h'.records manager := by simp [henrolled.records]
    rcases mem_of_enrolled henrolled hothers hq with hold | ⟨rfl, rfl⟩
    · obtain ⟨tracked, hopen, hin⟩ := a.tracks hold
      rw [← henrolled.owned?] at hopen
      by_cases hscope : q.scope = r.scope
      · refine ⟨_, by rw [hscope]; exact hself, ?_⟩
        rw [hscope, hs] at hopen
        cases hopen
        by_cases hsame : q.sid = r.sid
        · rw [hleft.manager_eq hfew hq hr hsame, hsame]
          exact mem_put_self _ _ _
        · exact mem_put_of_ne hin hsame
      · exact ⟨tracked, by rwa [owned?_rescoped_of_ne h' r.scope _ hscope], hin⟩
    · exact ⟨_, hself, mem_put_self _ _ _⟩

end Settle

end Tracked

/-! ## What every operation keeps -/

/-- The hub has grown older, and what was tracked is tracked. -/
structure KeepsTrack (h h' : Hub) : Prop extends Ages h h' where
  tracked : h'.Few → h.Tracked → h'.Tracked

theorem Ages.few {h h' : Hub} (a : Ages h h') (hfew : h'.Few) : h.Few :=
  fun manager hm => hfew manager (a.hosts manager hm)

namespace KeepsTrack

variable {h h' h'' : Hub}

theorem of_eq (hmanagers : h'.managers = h.managers) (hscopes : h'.scopes = h.scopes) : KeepsTrack h h' where
  toAges := .of_scopes (fun manager => by simp only [hosts, hmanagers]) hscopes
  tracked _ a := a.of_views (fun manager => by simp only [records, hmanagers]) fun scope => by
    simp only [owned?, hscopes]

theorem refl (h : Hub) : KeepsTrack h h :=
  .of_eq rfl rfl

theorem trans (a : KeepsTrack h h') (b : KeepsTrack h' h'') : KeepsTrack h h'' where
  toAges := a.toAges.trans b.toAges
  tracked hfew htracked := b.tracked hfew (a.tracked (b.few hfew) htracked)

theorem of_sameBooks (a : SameBooks h h') : KeepsTrack h h' :=
  .of_eq a.managers a.scopes

/-- Managers without records and open scopes may have come. -/
theorem of_views (hrecords : ∀ manager, h'.records manager = h.records manager)
    (hhosts : ∀ manager, h.hosts manager = true → h'.hosts manager = true)
    (hscopes : ∀ scope s, h.scopes.get? scope = some s → h'.scopes.get? scope = some s) : KeepsTrack h h' where
  hosts := hhosts
  scopes scope s hs := ⟨s, hscopes scope s hs, id⟩
  tracked _ a := by
    refine ⟨fun manager r hr => ?_, fun manager r hr => .inl ?_⟩
    · rw [hrecords] at hr
      exact a.named manager r hr
    · rw [hrecords] at hr
      obtain ⟨owned, hopen, hmem⟩ := a.tracks hr
      obtain ⟨s, hs, howned⟩ := Option.bind_eq_some_iff.1 hopen
      exact ⟨owned, by rw [owned?, hscopes r.scope s hs]; exact howned, hmem⟩

end KeepsTrack

theorem ages_settle (h : Hub) (manager : Ref .manager) (r : Record) : Ages h (h.settle manager r).1 := by
  cases hs : h.owned? r.scope with
  | none =>
    rw [settle_of_closed hs]
    exact (Ages.takeRecord h manager r.sid).trans (.of_scopes (fun _ => rfl) rfl)
  | some owned =>
    rw [settle_of_open hs]
    refine .rescoped h r.scope fun s hget hclosed => ?_
    rw [owned?, hget, Option.bind_some] at hs
    rw [Scope.isClosed, hs] at hclosed
    cases hclosed

section Operations

variable (h : Hub) (manager : Ref .manager)

theorem keepsTrack_openScope : KeepsTrack h h.openScope.1 := by
  refine .of_views (fun _ => rfl) (fun _ hm => hm) fun scope s hs => ?_
  rw [openScope, Store.get?_push_of_ne _ (Store.ne_next_of_get? hs)]
  exact hs

theorem keepsTrack_remove (sid : Sid) (topic : Option String) : KeepsTrack h (h.remove manager sid topic).1 := by
  have hages : Ages h (h.remove manager sid topic).1 := by
    rcases remove_cases h manager sid topic with ⟨r, -, -, -, hremove⟩ | hremove
    · rw [hremove]
      exact ((Ages.erased h manager sid).trans (.untrack _ r.scope sid)).trans (.retire _ r)
    · rw [hremove]
      exact .refl h
  exact ⟨hages, fun hfew a => a.remove (hages.few hfew) manager sid topic⟩

theorem keepsTrack_finish (sid : Sid) : KeepsTrack h (h.finish manager sid).1 := by
  have hremove := keepsTrack_remove h manager sid none
  unfold finish
  generalize h.remove manager sid none = removed at hremove
  obtain ⟨h', b⟩ := removed
  cases b <;> exact hremove

theorem keepsTrack_unsubscribe (slot : Slot) (sid : Sid) (topic : Option String) :
    KeepsTrack h (h.unsubscribe slot manager sid topic).1 :=
  (keepsTrack_remove h manager sid topic).trans (.of_sameBooks (sameBooks_setBody _
    { slot with status := some .ok, statusCode := some Status.unsubscribedCode } (.message (.text "Unsubscribed"))))

theorem keepsTrack_closeScope (scope : Ref .scope) : KeepsTrack h (h.closeScope scope).1 :=
  ⟨.closeScope h scope, fun _ a => a.closeScope scope⟩

theorem fst_closeScopes (scopes : List (Ref .scope)) :
    (h.closeScopes scopes).1 = scopes.foldl (fun h scope => (h.closeScope scope).1) h :=
  (List.foldl_hom Prod.fst fun _ _ => rfl).symm

theorem keepsTrack_closeScopes (scopes : List (Ref .scope)) : KeepsTrack h (h.closeScopes scopes).1 := by
  rw [fst_closeScopes]
  induction scopes generalizing h with
  | nil => exact .refl h
  | cons scope scopes ih => exact (keepsTrack_closeScope h scope).trans (ih _)

/-- Each scope that is there is closed when its turn has come, and stays so. -/
theorem isClosed_closeScopes {scopes : List (Ref .scope)} {scope : Ref .scope} {s : Scope} (hmem : scope ∈ scopes)
    (hs : h.scopes.get? scope = some s) : (h.closeScopes scopes).1.isClosed scope = true := by
  rw [fst_closeScopes]
  induction scopes generalizing h s with
  | nil => cases hmem
  | cons first scopes ih =>
    obtain ⟨s', hs', -⟩ := (Ages.closeScope h first).scopes scope s hs
    by_cases hrest : scope ∈ scopes
    · exact ih _ hrest hs'
    · obtain rfl := (List.mem_cons.1 hmem).resolve_right hrest
      have hlater := (keepsTrack_closeScopes (h.closeScope scope).1 scopes).isClosed hs' (h.isClosed_closeScope scope)
      rwa [fst_closeScopes] at hlater

theorem keepsTrack_deliver (topic : String) (message : Value) (n : Nat) (r : Record) :
    KeepsTrack h (deliver manager topic message (h, n) r).1 := by
  have hsend := sameBooks_send h r.sink (.event r.sid topic message)
  unfold deliver
  generalize h.send r.sink (.event r.sid topic message) = sent at hsend
  obtain ⟨h', b⟩ := sent
  cases b with
  | true => exact .of_sameBooks hsend
  | false => exact (KeepsTrack.of_sameBooks hsend).trans (keepsTrack_remove h' manager r.sid none)

theorem keepsTrack_publish (topic : String) (message : Value) : KeepsTrack h (h.publish manager topic message).1 := by
  have hall (rs : List Record) (acc : Hub × Nat) :
      KeepsTrack acc.1 (rs.foldl (deliver manager topic message) acc).1 := by
    induction rs generalizing acc with
    | nil => exact .refl acc.1
    | cons r rs ih => exact (keepsTrack_deliver acc.1 manager topic message acc.2 r).trans (ih _)
  exact hall _ (h, 0)

theorem keepsTrack_leaveService (service : Ref .service) (topic : String) :
    KeepsTrack h (h.leaveService service topic) :=
  have hsame := sameTables_runCleanup h (some (.leave service topic))
  .of_eq hsame.managers hsame.scopes

theorem keepsTrack_note (e : Journal.Entry) : KeepsTrack h (h.note e) :=
  .of_eq rfl rfl

theorem keepsTrack_activate (service : Ref .service) (s : Service) (topic : String) :
    KeepsTrack h (h.activate service s topic) := by
  unfold activate
  dsimp only
  cases s.producer with
  | clock => exact .of_eq rfl rfl
  | herald announcement =>
    cases announcement with
    | none => exact .of_eq rfl rfl
    | some v =>
      refine .trans (.trans ?_ (keepsTrack_publish _ _ topic v)) (keepsTrack_note _ _)
      exact .of_eq rfl rfl

theorem keepsTrack_enterService (service : Ref .service) (topic : String) :
    KeepsTrack h (h.enterService service topic) := by
  unfold enterService
  cases h.services.get? service with
  | none => exact .refl h
  | some s =>
    dsimp only
    split
    · refine .trans ?_ (keepsTrack_activate _ service _ topic)
      exact .of_eq rfl rfl
    · exact .of_eq rfl rfl

theorem keepsTrack_subscribe (slot : Slot) (scope : Ref .scope) (topic : String) (cleanup : Option Cleanup) :
    KeepsTrack h (h.subscribe slot scope manager topic cleanup).1 := by
  cases hm : h.managers.get? manager with
  | none =>
    simp only [subscribe, hm]
    exact .refl h
  | some m =>
    have henrolled := enrolled hm slot scope topic cleanup
    have hself := managers_enrol hm slot scope topic cleanup
    have hothers (other : Ref .manager) (hother : other ≠ manager) :
        (h.enrol slot scope manager m topic cleanup).1.managers.get? other = h.managers.get? other :=
      managers_enrol_of_ne slot scope topic cleanup hother
    have hsid : ∃ n, (h.recordOf manager scope topic cleanup).sid = Sid.nth manager.index n := ⟨_, rfl⟩
    rw [subscribe_eq hm]
    generalize h.recordOf manager scope topic cleanup = r at *
    generalize (h.enrol slot scope manager m topic cleanup).1 = h' at *
    have hages : Ages h h' := by
      refine .of_scopes (fun other => ?_) henrolled.scopes
      by_cases hother : other = manager
      · rw [hother, hosts, hself, hosts, hm]
        rfl
      · rw [hosts, hothers other hother, hosts]
    have hsettle := ages_settle h' manager r
    refine ⟨hages.trans hsettle, fun hfew a => ?_⟩
    exact a.settle (hsettle.few hfew) henrolled (fun other hother => by simp only [records, hothers other hother]) hsid

/-- Whoever subscribes in a closed scope is refused. -/
theorem subscribe_of_isClosed {scope : Ref .scope} (hclosed : h.isClosed scope = true) (slot : Slot) (topic : String)
    (cleanup : Option Cleanup) : (h.subscribe slot scope manager topic cleanup).2.2 = .error sessionClosed := by
  rw [isClosed_eq, Option.isNone_iff_eq_none] at hclosed
  cases hm : h.managers.get? manager with
  | none => simp only [subscribe, hm]
  | some m =>
    have hstill := ((enrolled hm slot scope topic cleanup).owned? scope).trans hclosed
    rw [subscribe_eq hm, settle_of_closed hstill]

theorem keepsTrack_closeAll (c : Connections) : KeepsTrack h (c.closeAll h).2.1 :=
  (keepsTrack_closeScopes h (c.entries.map (·.scope))).trans (.of_eq rfl rfl)

/-- Taking all connections down closes their scopes. -/
theorem isClosed_closeAll {c : Connections} {e : Connection} {s : Scope} (he : e ∈ c.entries)
    (hs : h.scopes.get? e.scope = some s) : (c.closeAll h).2.1.isClosed e.scope = true :=
  h.isClosed_closeScopes (List.mem_map_of_mem he) hs

end Operations

end Exchange.Hub
