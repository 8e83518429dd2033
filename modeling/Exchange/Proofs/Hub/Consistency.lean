-- SUMMARY: Whatever is done with subscriptions, table, scopes and cleanups agree after every operation.
import Exchange.Proofs.Hub.Tables
import Exchange.Proofs.Ident

/-!
# Table and scopes in step

`Hub.Ledger` is what every operation keeps: an open scope tracks just the sids
of its records in the table, and each subscription that was granted either has
its record there or has been cleaned up, once. While a scope closes, its
records are still in the table although it tracks nothing any more; `left`
names them, and each release takes one away.
-/

namespace Exchange

namespace Hub

/-! ## The ledger -/

/-- Table, scopes and cleanups agree with the subscriptions granted so far, but for the sids `left`,
whose scope is closed and whose releases are still to run. -/
structure Ledger (h₀ h : Hub) (manager : Ref .manager) (left : List Sid) (granted : List Record) : Prop where
  distinct : (granted.map (·.sid)).Nodup
  issued : ∀ r ∈ granted, ∃ n ≤ h.issued manager, r.sid = Sid.nth manager.index n
  cleaned : ∃ ended, (ended ++ h.records manager).Perm granted ∧ CleanedUp h₀ h ended
  tracked : ∀ scope owned, h.owned? scope = some owned →
    ∀ sid, sid ∈ owned.map (·.1) ↔ ∃ r ∈ h.records manager, r.sid = sid ∧ r.scope = scope
  owner : ∀ r ∈ h.records manager, h.owned? r.scope = none ↔ r.sid ∈ left
  forget : ∀ scope owned, h.owned? scope = some owned → ∀ p ∈ owned, p.2 = .forget manager

namespace Ledger

variable {h₀ h h' : Hub} {manager : Ref .manager} {left : List Sid} {granted : List Record}

theorem start (hempty : h.records manager = []) (hscopes : ∀ scope owned, h.owned? scope = some owned → owned = []) :
    Ledger h h manager [] [] where
  distinct := List.nodup_nil
  issued := by
    intro r hr
    cases hr
  cleaned := ⟨[], by simp [hempty], .start h⟩
  tracked := by
    intro scope owned howned sid
    simp [hscopes scope owned howned, hempty]
  owner := by
    intro r hr
    rw [hempty] at hr
    cases hr
  forget := by
    intro scope owned howned p hp
    rw [hscopes scope owned howned] at hp
    cases hp

theorem mem_granted (a : Ledger h₀ h manager left granted) {r : Record} (hr : r ∈ h.records manager) :
    r ∈ granted := by
  obtain ⟨ended, hperm, -⟩ := a.cleaned
  exact hperm.mem_iff.1 (List.mem_append_right ended hr)

theorem nodup_records (a : Ledger h₀ h manager left granted) :
    ((h.records manager).map (·.sid)).Nodup := by
  obtain ⟨ended, hperm, -⟩ := a.cleaned
  have hnodup := (hperm.map (·.sid)).nodup_iff.2 a.distinct
  rw [List.map_append] at hnodup
  exact (List.nodup_append.1 hnodup).2.1

theorem of_views (a : Ledger h₀ h manager left granted) (hrecords : h'.records manager = h.records manager)
    (hissued : h.issued manager ≤ h'.issued manager) (howned : ∀ scope, h'.owned? scope = h.owned? scope)
    (hservices : h'.services = h.services) (hjournal : h'.journal.Perm h.journal) :
    Ledger h₀ h' manager left granted where
  distinct := a.distinct
  issued := by
    intro r hr
    obtain ⟨n, hn, hsid⟩ := a.issued r hr
    exact ⟨n, Nat.le_trans hn hissued, hsid⟩
  cleaned := by
    obtain ⟨ended, hperm, hcleaned⟩ := a.cleaned
    exact ⟨ended, by rwa [hrecords], hcleaned.of_eq hservices hjournal⟩
  tracked := by
    intro scope owned hs
    rw [hrecords]
    exact a.tracked scope owned (by rwa [howned] at hs)
  owner := by
    intro r hr
    rw [hrecords] at hr
    rw [howned]
    exact a.owner r hr
  forget := by
    intro scope owned hs
    exact a.forget scope owned (by rwa [howned] at hs)

theorem of_sameBooks (a : Ledger h₀ h manager left granted) (b : SameBooks h h') :
    Ledger h₀ h' manager left granted :=
  a.of_views (b.records manager) (Nat.le_of_eq (b.issued manager).symm) b.owned? b.services
    (.of_eq b.journal)

/-! ## Leaving the table -/

/-- A record that has left the table is cleaned up when it is retired. -/
theorem cleaned_of_retire (a : Ledger h₀ h manager left granted) {r : Record} (hr : r ∈ h.records manager)
    (hrecords : h'.records manager = (h.records manager).filter fun q => q.sid ≠ r.sid)
    (hservices : h'.services = h.services) (hjournal : h'.journal = h.journal) :
    ∃ ended, (ended ++ (h'.retire r).records manager).Perm granted ∧ CleanedUp h₀ (h'.retire r) ended := by
  obtain ⟨ended, hperm, hcleaned⟩ := a.cleaned
  refine ⟨ended ++ [r], ?_, (hcleaned.of_eq hservices (.of_eq hjournal)).retire r⟩
  rw [records_retire, hrecords, List.append_assoc]
  exact ((perm_cons_filter_sid a.nodup_records hr).symm.append_left ended).trans hperm

/-- A record is removed from the table and from the scope that tracks it. -/
theorem remove_record (a : Ledger h₀ h manager [] granted) {r : Record} (hr : r ∈ h.records manager) :
    Ledger h₀ ((((h.erased manager r.sid).untrack r.scope r.sid).1).retire r) manager [] granted where
  distinct := a.distinct
  issued := by
    rw [issued_retire, untrack_eq, issued_rescoped, issued_erased]
    exact a.issued
  cleaned := by
    apply a.cleaned_of_retire hr
    · rw [untrack_eq, records_rescoped, records_erased]
    · rw [untrack_eq]
      rfl
    · rw [untrack_eq]
      rfl
  tracked := by
    intro scope owned hs sid
    rw [owned?_retire] at hs
    rw [records_retire, untrack_eq, records_rescoped, records_erased]
    by_cases hscope : scope = r.scope
    · subst hscope
      rw [owned?_untrack_self, owned?_erased] at hs
      obtain ⟨owned, hopen, rfl⟩ := Option.map_eq_some_iff.1 hs
      have htracked := a.tracked r.scope owned hopen sid
      simp only [List.mem_map, List.mem_filter, decide_eq_true_eq] at htracked ⊢
      constructor
      · rintro ⟨p, ⟨hp, hne⟩, rfl⟩
        obtain ⟨q, hq, hqsid, hqscope⟩ := htracked.1 ⟨p, hp, rfl⟩
        exact ⟨q, ⟨hq, by rwa [hqsid]⟩, hqsid, hqscope⟩
      · rintro ⟨q, ⟨hq, hne⟩, rfl, hqscope⟩
        obtain ⟨p, hp, hpsid⟩ := htracked.2 ⟨q, hq, rfl, hqscope⟩
        exact ⟨p, ⟨hp, by rwa [hpsid]⟩, hpsid⟩
    · rw [owned?_untrack_of_ne _ _ _ hscope, owned?_erased] at hs
      rw [a.tracked scope owned hs sid]
      constructor
      · rintro ⟨q, hq, hqsid, hqscope⟩
        refine ⟨q, List.mem_filter.2 ⟨hq, ?_⟩, hqsid, hqscope⟩
        have hne : q.sid ≠ r.sid := by
          intro heq
          rw [eq_of_sid a.nodup_records hq hr heq] at hqscope
          exact hscope hqscope.symm
        simpa using hne
      · rintro ⟨q, hq, hqsid, hqscope⟩
        exact ⟨q, (List.mem_filter.1 hq).1, hqsid, hqscope⟩
  owner := by
    intro q hq
    rw [records_retire, untrack_eq, records_rescoped, records_erased] at hq
    have howner := a.owner q (List.mem_filter.1 hq).1
    rw [owned?_retire]
    by_cases hscope : q.scope = r.scope
    · rw [hscope] at howner ⊢
      rw [owned?_untrack_self, owned?_erased, Option.map_eq_none_iff]
      exact howner
    · rw [owned?_untrack_of_ne _ _ _ hscope, owned?_erased]
      exact howner
  forget := by
    intro scope owned hs p hp
    rw [owned?_retire] at hs
    by_cases hscope : scope = r.scope
    · subst hscope
      rw [owned?_untrack_self, owned?_erased] at hs
      obtain ⟨owned, hopen, rfl⟩ := Option.map_eq_some_iff.1 hs
      exact a.forget r.scope owned hopen p (List.mem_filter.1 hp).1
    · rw [owned?_untrack_of_ne _ _ _ hscope, owned?_erased] at hs
      exact a.forget scope owned hs p hp

theorem remove (a : Ledger h₀ h manager [] granted) (sid : Sid) (topic : Option String) :
    Ledger h₀ (h.remove manager sid topic).1 manager [] granted := by
  rcases remove_cases h manager sid topic with ⟨r, hr, rfl, -, hremove⟩ | hremove
  · rw [hremove]
    exact a.remove_record hr
  · rw [hremove]
    exact a

/-! ## Closing -/

/-- A scope that has just been closed leaves all that it tracked to its releases. -/
theorem takeScope (a : Ledger h₀ h manager [] granted) (scope : Ref .scope) :
    Ledger h₀ (h.takeScope scope).1 manager ((h.takeScope scope).2.map (·.1)) granted := by
  have hother {s : Ref .scope} {owned : List (Sid × Release)}
      (hs : (h.takeScope scope).1.owned? s = some owned) : h.owned? s = some owned := by
    by_cases hscope : s = scope
    · rw [hscope, owned?_takeScope_self] at hs
      cases hs
    · rwa [owned?_takeScope_of_ne _ _ hscope] at hs
  have hrecords : (h.takeScope scope).1.records manager = h.records manager := by
    rw [takeScope_eq, records_rescoped]
  refine ⟨a.distinct, ?_, ?_, ?_, ?_, ?_⟩
  · rw [takeScope_eq, issued_rescoped]
    exact a.issued
  · obtain ⟨ended, hperm, hcleaned⟩ := a.cleaned
    rw [hrecords]
    exact ⟨ended, hperm, hcleaned.of_eq (by rw [takeScope_eq]; rfl) (by rw [takeScope_eq]; exact .refl _)⟩
  · intro s owned hs
    rw [hrecords]
    exact a.tracked s owned (hother hs)
  · intro r hr
    rw [hrecords] at hr
    have hopen : ∃ owned, h.owned? r.scope = some owned := by
      apply Option.ne_none_iff_exists'.1
      intro hclosed
      cases (a.owner r hr).1 hclosed
    obtain ⟨owned, hopen⟩ := hopen
    by_cases hscope : r.scope = scope
    · subst hscope
      rw [owned?_takeScope_self, takeScope_eq, hopen]
      have htracked := (a.tracked r.scope owned hopen r.sid).2 ⟨r, hr, rfl, rfl⟩
      simpa using htracked
    · rw [owned?_takeScope_of_ne _ _ hscope, hopen]
      constructor
      · intro hnone
        cases hnone
      · intro hleft
        rw [takeScope_eq] at hleft
        cases hs : h.owned? scope with
        | none => simp [hs] at hleft
        | some owned' =>
          rw [hs] at hleft
          obtain ⟨q, hq, hqsid, hqscope⟩ := (a.tracked scope owned' hs r.sid).1 hleft
          rw [eq_of_sid a.nodup_records hq hr hqsid] at hqscope
          exact absurd hqscope hscope
  · intro s owned hs
    exact a.forget s owned (hother hs)

/-- A release takes the record that it names out of the table and cleans up. -/
theorem release {sid : Sid} (a : Ledger h₀ h manager (sid :: left) granted) :
    Ledger h₀ (h.runRelease sid (.forget manager)) manager left granted := by
  rcases takeRecord_none_cases h manager sid with ⟨r, hr, rfl, htake⟩ | ⟨htake, hno⟩
  · have hrelease : h.runRelease r.sid (.forget manager) = (h.erased manager r.sid).retire r := by
      simp only [runRelease, htake]
    rw [hrelease]
    have hclosed : h.owned? r.scope = none := (a.owner r hr).2 List.mem_cons_self
    refine ⟨a.distinct, ?_, ?_, ?_, ?_, ?_⟩
    · rw [issued_retire, issued_erased]
      exact a.issued
    · exact a.cleaned_of_retire hr (records_erased h manager r.sid) rfl rfl
    · intro scope owned hs sid
      rw [owned?_retire, owned?_erased] at hs
      rw [records_retire, records_erased, a.tracked scope owned hs sid]
      constructor
      · rintro ⟨q, hq, hqsid, hqscope⟩
        refine ⟨q, List.mem_filter.2 ⟨hq, ?_⟩, hqsid, hqscope⟩
        have hne : q.sid ≠ r.sid := by
          intro heq
          rw [← hqscope, eq_of_sid a.nodup_records hq hr heq, hclosed] at hs
          cases hs
        simpa using hne
      · rintro ⟨q, hq, hqsid, hqscope⟩
        exact ⟨q, (List.mem_filter.1 hq).1, hqsid, hqscope⟩
    · intro q hq
      rw [records_retire, records_erased] at hq
      obtain ⟨hq, hne⟩ := List.mem_filter.1 hq
      have hne : q.sid ≠ r.sid := by simpa using hne
      rw [owned?_retire, owned?_erased, a.owner q hq, List.mem_cons]
      exact or_iff_right hne
    · intro scope owned hs
      rw [owned?_retire, owned?_erased] at hs
      exact a.forget scope owned hs
  · have hrelease : h.runRelease sid (.forget manager) = h := by
      simp only [runRelease, htake]
    rw [hrelease]
    refine ⟨a.distinct, a.issued, a.cleaned, a.tracked, ?_, a.forget⟩
    intro r hr
    rw [a.owner r hr, List.mem_cons]
    exact or_iff_right (hno r hr)

theorem releaseAll {owned : List (Sid × Release)} (a : Ledger h₀ h manager (owned.map (·.1)) granted)
    (hforget : ∀ p ∈ owned, p.2 = .forget manager) :
    Ledger h₀ (owned.foldl (fun h p => h.runRelease p.1 p.2) h) manager [] granted := by
  induction owned generalizing h with
  | nil => exact a
  | cons p owned ih =>
    obtain ⟨hp, howned⟩ := List.forall_mem_cons.1 hforget
    rw [List.foldl_cons, hp]
    exact ih a.release howned

theorem closeScope (a : Ledger h₀ h manager [] granted) (scope : Ref .scope) :
    Ledger h₀ (h.closeScope scope).1 manager [] granted := by
  have hforget : ∀ p ∈ (h.takeScope scope).2, p.2 = .forget manager := by
    rw [takeScope_eq]
    cases hs : h.owned? scope with
    | none =>
      intro p hp
      cases hp
    | some owned => exact a.forget scope owned hs
  apply ((a.takeScope scope).releaseAll hforget).of_views
  · rfl
  · exact Nat.le_refl _
  · intro s
    rfl
  · rfl
  · apply Journal.sortFrom_perm

/-! ## Publishing -/

theorem send (a : Ledger h₀ h manager left granted) (sink : Ref .channel) (r : Reply) :
    Ledger h₀ (h.send sink r).1 manager left granted :=
  a.of_sameBooks (sameBooks_send h sink r)

theorem deliver (a : Ledger h₀ h manager [] granted) (topic : String) (message : Value) (n : Nat) (r : Record) :
    Ledger h₀ (Hub.deliver manager topic message (h, n) r).1 manager [] granted := by
  have hsent := a.send r.sink (.event r.sid topic message)
  unfold Hub.deliver
  split
  · rename_i heq
    rwa [heq] at hsent
  · rename_i heq
    rw [heq] at hsent
    exact hsent.remove r.sid none

theorem publish (a : Ledger h₀ h manager [] granted) (topic : String) (message : Value) :
    Ledger h₀ (h.publish manager topic message).1 manager [] granted := by
  have hall (rs : List Record) (acc : Hub × Nat) (b : Ledger h₀ acc.1 manager [] granted) :
      Ledger h₀ (rs.foldl (Hub.deliver manager topic message) acc).1 manager [] granted := by
    induction rs generalizing acc with
    | nil => exact b
    | cons r rs ih => exact ih _ (b.deliver topic message acc.2 r)
  exact hall _ (h, 0) a

/-! ## Subscribing -/

theorem fresh (a : Ledger h₀ h manager left granted) (hsids : Sid.Distinct manager.index (h.issued manager + 1))
    (scope : Ref .scope) (topic : String) (cleanup : Option Cleanup) :
    ∀ q ∈ granted, q.sid ≠ (h.recordOf manager scope topic cleanup).sid := by
  intro q hq hsid
  obtain ⟨n, hn, hq⟩ := a.issued q hq
  rw [hq] at hsid
  exact hsids.ne_next hn hsid

/-- A record that has been added is tracked by its scope. -/
theorem track (a : Ledger h₀ h manager [] granted) {r : Record} (henrolled : Enrolled h manager h' r)
    {owned : List (Sid × Release)} (hopen : h.owned? r.scope = some owned)
    (hsid : r.sid = Sid.nth manager.index (h.issued manager + 1)) (hfresh : ∀ q ∈ granted, q.sid ≠ r.sid) :
    Ledger h₀ (h'.settle manager r).1 manager [] (granted ++ [r]) := by
  have hopen' : h'.owned? r.scope = some owned := by
    rw [henrolled.owned?, hopen]
  have hput : Scope.put r.sid (.forget manager) owned = owned ++ [(r.sid, .forget manager)] := by
    apply put_of_not_tracked
    intro p hp hsid
    obtain ⟨q, hq, hqsid, -⟩ := (a.tracked r.scope owned hopen p.1).1 (List.mem_map.2 ⟨p, hp, rfl⟩)
    exact hfresh q (a.mem_granted hq) (hqsid.trans hsid)
  have hself : (h'.rescoped r.scope fun _ => ⟨some (owned ++ [(r.sid, .forget manager)])⟩).owned? r.scope =
      some (owned ++ [(r.sid, .forget manager)]) :=
    owned?_rescoped_open h' r.scope hopen'
  have hother (scope : Ref .scope) (hscope : scope ≠ r.scope) :
      (h'.rescoped r.scope fun _ => ⟨some (owned ++ [(r.sid, .forget manager)])⟩).owned? scope =
        h.owned? scope := by
    rw [owned?_rescoped_of_ne _ _ _ hscope, henrolled.owned?]
  rw [settle_of_open hopen', hput]
  refine ⟨?_, ?_, ?_, ?_, ?_, ?_⟩
  · rw [List.map_append, List.nodup_append]
    refine ⟨a.distinct, by simp, ?_⟩
    intro sid hsid sid' hsid' heq
    obtain ⟨q, hq, rfl⟩ := List.mem_map.1 hsid
    obtain rfl := List.mem_singleton.1 hsid'
    exact hfresh q hq heq
  · intro q hq
    rw [issued_rescoped, henrolled.issued]
    rcases List.mem_append.1 hq with hq | hq
    · obtain ⟨n, hn, hq⟩ := a.issued q hq
      exact ⟨n, Nat.le_succ_of_le hn, hq⟩
    · obtain rfl := List.mem_singleton.1 hq
      exact ⟨h.issued manager + 1, Nat.le_refl _, hsid⟩
  · obtain ⟨ended, hperm, hcleaned⟩ := a.cleaned
    refine ⟨ended, ?_, hcleaned.of_eq henrolled.services (.of_eq henrolled.journal)⟩
    rw [records_rescoped, henrolled.records, ← List.append_assoc]
    exact hperm.append_right [r]
  · intro scope tracked hs sid
    rw [records_rescoped, henrolled.records]
    by_cases hscope : scope = r.scope
    · subst hscope
      rw [hself] at hs
      cases hs
      have htracked := a.tracked r.scope owned hopen sid
      simp only [List.map_append, List.mem_append, htracked, List.map_cons, List.map_nil, List.mem_singleton]
      constructor
      · rintro (⟨q, hq, hqsid⟩ | rfl)
        · exact ⟨q, .inl hq, hqsid⟩
        · exact ⟨r, .inr rfl, rfl, rfl⟩
      · rintro ⟨q, hq | rfl, hqsid, hqscope⟩
        · exact .inl ⟨q, hq, hqsid, hqscope⟩
        · exact .inr hqsid.symm
    · rw [hother scope hscope] at hs
      rw [a.tracked scope tracked hs sid]
      constructor
      · rintro ⟨q, hq, hqsid⟩
        exact ⟨q, List.mem_append_left _ hq, hqsid⟩
      · rintro ⟨q, hq, hqsid, hqscope⟩
        rcases List.mem_append.1 hq with hq | hq
        · exact ⟨q, hq, hqsid, hqscope⟩
        · obtain rfl := List.mem_singleton.1 hq
          exact absurd hqscope.symm hscope
  · intro q hq
    rw [records_rescoped, henrolled.records] at hq
    by_cases hscope : q.scope = r.scope
    · rw [hscope, hself]
      simp
    · rw [hother q.scope hscope]
      rcases List.mem_append.1 hq with hq | hq
      · exact a.owner q hq
      · obtain rfl := List.mem_singleton.1 hq
        exact absurd rfl hscope
  · intro scope tracked hs p hp
    rcases (owned?_rescoped_append h' r.scope hopen' _ p scope).1 ⟨tracked, hs, hp⟩ with ⟨old, hs, hp⟩ | ⟨-, rfl⟩
    · rw [henrolled.owned?] at hs
      exact a.forget scope old hs p hp
    · rfl

end Ledger

/-! ## Counting sids -/

section Issued

variable (h : Hub) (manager other : Ref .manager)

@[simp] theorem issued_remove (sid : Sid) (topic : Option String) :
    (h.remove manager sid topic).1.issued other = h.issued other := by
  rcases remove_cases h manager sid topic with ⟨r, -, -, -, hremove⟩ | hremove
  · simp [hremove, untrack_eq]
  · rw [hremove]

@[simp] theorem issued_runRelease (sid : Sid) (release : Release) :
    (h.runRelease sid release).issued other = h.issued other := by
  cases release with
  | report text => rfl
  | forget manager =>
    rcases takeRecord_none_cases h manager sid with ⟨r, -, -, htake⟩ | ⟨htake, -⟩
    · simp [runRelease, htake]
    · simp [runRelease, htake]

theorem issued_publish (topic : String) (message : Value) :
    (h.publish manager topic message).1.issued other = h.issued other := by
  have hdeliver (acc : Hub × Nat) (r : Record) :
      (deliver manager topic message acc r).1.issued other = acc.1.issued other := by
    have hsent := (sameBooks_send acc.1 r.sink (.event r.sid topic message)).issued other
    unfold deliver
    split
    · rename_i heq
      rw [heq] at hsent
      exact hsent
    · rename_i heq
      rw [heq] at hsent
      rw [issued_remove, hsent]
  have hall (rs : List Record) (acc : Hub × Nat) :
      (rs.foldl (deliver manager topic message) acc).1.issued other = acc.1.issued other := by
    induction rs generalizing acc with
    | nil => rfl
    | cons r rs ih => rw [List.foldl_cons, ih, hdeliver]
  exact hall _ (h, 0)

theorem issued_closeScope (scope : Ref .scope) : (h.closeScope scope).1.issued other = h.issued other := by
  have hall (owned : List (Sid × Release)) (h : Hub) :
      (owned.foldl (fun h p => h.runRelease p.1 p.2) h).issued other = h.issued other := by
    induction owned generalizing h with
    | nil => rfl
    | cons p owned ih => rw [List.foldl_cons, ih, issued_runRelease]
  show (Hub.issued (List.foldl _ (h.takeScope scope).1 _) other) = _
  rw [hall, takeScope_eq, issued_rescoped]

/-- Answering the request touches nothing but channels. -/
theorem sameBooks_unsubscribe (slot : Slot) (sid : Sid) (topic : Option String) :
    SameBooks (h.remove manager sid topic).1 (h.unsubscribe slot manager sid topic).1 :=
  sameBooks_setBody _ { slot with status := some .ok, statusCode := some Status.unsubscribedCode }
    (.message (.text "Unsubscribed"))

theorem finish_fst (sid : Sid) : (h.finish manager sid).1 = (h.remove manager sid none).1 := by
  unfold finish
  split
  · rename_i heq
    rw [heq]
  · rename_i heq
    rw [heq]

end Issued

/-! ## Runs -/

/-- What can be done with subscriptions; slots are those of the contexts used. -/
inductive Action where
  | subscribe (slot : Slot) (scope : Ref .scope) (topic : String) (cleanup : Option Cleanup)
  | unsubscribe (slot : Slot) (sid : Sid) (topic : Option String)
  | finish (sid : Sid)
  | publish (topic : String) (message : Value)
  /-- A response stream is dropped. -/
  | drop (stream : Stream)
  | close (scope : Ref .scope)

def act (h : Hub) (manager : Ref .manager) : Action → Hub
  | .subscribe slot scope topic cleanup => (h.subscribe slot scope manager topic cleanup).1
  | .unsubscribe slot sid topic => (h.unsubscribe slot manager sid topic).1
  | .finish sid => (h.finish manager sid).1
  | .publish topic message => (h.publish manager topic message).1
  | .drop stream => h.dropStream stream
  | .close scope => (h.closeScope scope).1

/-- The subscription that an action is granted, if it asks for one. -/
def granted (h : Hub) (manager : Ref .manager) : Action → List Record
  | .subscribe slot scope topic cleanup =>
    match (h.subscribe slot scope manager topic cleanup).2.2 with
    | .ok sid => [{ sid, topic, sink := h.channels.next, scope, cleanup }]
    | .error _ => []
  | _ => []

def actAll (h : Hub) (manager : Ref .manager) (actions : List Action) : Hub :=
  actions.foldl (fun h a => h.act manager a) h

/-- The subscriptions that a run is granted. -/
def grantedAll (h : Hub) (manager : Ref .manager) : List Action → List Record
  | [] => []
  | a :: actions => h.granted manager a ++ (h.act manager a).grantedAll manager actions

namespace Ledger

variable {h₀ h : Hub} {manager : Ref .manager} {given : List Record}

theorem subscribe (a : Ledger h₀ h manager [] given) (hsids : Sid.Distinct manager.index (h.issued manager + 1))
    (slot : Slot) (scope : Ref .scope) (topic : String) (cleanup : Option Cleanup) :
    Ledger h₀ (h.subscribe slot scope manager topic cleanup).1 manager []
        (given ++ h.granted manager (.subscribe slot scope topic cleanup)) ∧
      (h.subscribe slot scope manager topic cleanup).1.issued manager ≤ h.issued manager + 1 := by
  have hfresh := a.fresh hsids scope topic cleanup
  cases hm : h.managers.get? manager with
  | none =>
    have hsubscribe : h.subscribe slot scope manager topic cleanup = (h, slot, .error sessionClosed) := by
      unfold Hub.subscribe
      rw [hm]
    simp only [granted, hsubscribe, List.append_nil]
    exact ⟨a, Nat.le_succ _⟩
  | some m =>
    have henrolled := enrolled hm slot scope topic cleanup
    have hissued : (h.subscribe slot scope manager topic cleanup).1.issued manager = h.issued manager + 1 := by
      rw [subscribe_eq hm, issued_settle, henrolled.issued]
    refine ⟨?_, Nat.le_of_eq hissued⟩
    cases hs : h.owned? scope with
    | none =>
      obtain ⟨hresult, hsame⟩ := subscribe_of_closed hm hs slot topic cleanup
        fun q hq => hfresh q (a.mem_granted hq)
      simp only [granted, hresult, List.append_nil]
      apply a.of_views hsame.records (by rw [hissued]; exact Nat.le_succ _) _ hsame.services
        (.of_eq hsame.journal)
      intro s
      simp only [owned?, hsame.scopes]
    | some owned =>
      have hopen : (h.enrol slot scope manager m topic cleanup).1.owned?
          (h.recordOf manager scope topic cleanup).scope = some owned := by
        rw [henrolled.owned?]
        exact hs
      have htrack := a.track henrolled hs rfl hfresh
      simp only [granted, subscribe_eq hm, settle_of_open hopen] at htrack ⊢
      exact htrack

/-- Every action keeps the ledger, and issues one sid at most. -/
theorem act (a : Ledger h₀ h manager [] given) (hsids : Sid.Distinct manager.index (h.issued manager + 1))
    (action : Action) :
    Ledger h₀ (h.act manager action) manager [] (given ++ h.granted manager action) ∧
      (h.act manager action).issued manager ≤ h.issued manager + 1 := by
  cases action with
  | subscribe slot scope topic cleanup => exact a.subscribe hsids slot scope topic cleanup
  | unsubscribe slot sid topic =>
    have hsame := sameBooks_unsubscribe h manager slot sid topic
    simp only [granted, List.append_nil, Hub.act, hsame.issued, issued_remove]
    exact ⟨(a.remove sid topic).of_sameBooks hsame, Nat.le_succ _⟩
  | finish sid =>
    simp only [granted, List.append_nil, Hub.act, finish_fst, issued_remove]
    exact ⟨a.remove sid none, Nat.le_succ _⟩
  | publish topic message =>
    simp only [granted, List.append_nil, Hub.act, issued_publish]
    exact ⟨a.publish topic message, Nat.le_succ _⟩
  | drop stream =>
    have hsame := sameBooks_dropStream h stream
    simp only [granted, List.append_nil, Hub.act, hsame.issued]
    exact ⟨a.of_sameBooks hsame, Nat.le_succ _⟩
  | close scope =>
    simp only [granted, List.append_nil, Hub.act, issued_closeScope]
    exact ⟨a.closeScope scope, Nat.le_succ _⟩

theorem actAll {actions : List Action} (a : Ledger h₀ h manager [] given)
    (hsids : Sid.Distinct manager.index (h.issued manager + actions.length)) :
    Ledger h₀ (h.actAll manager actions) manager [] (given ++ h.grantedAll manager actions) ∧
      (h.actAll manager actions).issued manager ≤ h.issued manager + actions.length := by
  induction actions generalizing h given with
  | nil =>
    simp only [grantedAll, List.append_nil]
    exact ⟨a, Nat.le_refl _⟩
  | cons action actions ih =>
    rw [List.length_cons] at hsids ⊢
    obtain ⟨hact, hissued⟩ := a.act (hsids.mono (by omega)) action
    obtain ⟨hall, hissuedAll⟩ := ih hact (hsids.mono (by omega))
    rw [List.append_assoc] at hall
    have hrun : h.actAll manager (action :: actions) = (h.act manager action).actAll manager actions := rfl
    refine ⟨hall, ?_⟩
    rw [hrun]
    omega

end Ledger

/-- After any run from an empty table: an open scope tracks the sids of its records and no others, a
closed scope owns no record; of the subscriptions granted each is in the table or has been cleaned up,
once, and no other cleanup has run. A subscription in a closed scope fails, and removing what is
not there does nothing; both leave everything as it was. -/
theorem actAll_consistent {h₀ : Hub} {manager : Ref .manager} (hempty : h₀.records manager = [])
    (hscopes : ∀ scope owned, h₀.owned? scope = some owned → owned = []) (actions : List Action)
    (hsids : Sid.Distinct manager.index (h₀.issued manager + actions.length + 1)) :
    (∀ scope owned, (h₀.actAll manager actions).owned? scope = some owned → ∀ sid,
        sid ∈ owned.map (·.1) ↔
          ∃ r ∈ (h₀.actAll manager actions).records manager, r.sid = sid ∧ r.scope = scope) ∧
      (∀ r ∈ (h₀.actAll manager actions).records manager,
        (h₀.actAll manager actions).isClosed r.scope = false) ∧
      ((h₀.grantedAll manager actions).map (·.sid)).Nodup ∧
      (∃ ended, (ended ++ (h₀.actAll manager actions).records manager).Perm (h₀.grantedAll manager actions) ∧
        CleanedUp h₀ (h₀.actAll manager actions) ended ∧
        ∀ label, (h₀.actAll manager actions).journal.count (.cleaned label) =
          h₀.journal.count (.cleaned label) + ended.countP fun r => r.cleanup = some (.report label)) ∧
      (∀ slot scope topic cleanup, (h₀.actAll manager actions).isClosed scope = true →
        ((h₀.actAll manager actions).subscribe slot scope manager topic cleanup).2.2 =
            .error sessionClosed ∧
          SameSubscriptions manager (h₀.actAll manager actions)
            ((h₀.actAll manager actions).subscribe slot scope manager topic cleanup).1) ∧
      ∀ slot sid topic,
        (∀ r ∈ (h₀.actAll manager actions).records manager, r.sid = sid → ∃ t ∈ topic, r.topic ≠ t) →
          ((h₀.actAll manager actions).unsubscribe slot manager sid topic).2.2 = false ∧
            SameBooks (h₀.actAll manager actions)
              ((h₀.actAll manager actions).unsubscribe slot manager sid topic).1 := by
  obtain ⟨a, hissued⟩ := (Ledger.start hempty hscopes).actAll
    (hsids.mono (Nat.le_succ (h₀.issued manager + actions.length)))
  rw [List.nil_append] at a
  replace hsids := hsids.mono (Nat.succ_le_succ hissued)
  generalize h₀.actAll manager actions = h at *
  generalize h₀.grantedAll manager actions = given at *
  refine ⟨a.tracked, ?_, a.distinct, ?_, ?_, ?_⟩
  · intro r hr
    have hopen := mt (a.owner r hr).1 List.not_mem_nil
    rw [isClosed_eq]
    cases hs : h.owned? r.scope with
    | none => exact absurd hs hopen
    | some owned => rfl
  · obtain ⟨ended, hperm, hcleaned⟩ := a.cleaned
    exact ⟨ended, hperm, hcleaned, hcleaned.count⟩
  · intro slot scope topic cleanup hclosed
    rw [isClosed_eq, Option.isNone_iff_eq_none] at hclosed
    cases hm : h.managers.get? manager with
    | none =>
      have hsubscribe : h.subscribe slot scope manager topic cleanup = (h, slot, .error sessionClosed) := by
        unfold subscribe
        rw [hm]
      rw [hsubscribe]
      exact ⟨rfl, rfl, rfl, rfl, rfl⟩
    | some m =>
      apply subscribe_of_closed hm hclosed slot topic cleanup
      intro q hq
      exact a.fresh hsids scope topic cleanup q (a.mem_granted hq)
  · intro slot sid topic hno
    have hremove := remove_of_mismatch hno
    have hsame := sameBooks_unsubscribe h manager slot sid topic
    refine ⟨?_, ?_⟩
    · show (h.remove manager sid topic).2 = false
      rw [hremove]
    · rwa [hremove] at hsame

/-- A hub with an empty table and two open scopes. -/
def twoScopes : Hub where
  scopes := ⟨#[{}, {}]⟩
  managers := ⟨#[{}]⟩

/-- Each scope subscribes, and the first is closed. -/
def closeFirst : List Action :=
  [.subscribe {} ⟨0⟩ "a" (some (.report "first")), .subscribe {} ⟨1⟩ "b" (some (.report "second")),
    .close ⟨0⟩]

theorem first_cleaned_once :
    ((twoScopes.actAll ⟨0⟩ closeFirst).records ⟨0⟩).map (·.topic) = ["b"] ∧
      (twoScopes.actAll ⟨0⟩ closeFirst).journal.count (.cleaned "first") = 1 := by
  have hempty : twoScopes.records ⟨0⟩ = [] := rfl
  have hscopes : ∀ scope owned, twoScopes.owned? scope = some owned → owned = [] := by
    apply owned_eq_nil_of_new
    intro scope s hs
    have hmem := Array.mem_of_getElem? hs
    simpa [twoScopes] using hmem
  obtain ⟨-, -, -, ⟨ended, hperm, -, hcount⟩, -⟩ :=
    actAll_consistent hempty hscopes closeFirst (Sid.distinct_of_lt (by decide))
  have hgranted : ((twoScopes.grantedAll ⟨0⟩ closeFirst).countP
      fun r => r.cleanup = some (.report "first")) = 1 := by
    decide +kernel
  have hopen : (((twoScopes.actAll ⟨0⟩ closeFirst).records ⟨0⟩).countP
      fun r => r.cleanup = some (.report "first")) = 0 := by
    decide +kernel
  refine ⟨by decide +kernel, ?_⟩
  rw [hcount, ← hgranted, ← hperm.countP_eq, List.countP_append, hopen]
  exact Nat.zero_add _

end Hub

end Exchange
