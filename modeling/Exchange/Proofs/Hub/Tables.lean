-- SUMMARY: What the atomic operations do to the table, the scopes and the cleanups that have run.
import Exchange.Proofs.Hub.Frames

/-!
# Tables step by step

Each atomic operation of the hub in terms of the views: a record enters the
table (`enrol`) or leaves it (`erased`), a sid is tracked or forgotten, a scope
is closed. `Hub.CleanedUp` accounts for cleanups: services and journal are what
they would be had the cleanups of a list of records run, each once.
-/

namespace Exchange

theorem Journal.sortFrom_perm (n : Nat) (j : Journal) : (j.sortFrom n).Perm j := by
  unfold sortFrom sorted
  have hsorted := (List.mergeSort_perm (j.drop n) fun a b => !decide (b.text < a.text)).append_left (j.take n)
  rwa [List.take_append_drop] at hsorted

namespace Hub

/-! ## Records with distinct sids -/

section Distinct

variable {rs : List Record}

theorem eq_of_sid (hd : (rs.map (·.sid)).Nodup) {r q : Record} (hr : r ∈ rs) (hq : q ∈ rs)
    (hsid : r.sid = q.sid) : r = q := by
  induction rs with
  | nil => cases hr
  | cons p rs ih =>
    obtain ⟨hp, hrest⟩ := List.nodup_cons.1 hd
    rcases List.mem_cons.1 hr with rfl | hr'
    · rcases List.mem_cons.1 hq with rfl | hq'
      · rfl
      · exact absurd (List.mem_map.2 ⟨q, hq', hsid.symm⟩) hp
    · rcases List.mem_cons.1 hq with rfl | hq'
      · exact absurd (List.mem_map.2 ⟨r, hr', hsid⟩) hp
      · exact ih hrest hr' hq'

theorem filter_sid_eq_self {sid : Sid} (h : ∀ r ∈ rs, r.sid ≠ sid) :
    (rs.filter fun r => r.sid ≠ sid) = rs := by
  apply List.filter_eq_self.2
  intro r hr
  simpa using h r hr

theorem perm_cons_filter_sid (hd : (rs.map (·.sid)).Nodup) {r : Record} (hr : r ∈ rs) :
    rs.Perm (r :: rs.filter fun q => q.sid ≠ r.sid) := by
  induction rs with
  | nil => cases hr
  | cons p rs ih =>
    obtain ⟨hp, hd⟩ := List.nodup_cons.1 hd
    rcases List.mem_cons.1 hr with rfl | hr
    · have hrest : (rs.filter fun q => q.sid ≠ r.sid) = rs := by
        apply filter_sid_eq_self
        intro q hq hsid
        exact hp (List.mem_map.2 ⟨q, hq, hsid⟩)
      rw [List.filter_cons_of_neg (by simp), hrest]
    · have hne : p.sid ≠ r.sid := by
        intro hsid
        exact hp (List.mem_map.2 ⟨r, hr, hsid.symm⟩)
      rw [List.filter_cons_of_pos (by simpa using hne)]
      exact ((ih hd hr).cons p).trans (.swap r p _)

end Distinct

/-! ## The table -/

/-- The hub without the record of a sid. -/
def erased (h : Hub) (manager : Ref .manager) (sid : Sid) : Hub :=
  { h with managers := h.managers.modify manager (·.erase sid) }

section Erased

variable (h : Hub) (manager : Ref .manager) (sid : Sid)

@[simp] theorem records_erased :
    (h.erased manager sid).records manager = (h.records manager).filter fun r => r.sid ≠ sid := by
  unfold erased records
  rw [Store.get?_modify_self]
  cases h.managers.get? manager <;> rfl

theorem records_erased_of_ne {other : Ref .manager} (hother : other ≠ manager) :
    (h.erased manager sid).records other = h.records other := by
  simp only [erased, records, Store.get?_modify_of_ne _ hother]

@[simp] theorem issued_erased (other : Ref .manager) : (h.erased manager sid).issued other = h.issued other := by
  unfold erased issued
  by_cases hother : other = manager
  · rw [hother, Store.get?_modify_self]
    cases h.managers.get? manager <;> rfl
  · rw [Store.get?_modify_of_ne _ hother]

@[simp] theorem hosts_erased (other : Ref .manager) : (h.erased manager sid).hosts other = h.hosts other := by
  unfold erased hosts
  by_cases hother : other = manager
  · rw [hother, Store.get?_modify_self, Option.isSome_map]
  · rw [Store.get?_modify_of_ne _ hother]

@[simp] theorem owned?_erased (scope : Ref .scope) :
    (h.erased manager sid).owned? scope = h.owned? scope := rfl

@[simp] theorem reading?_erased (c : Ref .channel) :
    (h.erased manager sid).reading? c = h.reading? c := rfl

end Erased

section TakeRecord

variable {h : Hub} {manager : Ref .manager} {sid : Sid} {topic : Option String}

/-- Either a record with the sid and the topic is taken out, or the first record with the sid is of another topic. -/
theorem takeRecord_cases (h : Hub) (manager : Ref .manager) (sid : Sid) (topic : Option String) :
    (∃ r ∈ h.records manager, r.sid = sid ∧ (∀ t ∈ topic, r.topic = t) ∧
        h.takeRecord manager sid topic = (h.erased manager sid, some r)) ∨
      h.takeRecord manager sid topic = (h, none) ∧
        ∀ r, (h.records manager).find? (fun r => r.sid = sid) = some r → ∃ t ∈ topic, r.topic ≠ t := by
  unfold takeRecord records
  cases hm : h.managers.get? manager with
  | none =>
    right
    refine ⟨rfl, ?_⟩
    intro r hr
    cases hr
  | some m =>
    simp only [Option.bind_some, Option.map_some, Option.getD_some, Manager.select?, Manager.find?]
    cases hfind : m.records.find? fun r => r.sid = sid with
    | none =>
      right
      refine ⟨rfl, ?_⟩
      intro r hr
      cases hr
    | some r =>
      have hsid : r.sid = sid := by simpa using List.find?_some hfind
      by_cases htopic : topic.all (r.topic = ·) = true
      · left
        refine ⟨r, List.mem_of_find?_eq_some hfind, hsid, ?_, ?_⟩
        · intro t ht
          simpa [Option.mem_def.1 ht] using htopic
        · simp only [Option.filter_some, htopic, if_true]
          rfl
      · right
        simp only [Option.filter_some, htopic, Bool.false_eq_true, if_false]
        refine ⟨trivial, ?_⟩
        intro r' hr'
        cases hr'
        cases topic with
        | none => exact absurd rfl htopic
        | some t => exact ⟨t, rfl, by simpa using htopic⟩

@[simp] theorem issued_takeRecord (other : Ref .manager) :
    (h.takeRecord manager sid topic).1.issued other = h.issued other := by
  rcases takeRecord_cases h manager sid topic with ⟨r, -, -, -, htake⟩ | ⟨htake, -⟩
  · rw [htake, issued_erased]
  · rw [htake]

@[simp] theorem hosts_takeRecord (other : Ref .manager) :
    (h.takeRecord manager sid topic).1.hosts other = h.hosts other := by
  rcases takeRecord_cases h manager sid topic with ⟨r, -, -, -, htake⟩ | ⟨htake, -⟩
  · rw [htake, hosts_erased]
  · rw [htake]

/-- Without a topic only the sid decides. -/
theorem takeRecord_none_cases (h : Hub) (manager : Ref .manager) (sid : Sid) :
    (∃ r ∈ h.records manager, r.sid = sid ∧ h.takeRecord manager sid none = (h.erased manager sid, some r)) ∨
      h.takeRecord manager sid none = (h, none) ∧ ∀ r ∈ h.records manager, r.sid ≠ sid := by
  rcases takeRecord_cases h manager sid none with ⟨r, hr, hsid, -, htake⟩ | ⟨htake, hfind⟩
  · exact .inl ⟨r, hr, hsid, htake⟩
  · right
    refine ⟨htake, ?_⟩
    intro r hr hsid
    cases hget : (h.records manager).find? fun r => r.sid = sid with
    | none => exact absurd hsid (by simpa using List.find?_eq_none.1 hget r hr)
    | some r' =>
      obtain ⟨t, ht, -⟩ := hfind r' hget
      cases ht

end TakeRecord

section

variable (h : Hub) (manager : Ref .manager) (sid : Sid)

theorem records_takeRecord :
    (h.takeRecord manager sid none).1.records manager = (h.records manager).filter fun r => r.sid ≠ sid := by
  rcases takeRecord_none_cases h manager sid with ⟨r, -, -, htake⟩ | ⟨htake, hno⟩
  · rw [htake, records_erased]
  · rw [htake, filter_sid_eq_self hno]

/-- Only managers may differ. -/
structure SameButManagers (h h' : Hub) : Prop where
  channels : h'.channels = h.channels
  scopes : h'.scopes = h.scopes
  services : h'.services = h.services
  journal : h'.journal = h.journal

theorem sameButManagers_takeRecord (topic : Option String) :
    SameButManagers h (h.takeRecord manager sid topic).1 := by
  rcases takeRecord_cases h manager sid topic with ⟨r, -, -, -, htake⟩ | ⟨htake, -⟩
  · rw [htake]
    exact ⟨rfl, rfl, rfl, rfl⟩
  · rw [htake]
    exact ⟨rfl, rfl, rfl, rfl⟩

@[simp] theorem reading?_takeRecord (topic : Option String) (c : Ref .channel) :
    (h.takeRecord manager sid topic).1.reading? c = h.reading? c := by
  simp only [reading?, (sameButManagers_takeRecord h manager sid topic).channels]

end

/-! ## Scopes -/

/-- The hub with what a scope tracks changed. -/
def rescoped (h : Hub) (scope : Ref .scope) (f : Scope → Scope) : Hub :=
  { h with scopes := h.scopes.modify scope f }

section Scopes

variable (h : Hub) (scope : Ref .scope)

@[simp] theorem records_rescoped (f : Scope → Scope) (manager : Ref .manager) :
    (h.rescoped scope f).records manager = h.records manager := rfl

@[simp] theorem issued_rescoped (f : Scope → Scope) (manager : Ref .manager) :
    (h.rescoped scope f).issued manager = h.issued manager := rfl

@[simp] theorem hosts_rescoped (f : Scope → Scope) (manager : Ref .manager) :
    (h.rescoped scope f).hosts manager = h.hosts manager := rfl

@[simp] theorem reading?_rescoped (f : Scope → Scope) (c : Ref .channel) :
    (h.rescoped scope f).reading? c = h.reading? c := rfl

theorem owned?_rescoped_of_ne (f : Scope → Scope) {s : Ref .scope} (hs : s ≠ scope) :
    (h.rescoped scope f).owned? s = h.owned? s := by
  simp only [rescoped, owned?, Store.get?_modify_of_ne f hs]

theorem owned?_rescoped_self (f : Scope → Scope) :
    (h.rescoped scope f).owned? scope = (h.scopes.get? scope).bind fun s => (f s).owned := by
  simp only [rescoped, owned?, Store.get?_modify_self, Option.bind_map]
  rfl

theorem untrack_eq (sid : Sid) :
    (h.untrack scope sid).1 = h.rescoped scope fun s => (s.untrack sid).1 := by
  unfold untrack rescoped
  cases hs : h.scopes.get? scope with
  | none => rw [Store.modify_of_get?_none hs]
  | some s =>
    have hset : h.scopes.set scope (s.untrack sid).1 = h.scopes.modify scope fun s => (s.untrack sid).1 := by
      apply Store.modify_congr
      intro a ha
      rw [hs] at ha
      cases ha
      rfl
    rw [← hset]

theorem takeScope_eq :
    h.takeScope scope = (h.rescoped scope fun s => s.close.1, (h.owned? scope).getD []) := by
  unfold takeScope rescoped owned?
  cases hs : h.scopes.get? scope with
  | none => simp [Store.modify_of_get?_none hs]
  | some s => rfl

theorem track?_eq_none {sid : Sid} {release : Release} (hs : h.owned? scope = none) :
    h.track? scope sid release = none := by
  unfold owned? at hs
  unfold track? Scope.track?
  cases hget : h.scopes.get? scope with
  | none => rfl
  | some s =>
    rw [hget] at hs
    have hclosed : s.owned = none := hs
    simp [hclosed]

theorem track?_eq_some {sid : Sid} {release : Release} {owned : List (Sid × Release)}
    (hs : h.owned? scope = some owned) :
    h.track? scope sid release =
      some (h.rescoped scope fun _ => ⟨some (Scope.put sid release owned)⟩) := by
  unfold owned? at hs
  unfold track? Scope.track?
  cases hget : h.scopes.get? scope with
  | none =>
    rw [hget] at hs
    cases hs
  | some s =>
    rw [hget] at hs
    have hopen : s.owned = some owned := hs
    simp [hopen, rescoped, Store.set]

theorem owned?_rescoped_open {tracked owned : List (Sid × Release)} (hs : h.owned? scope = some tracked) :
    (h.rescoped scope fun _ => ⟨some owned⟩).owned? scope = some owned := by
  rw [owned?_rescoped_self]
  unfold owned? at hs
  cases hget : h.scopes.get? scope with
  | none =>
    rw [hget] at hs
    cases hs
  | some s => rfl

/-- Once a scope tracks one more sid, that sid is all that is new. -/
theorem owned?_rescoped_append {owned : List (Sid × Release)} (hopen : h.owned? scope = some owned)
    (p q : Sid × Release) (s : Ref .scope) :
    (∃ tracked, (h.rescoped scope fun _ => ⟨some (owned ++ [p])⟩).owned? s = some tracked ∧ q ∈ tracked) ↔
      (∃ tracked, h.owned? s = some tracked ∧ q ∈ tracked) ∨ s = scope ∧ q = p := by
  by_cases hs : s = scope
  · subst hs
    simp [owned?_rescoped_open h s hopen, hopen]
  · simp [owned?_rescoped_of_ne h scope _ hs, hs]

theorem owned?_untrack_self (sid : Sid) :
    (h.untrack scope sid).1.owned? scope =
      (h.owned? scope).map fun owned => owned.filter fun p => p.1 ≠ sid := by
  rw [untrack_eq, owned?_rescoped_self, owned?]
  cases h.scopes.get? scope <;> rfl

theorem owned?_untrack_of_ne (sid : Sid) {s : Ref .scope} (hs : s ≠ scope) :
    (h.untrack scope sid).1.owned? s = h.owned? s := by
  rw [untrack_eq, owned?_rescoped_of_ne h scope _ hs]

theorem owned?_takeScope_self : (h.takeScope scope).1.owned? scope = none := by
  rw [takeScope_eq, owned?_rescoped_self]
  cases h.scopes.get? scope <;> rfl

theorem owned?_takeScope_of_ne {s : Ref .scope} (hs : s ≠ scope) :
    (h.takeScope scope).1.owned? s = h.owned? s := by
  rw [takeScope_eq, owned?_rescoped_of_ne h scope _ hs]

end Scopes

/-- A sid that is not tracked as yet is put last. -/
theorem put_of_not_tracked {sid : Sid} {release : Release} {owned : List (Sid × Release)}
    (h : ∀ p ∈ owned, p.1 ≠ sid) : Scope.put sid release owned = owned ++ [(sid, release)] := by
  induction owned with
  | nil => rfl
  | cons p owned ih =>
    obtain ⟨hp, howned⟩ := List.forall_mem_cons.1 h
    simp only [Scope.put, if_neg hp, ih howned, List.cons_append]

theorem mem_put_self (sid : Sid) (release : Release) (owned : List (Sid × Release)) :
    (sid, release) ∈ Scope.put sid release owned := by
  induction owned with
  | nil => exact List.mem_singleton_self _
  | cons p owned ih =>
    unfold Scope.put
    split
    · exact List.mem_cons_self
    · exact List.mem_cons_of_mem _ ih

theorem mem_put_of_ne {sid : Sid} {release : Release} {owned : List (Sid × Release)} {p : Sid × Release}
    (hp : p ∈ owned) (hne : p.1 ≠ sid) : p ∈ Scope.put sid release owned := by
  induction owned with
  | nil => cases hp
  | cons q owned ih =>
    unfold Scope.put
    rcases List.mem_cons.1 hp with rfl | hp
    · rw [if_neg hne]
      exact List.mem_cons_self
    · split
      · exact List.mem_cons_of_mem _ hp
      · exact List.mem_cons_of_mem _ (ih hp)

/-! ## Cleanups -/

/-- The hub after the cleanups of records, one after the other. -/
def cleanUp (h : Hub) (rs : List Record) : Hub :=
  rs.foldl (fun h r => h.runCleanup r.cleanup) h

/-- Services and journal are as if the cleanups of records had run, each once and nothing else. -/
structure CleanedUp (h₀ h : Hub) (rs : List Record) : Prop where
  services : h.services = (h₀.cleanUp rs).services
  journal : h.journal.Perm (h₀.cleanUp rs).journal

/-- A cleanup depends on services only, and adds to the journal. -/
theorem runCleanup_congr {h g : Hub} (c : Option Cleanup) (hservices : h.services = g.services)
    (hjournal : h.journal.Perm g.journal) :
    (h.runCleanup c).services = (g.runCleanup c).services ∧
      (h.runCleanup c).journal.Perm (g.runCleanup c).journal := by
  unfold runCleanup
  split
  · exact ⟨hservices, hjournal⟩
  · exact ⟨hservices, hjournal.append_right _⟩
  · unfold leaveService deactivate
    rw [hservices]
    split
    · exact ⟨hservices, hjournal⟩
    · dsimp only
      split
      · split
        · exact ⟨rfl, hjournal⟩
        · exact ⟨rfl, hjournal.append_right _⟩
      · exact ⟨rfl, hjournal⟩

/-- A cleanup adds an entry of its own to the journal just when it is to report. -/
theorem count_runCleanup (h : Hub) (c : Option Cleanup) (label : String) :
    (h.runCleanup c).journal.count (.cleaned label) =
      h.journal.count (.cleaned label) + if c = some (.report label) then 1 else 0 := by
  unfold runCleanup
  split
  · simp
  · rename_i other
    simp only [note, List.count_append, List.count_singleton, Option.some.injEq, Cleanup.report.injEq]
    by_cases hlabel : other = label <;> simp [hlabel]
  · unfold leaveService deactivate
    split
    · simp
    · dsimp only
      split
      · split <;> simp [note]
      · simp

theorem count_cleanUp (h : Hub) (rs : List Record) (label : String) :
    (h.cleanUp rs).journal.count (.cleaned label) =
      h.journal.count (.cleaned label) + rs.countP fun r => r.cleanup = some (.report label) := by
  induction rs generalizing h with
  | nil => rfl
  | cons r rs ih =>
    show ((h.runCleanup r.cleanup).cleanUp rs).journal.count _ = _
    rw [ih, count_runCleanup, List.countP_cons, Nat.add_assoc, Nat.add_comm (ite _ _ _)]
    simp

namespace CleanedUp

variable {h₀ h h' : Hub} {rs : List Record}

theorem start (h : Hub) : CleanedUp h h [] :=
  ⟨rfl, .refl _⟩

theorem of_eq (a : CleanedUp h₀ h rs) (hservices : h'.services = h.services)
    (hjournal : h'.journal.Perm h.journal) : CleanedUp h₀ h' rs where
  services := hservices.trans a.services
  journal := hjournal.trans a.journal

theorem run (a : CleanedUp h₀ h rs) (r : Record) : CleanedUp h₀ (h.runCleanup r.cleanup) (rs ++ [r]) := by
  obtain ⟨hservices, hjournal⟩ := runCleanup_congr r.cleanup a.services a.journal
  have hcleanUp : h₀.cleanUp (rs ++ [r]) = (h₀.cleanUp rs).runCleanup r.cleanup := by
    simp [cleanUp]
  constructor
  · rw [hcleanUp, hservices]
  · rw [hcleanUp]
    exact hjournal

/-- What is reported is reported as often as records with that label have been cleaned up. -/
theorem count (a : CleanedUp h₀ h rs) (label : String) :
    h.journal.count (.cleaned label) =
      h₀.journal.count (.cleaned label) + rs.countP fun r => r.cleanup = some (.report label) := by
  rw [a.journal.count_eq, count_cleanUp]

end CleanedUp

/-! ## Retiring -/

section Retire

variable (h : Hub) (r : Record)

@[simp] theorem records_retire (manager : Ref .manager) : (h.retire r).records manager = h.records manager := by
  simp only [records, retire, dropSink, (sameTables_runCleanup h r.cleanup).managers]

@[simp] theorem issued_retire (manager : Ref .manager) : (h.retire r).issued manager = h.issued manager := by
  simp only [issued, retire, dropSink, (sameTables_runCleanup h r.cleanup).managers]

@[simp] theorem hosts_retire (manager : Ref .manager) : (h.retire r).hosts manager = h.hosts manager := by
  simp only [hosts, retire, dropSink, (sameTables_runCleanup h r.cleanup).managers]

@[simp] theorem owned?_retire (scope : Ref .scope) : (h.retire r).owned? scope = h.owned? scope := by
  simp only [owned?, retire, dropSink, (sameTables_runCleanup h r.cleanup).scopes]

@[simp] theorem reading?_retire (c : Ref .channel) : (h.retire r).reading? c = h.reading? c := by
  rw [retire, reading?_dropSink, reading?, (sameTables_runCleanup h r.cleanup).channels, reading?]

theorem CleanedUp.retire {h₀ h : Hub} {rs : List Record} (a : CleanedUp h₀ h rs) (r : Record) :
    CleanedUp h₀ (h.retire r) (rs ++ [r]) :=
  (a.run r).of_eq rfl (.refl _)

end Retire

/-! ## Removing -/

/-- Either a record with the sid and the topic leaves the table, the scope and then the stream, or nothing changes. -/
theorem remove_cases (h : Hub) (manager : Ref .manager) (sid : Sid) (topic : Option String) :
    (∃ r ∈ h.records manager, r.sid = sid ∧ (∀ t ∈ topic, r.topic = t) ∧
        h.remove manager sid topic = ((((h.erased manager sid).untrack r.scope sid).1).retire r, true)) ∨
      h.remove manager sid topic = (h, false) := by
  unfold remove
  rcases takeRecord_cases h manager sid topic with ⟨r, hr, hsid, htopic, htake⟩ | ⟨htake, -⟩
  · exact .inl ⟨r, hr, hsid, htopic, by rw [htake]⟩
  · exact .inr (by rw [htake])

theorem remove_of_mismatch {h : Hub} {manager : Ref .manager} {sid : Sid} {topic : Option String}
    (hno : ∀ r ∈ h.records manager, r.sid = sid → ∃ t ∈ topic, r.topic ≠ t) :
    h.remove manager sid topic = (h, false) := by
  rcases remove_cases h manager sid topic with ⟨r, hr, hsid, htopic, -⟩ | hremove
  · obtain ⟨t, ht, hne⟩ := hno r hr hsid
    exact absurd (htopic t ht) hne
  · exact hremove

/-! ## Subscribing -/

/-- The first half of a subscription: the stream is open, and the record is in the table of `m`. -/
def enrol (h : Hub) (slot : Slot) (scope : Ref .scope) (manager : Ref .manager) (m : Manager)
    (topic : String) (cleanup : Option Cleanup) : Hub × Slot × Record :=
  let (m, n) := m.issue
  let sid := Sid.nth manager.index n
  let (h, slot, sink) := h.openStream slot
  let (h, _) := h.send sink (.subscribed sid topic)
  let r : Record := { sid, topic, sink, scope, cleanup }
  ({ h with managers := h.managers.set manager (m.insert r) }, slot, r)

/-- The second half: the sid is tracked, or the record leaves the table again. -/
def settle (h : Hub) (manager : Ref .manager) (r : Record) : Hub × Except Failure Sid :=
  match h.track? r.scope r.sid (.forget manager) with
  | some h => (h, .ok r.sid)
  | none => (((h.takeRecord manager r.sid none).1).dropSink r.sink, .error sessionClosed)

section Enrol

variable {h : Hub} {manager : Ref .manager} {m : Manager}

variable (hm : h.managers.get? manager = some m) (slot : Slot) (scope : Ref .scope) (topic : String)
  (cleanup : Option Cleanup)

@[simp] theorem reading?_enrol (c : Ref .channel) :
    (h.enrol slot scope manager m topic cleanup).1.reading? c = (h.openStream slot).1.reading? c :=
  reading?_send _ c _ _

/-- The record that a subscription adds. -/
def recordOf (h : Hub) (manager : Ref .manager) (scope : Ref .scope) (topic : String)
    (cleanup : Option Cleanup) : Record where
  sid := Sid.nth manager.index (h.issued manager + 1)
  topic := topic
  sink := h.channels.next
  scope := scope
  cleanup := cleanup

/-- What the first half of a subscription does but for channels: a record is added, and a sid counted. -/
structure Enrolled (h : Hub) (manager : Ref .manager) (h' : Hub) (r : Record) : Prop where
  records : h'.records manager = h.records manager ++ [r]
  issued : h'.issued manager = h.issued manager + 1
  scopes : h'.scopes = h.scopes
  services : h'.services = h.services
  journal : h'.journal = h.journal

/-- A subscription touches its own manager only. -/
theorem managers_enrol_of_ne {other : Ref .manager} (hother : other ≠ manager) :
    (h.enrol slot scope manager m topic cleanup).1.managers.get? other = h.managers.get? other := by
  have hbooks : SameBooks h (((h.openStream slot).1.send (h.openStream slot).2.2
      (.subscribed (Sid.nth manager.index (m.issued + 1)) topic)).1) :=
    (sameBooks_openStream h slot).trans (sameBooks_send _ _ _)
  rw [← hbooks.managers]
  exact Store.get?_modify_of_ne _ hother

theorem Enrolled.owned? {h h' : Hub} {manager : Ref .manager} {r : Record} (a : Enrolled h manager h' r)
    (scope : Ref .scope) : h'.owned? scope = h.owned? scope := by
  simp only [Hub.owned?, a.scopes]

include hm

theorem enrol_record :
    (h.enrol slot scope manager m topic cleanup).2.2 = h.recordOf manager scope topic cleanup := by
  rw [recordOf, issued_eq hm]
  rfl

/-- A subscription is its two halves, one after the other. -/
theorem subscribe_eq :
    h.subscribe slot scope manager topic cleanup =
      (((h.enrol slot scope manager m topic cleanup).1.settle manager (h.recordOf manager scope topic cleanup)).1,
        (h.enrol slot scope manager m topic cleanup).2.1,
        ((h.enrol slot scope manager m topic cleanup).1.settle manager (h.recordOf manager scope topic cleanup)).2) := by
  have hsettle (e : Hub × Slot × Record) :
      (match e.1.track? e.2.2.scope e.2.2.sid (.forget manager) with
        | some h => (h, e.2.1, .ok e.2.2.sid)
        | none => (((e.1.takeRecord manager e.2.2.sid none).1).dropSink e.2.2.sink, e.2.1,
            .error sessionClosed)) =
        ((e.1.settle manager e.2.2).1, e.2.1, (e.1.settle manager e.2.2).2) := by
    unfold settle
    cases e.1.track? e.2.2.scope e.2.2.sid (.forget manager) <;> rfl
  rw [← enrol_record hm slot scope topic cleanup]
  unfold subscribe
  rw [hm]
  exact hsettle (h.enrol slot scope manager m topic cleanup)

theorem managers_enrol :
    (h.enrol slot scope manager m topic cleanup).1.managers.get? manager =
      some { records := m.records ++ [h.recordOf manager scope topic cleanup], issued := m.issued + 1 } := by
  have hbooks : SameBooks h (((h.openStream slot).1.send (h.openStream slot).2.2
      (.subscribed (Sid.nth manager.index (m.issued + 1)) topic)).1) :=
    (sameBooks_openStream h slot).trans (sameBooks_send _ _ _)
  have hget := hm
  rw [← hbooks.managers] at hget
  rw [recordOf, issued_eq hm]
  exact Store.get?_set_self hget _

theorem enrolled :
    Enrolled h manager (h.enrol slot scope manager m topic cleanup).1 (h.recordOf manager scope topic cleanup) := by
  have hmanagers := managers_enrol hm slot scope topic cleanup
  have hbooks : SameBooks h (((h.openStream slot).1.send (h.openStream slot).2.2
      (.subscribed (Sid.nth manager.index (m.issued + 1)) topic)).1) :=
    (sameBooks_openStream h slot).trans (sameBooks_send _ _ _)
  refine ⟨?_, ?_, hbooks.scopes, hbooks.services, hbooks.journal⟩
  · rw [records_eq hmanagers, records_eq hm]
  · rw [issued_eq hmanagers, issued_eq hm]

end Enrol

section Settle

variable {h : Hub} {manager : Ref .manager} {r : Record}

theorem settle_of_open {owned : List (Sid × Release)} (hs : h.owned? r.scope = some owned) :
    h.settle manager r =
      (h.rescoped r.scope fun _ => ⟨some (Scope.put r.sid (.forget manager) owned)⟩, .ok r.sid) := by
  unfold settle
  rw [track?_eq_some h r.scope hs]

theorem settle_of_closed (hs : h.owned? r.scope = none) :
    h.settle manager r = (((h.takeRecord manager r.sid none).1).dropSink r.sink, .error sessionClosed) := by
  unfold settle
  rw [track?_eq_none h r.scope hs]

@[simp] theorem issued_settle (other : Ref .manager) : (h.settle manager r).1.issued other = h.issued other := by
  cases hs : h.owned? r.scope with
  | none =>
    rw [settle_of_closed hs]
    exact issued_takeRecord other
  | some owned => rw [settle_of_open hs, issued_rescoped]

/-- The records of a manager, scopes, services and journal are the same. -/
structure SameSubscriptions (manager : Ref .manager) (h h' : Hub) : Prop where
  records : h'.records manager = h.records manager
  scopes : h'.scopes = h.scopes
  services : h'.services = h.services
  journal : h'.journal = h.journal

/-- A record that was added and is taken out again leaves nothing behind. -/
theorem Enrolled.takeRecord {h' : Hub} (a : Enrolled h manager h' r)
    (hfresh : ∀ q ∈ h.records manager, q.sid ≠ r.sid) :
    SameSubscriptions manager h (((h'.takeRecord manager r.sid none).1).dropSink r.sink) := by
  have hrest := sameButManagers_takeRecord h' manager r.sid none
  refine ⟨?_, hrest.scopes.trans a.scopes, hrest.services.trans a.services, hrest.journal.trans a.journal⟩
  show (h'.takeRecord manager r.sid none).1.records manager = _
  rw [records_takeRecord, a.records, List.filter_append, filter_sid_eq_self hfresh]
  simp

/-- A subscription whose scope is closed fails and leaves table and scopes as they were. -/
theorem subscribe_of_closed {m : Manager} (hm : h.managers.get? manager = some m) {scope : Ref .scope}
    (hclosed : h.owned? scope = none) (slot : Slot) (topic : String) (cleanup : Option Cleanup)
    (hfresh : ∀ q ∈ h.records manager, q.sid ≠ (h.recordOf manager scope topic cleanup).sid) :
    (h.subscribe slot scope manager topic cleanup).2.2 = .error sessionClosed ∧
      SameSubscriptions manager h (h.subscribe slot scope manager topic cleanup).1 := by
  have henrolled := enrolled hm slot scope topic cleanup
  have hstill : (h.enrol slot scope manager m topic cleanup).1.owned?
      (h.recordOf manager scope topic cleanup).scope = none := by
    rw [henrolled.owned?]
    exact hclosed
  rw [subscribe_eq hm, settle_of_closed hstill]
  exact ⟨rfl, henrolled.takeRecord hfresh⟩

/-- A subscription fails and leaves everything as it was, or its record is in the table and tracked. -/
theorem subscribe_cases (h : Hub) (manager : Ref .manager) (slot : Slot) (scope : Ref .scope) (topic : String)
    (cleanup : Option Cleanup)
    (hfresh : ∀ q ∈ h.records manager, q.sid ≠ (h.recordOf manager scope topic cleanup).sid) :
    ((h.subscribe slot scope manager topic cleanup).2.2 = .error sessionClosed ∧
        SameSubscriptions manager h (h.subscribe slot scope manager topic cleanup).1) ∨
      (h.subscribe slot scope manager topic cleanup).2.2 = .ok (h.recordOf manager scope topic cleanup).sid ∧
        ∃ h' f, Enrolled h manager h' (h.recordOf manager scope topic cleanup) ∧
          (h.subscribe slot scope manager topic cleanup).1 = h'.rescoped scope f := by
  cases hm : h.managers.get? manager with
  | none =>
    left
    have hsubscribe : h.subscribe slot scope manager topic cleanup = (h, slot, .error sessionClosed) := by
      unfold subscribe
      rw [hm]
    rw [hsubscribe]
    exact ⟨rfl, rfl, rfl, rfl, rfl⟩
  | some m =>
    cases hs : h.owned? scope with
    | none => exact .inl (subscribe_of_closed hm hs slot topic cleanup hfresh)
    | some owned =>
      right
      have henrolled := enrolled hm slot scope topic cleanup
      have hopen : (h.enrol slot scope manager m topic cleanup).1.owned?
          (h.recordOf manager scope topic cleanup).scope = some owned := by
        rw [henrolled.owned?]
        exact hs
      rw [subscribe_eq hm, settle_of_open hopen]
      exact ⟨rfl, _, _, henrolled, rfl⟩

end Settle

end Hub

end Exchange
