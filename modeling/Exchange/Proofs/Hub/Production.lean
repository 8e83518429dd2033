-- SUMMARY: How services count their subscribers in and out, and what their hooks tell the journal.
import Exchange.Proofs.Data.Members
import Exchange.Proofs.Hub.Publishing
import Mathlib.Data.List.Infix

/-!
# Production

A service holds the number of subscribers for each topic that has some, and
produces for just these topics. Cleanups count subscribers out; how far they
take a count down, and when they stop production, depends only on how many of
them are the service's own (`count?_cleanUp`, `hooks_cleanUp`).
-/

namespace Exchange

/-! ## Hooks -/

namespace Journal

/-- How a service's hooks were called for a topic: `true` where production started. -/
def hooks (name topic : String) (j : Journal) : List Bool :=
  j.filterMap fun
    | .activated n t _ => if n = name ∧ t = topic then some true else none
    | .deactivated n t => if n = name ∧ t = topic then some false else none
    | _ => none

@[simp] theorem hooks_append (name topic : String) (j j' : Journal) :
    hooks name topic (j ++ j') = hooks name topic j ++ hooks name topic j' := by
  simp [hooks]

theorem hooks_perm (name topic : String) {j j' : Journal} (h : j.Perm j') :
    (hooks name topic j).Perm (hooks name topic j') :=
  h.filterMap _

end Journal

/-- Calls that start and stop production in turn, first of all a start; after the last it is `on`. -/
inductive Turned : List Bool → Bool → Prop where
  | none : Turned [] false
  | call {log : List Bool} {on : Bool} : Turned log on → Turned (log ++ [!on]) (!on)

/-- Production stops when the last of `n` subscribers is counted out. -/
theorem Turned.lower {log : List Bool} {n : Nat} (a : Turned log (decide (0 < n))) (k : Nat) :
    Turned (log ++ if 0 < n ∧ n ≤ k then [false] else []) (decide (0 < n - k)) := by
  by_cases hlast : 0 < n ∧ n ≤ k
  · have hoff : decide (0 < n - k) = !decide (0 < n) := by
      simp only [hlast.1, decide_true, Bool.not_true, decide_eq_false_iff_not]
      omega
    have hcall : [false] = [!decide (0 < n)] := by simp [hlast.1]
    rw [if_pos hlast, hoff, hcall]
    exact a.call
  · have hsame : decide (0 < n - k) = decide (0 < n) := by
      rw [decide_eq_decide]
      omega
    rwa [if_neg hlast, List.append_nil, hsame]

/-- Production starts when the first subscriber is counted in. -/
theorem Turned.raise {log : List Bool} {n : Nat} (a : Turned log (decide (0 < n))) :
    Turned (log ++ if n = 0 then [true] else []) (decide (0 < n + 1)) := by
  cases n with
  | zero => exact a.call
  | succ n => simpa using a

namespace Service

/-- How a number of subscribers is held: there is no entry for a topic without any. -/
def entry : Nat → Option Nat
  | 0 => none
  | n + 1 => some (n + 1)

theorem entry_pos {n : Nat} (hn : 0 < n) : entry n = some n := by
  cases n with
  | zero => cases hn
  | succ n => rfl

/-- What subscribers never change about a service. -/
def badge (s : Service) : String × Ref .manager × Producer :=
  (s.name, s.manager, s.producer)

/-- What a service tells the journal when it stops producing. -/
def farewell (s : Service) (topic : String) : Journal :=
  match s.producer with
  | .clock => []
  | .herald _ => [.deactivated s.name topic]

/-- What a service tells the journal when it starts producing. -/
def greeting (s : Service) (topic : String) (count : Nat) : Journal :=
  match s.producer with
  | .clock => []
  | .herald _ => [.activated s.name topic count]

section Hooks

variable {s : Service} {name topic t : String}

theorem hooks_farewell {announcement : Option Value} (hproducer : s.producer = .herald announcement) :
    (s.farewell topic).hooks s.name topic = [false] := by
  simp [farewell, hproducer, Journal.hooks]

theorem hooks_farewell_of_ne (hne : ¬ (s.name = name ∧ t = topic)) : (s.farewell t).hooks name topic = [] := by
  unfold farewell
  split <;> simp [Journal.hooks, hne]

theorem hooks_greeting {announcement : Option Value} (hproducer : s.producer = .herald announcement)
    (count : Nat) : (s.greeting topic count).hooks s.name topic = [true] := by
  simp [greeting, hproducer, Journal.hooks]

theorem hooks_greeting_of_ne (hne : ¬ (s.name = name ∧ t = topic)) (count : Nat) :
    (s.greeting t count).hooks name topic = [] := by
  unfold greeting
  split <;> simp [Journal.hooks, hne]

end Hooks

section Counts

variable {s : Service} {topic : String} {n : Nat}

theorem leave_snd (hentry : Members.get? topic s.active = entry n) : (s.leave topic).2 = decide (n = 1) := by
  unfold leave
  rw [hentry]
  cases n with
  | zero => rfl
  | succ n =>
    simp only [entry]
    split <;> simp <;> omega

theorem get?_leave_self (hentry : Members.get? topic s.active = entry n) :
    Members.get? topic (s.leave topic).1.active = entry (n - 1) := by
  unfold leave
  rw [hentry]
  cases n with
  | zero => exact hentry
  | succ n =>
    simp only [entry]
    split
    · obtain rfl : n = 0 := by omega
      have herase := Members.get?_filter (fun key => key ≠ topic) topic s.active
      simpa [Members.erase, entry] using herase
    · obtain ⟨m, rfl⟩ : ∃ m, n = m + 1 := ⟨n - 1, by omega⟩
      simp [Members.get?_insert]

theorem enter_snd (hentry : Members.get? topic s.active = entry n) : (s.enter topic).2 = decide (n = 0) := by
  unfold enter countOf
  rw [hentry]
  cases n <;> simp [entry]

theorem get?_enter_self (hentry : Members.get? topic s.active = entry n) :
    Members.get? topic (s.enter topic).1.active = entry (n + 1) := by
  unfold enter countOf
  rw [hentry]
  cases n <;> simp [Members.get?_insert, entry]

end Counts

section Others

variable (s : Service) {topic t : String}

theorem get?_leave_of_ne (ht : t ≠ topic) :
    Members.get? t (s.leave topic).1.active = Members.get? t s.active := by
  unfold leave
  split
  · rfl
  · split
    · have herase := Members.get?_filter (fun key => key ≠ topic) t s.active
      simpa [Members.erase, ht] using herase
    · rw [Members.get?_insert, if_neg (Ne.symm ht)]

theorem get?_enter_of_ne (ht : t ≠ topic) :
    Members.get? t (s.enter topic).1.active = Members.get? t s.active := by
  simp only [enter, Members.get?_insert, if_neg (Ne.symm ht)]

end Others

@[simp] theorem badge_leave (s : Service) (topic : String) : (s.leave topic).1.badge = s.badge := by
  unfold leave
  split
  · rfl
  · split <;> rfl

theorem farewell_leave (s : Service) (topic t : String) : (s.leave topic).1.farewell t = s.farewell t := by
  unfold leave
  split
  · rfl
  · split <;> rfl

end Service

namespace Hub

/-! ## Views of services -/

def badge? (h : Hub) (service : Ref .service) : Option (String × Ref .manager × Service.Producer) :=
  (h.services.get? service).map Service.badge

/-- How many subscribers of a topic a service counts. -/
def count? (h : Hub) (service : Ref .service) (topic : String) : Option Nat :=
  (h.services.get? service).bind fun s => Members.get? topic s.active

/-- The service tells the journal of its hooks, and no other does so under its name. -/
structure Heralds (h : Hub) (service : Ref .service) (name : String) : Prop where
  herald : ∃ manager announcement, h.badge? service = some (name, manager, .herald announcement)
  unique : ∀ other b, h.badge? other = some b → b.1 = name → other = service

section Heralds

variable {h h' : Hub} {service other : Ref .service} {name : String} {s : Service}

theorem Heralds.of_badges (a : h.Heralds service name) (heq : h'.badge? = h.badge?) : h'.Heralds service name where
  herald := by rw [heq]; exact a.herald
  unique := by rw [heq]; exact a.unique

theorem Heralds.producer (a : h.Heralds service name) (hs : h.services.get? service = some s) :
    s.name = name ∧ ∃ announcement, s.producer = .herald announcement := by
  obtain ⟨manager, announcement, hbadge⟩ := a.herald
  obtain ⟨hname, -, hproducer⟩ : s.name = name ∧ s.manager = manager ∧ s.producer = .herald announcement := by
    simpa [badge?, hs, Service.badge] using hbadge
  exact ⟨hname, announcement, hproducer⟩

theorem Heralds.name_ne (a : h.Heralds service name) (hs : h.services.get? other = some s)
    (hother : other ≠ service) : s.name ≠ name := by
  intro hname
  have hbadge : h.badge? other = some s.badge := by simp only [badge?, hs, Option.map_some]
  exact hother (a.unique other s.badge hbadge hname)

end Heralds

/-- The hub with a service changed and something told to the journal. -/
def serviced (h : Hub) (service : Ref .service) (s : Service) (told : Journal) : Hub :=
  { h with services := h.services.set service s, journal := h.journal ++ told }

section Serviced

variable {h : Hub} {service : Ref .service} {s : Service}

theorem badge?_serviced (hs : h.services.get? service = some s) {s' : Service} (hbadge : s'.badge = s.badge)
    (told : Journal) : (h.serviced service s' told).badge? = h.badge? := by
  funext other
  unfold badge? serviced
  by_cases hother : other = service
  · subst hother
    simp only [Store.get?_set_self hs, hs, Option.map_some, hbadge]
  · simp only [Store.set, Store.get?_modify_of_ne _ hother]

theorem count?_serviced_self (hs : h.services.get? service = some s) (s' : Service) (told : Journal)
    (topic : String) : (h.serviced service s' told).count? service topic = Members.get? topic s'.active := by
  simp only [count?, serviced, Store.get?_set_self hs, Option.bind_some]

theorem count?_serviced_of_ne {other : Ref .service} (hother : other ≠ service) (s' : Service) (told : Journal)
    (topic : String) : (h.serviced service s' told).count? other topic = h.count? other topic := by
  simp only [count?, serviced, Store.set, Store.get?_modify_of_ne _ hother]

theorem serviced_serviced (h : Hub) (service : Ref .service) (s s' : Service) (told told' : Journal) :
    (h.serviced service s told).serviced service s' told' = h.serviced service s' (told ++ told') := by
  simp only [serviced, Store.set, Store.modify_modify, List.append_assoc]
  rfl

theorem deactivate_eq (hs : h.services.get? service = some s) (topic : String) :
    ∃ due, h.deactivate service s topic = h.serviced service { s with due } (s.farewell topic) := by
  unfold deactivate
  split
  · rename_i hproducer
    refine ⟨s.due.filter (· ≠ topic), ?_⟩
    simp only [serviced, Service.farewell, hproducer, List.append_nil]
  · rename_i announcement hproducer
    refine ⟨s.due, ?_⟩
    have hset : h.services.set service s = h.services := by
      apply Store.modify_eq_self
      intro a ha
      exact Option.some.inj (hs.symm.trans ha)
    have hfarewell : s.farewell topic = [.deactivated s.name topic] := by
      simp only [Service.farewell, hproducer]
    show _ = h.serviced service s _
    rw [serviced, hset, hfarewell]
    rfl

theorem leaveService_of_none (hs : h.services.get? service = none) (topic : String) :
    h.leaveService service topic = h := by
  simp only [leaveService, hs]

/-- Counting a subscriber out touches the service, and tells the journal if it was the last. -/
theorem leaveService_eq (hs : h.services.get? service = some s) (topic : String) :
    ∃ due, h.leaveService service topic =
      h.serviced service { (s.leave topic).1 with due }
        (if (s.leave topic).2 then s.farewell topic else []) := by
  have hleft : h.leaveService service topic =
      if (s.leave topic).2 then (h.serviced service (s.leave topic).1 []).deactivate service (s.leave topic).1 topic
      else h.serviced service (s.leave topic).1 [] := by
    simp only [leaveService, hs, serviced, List.append_nil]
  rw [hleft]
  cases (s.leave topic).2 with
  | false => exact ⟨(s.leave topic).1.due, rfl⟩
  | true =>
    obtain ⟨due, hdue⟩ := deactivate_eq (h := h.serviced service (s.leave topic).1 [])
      (Store.get?_set_self hs _) topic
    rw [Service.farewell_leave, serviced_serviced] at hdue
    exact ⟨due, hdue⟩

/-- Counting a subscriber in touches the service, and tells the journal if it is the first; then there
may be an announcement. -/
theorem enterService_eq (hs : h.services.get? service = some s) (topic : String) :
    ∃ published due count, ∃ begun, begun = h.serviced service { (s.enter topic).1 with published, due }
        (if (s.enter topic).2 then s.greeting topic count else []) ∧
      (h.enterService service topic = begun ∨
        (s.enter topic).2 = true ∧ ∃ message, h.enterService service topic =
          (begun.publish s.manager topic message).1.note (.announced (begun.publish s.manager topic message).2)) := by
  simp only [enterService, hs]
  cases hfirst : (s.enter topic).2 with
  | false =>
    refine ⟨s.published, s.due, 0, _, rfl, .inl ?_⟩
    simp [serviced, Service.enter]
  | true =>
    refine ⟨topic :: s.published,
      (match s.producer with
        | .clock => s.due ++ [topic]
        | .herald _ => s.due),
      (h.subscribers s.manager topic).length, _, rfl, ?_⟩
    simp only [if_true, activate, Service.enter, Service.greeting, note]
    cases hproducer : s.producer with
    | clock =>
      left
      simp only [serviced, Store.set, Store.modify_modify, List.append_nil]
      rfl
    | herald announcement =>
      cases announcement with
      | none =>
        left
        simp only [serviced, Store.set, Store.modify_modify]
        rfl
      | some message =>
        right
        refine ⟨trivial, message, ?_⟩
        simp only [serviced, Store.set, Store.modify_modify]
        rfl

end Serviced

/-! ## What cleanups do to counts -/

section Cleanups

variable {h : Hub} {service : Ref .service} {topic : String} {n : Nat}

theorem count?_of_badge?_none (hbadge : h.badge? service = none) (topic : String) :
    h.count? service topic = none := by
  rw [badge?, Option.map_eq_none_iff] at hbadge
  simp only [count?, hbadge, Option.bind_none]

section Leave

variable (h : Hub) (service : Ref .service) (topic : String)

theorem sameTables_leaveService : SameTables h (h.leaveService service topic) :=
  sameTables_runCleanup h (some (.leave service topic))

@[simp] theorem records_leaveService (manager : Ref .manager) :
    (h.leaveService service topic).records manager = h.records manager := by
  simp only [records, (sameTables_leaveService h service topic).managers]

@[simp] theorem issued_leaveService (manager : Ref .manager) :
    (h.leaveService service topic).issued manager = h.issued manager := by
  simp only [issued, (sameTables_leaveService h service topic).managers]

@[simp] theorem owned?_leaveService (scope : Ref .scope) :
    (h.leaveService service topic).owned? scope = h.owned? scope := by
  simp only [owned?, (sameTables_leaveService h service topic).scopes]

end Leave

@[simp] theorem badge?_leaveService (h : Hub) (other : Ref .service) (t : String) :
    (h.leaveService other t).badge? = h.badge? := by
  cases hs : h.services.get? other with
  | none => rw [leaveService_of_none hs]
  | some s =>
    obtain ⟨due, hleave⟩ := leaveService_eq hs t
    have hbadge : ({ (s.leave t).1 with due } : Service).badge = s.badge := s.badge_leave t
    rw [hleave]
    exact badge?_serviced hs hbadge _

theorem badge?_runCleanup (h : Hub) (c : Option Cleanup) : (h.runCleanup c).badge? = h.badge? := by
  unfold runCleanup
  split
  · rfl
  · rfl
  · exact badge?_leaveService h _ _

theorem badge?_cleanUp (h : Hub) (rs : List Record) : (h.cleanUp rs).badge? = h.badge? := by
  induction rs generalizing h with
  | nil => rfl
  | cons r rs ih => exact (ih _).trans (badge?_runCleanup h r.cleanup)

theorem count?_leaveService (hcount : h.count? service topic = Service.entry n) (other : Ref .service)
    (t : String) :
    (h.leaveService other t).count? service topic =
      Service.entry (n - if other = service ∧ t = topic then 1 else 0) := by
  cases hs : h.services.get? other with
  | none =>
    rw [leaveService_of_none hs, hcount]
    by_cases hsame : other = service ∧ t = topic
    · obtain ⟨rfl, rfl⟩ := hsame
      cases n with
      | zero => rw [Nat.zero_sub]
      | succ n => simp [count?, hs, Service.entry] at hcount
    · rw [if_neg hsame, Nat.sub_zero]
  | some s =>
    obtain ⟨due, hleave⟩ := leaveService_eq hs t
    rw [hleave]
    by_cases hother : other = service
    · subst hother
      have hentry : Members.get? topic s.active = Service.entry n := by
        rw [← hcount, count?, hs, Option.bind_some]
      rw [count?_serviced_self hs]
      by_cases ht : t = topic
      · subst ht
        simpa using Service.get?_leave_self hentry
      · simpa [ht, hentry] using s.get?_leave_of_ne (Ne.symm ht)
    · rw [count?_serviced_of_ne (Ne.symm hother), hcount]
      simp [hother]

theorem count?_runCleanup (hcount : h.count? service topic = Service.entry n) (c : Option Cleanup) :
    (h.runCleanup c).count? service topic =
      Service.entry (n - if c = some (.leave service topic) then 1 else 0) := by
  unfold runCleanup
  split
  · exact hcount
  · exact hcount
  · rename_i other t
    rw [count?_leaveService hcount]
    simp

/-- Cleanups take a count down by the number of those among them that count its subscribers out. -/
theorem count?_cleanUp (hcount : h.count? service topic = Service.entry n) (rs : List Record) :
    (h.cleanUp rs).count? service topic =
      Service.entry (n - rs.countP fun r => r.cleanup = some (.leave service topic)) := by
  induction rs generalizing h n with
  | nil => exact hcount
  | cons r rs ih =>
    show ((h.runCleanup r.cleanup).cleanUp rs).count? service topic = _
    rw [ih (count?_runCleanup hcount r.cleanup), List.countP_cons]
    congr 1
    by_cases hr : r.cleanup = some (.leave service topic) <;> simp [hr]
    omega

/-- What a cleanup adds to the hooks of a service that counts `n` subscribers. -/
theorem hooks_runCleanup {name : String} (hheralds : h.Heralds service name)
    (hcount : h.count? service topic = Service.entry n) (c : Option Cleanup) :
    (h.runCleanup c).journal.hooks name topic =
      h.journal.hooks name topic ++ if c = some (.leave service topic) ∧ n = 1 then [false] else [] := by
  unfold runCleanup
  split
  · simp
  · simp [note, Journal.hooks]
  · rename_i other t
    cases hs : h.services.get? other with
    | none =>
      rw [leaveService_of_none hs, if_neg, List.append_nil]
      rintro ⟨hc, -⟩
      cases hc
      obtain ⟨manager, announcement, hbadge⟩ := hheralds.herald
      simp [badge?, hs] at hbadge
    | some s =>
      obtain ⟨due, hleave⟩ := leaveService_eq hs t
      rw [hleave]
      show Journal.hooks name topic (h.journal ++ _) = _
      rw [Journal.hooks_append]
      congr 1
      by_cases hsame : other = service ∧ t = topic
      · obtain ⟨rfl, rfl⟩ := hsame
        have hentry : Members.get? t s.active = Service.entry n := by
          rw [← hcount, count?, hs, Option.bind_some]
        obtain ⟨rfl, announcement, hproducer⟩ := hheralds.producer hs
        rw [Service.leave_snd hentry]
        by_cases hn : n = 1
        · simp [hn, Service.hooks_farewell hproducer]
        · simp [hn, Journal.hooks]
      · have hne : ¬ (s.name = name ∧ t = topic) := by
          rintro ⟨hname, ht⟩
          exact hheralds.name_ne hs (fun hother => hsame ⟨hother, ht⟩) hname
        simp only [Option.some.injEq, Cleanup.leave.injEq, hsame, false_and, if_false]
        split
        · exact Service.hooks_farewell_of_ne hne
        · rfl

/-- Cleanups call a hook once at most: when the last subscriber is counted out. -/
theorem hooks_cleanUp {name : String} (hheralds : h.Heralds service name)
    (hcount : h.count? service topic = Service.entry n) (rs : List Record) :
    (h.cleanUp rs).journal.hooks name topic =
      h.journal.hooks name topic ++
        if 0 < n ∧ n ≤ rs.countP (fun r => r.cleanup = some (.leave service topic)) then [false] else [] := by
  induction rs generalizing h n with
  | nil =>
    rw [List.countP_nil, if_neg (by omega), List.append_nil]
    rfl
  | cons r rs ih =>
    show ((h.runCleanup r.cleanup).cleanUp rs).journal.hooks name topic = _
    rw [ih (hheralds.of_badges (badge?_runCleanup h r.cleanup)) (count?_runCleanup hcount r.cleanup),
      hooks_runCleanup hheralds hcount, List.append_assoc, List.countP_cons]
    congr 1
    by_cases hr : r.cleanup = some (.leave service topic)
    · rcases n with - | - | n
      · simp [hr]
      · simp [hr]
      · simp [hr]
    · simp [hr]

end Cleanups

/-! ## The journal grows -/

theorem prefix_note (h : Hub) (e : Journal.Entry) : h.journal <+: (h.note e).journal :=
  List.prefix_append _ _

theorem prefix_runCleanup (h : Hub) (c : Option Cleanup) : h.journal <+: (h.runCleanup c).journal := by
  unfold runCleanup
  split
  · exact List.prefix_rfl
  · exact h.prefix_note _
  · rename_i service topic
    cases hs : h.services.get? service with
    | none =>
      rw [leaveService_of_none hs]
    | some s =>
      obtain ⟨due, hleave⟩ := leaveService_eq hs topic
      rw [hleave]
      exact List.prefix_append _ _

/-- What only adds to the journal does so however often it is done. -/
theorem prefix_foldl {β : Type} {f : Hub → β → Hub} (hf : ∀ h b, h.journal <+: (f h b).journal) (l : List β)
    (h : Hub) : h.journal <+: (l.foldl f h).journal := by
  induction l generalizing h with
  | nil => exact List.prefix_rfl
  | cons b l ih => exact (hf h b).trans (ih _)

theorem prefix_remove (h : Hub) (manager : Ref .manager) (sid : Sid) (topic : Option String) :
    h.journal <+: (h.remove manager sid topic).1.journal := by
  rcases remove_cases h manager sid topic with ⟨r, -, -, -, hremove⟩ | hremove
  · rw [hremove, untrack_eq]
    exact prefix_runCleanup ((h.erased manager sid).rescoped r.scope fun s => (s.untrack sid).1) r.cleanup
  · rw [hremove]

theorem prefix_runRelease (h : Hub) (sid : Sid) (release : Release) :
    h.journal <+: (h.runRelease sid release).journal := by
  cases release with
  | report text => exact h.prefix_note _
  | forget manager =>
    rcases takeRecord_none_cases h manager sid with ⟨r, -, -, htake⟩ | ⟨htake, -⟩
    · simp only [runRelease, htake]
      exact prefix_runCleanup (h.erased manager sid) r.cleanup
    · simp only [runRelease, htake]
      exact List.prefix_rfl

theorem prefix_closeScope (h : Hub) (scope : Ref .scope) : h.journal <+: (h.closeScope scope).1.journal := by
  have htaken : (h.takeScope scope).1.journal = h.journal := by
    rw [takeScope_eq]
    rfl
  obtain ⟨new, hnew⟩ := prefix_foldl (fun h (p : Sid × Release) => h.prefix_runRelease p.1 p.2)
    (h.takeScope scope).2 (h.takeScope scope).1
  show h.journal <+: Journal.sortFrom h.journal.length
    ((h.takeScope scope).2.foldl (fun h p => h.runRelease p.1 p.2) (h.takeScope scope).1).journal
  rw [← hnew, htaken, Journal.sortFrom, List.take_left]
  exact List.prefix_append _ _

theorem prefix_publish (h : Hub) (manager : Ref .manager) (topic : String) (message : Value) :
    h.journal <+: (h.publish manager topic message).1.journal := by
  rw [publish_eq, ← (sameBooks_announce h topic message (h.live (h.subscribers manager topic))).journal]
  exact prefix_foldl (fun h (r : Record) => h.prefix_remove manager r.sid none) _ _

end Hub
end Exchange
