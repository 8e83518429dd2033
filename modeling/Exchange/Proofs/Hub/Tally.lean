-- SUMMARY: Services count the subscriptions that they have created, whatever is done with the manager.
import Exchange.Proofs.Hub.Production

/-!
# The tally of services

`Hub.Tallied` is what every operation on the manager keeps: a service counts,
for each topic, the records that its requests have created, and `ahead` more
while such a request is under way. Each removal runs the cleanup of its record,
so both go down together.
-/

namespace Exchange

namespace Hub

/-! ## The journal of an action -/

theorem prefix_act {h : Hub} {manager : Ref .manager} (l : Ledger h h manager [] (h.records manager))
    (hsids : Sid.Distinct manager.index (h.issued manager + 1)) (action : Action) :
    h.journal <+: (h.act manager action).journal := by
  cases action with
  | subscribe slot scope topic cleanup =>
    show h.journal <+: (h.subscribe slot scope manager topic cleanup).1.journal
    rcases subscribe_cases h manager slot scope topic cleanup (l.fresh hsids scope topic cleanup) with
      ⟨-, hsame⟩ | ⟨-, h', f, henrolled, heq⟩
    · rw [hsame.journal]
    · rw [heq]
      show h.journal <+: h'.journal
      rw [henrolled.journal]
  | unsubscribe slot sid topic =>
    show h.journal <+: (h.unsubscribe slot manager sid topic).1.journal
    rw [(sameBooks_unsubscribe h manager slot sid topic).journal]
    exact h.prefix_remove manager sid topic
  | finish sid =>
    show h.journal <+: (h.finish manager sid).1.journal
    rw [finish_fst]
    exact h.prefix_remove manager sid none
  | publish topic message => exact h.prefix_publish manager topic message
  | drop stream =>
    show h.journal <+: (h.dropStream stream).journal
    rw [(sameBooks_dropStream h stream).journal]
  | close scope => exact h.prefix_closeScope scope

/-- Table, scopes and sids may be looked at from where one stands. -/
theorem Ledger.rebase {h₀ h h' : Hub} {manager : Ref .manager} {given : List Record}
    (a : Ledger h₀ h manager [] given) (hrecords : h'.records manager = h.records manager)
    (hissued : h'.issued manager = h.issued manager) (howned : ∀ scope, h'.owned? scope = h.owned? scope) :
    Ledger h' h' manager [] (h'.records manager) where
  distinct := by
    rw [hrecords]
    exact a.nodup_records
  issued := by
    intro r hr
    rw [hissued]
    exact a.issued r (a.mem_granted (by rwa [hrecords] at hr))
  cleaned := ⟨[], .refl _, .start h'⟩
  tracked := by
    intro scope owned hs
    rw [hrecords]
    exact a.tracked scope owned (by rwa [howned] at hs)
  owner := by
    intro r hr
    rw [howned]
    exact a.owner r (by rwa [hrecords] at hr)
  forget := by
    intro scope owned hs
    exact a.forget scope owned (by rwa [howned] at hs)

/-! ## The tally -/

/-- How many records are in the table that a service's requests for a topic have created: their
cleanups count its subscribers out. -/
def served (h : Hub) (manager : Ref .manager) (service : Ref .service) (topic : String) : Nat :=
  (h.records manager).countP fun r => r.cleanup = some (.leave service topic)

@[simp] theorem served_serviced (h : Hub) (manager : Ref .manager) (service other : Ref .service) (s : Service)
    (told : Journal) (topic : String) :
    (h.serviced service s told).served manager other topic = h.served manager other topic := rfl

/-- A service counts the records that it serves and those `ahead`, and its hooks have been called
accordingly since `h₀`. -/
structure Tallied (h₀ h : Hub) (manager : Ref .manager) (ahead : Ref .service → String → Nat) : Prop where
  ledger : Ledger h h manager [] (h.records manager)
  badges : h.badge? = h₀.badge?
  counts : ∀ service topic, (h.badge? service).isSome →
    h.count? service topic = Service.entry (h.served manager service topic + ahead service topic)
  topics : ∀ r ∈ h.records manager, ∀ service topic, r.cleanup = some (.leave service topic) → r.topic = topic
  hooks : ∀ service name, h.Heralds service name → ∀ topic, ∃ log,
    h.journal.hooks name topic = h₀.journal.hooks name topic ++ log ∧
      Turned log (decide (0 < h.served manager service topic + ahead service topic))

/-- The records `ended` have left the table, and each cleanup among theirs that counts a subscriber
out of a service has found one that was counted in. -/
structure Released (h h' : Hub) (manager : Ref .manager) (granted ended : List Record) : Prop where
  perm : (ended ++ h'.records manager).Perm (h.records manager ++ granted)
  cleaned : CleanedUp h h' ended
  counted : ∀ service, (h.badge? service).isSome → ∀ before r after topic, ended = before ++ r :: after →
    r.cleanup = some (.leave service topic) → ∃ n > 0, (h.cleanUp before).count? service topic = some n

namespace Tallied

variable {h₀ h h' : Hub} {manager : Ref .manager} {ahead ahead' : Ref .service → String → Nat}

/-- What an action takes out of the table balances with the counts. -/
theorem exists_released (a : Tallied h₀ h manager ahead)
    (hsids : Sid.Distinct manager.index (h.issued manager + 1)) (action : Action)
    (hgranted : ∀ service topic,
      ahead' service topic + (h.granted manager action).countP (fun r => r.cleanup = some (.leave service topic)) =
        ahead service topic) :
    ∃ ended, Released h (h.act manager action) manager (h.granted manager action) ended ∧
      ∀ service topic, (h.act manager action).served manager service topic + ahead' service topic =
          h.served manager service topic + ahead service topic -
            ended.countP fun r => r.cleanup = some (.leave service topic) := by
  obtain ⟨l, -⟩ := a.ledger.act hsids action
  obtain ⟨ended, hperm, hcleaned⟩ := l.cleaned
  have hbalance (service : Ref .service) (topic : String) :
      ended.countP (fun r => r.cleanup = some (.leave service topic)) +
          ((h.act manager action).served manager service topic + ahead' service topic) =
        h.served manager service topic + ahead service topic := by
    have hcount := hperm.countP_eq fun r => r.cleanup = some (.leave service topic)
    rw [List.countP_append, List.countP_append] at hcount
    rw [← hgranted]
    unfold served
    omega
  refine ⟨ended, ⟨hperm, hcleaned, ?_⟩, ?_⟩
  · intro service hservice before r after topic hsplit hr
    have hmore : before.countP (fun r => r.cleanup = some (.leave service topic)) <
        h.served manager service topic + ahead service topic := by
      have hcount := hbalance service topic
      rw [hsplit, List.countP_append, List.countP_cons_of_pos (by simpa using hr)] at hcount
      omega
    refine ⟨_, Nat.sub_pos_of_lt hmore, ?_⟩
    rw [count?_cleanUp (a.counts service topic hservice), Service.entry_pos (Nat.sub_pos_of_lt hmore)]
  · intro service topic
    have hcount := hbalance service topic
    omega

/-- What has been cleaned up is counted out. -/
theorem of_cleanedUp (a : Tallied h₀ h manager ahead) {ended : List Record}
    (hledger : Ledger h' h' manager [] (h'.records manager)) (hcleaned : CleanedUp h h' ended)
    (hjournal : h.journal <+: h'.journal)
    (hserved : ∀ service topic, h'.served manager service topic + ahead' service topic =
      h.served manager service topic + ahead service topic -
        ended.countP fun r => r.cleanup = some (.leave service topic))
    (htopics : ∀ r ∈ h'.records manager, ∀ service topic, r.cleanup = some (.leave service topic) → r.topic = topic) :
    Tallied h₀ h' manager ahead' := by
  have hbadges : h'.badge? = h.badge? := by
    rw [← badge?_cleanUp h ended]
    funext service
    rw [badge?, badge?, hcleaned.services]
  refine ⟨hledger, hbadges.trans a.badges, ?_, htopics, ?_⟩
  · intro service topic hservice
    rw [hbadges] at hservice
    rw [hserved, ← count?_cleanUp (a.counts service topic hservice), count?, count?, hcleaned.services]
  · intro service name hheralds topic
    replace hheralds := hheralds.of_badges hbadges.symm
    obtain ⟨log, hlog, hturned⟩ := a.hooks service name hheralds topic
    obtain ⟨manager', announcement, hbadge⟩ := hheralds.herald
    have hcount := a.counts service topic (by rw [hbadge]; rfl)
    have hcleanUp := hooks_cleanUp hheralds hcount ended
    -- The journal of the cleanups is known but for its order, which one call cannot be out of.
    have hhooks : h'.journal.hooks name topic = (h.cleanUp ended).journal.hooks name topic := by
      obtain ⟨new, hnew⟩ := hjournal
      have hperm := Journal.hooks_perm name topic hcleaned.journal
      rw [hcleanUp, ← hnew, Journal.hooks_append, List.perm_append_left_iff] at hperm
      rw [hcleanUp, ← hnew, Journal.hooks_append]
      congr 1
      split at hperm
      · rw [if_pos ‹_›]
        exact List.perm_singleton.1 hperm
      · rw [if_neg ‹_›]
        exact hperm.eq_nil
    refine ⟨_, by rw [hhooks, hcleanUp, hlog, List.append_assoc], ?_⟩
    rw [hserved]
    exact hturned.lower _

/-- Every action keeps the tally, if what it grants was counted ahead. -/
theorem act (a : Tallied h₀ h manager ahead) (hsids : Sid.Distinct manager.index (h.issued manager + 1))
    (action : Action)
    (hgranted : ∀ service topic,
      ahead' service topic + (h.granted manager action).countP (fun r => r.cleanup = some (.leave service topic)) =
        ahead service topic)
    (htopics : ∀ r ∈ h.granted manager action, ∀ service topic,
      r.cleanup = some (.leave service topic) → r.topic = topic) :
    Tallied h₀ (h.act manager action) manager ahead' := by
  obtain ⟨ended, hreleased, hserved⟩ := a.exists_released hsids action hgranted
  obtain ⟨l, -⟩ := a.ledger.act hsids action
  apply a.of_cleanedUp (l.rebase rfl rfl fun _ => rfl) hreleased.cleaned (prefix_act a.ledger hsids action) hserved
  intro r hr service topic hleave
  rcases List.mem_append.1 (hreleased.perm.subset (List.mem_append_right ended hr)) with hr | hr
  · exact a.topics r hr service topic hleave
  · exact htopics r hr service topic hleave

/-! ### Counting in ahead -/

theorem start (hempty : h.records manager = []) (hscopes : ∀ scope owned, h.owned? scope = some owned → owned = [])
    (hactive : ∀ service s, h.services.get? service = some s → s.active = []) :
    Tallied h h manager (fun _ _ => 0) where
  ledger := by
    rw [hempty]
    exact .start hempty hscopes
  badges := rfl
  counts := by
    intro service topic hservice
    obtain ⟨s, hs⟩ := Option.isSome_iff_exists.1 (Option.isSome_map ▸ hservice)
    simp [count?, served, hs, hempty, hactive service s hs, Service.entry]
  topics := by
    intro r hr
    rw [hempty] at hr
    cases hr
  hooks := by
    intro service name _ topic
    refine ⟨[], (List.append_nil _).symm, ?_⟩
    simpa [served, hempty] using Turned.none

/-- One subscriber who has no record as yet. -/
def one (service : Ref .service) (topic : String) : Ref .service → String → Nat :=
  fun other t => if other = service ∧ t = topic then 1 else 0

theorem note (a : Tallied h₀ h manager ahead) (n : Nat) : Tallied h₀ (h.note (.announced n)) manager ahead where
  ledger := a.ledger.rebase rfl rfl fun _ => rfl
  badges := a.badges
  counts := a.counts
  topics := a.topics
  hooks := by
    intro service name hheralds topic
    obtain ⟨log, hlog, hturned⟩ := a.hooks service name ⟨hheralds.herald, hheralds.unique⟩ topic
    refine ⟨log, ?_, hturned⟩
    rw [← hlog]
    simp [Hub.note, Journal.hooks]

theorem countP_one {r : Record} {service : Ref .service} {topic : String}
    (hr : r.cleanup = some (.leave service topic)) (other : Ref .service) (t : String) :
    [r].countP (fun q => q.cleanup = some (.leave other t)) = one service topic other t := by
  simp only [List.countP_singleton, hr, decide_eq_true_eq, Option.some.injEq, Cleanup.leave.injEq, one]
  exact if_congr (and_congr eq_comm eq_comm) rfl rfl

/-- A subscriber that was counted in ahead is counted out again. -/
theorem leave {service : Ref .service} {topic : String} (a : Tallied h₀ h manager (one service topic)) :
    Tallied h₀ (h.leaveService service topic) manager (fun _ _ => 0) := by
  -- Nobody has such a record: only its cleanup matters.
  let r : Record := ⟨.nth 0 0, topic, ⟨0⟩, ⟨0⟩, some (.leave service topic)⟩
  have hcleaned : CleanedUp h (h.leaveService service topic) [r] := (CleanedUp.start h).run r
  have hledger := a.ledger.rebase (records_leaveService h service topic manager)
    (issued_leaveService h service topic manager) (owned?_leaveService h service topic)
  apply a.of_cleanedUp hledger hcleaned (h.prefix_runCleanup r.cleanup)
  · intro other t
    rw [countP_one rfl, served, records_leaveService, Nat.add_sub_cancel]
    rfl
  · rw [records_leaveService]
    exact a.topics

/-- A service counts a subscriber in before there is a record. -/
theorem begin (a : Tallied h₀ h manager (fun _ _ => 0)) {service : Ref .service} {s s' : Service}
    (hs : h.services.get? service = some s) (topic : String) (count : Nat) (hbadge : s'.badge = s.badge)
    (hactive : s'.active = (s.enter topic).1.active) :
    Tallied h₀ (h.serviced service s' (if (s.enter topic).2 then s.greeting topic count else [])) manager
      (one service topic) := by
  have hbadges := badge?_serviced hs hbadge (if (s.enter topic).2 then s.greeting topic count else [])
  have hsome : (h.badge? service).isSome := by simp [badge?, hs]
  have hentry (t : String) : Members.get? t s.active = Service.entry (h.served manager service t) := by
    rw [← Nat.add_zero (h.served manager service t), ← a.counts service t hsome, count?, hs, Option.bind_some]
  refine ⟨a.ledger.rebase rfl rfl fun _ => rfl, hbadges.trans a.badges, ?_, a.topics, ?_⟩
  · intro other t hother
    rw [hbadges] at hother
    by_cases hservice : other = service
    · subst hservice
      rw [count?_serviced_self hs, hactive]
      by_cases ht : t = topic
      · subst ht
        simpa [one] using Service.get?_enter_self (hentry t)
      · simpa [one, ht, hentry] using s.get?_enter_of_ne ht
    · rw [count?_serviced_of_ne hservice, a.counts other t hother]
      simp [one, hservice]
  · intro other name hheralds t
    replace hheralds := hheralds.of_badges hbadges.symm
    obtain ⟨log, hlog, hturned⟩ := a.hooks other name hheralds t
    show ∃ log, Journal.hooks name t (h.journal ++ _) = _ ∧ _
    rw [Journal.hooks_append, hlog]
    by_cases hsame : other = service ∧ t = topic
    · obtain ⟨rfl, rfl⟩ := hsame
      obtain ⟨rfl, announcement, hproducer⟩ := hheralds.producer hs
      refine ⟨log ++ if h.served manager other t = 0 then [true] else [], ?_, ?_⟩
      · rw [Service.enter_snd (hentry t)]
        by_cases hn : h.served manager other t = 0
        · simp [hn, Service.hooks_greeting hproducer]
        · simp [hn, Journal.hooks]
      · simpa [one] using Turned.raise hturned
    · have hne : ¬ (s.name = name ∧ topic = t) := by
        rintro ⟨hname, rfl⟩
        exact hheralds.name_ne hs (fun hother => hsame ⟨hother.symm, rfl⟩) hname
      refine ⟨log, ?_, ?_⟩
      · rw [apply_ite (Journal.hooks name t), Service.hooks_greeting_of_ne hne]
        simp [Journal.hooks]
      · simpa [one, hsame] using hturned

end Tallied

/-! ## Requests -/

/-- What a subscribe request does once its topic is known: the subscriber is counted in, the
subscription is tried, and the subscriber is counted out again if that fails. -/
def serve (h : Hub) (slot : Slot) (scope : Ref .scope) (manager : Ref .manager) (service : Ref .service)
    (topic : String) : Hub × Slot × Except Failure Sid :=
  match (h.enterService service topic).subscribe slot scope manager topic (some (.leave service topic)) with
  | (h, slot, .ok sid) => (h, slot, .ok sid)
  | (h, slot, .error f) => (h.leaveService service topic, slot, .error f)

/-- What counting a subscriber in does beside that: an announcement to the others may find some whose
stream is gone, and they leave the table. -/
structure Entered (h h' : Hub) (manager : Ref .manager) (service : Ref .service) (topic : String) : Prop where
  issued : h'.issued manager = h.issued manager
  served : ∀ t, h'.served manager service t = h.served manager service t
  released : (h.badge? service).isSome → ∃ begun announced ended,
    begun.count? service topic = some (h.served manager service topic + 1) ∧
      begun.records manager = h.records manager ∧ Released begun announced manager [] ended ∧
      h'.services = announced.services ∧ h'.records manager = announced.records manager

namespace Tallied

variable {h₀ h : Hub} {manager : Ref .manager}

/-- An announcement on a topic that a service has no subscribers of takes none of its records away. -/
theorem served_publish {ahead : Ref .service → String → Nat} (a : Tallied h₀ h manager ahead)
    {service : Ref .service} {topic : String} (hnone : h.served manager service topic = 0) (message : Value)
    (t : String) : (h.publish manager topic message).1.served manager service t = h.served manager service t := by
  rw [served, a.ledger.records_publish, List.countP_filter]
  apply List.countP_congr
  intro r hr
  simp only [Bool.and_eq_true, decide_eq_true_eq, and_iff_left_iff_imp]
  intro hleave
  left
  rintro htopic
  rw [a.topics r hr service t hleave] at htopic
  subst htopic
  exact List.countP_eq_zero.1 hnone r hr (by simpa using hleave)

theorem enter (a : Tallied h₀ h manager (fun _ _ => 0)) (hsids : Sid.Distinct manager.index (h.issued manager + 1))
    (hmanagers : ∀ service b, h₀.badge? service = some b → b.2.1 = manager)
    (service : Ref .service) (topic : String) :
    Tallied h₀ (h.enterService service topic) manager (one service topic) ∧
      Entered h (h.enterService service topic) manager service topic := by
  cases hs : h.services.get? service with
  | none =>
    have henter : h.enterService service topic = h := by simp only [enterService, hs]
    have hbadge : h.badge? service = none := by simp [badge?, hs]
    have hpresent {other : Ref .service} (hother : (h.badge? other).isSome) : other ≠ service := by
      rintro rfl
      rw [hbadge] at hother
      cases hother
    rw [henter]
    refine ⟨⟨a.ledger, a.badges, ?_, a.topics, ?_⟩, rfl, fun _ => rfl, fun hsome => absurd rfl (hpresent hsome)⟩
    · intro other t hother
      simpa [one, hpresent hother] using a.counts other t hother
    · intro other name hheralds t
      have hother : (h.badge? other).isSome := by
        obtain ⟨m, announcement, hherald⟩ := hheralds.herald
        rw [hherald]
        rfl
      simpa [one, hpresent hother] using a.hooks other name hheralds t
  | some s =>
    obtain ⟨published, due, count, begun, hbegun, henter⟩ := enterService_eq hs topic
    have hmanager : s.manager = manager := by
      apply hmanagers service s.badge
      rw [← a.badges, badge?, hs, Option.map_some]
    have hentry : Members.get? topic s.active = Service.entry (h.served manager service topic) := by
      rw [← Nat.add_zero (h.served manager service topic), ← a.counts service topic (by simp [badge?, hs]),
        count?, hs, Option.bind_some]
    have hbegin : Tallied h₀ begun manager (one service topic) := by
      rw [hbegun]
      exact a.begin hs topic count rfl rfl
    have hissued : begun.issued manager = h.issued manager := by
      rw [hbegun]
      rfl
    have hcount : begun.count? service topic = some (h.served manager service topic + 1) := by
      rw [hbegun, count?_serviced_self hs]
      exact Service.get?_enter_self hentry
    have hserved (t : String) : begun.served manager service t = h.served manager service t := by
      rw [hbegun, served_serviced]
    have hrecords : begun.records manager = h.records manager := by
      rw [hbegun]
      rfl
    rcases henter with henter | ⟨hfirst, message, henter⟩
    · rw [henter]
      refine ⟨hbegin, hissued, hserved, fun _ => ⟨begun, begun, [], hcount, hrecords, ?_, rfl, rfl⟩⟩
      refine ⟨by simp, .start begun, ?_⟩
      intro other _ before r after t hsplit
      simp at hsplit
    · rw [henter, hmanager]
      rw [← hissued] at hsids
      obtain ⟨ended, hreleased, -⟩ := hbegin.exists_released hsids (.publish topic message) fun _ _ => rfl
      have hpublished : Tallied h₀ (begun.publish manager topic message).1 manager (one service topic) :=
        hbegin.act hsids (.publish topic message) (fun _ _ => rfl) (fun r hr => by cases hr)
      refine ⟨hpublished.note _, ?_, ?_, fun _ => ⟨begun, _, ended, hcount, hrecords, hreleased, rfl, rfl⟩⟩
      · exact (issued_publish begun manager manager topic message).trans hissued
      · intro t
        rw [← hserved]
        apply hbegin.served_publish
        rw [hserved]
        rw [Service.enter_snd hentry] at hfirst
        simpa using hfirst

/-- A request keeps the tally. One that fails finds its subscriber to be counted out, and leaves all
counts of the service as they were. -/
theorem serve (a : Tallied h₀ h manager (fun _ _ => 0)) (hsids : Sid.Distinct manager.index (h.issued manager + 1))
    (hmanagers : ∀ service b, h₀.badge? service = some b → b.2.1 = manager)
    (slot : Slot) (scope : Ref .scope) (service : Ref .service) (topic : String) :
    Tallied h₀ (h.serve slot scope manager service topic).1 manager (fun _ _ => 0) ∧
      (h.serve slot scope manager service topic).1.issued manager ≤ h.issued manager + 1 ∧
      ∀ f, (h.serve slot scope manager service topic).2.2 = .error f →
        ((h.badge? service).isSome → ∃ n > 0, ((h.enterService service topic).subscribe slot scope manager topic
            (some (.leave service topic))).1.count? service topic = some n) ∧
          ∀ t, (h.serve slot scope manager service topic).1.count? service t = h.count? service t := by
  obtain ⟨b, hentered⟩ := a.enter hsids hmanagers service topic
  unfold Hub.serve
  generalize h.enterService service topic = entered at *
  rw [← hentered.issued] at hsids ⊢
  have hissued := (b.ledger.act hsids (.subscribe slot scope topic (some (.leave service topic)))).2
  have hcases := subscribe_cases entered manager slot scope topic (some (.leave service topic))
    (b.ledger.fresh hsids scope topic _)
  rcases hsubscribe : entered.subscribe slot scope manager topic (some (.leave service topic)) with
    ⟨tried, slot', result⟩
  have htried : entered.act manager (.subscribe slot scope topic (some (.leave service topic))) = tried := by
    simp only [Hub.act, hsubscribe]
  rw [htried] at hissued
  rw [hsubscribe] at hcases
  cases result with
  | ok sid =>
    have hgranted : entered.granted manager (.subscribe slot scope topic (some (.leave service topic))) =
        [⟨sid, topic, entered.channels.next, scope, some (.leave service topic)⟩] := by
      simp only [granted, hsubscribe]
    refine ⟨?_, hissued, fun f hf => by cases hf⟩
    show Tallied h₀ tried manager _
    rw [← htried]
    apply b.act hsids
    · intro other t
      rw [hgranted, countP_one rfl, Nat.zero_add]
    · intro r hr other t hleave
      rw [hgranted] at hr
      obtain rfl := List.mem_singleton.1 hr
      cases hleave
      rfl
  | error f =>
    have hgranted : entered.granted manager (.subscribe slot scope topic (some (.leave service topic))) = [] := by
      simp only [granted, hsubscribe]
    have hfailed : Tallied h₀ tried manager (one service topic) := by
      rw [← htried]
      apply b.act hsids
      · intro other t
        rw [hgranted]
        rfl
      · intro r hr
        rw [hgranted] at hr
        cases hr
    have hleft := hfailed.leave
    have hbadges : tried.badge? = h.badge? := hfailed.badges.trans a.badges.symm
    refine ⟨hleft, ?_, ?_⟩
    · show (tried.leaveService service topic).issued manager ≤ _
      rwa [issued_leaveService]
    · intro f hf
      refine ⟨?_, ?_⟩
      · intro hservice
        refine ⟨tried.served manager service topic + 1, Nat.succ_pos _, ?_⟩
        rw [hfailed.counts service topic (by rwa [hbadges])]
        simp [one, Service.entry]
      · intro t
        rcases hcases with ⟨-, hsame⟩ | ⟨hresult, -⟩
        · have hserved : (tried.leaveService service topic).served manager service t = h.served manager service t := by
            rw [← hentered.served, served, served, records_leaveService, hsame.records]
          show (tried.leaveService service topic).count? service t = _
          cases hservice : h.badge? service with
          | none =>
            rw [count?_of_badge?_none hservice, count?_of_badge?_none]
            rwa [badge?_leaveService, hbadges]
          | some b =>
            have hpresent : (h.badge? service).isSome := by simp [hservice]
            rw [a.counts service t hpresent, hleft.counts service t (by rwa [badge?_leaveService, hbadges]), hserved]
        · cases hresult

end Tallied

namespace Action

end Action

namespace Tallied

variable {h₀ h : Hub} {manager : Ref .manager}

end Tallied

end Hub

end Exchange
