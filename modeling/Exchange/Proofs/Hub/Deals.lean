-- SUMMARY: What is opened and what ends as a hub changes, and that each subscription opened is open or has ended once.
import Exchange.Proofs.Hub.Consistency
import Exchange.Proofs.Hub.Guards

/-!
# The account of subscriptions

`Hub.Deals` is an account of how one hub came of another: which subscriptions
were opened meanwhile, in whatever managers, and which have ended. To end one is
to take its record out of the table and to run its cleanup. In a hub that issues
sids in order (`Hub.Orderly`) the account balances: each subscription that was
opened is open still or has ended, once (`Hub.Deals.balance`), and as many
cleanups have reported a label as subscriptions with that label have ended.
-/

namespace Exchange

/-- A subscription, and the manager that keeps it. -/
structure Subscription where
  manager : Ref .manager
  record : Record
  deriving DecidableEq, Repr

namespace Hub

/-! ## What leaves subscriptions alone -/

/-- Plugins stay, and keep the scopes of their clients. -/
def KeepsClients (h h' : Hub) : Prop :=
  ∀ p a, h.plugins.get? p = some a → ∃ a', h'.plugins.get? p = some a' ∧ a'.scope = a.scope

namespace KeepsClients

variable {h h' h'' : Hub}

theorem of_plugins (hsame : h'.plugins = h.plugins) : KeepsClients h h' :=
  fun _ a ha => ⟨a, hsame ▸ ha, rfl⟩

theorem trans (a : KeepsClients h h') (b : KeepsClients h' h'') : KeepsClients h h'' := by
  intro p x hx
  obtain ⟨x', hx', hscope⟩ := a p x hx
  obtain ⟨x'', hx'', hscope'⟩ := b p x' hx'
  exact ⟨x'', hx'', hscope'.trans hscope⟩

theorem revise (h : Hub) (p : Ref .plugin) {f : Plugin → Plugin} (hf : ∀ a : Plugin, (f a).scope = a.scope) :
    KeepsClients h (h.revisePlugin p f) := by
  intro q a ha
  by_cases hq : q = p
  · subst hq
    exact ⟨f a, by rw [revisePlugin, Store.get?_modify_self, ha, Option.map_some], hf a⟩
  · exact ⟨a, by rwa [revisePlugin, Store.get?_modify_of_ne f hq], rfl⟩

end KeepsClients

/-- No subscription is opened and none ends. -/
structure Idle (h h' : Hub) : Prop where
  records : ∀ manager, h'.records manager = h.records manager
  issued : ∀ manager, h'.issued manager = h.issued manager
  cleaned : ∀ label, h'.journal.count (.cleaned label) = h.journal.count (.cleaned label)
  clients : KeepsClients h h'

namespace Idle

variable {h h' h'' : Hub}

theorem of_sameBooks (a : SameBooks h h') (hclients : KeepsClients h h') : Idle h h' where
  records := a.records
  issued := a.issued
  cleaned label := by rw [a.journal]
  clients := hclients

theorem refl (h : Hub) : Idle h h :=
  .of_sameBooks (.refl h) (.of_plugins rfl)

theorem trans (a : Idle h h') (b : Idle h' h'') : Idle h h'' where
  records manager := (b.records manager).trans (a.records manager)
  issued manager := (b.issued manager).trans (a.issued manager)
  cleaned label := (b.cleaned label).trans (a.cleaned label)
  clients := a.clients.trans b.clients

theorem revisePlugin (h : Hub) (p : Ref .plugin) {f : Plugin → Plugin} (hf : ∀ a : Plugin, (f a).scope = a.scope) :
    Idle h (h.revisePlugin p f) where
  records _ := rfl
  issued _ := rfl
  cleaned _ := rfl
  clients := .revise h p hf

/-- Scopes, services and channels are not among what is counted. -/
theorem of_managers (hmanagers : h'.managers = h.managers) (hplugins : h'.plugins = h.plugins)
    (hcleaned : ∀ label, h'.journal.count (.cleaned label) = h.journal.count (.cleaned label)) : Idle h h' where
  records _ := by simp only [Hub.records, hmanagers]
  issued _ := by simp only [Hub.issued, hmanagers]
  cleaned := hcleaned
  clients := .of_plugins hplugins

theorem note (h : Hub) {e : Journal.Entry} (he : ∀ label, e ≠ .cleaned label) : Idle h (h.note e) := by
  refine .of_managers rfl rfl fun label => ?_
  simp [Hub.note, List.count_append, he label]

theorem rescoped (h : Hub) (scope : Ref .scope) (f : Scope → Scope) : Idle h (h.rescoped scope f) :=
  .of_managers rfl rfl fun _ => rfl

theorem takeScope (h : Hub) (scope : Ref .scope) : Idle h (h.takeScope scope).1 := by
  rw [takeScope_eq]
  exact .rescoped h scope _

theorem leaveService (h : Hub) (service : Ref .service) (topic : String) : Idle h (h.leaveService service topic) := by
  refine .of_managers (sameTables_runCleanup h (some (.leave service topic))).managers
    (h.plugins_leaveService service topic) fun label => ?_
  exact (count_runCleanup h (some (.leave service topic)) label).trans (by simp)

/-! ### Streams -/

theorem dropStream (h : Hub) (s : Stream) : Idle h (h.dropStream s) := by
  induction s with
  | ended => exact .refl h
  | channel c => exact .of_managers rfl rfl fun _ => rfl
  | mapped f s ih => exact ih
  | counted p s ih => exact ih.trans (.revisePlugin _ p fun _ => rfl)

theorem dropBody (h : Hub) (body : Body Stream) : Idle h (h.dropBody body) := by
  cases body with
  | empty | message v => exact .refl h
  | stream s => exact .dropStream h s

theorem setBody (h : Hub) (slot : Slot) (body : Body Stream) : Idle h (h.setBody slot body).1 :=
  .dropBody h slot.body

theorem openStream (h : Hub) (slot : Slot) : Idle h (h.openStream slot).1 :=
  have hopen : Idle h h.openChannel.1 := .of_managers rfl rfl fun _ => rfl
  hopen.trans (.setBody _ slot (.stream (.channel h.openChannel.2)))

theorem send (h : Hub) (sink : Ref .channel) (r : Reply) : Idle h (h.send sink r).1 := by
  refine .of_sameBooks (sameBooks_send h sink r) (.of_plugins ?_)
  unfold Hub.send
  split <;> rfl

theorem useAll (h : Hub) (sink : Ref .channel) (items : List Sink.Item) : Idle h (h.useAll sink items).1 :=
  .of_sameBooks (sameBooks_useAll h sink items) (.of_plugins (h.plugins_useAll sink items))

theorem pull (h : Hub) (s : Stream) : Idle h (h.pull s).1 := by
  induction s with
  | ended => exact .refl h
  | channel c =>
    simp only [Hub.pull]
    cases h.channels.get? c with
    | none => exact .refl h
    | some channel => exact .of_managers rfl rfl fun _ => rfl
  | mapped f s ih =>
    simp only [Hub.pull]
    generalize h.pull s = pulled at ih
    obtain ⟨h', s', found⟩ := pulled
    cases found <;> exact ih
  | counted p s ih =>
    simp only [Hub.pull]
    generalize h.pull s = pulled at ih
    obtain ⟨h', s', found⟩ := pulled
    cases found with
    | pending | item r => exact ih
    | finished => exact (ih.trans (.dropStream h' s')).trans (.revisePlugin _ p fun _ => rfl)

end Idle

/-! ## The account -/

/-- How a hub came of another: what was opened, and what has ended, in the order in which it did. -/
inductive Deals : Hub → List Subscription → List Subscription → Hub → Prop
  | idle {h h' : Hub} (a : Idle h h') : Deals h [] [] h'
  /-- A subscription is opened, if it is granted. -/
  | subscribe (h : Hub) (slot : Slot) (scope : Ref .scope) (manager : Ref .manager) (topic : String)
      (cleanup : Option Cleanup) :
      Deals h ((h.granted manager (.subscribe slot scope topic cleanup)).map (.mk manager)) []
        (h.subscribe slot scope manager topic cleanup).1
  /-- A record leaves the table, and its cleanup runs. -/
  | retire {h : Hub} {manager : Ref .manager} {r : Record} (hr : r ∈ h.records manager) :
      Deals h [] [⟨manager, r⟩] ((h.erased manager r.sid).retire r)
  | trans {h h' h'' : Hub} {opened opened' ended ended' : List Subscription} (d : Deals h opened ended h')
      (d' : Deals h' opened' ended' h'') : Deals h (opened ++ opened') (ended ++ ended') h''

/-- What was opened, whatever has ended. -/
def Dealt (h : Hub) (opened : List Subscription) (h' : Hub) : Prop :=
  ∃ ended, Deals h opened ended h'

namespace Dealt

variable {h h' h'' : Hub} {opened opened' : List Subscription}

theorem idle (a : Idle h h') : Dealt h [] h' :=
  ⟨[], .idle a⟩

theorem refl (h : Hub) : Dealt h [] h :=
  .idle (.refl h)

theorem trans (d : Dealt h opened h') (d' : Dealt h' opened' h'') : Dealt h (opened ++ opened') h'' := by
  obtain ⟨ended, d⟩ := d
  obtain ⟨ended', d'⟩ := d'
  exact ⟨ended ++ ended', d.trans d'⟩

theorem idle_right (d : Dealt h opened h') (a : Idle h' h'') : Dealt h opened h'' := by
  simpa using d.trans (.idle a)

theorem idle_left (a : Idle h h') (d : Dealt h' opened h'') : Dealt h opened h'' :=
  (Dealt.idle a).trans d

end Dealt

/-! ## The operations -/

section Operations

variable (h : Hub) (manager : Ref .manager)

theorem dealt_remove (sid : Sid) (topic : Option String) : Dealt h [] (h.remove manager sid topic).1 := by
  rcases remove_cases h manager sid topic with ⟨r, hr, rfl, -, hremove⟩ | hremove
  · rw [hremove, untrack_eq]
    exact .idle_left (.rescoped h r.scope _) ⟨_, .retire hr⟩
  · rw [hremove]
    exact .refl h

theorem dealt_finish (sid : Sid) : Dealt h [] (h.finish manager sid).1 := by
  rw [finish_fst]
  exact h.dealt_remove manager sid none

theorem dealt_unsubscribe (slot : Slot) (sid : Sid) (topic : Option String) :
    Dealt h [] (h.unsubscribe slot manager sid topic).1 :=
  (h.dealt_remove manager sid topic).idle_right (.setBody _
    { slot with status := some .ok, statusCode := some Status.unsubscribedCode } (.message (.text "Unsubscribed")))

theorem dealt_deliver (topic : String) (message : Value) (n : Nat) (r : Record) :
    Dealt h [] (deliver manager topic message (h, n) r).1 := by
  have hsend := Idle.send h r.sink (.event r.sid topic message)
  unfold deliver
  generalize h.send r.sink (.event r.sid topic message) = sent at hsend
  obtain ⟨h', b⟩ := sent
  cases b with
  | true => exact .idle hsend
  | false => exact .idle_left hsend (h'.dealt_remove manager r.sid none)

theorem dealt_publish (topic : String) (message : Value) : Dealt h [] (h.publish manager topic message).1 := by
  have hall (rs : List Record) (acc : Hub × Nat) :
      Dealt acc.1 [] (rs.foldl (deliver manager topic message) acc).1 := by
    induction rs generalizing acc with
    | nil => exact .refl acc.1
    | cons r rs ih => exact (acc.1.dealt_deliver manager topic message acc.2 r).trans (ih _)
  exact hall _ (h, 0)

theorem dealt_activate (service : Ref .service) (s : Service) (topic : String) :
    Dealt h [] (h.activate service s topic) := by
  unfold activate
  dsimp only
  cases s.producer with
  | clock => exact .idle (.of_managers rfl rfl fun _ => rfl)
  | herald announcement =>
    have hactivated (services : Store .service Service) (n : Nat) :
        Idle h (Hub.note { h with services } (.activated s.name topic n)) := by
      have hservices : Idle h { h with services } := .of_managers rfl rfl fun _ => rfl
      exact hservices.trans (.note _ fun label => by simp)
    cases announcement with
    | none => exact .idle (hactivated _ _)
    | some v =>
      have hannounced {h' : Hub} (hidle : Idle h h') :
          Dealt h [] ((h'.publish s.manager topic v).1.note (.announced (h'.publish s.manager topic v).2)) :=
        (Dealt.idle_left hidle (h'.dealt_publish s.manager topic v)).idle_right (.note _ fun label => by simp)
      exact hannounced (hactivated _ _)

theorem dealt_enterService (service : Ref .service) (topic : String) : Dealt h [] (h.enterService service topic) := by
  unfold enterService
  cases h.services.get? service with
  | none => exact .refl h
  | some s =>
    have hservices (services : Store .service Service) : Idle h { h with services } := .of_managers rfl rfl fun _ => rfl
    dsimp only
    split
    · exact .idle_left (hservices _) (dealt_activate _ service _ topic)
    · exact .idle (hservices _)

/-- What a cleanup does to services depends on these alone. -/
theorem services_runCleanup {h g : Hub} (hservices : h.services = g.services) (c : Option Cleanup) :
    (h.runCleanup c).services = (g.runCleanup c).services := by
  unfold runCleanup leaveService deactivate
  split
  · exact hservices
  · exact hservices
  · rw [hservices]
    split
    · exact hservices
    · dsimp only
      split
      · split <;> rfl
      · rfl

theorem services_cleanUp {h g : Hub} (hservices : h.services = g.services) (rs : List Record) :
    (h.cleanUp rs).services = (g.cleanUp rs).services := by
  induction rs generalizing h g with
  | nil => exact hservices
  | cons r rs ih => exact ih (services_runCleanup hservices r.cleanup)

theorem cleanUp_append (rs rs' : List Record) : h.cleanUp (rs ++ rs') = (h.cleanUp rs).cleanUp rs' :=
  List.foldl_append

/-- A release ends one subscription or none, and does to services just what the cleanup does. -/
theorem runRelease_cleans (sid : Sid) (release : Release) : ∃ ended, Deals h [] ended (h.runRelease sid release) ∧
    (h.runRelease sid release).services = (h.cleanUp (ended.map (·.record))).services := by
  cases release with
  | report text => exact ⟨[], .idle (.note h fun label => by simp), rfl⟩
  | forget manager =>
    rcases takeRecord_none_cases h manager sid with ⟨r, hr, rfl, htake⟩ | ⟨htake, -⟩
    · simp only [runRelease, htake]
      have hsame : (h.erased manager r.sid).services = h.services := rfl
      exact ⟨[⟨manager, r⟩], .retire hr, services_runCleanup hsame r.cleanup⟩
    · simp only [runRelease, htake]
      exact ⟨[], .idle (.refl h), rfl⟩

/-- Closing a scope does to services just what the cleanups of those subscriptions do that it ends. -/
theorem closeScope_cleans (scope : Ref .scope) : ∃ ended, Deals h [] ended (h.closeScope scope).1 ∧
    (h.closeScope scope).1.services = (h.cleanUp (ended.map (·.record))).services := by
  have hall (owned : List (Sid × Release)) (h : Hub) :
      ∃ ended, Deals h [] ended (owned.foldl (fun h p => h.runRelease p.1 p.2) h) ∧
        (owned.foldl (fun h p => h.runRelease p.1 p.2) h).services = (h.cleanUp (ended.map (·.record))).services := by
    induction owned generalizing h with
    | nil => exact ⟨[], .idle (.refl h), rfl⟩
    | cons p owned ih =>
      obtain ⟨ended, hrelease, hservices⟩ := h.runRelease_cleans p.1 p.2
      obtain ⟨rest, hrest, hothers⟩ := ih (h.runRelease p.1 p.2)
      refine ⟨ended ++ rest, hrelease.trans hrest, hothers.trans ?_⟩
      rw [List.map_append, cleanUp_append]
      exact services_cleanUp hservices _
  obtain ⟨ended, hreleases, hservices⟩ := hall (h.takeScope scope).2 (h.takeScope scope).1
  have hsorted : Idle ((h.takeScope scope).2.foldl (fun h p => h.runRelease p.1 p.2) (h.takeScope scope).1)
      (h.closeScope scope).1 :=
    .of_managers rfl rfl fun label => (Journal.sortFrom_perm _ _).count_eq _
  refine ⟨ended, ?_, hservices.trans (services_cleanUp (by rw [takeScope_eq]; rfl) _)⟩
  simpa using ((Deals.idle (.takeScope h scope)).trans hreleases).trans (.idle hsorted)

theorem plugins_retire (r : Record) : (h.retire r).plugins = h.plugins :=
  Blind.plugins_eq (f := (·.retire r)) (fun h plugins => retire_withPlugins h plugins r) h

theorem dealt_closeScope (scope : Ref .scope) : Dealt h [] (h.closeScope scope).1 := by
  obtain ⟨ended, hdeals, -⟩ := h.closeScope_cleans scope
  exact ⟨ended, hdeals⟩

theorem dealt_subscribe (slot : Slot) (scope : Ref .scope) (topic : String) (cleanup : Option Cleanup) :
    Dealt h ((h.granted manager (.subscribe slot scope topic cleanup)).map (.mk manager))
      (h.subscribe slot scope manager topic cleanup).1 :=
  ⟨[], .subscribe h slot scope manager topic cleanup⟩

end Operations

/-! ## What a subscription changes -/

section Subscribe

variable (h : Hub) (slot : Slot) (scope : Ref .scope) (manager : Ref .manager) (topic : String) (cleanup : Option Cleanup)

/-- A subscription touches its own manager only. -/
theorem managers_subscribe_of_ne {other : Ref .manager} (hother : other ≠ manager) :
    (h.subscribe slot scope manager topic cleanup).1.managers.get? other = h.managers.get? other := by
  cases hm : h.managers.get? manager with
  | none => simp only [subscribe, hm]
  | some m =>
    have hsettle (h' : Hub) (r : Record) : (h'.settle manager r).1.managers.get? other = h'.managers.get? other := by
      cases hs : h'.owned? r.scope with
      | none =>
        rw [settle_of_closed hs]
        rcases takeRecord_none_cases h' manager r.sid with ⟨q, -, -, htake⟩ | ⟨htake, -⟩
        · rw [htake]
          exact Store.get?_modify_of_ne _ hother
        · rw [htake]
          rfl
      | some owned => rw [settle_of_open hs, rescoped]
    rw [subscribe_eq hm, hsettle, managers_enrol_of_ne slot scope topic cleanup hother]

/-- A manager that is there issues one more sid, also where the subscription is refused then. -/
theorem issued_subscribe {m : Manager} (hm : h.managers.get? manager = some m) :
    (h.subscribe slot scope manager topic cleanup).1.issued manager = h.issued manager + 1 := by
  rw [subscribe_eq hm, issued_settle, (enrolled hm slot scope topic cleanup).issued]

/-- A subscription is granted, and then its record and its number are new, or the table stays as it was. -/
theorem granted_cases (hfresh : ∀ q ∈ h.records manager, q.sid ≠ (h.recordOf manager scope topic cleanup).sid) :
    (h.granted manager (.subscribe slot scope topic cleanup) = [] ∧
      (h.subscribe slot scope manager topic cleanup).1.records manager = h.records manager) ∨
    h.granted manager (.subscribe slot scope topic cleanup) = [h.recordOf manager scope topic cleanup] ∧
      (h.subscribe slot scope manager topic cleanup).1.records manager =
        h.records manager ++ [h.recordOf manager scope topic cleanup] ∧
      (h.subscribe slot scope manager topic cleanup).1.issued manager = h.issued manager + 1 := by
  rcases subscribe_cases h manager slot scope topic cleanup hfresh with
    ⟨hresult, hsame⟩ | ⟨hresult, h', f, henrolled, hsubscribe⟩
  · exact .inl ⟨by simp only [granted, hresult], hsame.records⟩
  · refine .inr ⟨by simp only [granted, hresult, recordOf], ?_, ?_⟩
    · rw [hsubscribe, records_rescoped, henrolled.records]
    · rw [hsubscribe, issued_rescoped, henrolled.issued]

theorem journal_subscribe : (h.subscribe slot scope manager topic cleanup).1.journal = h.journal := by
  cases hm : h.managers.get? manager with
  | none => simp only [subscribe, hm]
  | some m =>
    have hsettle (h' : Hub) (r : Record) : (h'.settle manager r).1.journal = h'.journal := by
      cases hs : h'.owned? r.scope with
      | none =>
        rw [settle_of_closed hs]
        exact (sameButManagers_takeRecord h' manager r.sid none).journal
      | some owned => rw [settle_of_open hs, rescoped]
    rw [subscribe_eq hm, hsettle, (enrolled hm slot scope topic cleanup).journal]

theorem keepsClients_subscribe : KeepsClients h (h.subscribe slot scope manager topic cleanup).1 := by
  cases hm : h.managers.get? manager with
  | none =>
    simp only [subscribe, hm]
    exact .of_plugins rfl
  | some m =>
    rw [subscribe_eq_enlist hm]
    refine (Idle.openStream h slot).clients.trans (.of_plugins ?_)
    exact Blind.plugins_eq (f := fun h' => (h'.enlist scope manager m topic cleanup (h.openStream slot).2.2).1)
      (fun h' plugins => congrArg Prod.fst (enlist_withPlugins scope manager m topic cleanup _ h' plugins)) _

end Subscribe

namespace Deals

variable {h h' : Hub} {opened ended : List Subscription}

/-! ## What an account tells -/

theorem clients (d : Deals h opened ended h') : KeepsClients h h' := by
  induction d with
  | idle a => exact a.clients
  | subscribe h slot scope manager topic cleanup => exact h.keepsClients_subscribe slot scope manager topic cleanup
  | retire hr => exact .of_plugins (plugins_retire _ _)
  | trans d d' ih ih' => exact ih.trans ih'

/-- As many cleanups have reported a label as subscriptions with that label have ended. -/
theorem cleaned (d : Deals h opened ended h') (label : String) :
    h'.journal.count (.cleaned label) =
      h.journal.count (.cleaned label) + ended.countP fun e => e.record.cleanup = some (.report label) := by
  induction d with
  | idle a => exact a.cleaned label
  | subscribe h slot scope manager topic cleanup =>
    rw [journal_subscribe, List.countP_nil, Nat.add_zero]
  | @retire h manager r hr =>
    rw [List.countP_singleton]
    exact (count_runCleanup (h.erased manager r.sid) r.cleanup label).trans (by simp [erased])
  | trans d d' ih ih' => rw [ih', ih, List.countP_append, Nat.add_assoc]

theorem issued_le (d : Deals h opened ended h') (manager : Ref .manager) : h.issued manager ≤ h'.issued manager := by
  induction d with
  | idle a => exact Nat.le_of_eq (a.issued manager).symm
  | subscribe h slot scope m topic cleanup =>
    by_cases hmanager : manager = m
    · subst hmanager
      cases hm : h.managers.get? manager with
      | none => simp only [Hub.subscribe, hm, Nat.le_refl]
      | some m =>
        rw [issued_subscribe h slot scope manager topic cleanup hm]
        exact Nat.le_succ _
    · have hsame := managers_subscribe_of_ne h slot scope m topic cleanup hmanager
      exact Nat.le_of_eq (by simp only [issued, hsame])
  | retire hr => simp
  | trans d d' ih ih' => exact Nat.le_trans ih ih'

end Deals

/-! ## The balance -/

/-- Sids are issued in order: each record has one of those that its manager has issued, and no two have the same. -/
structure Orderly (h : Hub) : Prop where
  numbered : ∀ manager, ∀ r ∈ h.records manager, ∃ n ≤ h.issued manager, r.sid = Sid.nth manager.index n
  distinct : ∀ manager, ((h.records manager).map (·.sid)).Nodup

/-- How often a subscription is in the table. -/
def held (h : Hub) (e : Subscription) : Nat :=
  (h.records e.manager).count e.record

/-- What was open or was opened is open or has ended, as often; and what was opened is new. -/
structure Balance (h : Hub) (opened ended : List Subscription) (h' : Hub) : Prop where
  orderly : h'.Orderly
  issued : ∀ manager, h.issued manager ≤ h'.issued manager
  account : ∀ e, h'.held e + ended.count e = h.held e + opened.count e
  recent : ∀ e ∈ opened, ∃ n, h.issued e.manager < n ∧ n ≤ h'.issued e.manager ∧
    e.record.sid = Sid.nth e.manager.index n
  distinct : opened.Nodup

theorem Orderly.of_empty {h : Hub} (hempty : ∀ manager, h.records manager = []) : h.Orderly where
  numbered manager r hr := by simp [hempty] at hr
  distinct manager := by simp [hempty]

namespace Orderly

variable {h h' : Hub}

/-- The record that a subscription adds is new to the table. -/
theorem fresh (a : h.Orderly) (slot : Slot) (scope : Ref .scope) (manager : Ref .manager) (topic : String)
    (cleanup : Option Cleanup)
    (hsids : Sid.Distinct manager.index ((h.subscribe slot scope manager topic cleanup).1.issued manager)) :
    ∀ q ∈ h.records manager, q.sid ≠ (h.recordOf manager scope topic cleanup).sid := by
  intro q hq heq
  cases hm : h.managers.get? manager with
  | none => simp [records, hm] at hq
  | some m =>
    rw [issued_subscribe h slot scope manager topic cleanup hm] at hsids
    obtain ⟨n, hn, hsid⟩ := a.numbered manager q hq
    exact hsids.ne_next hn (hsid.symm.trans heq)

/-- What is not in the table is not held. -/
theorem held_eq_zero (a : h.Orderly) {e : Subscription} {n : Nat} (hn : h.issued e.manager < n)
    (hsid : e.record.sid = Sid.nth e.manager.index n) (hsids : Sid.Distinct e.manager.index n) : h.held e = 0 := by
  refine List.count_eq_zero.2 fun hmem => ?_
  obtain ⟨k, hk, hrecord⟩ := a.numbered e.manager e.record hmem
  have hsame := hsids k (by omega) n (Nat.le_refl n) (hrecord.symm.trans hsid)
  omega

theorem of_records (a : h.Orderly) (hrecords : ∀ manager, h'.records manager = h.records manager)
    (hissued : ∀ manager, h.issued manager ≤ h'.issued manager) : h'.Orderly where
  numbered manager r hr := by
    rw [hrecords] at hr
    obtain ⟨n, hn, hsid⟩ := a.numbered manager r hr
    exact ⟨n, Nat.le_trans hn (hissued manager), hsid⟩
  distinct manager := by
    rw [hrecords]
    exact a.distinct manager

/-- Records may go. -/
theorem of_sublist (a : h.Orderly) (hrecords : ∀ manager, (h'.records manager).Sublist (h.records manager))
    (hissued : ∀ manager, h'.issued manager = h.issued manager) : h'.Orderly where
  numbered manager r hr := by
    rw [hissued]
    exact a.numbered manager r ((hrecords manager).subset hr)
  distinct manager := ((hrecords manager).map _).nodup (a.distinct manager)

/-- A record with the next sid may come. -/
theorem of_insert (a : h.Orderly) {manager : Ref .manager} {r : Record}
    (hself : h'.records manager = h.records manager ++ [r])
    (hothers : ∀ other ≠ manager, h'.records other = h.records other)
    (hissued : ∀ other, h.issued other ≤ h'.issued other) (hnext : h'.issued manager = h.issued manager + 1)
    (hsid : r.sid = Sid.nth manager.index (h.issued manager + 1)) (hfresh : ∀ q ∈ h.records manager, q.sid ≠ r.sid) :
    h'.Orderly where
  numbered other q hq := by
    have hold (hq : q ∈ h.records other) : ∃ n ≤ h'.issued other, q.sid = Sid.nth other.index n := by
      obtain ⟨n, hn, hq⟩ := a.numbered other q hq
      exact ⟨n, Nat.le_trans hn (hissued other), hq⟩
    by_cases hother : other = manager
    · subst hother
      rw [hself, List.mem_append, List.mem_singleton] at hq
      rcases hq with hq | rfl
      · exact hold hq
      · exact ⟨_, Nat.le_of_eq hnext.symm, hsid⟩
    · rw [hothers other hother] at hq
      exact hold hq
  distinct other := by
    by_cases hother : other = manager
    · subst hother
      rw [hself, List.map_append, List.nodup_append]
      refine ⟨a.distinct other, by simp, fun sid hsid sid' hsid' heq => ?_⟩
      obtain ⟨q, hq, rfl⟩ := List.mem_map.1 hsid
      obtain rfl := List.mem_singleton.1 hsid'
      exact hfresh q hq heq
    · rw [hothers other hother]
      exact a.distinct other

theorem held_eq_one (a : h.Orderly) {manager : Ref .manager} {r : Record} (hr : r ∈ h.records manager) :
    h.held ⟨manager, r⟩ = 1 := by
  have hnodup : (h.records manager).Nodup :=
    List.Pairwise.of_map Record.sid (fun _ _ => mt (congrArg Record.sid)) (a.distinct manager)
  rw [held, hnodup.count, if_pos hr]

end Orderly

theorem held_eq {h h' : Hub} (hrecords : ∀ manager, h'.records manager = h.records manager) (e : Subscription) :
    h'.held e = h.held e := by
  rw [held, hrecords, held]

/-- A record that comes is held once more. -/
theorem held_insert {h h' : Hub} {manager : Ref .manager} {r : Record}
    (hself : h'.records manager = h.records manager ++ [r])
    (hothers : ∀ other ≠ manager, h'.records other = h.records other) (e : Subscription) :
    h'.held e = h.held e + [Subscription.mk manager r].count e := by
  obtain ⟨other, q⟩ := e
  rw [held, held]
  by_cases hother : other = manager
  · subst hother
    rw [hself, List.count_append]
    simp [List.count_singleton]
  · rw [hothers other hother]
    simp [Ne.symm hother]

/-- A record that goes is held once less. -/
theorem held_erased {h : Hub} (a : h.Orderly) {manager : Ref .manager} {r : Record} (hr : r ∈ h.records manager)
    (e : Subscription) : (h.erased manager r.sid).held e + [Subscription.mk manager r].count e = h.held e := by
  obtain ⟨other, q⟩ := e
  rw [held, held]
  by_cases hother : other = manager
  · subst hother
    have hperm := (perm_cons_filter_sid (a.distinct other) hr).count_eq q
    have hended : [Subscription.mk other r].count ⟨other, q⟩ = [r].count q := by simp [List.count_singleton]
    rw [records_erased, hended, hperm, List.count_singleton, List.count_cons]
  · rw [records_erased_of_ne h manager r.sid hother]
    simp [Ne.symm hother]

namespace Balance

variable {h h' h'' : Hub} {opened opened' ended ended' : List Subscription}

/-- Records stay as they are, and sids may have been issued. -/
theorem of_records (ho : h.Orderly) (hrecords : ∀ manager, h'.records manager = h.records manager)
    (hissued : ∀ manager, h.issued manager ≤ h'.issued manager) : Balance h [] [] h' where
  orderly := ho.of_records hrecords hissued
  issued := hissued
  account e := by rw [held_eq hrecords e]
  recent e he := by cases he
  distinct := List.nodup_nil

theorem idle (a : Idle h h') (ho : h.Orderly) : Balance h [] [] h' :=
  .of_records ho a.records fun manager => Nat.le_of_eq (a.issued manager).symm

theorem retire {manager : Ref .manager} {r : Record} (hr : r ∈ h.records manager) (ho : h.Orderly) :
    Balance h [] [⟨manager, r⟩] ((h.erased manager r.sid).retire r) where
  orderly := by
    refine ho.of_sublist (fun other => ?_) fun other => by simp
    rw [records_retire]
    by_cases hother : other = manager
    · rw [hother, records_erased]
      exact List.filter_sublist
    · exact records_erased_of_ne h manager r.sid hother ▸ .refl _
  issued other := by simp
  account e := by
    rw [held_eq (records_retire _ r) e, held_erased ho hr e, List.count_nil, Nat.add_zero]
  recent e he := by cases he
  distinct := List.nodup_nil

theorem subscribe (ho : h.Orderly) (slot : Slot) (scope : Ref .scope) (manager : Ref .manager) (topic : String)
    (cleanup : Option Cleanup)
    (hsids : Sid.Distinct manager.index ((h.subscribe slot scope manager topic cleanup).1.issued manager)) :
    Balance h ((h.granted manager (.subscribe slot scope topic cleanup)).map (.mk manager)) []
      (h.subscribe slot scope manager topic cleanup).1 := by
  have hfresh := ho.fresh slot scope manager topic cleanup hsids
  have hissued := (Deals.subscribe h slot scope manager topic cleanup).issued_le
  have hothers (other : Ref .manager) (hother : other ≠ manager) :
      (h.subscribe slot scope manager topic cleanup).1.records other = h.records other := by
    simp only [records, managers_subscribe_of_ne h slot scope manager topic cleanup hother]
  have hsid : (h.recordOf manager scope topic cleanup).sid = Sid.nth manager.index (h.issued manager + 1) := rfl
  rcases granted_cases h slot scope manager topic cleanup hfresh with ⟨hnone, hrecords⟩ | ⟨hgranted, hself, hnext⟩
  · rw [hnone]
    refine .of_records ho (fun other => ?_) hissued
    by_cases hother : other = manager
    · rw [hother, hrecords]
    · exact hothers other hother
  · rw [hgranted]
    exact
      { orderly := ho.of_insert hself hothers hissued hnext hsid hfresh
        issued := hissued
        account := held_insert hself hothers
        recent := fun e he => by
          obtain rfl := List.mem_singleton.1 he
          exact ⟨_, Nat.lt_succ_self _, Nat.le_of_eq hnext.symm, hsid⟩
        distinct := List.pairwise_singleton _ _ }

theorem trans (b : Balance h opened ended h') (b' : Balance h' opened' ended' h'')
    (hsids : ∀ manager, Sid.Distinct manager.index (h''.issued manager)) :
    Balance h (opened ++ opened') (ended ++ ended') h'' where
  orderly := b'.orderly
  issued manager := Nat.le_trans (b.issued manager) (b'.issued manager)
  account e := by
    have haccount := b.account e
    have haccount' := b'.account e
    rw [List.count_append, List.count_append]
    omega
  recent e he := by
    rcases List.mem_append.1 he with he | he
    · obtain ⟨n, hn, hle, hsid⟩ := b.recent e he
      exact ⟨n, hn, Nat.le_trans hle (b'.issued e.manager), hsid⟩
    · obtain ⟨n, hn, hle, hsid⟩ := b'.recent e he
      exact ⟨n, Nat.lt_of_le_of_lt (b.issued e.manager) hn, hle, hsid⟩
  distinct := by
    -- what is opened later has a greater number
    refine List.nodup_append.2 ⟨b.distinct, b'.distinct, ?_⟩
    rintro e he _ he' rfl
    obtain ⟨n, -, hn, hsid⟩ := b.recent e he
    obtain ⟨n', hn', hle, hsid'⟩ := b'.recent e he'
    have hsame := hsids e.manager n (Nat.le_trans hn (b'.issued e.manager)) n' hle (hsid.symm.trans hsid')
    omega

/-- What was opened is open or has ended, once. -/
theorem once (b : Balance h opened ended h') (ho : h.Orderly)
    (hsids : ∀ manager, Sid.Distinct manager.index (h'.issued manager)) {e : Subscription} (he : e ∈ opened) :
    h'.held e + ended.count e = 1 := by
  obtain ⟨n, hn, hle, hsid⟩ := b.recent e he
  rw [b.account e, ho.held_eq_zero hn hsid ((hsids e.manager).mono hle), b.distinct.count, if_pos he]

end Balance

/-- Accounts balance, as long as the managers do not run out of sids. -/
theorem Deals.balance {h h' : Hub} {opened ended : List Subscription} (d : Deals h opened ended h')
    (hsids : ∀ manager, Sid.Distinct manager.index (h'.issued manager)) (ho : h.Orderly) :
    Balance h opened ended h' := by
  induction d with
  | idle a => exact .idle a ho
  | subscribe h slot scope manager topic cleanup => exact .subscribe ho slot scope manager topic cleanup (hsids manager)
  | retire hr => exact .retire hr ho
  | trans d d' ih ih' =>
    have b := ih (fun manager => (hsids manager).mono (d'.issued_le manager)) ho
    exact b.trans (ih' hsids b.orderly) hsids

end Hub

end Exchange
