-- SUMMARY: What a publication does to those who are subscribed, and to nobody else.
import Exchange.Proofs.Hub.Consistency
import Mathlib.Data.List.Nodup

/-!
# Publishing

A publication sends to the subscribers of its topic one after the other, and
removes on its way those whose stream is gone. That is the same as to send
first and to remove afterwards (`publish_eq`), since a removal touches nothing
that a send depends on. `Published` says what follows for the table, the scopes,
the cleanups and the streams of other topics.
-/

namespace Exchange.Hub

/-! ## Sending and removing -/

section Send

variable (h : Hub) (sink : Ref .channel) (r : Reply)

theorem send_eq : (h.send sink r).1 = { h with channels := h.channels.modify sink fun c => (c.send r).1 } := by
  unfold send
  cases hget : h.channels.get? sink with
  | none => simp only [Store.modify_of_get?_none hget]
  | some c =>
    have hset : h.channels.set sink (c.send r).1 = h.channels.modify sink fun c => (c.send r).1 := by
      apply Store.modify_congr
      intro a ha
      rw [hget] at ha
      cases ha
      rfl
    simp only [hset]

theorem send_of_not_read (hread : h.isRead sink = false) : h.send sink r = (h, false) := by
  have hsame : (h.send sink r).1 = h := by
    rw [send_eq]
    congr 1
    apply Store.modify_eq_self
    intro c hc
    have hclosed : c.reading = false := by simpa [isRead, hc] using hread
    simp [Channel.send, hclosed]
  exact Prod.ext hsame (by rw [send_snd, hread])

@[simp] theorem isRead_send (c : Ref .channel) : (h.send sink r).1.isRead c = h.isRead c := by
  rw [isRead_eq, isRead_eq, reading?_send]

theorem runCleanup_send (cleanup : Option Cleanup) :
    ((h.send sink r).1).runCleanup cleanup = ((h.runCleanup cleanup).send sink r).1 := by
  rw [send_eq, send_eq]
  unfold runCleanup
  split
  · rfl
  · rfl
  · rename_i service topic
    unfold leaveService
    dsimp only
    cases h.services.get? service with
    | none => rfl
    | some s =>
      dsimp only
      cases (s.leave topic).2 with
      | false => rfl
      | true =>
        unfold deactivate
        dsimp only [if_true]
        cases (s.leave topic).1.producer <;> rfl

theorem dropSink_send (other : Ref .channel) :
    ((h.send sink r).1).dropSink other = ((h.dropSink other).send sink r).1 := by
  have hcomm : ∀ c : Channel Reply, (c.leave.send r).1 = (c.send r).1.leave := by
    intro c
    unfold Channel.send Channel.leave
    split <;> rfl
  rw [send_eq, send_eq, dropSink, dropSink, Store.modify_comm h.channels sink other hcomm]

end Send

/-- Removing a subscription and sending to any stream can be done in either order. -/
theorem remove_send (h : Hub) (sink : Ref .channel) (e : Reply) (manager : Ref .manager) (sid : Sid)
    (topic : Option String) :
    ((h.send sink e).1.remove manager sid topic).1 = ((h.remove manager sid topic).1.send sink e).1 := by
  have htake : (h.send sink e).1.takeRecord manager sid topic =
      (((h.takeRecord manager sid topic).1.send sink e).1, (h.takeRecord manager sid topic).2) := by
    rw [send_eq, send_eq]
    unfold takeRecord
    dsimp only
    split <;> rfl
  have huntrack (h : Hub) (scope : Ref .scope) :
      ((h.send sink e).1.untrack scope sid).1 = ((h.untrack scope sid).1.send sink e).1 := by
    rw [untrack_eq, untrack_eq, send_eq, send_eq]
    rfl
  unfold remove
  rw [htake]
  cases h.takeRecord manager sid topic with
  | mk g found =>
    cases found with
    | none => rfl
    | some r =>
      show ((((g.send sink e).1.untrack r.scope sid).1).retire r) = _
      rw [huntrack, retire, runCleanup_send, dropSink_send]
      rfl

section Remove

variable (h : Hub) (manager : Ref .manager) (sid : Sid) (topic : Option String)

@[simp] theorem reading?_remove (c : Ref .channel) :
    (h.remove manager sid topic).1.reading? c = h.reading? c := by
  rcases remove_cases h manager sid topic with ⟨r, -, -, -, hremove⟩ | hremove
  · rw [hremove, reading?_retire, untrack_eq, reading?_rescoped, reading?_erased]
  · rw [hremove]

@[simp] theorem isRead_remove (c : Ref .channel) : (h.remove manager sid topic).1.isRead c = h.isRead c := by
  rw [isRead_eq, isRead_eq, reading?_remove]

theorem records_remove :
    (h.remove manager sid none).1.records manager = (h.records manager).filter fun r => r.sid ≠ sid := by
  rcases takeRecord_none_cases h manager sid with ⟨r, -, hsid, htake⟩ | ⟨htake, hno⟩
  · simp only [remove, htake]
    rw [records_retire, untrack_eq, records_rescoped, records_erased]
  · simp only [remove, htake]
    rw [filter_sid_eq_self hno]

end Remove

theorem channels_retire (h : Hub) (r : Record) :
    (h.retire r).channels = h.channels.modify r.sink Channel.leave := by
  rw [retire, dropSink, (sameTables_runCleanup h r.cleanup).channels]

/-! ## Sending first, removing afterwards -/

/-- The hub after an event has been sent to records, one after the other. -/
def announce (h : Hub) (topic : String) (message : Value) (rs : List Record) : Hub :=
  rs.foldl (fun h r => (h.send r.sink (.event r.sid topic message)).1) h

/-- The hub after records have been removed, one after the other. -/
def removeAll (h : Hub) (manager : Ref .manager) (rs : List Record) : Hub :=
  rs.foldl (fun h r => (h.remove manager r.sid none).1) h

theorem remove_announce (h : Hub) (manager : Ref .manager) (topic : String) (message : Value) (rs : List Record)
    (sid : Sid) :
    ((h.announce topic message rs).remove manager sid none).1 =
      (h.remove manager sid none).1.announce topic message rs := by
  induction rs generalizing h with
  | nil => rfl
  | cons r rs ih =>
    show (((h.send r.sink _).1.announce topic message rs).remove manager sid none).1 = _
    rw [ih, remove_send]
    rfl

/-- The subscribers of `rs` whose stream is read. -/
def live (h : Hub) (rs : List Record) : List Record :=
  rs.filter fun r => h.isRead r.sink

/-- The subscribers of `rs` whose stream is gone. -/
def gone (h : Hub) (rs : List Record) : List Record :=
  rs.filter fun r => !h.isRead r.sink

theorem foldl_deliver (h : Hub) (manager : Ref .manager) (topic : String) (message : Value) (rs : List Record)
    (n : Nat) :
    rs.foldl (deliver manager topic message) (h, n) =
      ((h.announce topic message (h.live rs)).removeAll manager (h.gone rs), n + (h.live rs).length) := by
  induction rs generalizing h n with
  | nil => rfl
  | cons r rs ih =>
    rw [List.foldl_cons, deliver]
    cases hread : h.isRead r.sink with
    | true =>
      have hsend : h.send r.sink (.event r.sid topic message) =
          ((h.send r.sink (.event r.sid topic message)).1, true) := by
        rw [← hread, ← send_snd]
      have hlive : (h.send r.sink (.event r.sid topic message)).1.live rs = h.live rs := by
        simp only [live, isRead_send]
      have hgone : (h.send r.sink (.event r.sid topic message)).1.gone rs = h.gone rs := by
        simp only [gone, isRead_send]
      rw [hsend]
      dsimp only
      rw [ih, hlive, hgone]
      have hlive' : h.live (r :: rs) = r :: h.live rs := List.filter_cons_of_pos hread
      have hgone' : h.gone (r :: rs) = h.gone rs := List.filter_cons_of_neg (by simp [hread])
      rw [hlive', hgone', List.length_cons]
      refine Prod.ext rfl ?_
      dsimp only
      omega
    | false =>
      have hlive : (h.remove manager r.sid none).1.live rs = h.live rs := by
        simp only [live, isRead_remove]
      have hgone : (h.remove manager r.sid none).1.gone rs = h.gone rs := by
        simp only [gone, isRead_remove]
      have hlive' : h.live (r :: rs) = h.live rs := List.filter_cons_of_neg (by simp [hread])
      have hgone' : h.gone (r :: rs) = r :: h.gone rs := List.filter_cons_of_pos (by simp [hread])
      rw [send_of_not_read h r.sink _ hread]
      dsimp only
      rw [ih, hlive, hgone, hlive', hgone', ← remove_announce]
      rfl

theorem publish_eq (h : Hub) (manager : Ref .manager) (topic : String) (message : Value) :
    h.publish manager topic message =
      ((h.announce topic message (h.live (h.subscribers manager topic))).removeAll manager
          (h.gone (h.subscribers manager topic)),
        (h.live (h.subscribers manager topic)).length) := by
  rw [publish, foldl_deliver, Nat.zero_add]

theorem sameBooks_announce (h : Hub) (topic : String) (message : Value) (rs : List Record) :
    SameBooks h (h.announce topic message rs) := by
  induction rs generalizing h with
  | nil => exact .refl h
  | cons r rs ih => exact (sameBooks_send h r.sink _).trans (ih _)

@[simp] theorem isRead_announce (h : Hub) (topic : String) (message : Value) (rs : List Record)
    (c : Ref .channel) : (h.announce topic message rs).isRead c = h.isRead c := by
  induction rs generalizing h with
  | nil => rfl
  | cons r rs ih => exact (ih _).trans (isRead_send h r.sink _ c)

theorem records_removeAll (h : Hub) (manager : Ref .manager) (rs : List Record) :
    (h.removeAll manager rs).records manager =
      (h.records manager).filter fun r => r.sid ∉ rs.map (·.sid) := by
  induction rs generalizing h with
  | nil =>
    symm
    apply List.filter_eq_self.2
    intro r _
    rfl
  | cons r rs ih =>
    show ((h.remove manager r.sid none).1.removeAll manager rs).records manager = _
    rw [ih, records_remove, List.filter_filter]
    apply List.filter_congr
    intro q _
    by_cases hq : q.sid = r.sid <;> simp [hq]

/-! ## What is removed, and what stays -/

section Removed

variable {h₀ h : Hub} {manager : Ref .manager} {given : List Record}

theorem Ledger.owned?_remove (l : Ledger h₀ h manager [] given) (sid : Sid) (scope : Ref .scope) :
    (h.remove manager sid none).1.owned? scope =
      (h.owned? scope).map fun owned => owned.filter fun p => p.1 ≠ sid := by
  have hid (hno : ∀ r ∈ h.records manager, r.sid = sid → r.scope ≠ scope) :
      h.owned? scope = (h.owned? scope).map fun owned => owned.filter fun p => p.1 ≠ sid := by
    cases hs : h.owned? scope with
    | none => rfl
    | some owned =>
      rw [Option.map_some, List.filter_eq_self.2]
      intro p hp
      have hne : p.1 ≠ sid := by
        intro hsid
        obtain ⟨r, hr, hrsid, hscope⟩ := (l.tracked scope owned hs sid).1 (List.mem_map.2 ⟨p, hp, hsid⟩)
        exact hno r hr hrsid hscope
      simpa using hne
  rcases takeRecord_none_cases h manager sid with ⟨q, hq, rfl, htake⟩ | ⟨htake, hno⟩
  · simp only [Hub.remove, htake]
    rw [owned?_retire]
    by_cases hscope : scope = q.scope
    · subst hscope
      rw [owned?_untrack_self, owned?_erased]
    · rw [owned?_untrack_of_ne _ _ _ hscope, owned?_erased]
      apply hid
      intro r hr hsid heq
      rw [eq_of_sid l.nodup_records hr hq hsid] at heq
      exact hscope heq.symm
  · simp only [Hub.remove, htake]
    exact hid fun r hr hsid => absurd hsid (hno r hr)

theorem Ledger.owned?_removeAll (l : Ledger h₀ h manager [] given) (rs : List Record) (scope : Ref .scope) :
    (h.removeAll manager rs).owned? scope =
      (h.owned? scope).map fun owned => owned.filter fun p => p.1 ∉ rs.map (·.sid) := by
  induction rs generalizing h with
  | nil =>
    cases hs : h.owned? scope with
    | none => exact hs
    | some owned =>
      rw [Option.map_some, List.filter_eq_self.2]
      · exact hs
      · intro p _
        rfl
  | cons r rs ih =>
    show ((h.remove manager r.sid none).1.removeAll manager rs).owned? scope = _
    rw [ih (l.remove r.sid none), l.owned?_remove, Option.map_map]
    congr 1
    funext owned
    rw [Function.comp_apply, List.filter_filter]
    apply List.filter_congr
    intro p _
    by_cases hp : p.1 = r.sid <;> simp [hp]

/-- Only what the sids name is removed, and each record that is removed is cleaned up once. -/
theorem CleanedUp.removeAll {done rs : List Record} (hd : ((h.records manager).map (·.sid)).Nodup)
    (hrs : ∀ r ∈ rs, r ∈ h.records manager) (hnodup : (rs.map (·.sid)).Nodup) (a : CleanedUp h₀ h done) :
    CleanedUp h₀ (h.removeAll manager rs) (done ++ rs) := by
  induction rs generalizing h done with
  | nil => simpa [Hub.removeAll] using a
  | cons r rs ih =>
    obtain ⟨hr, hrs⟩ := List.forall_mem_cons.1 hrs
    obtain ⟨hnot, hnodup⟩ := List.nodup_cons.1 hnodup
    have hremoved : CleanedUp h₀ (h.remove manager r.sid none).1 (done ++ [r]) := by
      rcases takeRecord_none_cases h manager r.sid with ⟨q, hq, hsid, htake⟩ | ⟨-, hno⟩
      · obtain rfl := eq_of_sid hd hq hr hsid
        simp only [remove, htake]
        apply CleanedUp.retire
        apply a.of_eq
        · rw [untrack_eq]
          rfl
        · rw [untrack_eq]
          exact .refl _
      · exact absurd rfl (hno r hr)
    have hrest := ih (h := (h.remove manager r.sid none).1) (by
      rw [records_remove]
      exact hd.sublist (List.filter_sublist.map _)) (by
      intro q hq
      rw [records_remove]
      refine List.mem_filter.2 ⟨hrs q hq, ?_⟩
      have hne : q.sid ≠ r.sid := fun hsid => hnot (List.mem_map.2 ⟨q, hq, hsid⟩)
      simpa using hne) hnodup hremoved
    rwa [List.append_assoc] at hrest

theorem get?_announce_of_ne {c : Ref .channel} (topic : String) (message : Value) {rs : List Record}
    (hne : ∀ r ∈ rs, r.sink ≠ c) : (h.announce topic message rs).channels.get? c = h.channels.get? c := by
  induction rs generalizing h with
  | nil => rfl
  | cons r rs ih =>
    obtain ⟨hr, hrs⟩ := List.forall_mem_cons.1 hne
    refine (ih hrs).trans ?_
    show (h.send r.sink _).1.channels.get? c = _
    rw [send_eq]
    exact Store.get?_modify_of_ne _ hr.symm

theorem get?_removeAll_of_ne {c : Ref .channel} {rs : List Record}
    (hne : ∀ r ∈ h.records manager, r.sid ∈ rs.map (·.sid) → r.sink ≠ c) :
    (h.removeAll manager rs).channels.get? c = h.channels.get? c := by
  induction rs generalizing h with
  | nil => rfl
  | cons r rs ih =>
    have hremoved : (h.remove manager r.sid none).1.channels.get? c = h.channels.get? c := by
      rcases takeRecord_none_cases h manager r.sid with ⟨q, hq, hsid, htake⟩ | ⟨htake, -⟩
      · simp only [remove, htake]
        rw [channels_retire, untrack_eq]
        exact Store.get?_modify_of_ne _ (hne q hq (by simp [hsid])).symm
      · simp only [remove, htake]
    refine (ih ?_).trans hremoved
    intro q hq hsid
    rw [records_remove] at hq
    exact hne q (List.mem_filter.1 hq).1 (List.mem_cons_of_mem _ hsid)

end Removed

/-- What a publication does: the subscribers that are read are sent the event in the order of
subscription, and counted; those that are not are removed, untracked and cleaned up; all else stays. -/
structure Published (h : Hub) (manager : Ref .manager) (topic : String) (message : Value) (h' : Hub)
    (n : Nat) : Prop where
  sent : h' = (h.announce topic message (h.live (h.subscribers manager topic))).removeAll manager
    (h.gone (h.subscribers manager topic))
  count : n = (h.live (h.subscribers manager topic)).length
  records : h'.records manager = (h.records manager).filter fun r => r.topic ≠ topic ∨ h.isRead r.sink
  cleaned : CleanedUp h h' (h.gone (h.subscribers manager topic))
  owned : ∀ scope, h'.owned? scope = (h.owned? scope).map fun owned =>
    owned.filter fun p => p.1 ∉ (h.gone (h.subscribers manager topic)).map (·.sid)
  others : ∀ r ∈ h.records manager, r.topic ≠ topic → h'.channels.get? r.sink = h.channels.get? r.sink

theorem mem_gone {h : Hub} {manager : Ref .manager} {topic : String} {r : Record} :
    r ∈ h.gone (h.subscribers manager topic) ↔
      r ∈ h.records manager ∧ r.topic = topic ∧ h.isRead r.sink = false := by
  simp only [gone, subscribers_eq, List.mem_filter, decide_eq_true_eq, Bool.not_eq_true', and_assoc]

section Published

variable {h₀ h : Hub} {manager : Ref .manager} {given : List Record}

/-- Whose sid is to be removed is gone. -/
theorem Ledger.sid_mem_gone (l : Ledger h₀ h manager [] given) {r : Record} (hr : r ∈ h.records manager)
    (topic : String) :
    r.sid ∈ (h.gone (h.subscribers manager topic)).map (·.sid) ↔ r.topic = topic ∧ h.isRead r.sink = false := by
  constructor
  · intro hmap
    obtain ⟨q, hq, hqsid⟩ := List.mem_map.1 hmap
    obtain ⟨hq, hgone⟩ := mem_gone.1 hq
    rwa [← eq_of_sid l.nodup_records hq hr hqsid]
  · intro hgone
    exact List.mem_map_of_mem (mem_gone.2 ⟨hr, hgone⟩)

theorem Ledger.records_publish (l : Ledger h₀ h manager [] given) (topic : String) (message : Value) :
    (h.publish manager topic message).1.records manager =
      (h.records manager).filter fun r => r.topic ≠ topic ∨ h.isRead r.sink := by
  have hbooks := sameBooks_announce h topic message (h.live (h.subscribers manager topic))
  rw [publish_eq, records_removeAll, hbooks.records]
  apply List.filter_congr
  intro r hr
  rw [decide_eq_decide, l.sid_mem_gone hr]
  simp [imp_iff_not_or]

theorem Ledger.published (l : Ledger h₀ h manager [] given) (hsinks : ((h.records manager).map (·.sink)).Nodup)
    (topic : String) (message : Value) :
    Published h manager topic message (h.publish manager topic message).1
      (h.publish manager topic message).2 := by
  have hrecords := l.records_publish topic message
  have hsubset : (h.gone (h.subscribers manager topic)).Sublist (h.records manager) := by
    rw [subscribers_eq]
    exact List.filter_sublist.trans List.filter_sublist
  have hbooks := sameBooks_announce h topic message (h.live (h.subscribers manager topic))
  have hnodup := hbooks.records manager ▸ l.nodup_records
  rw [publish_eq] at hrecords ⊢
  refine ⟨rfl, rfl, hrecords, ?_, ?_, ?_⟩
  · rw [← List.nil_append (h.gone _)]
    refine CleanedUp.removeAll hnodup ?_ (l.nodup_records.sublist (hsubset.map _)) ?_
    · intro r hr
      rw [hbooks.records]
      exact (mem_gone.1 hr).1
    · exact (CleanedUp.start h).of_eq hbooks.services (.of_eq hbooks.journal)
  · intro scope
    rw [(l.of_sameBooks hbooks).owned?_removeAll, hbooks.owned?]
  · intro r hr htopic
    rw [get?_removeAll_of_ne, get?_announce_of_ne]
    · intro q hq hsink
      rw [live, subscribers_eq] at hq
      have hq := List.mem_filter.1 (List.mem_filter.1 hq).1
      obtain rfl := List.inj_on_of_nodup_map hsinks hq.1 hr hsink
      exact htopic (by simpa using hq.2)
    · intro q hq hqsid hsink
      rw [hbooks.records] at hq
      obtain rfl := List.inj_on_of_nodup_map hsinks hq hr hsink
      exact htopic ((l.sid_mem_gone hq topic).1 hqsid).1

end Published

end Exchange.Hub
