-- SUMMARY: Requesting and shutting as sequences of atomic steps that may interleave.
import Exchange.Client.Remote
import Exchange.Proofs.Client.Table
import Exchange.Proofs.Interleaving

/-!
# Calls of a client in atomic steps

A request checks the client, enters the table, checks again, and hands its frame
to the writer if the writer still takes frames; if not, it leaves the table. To
shut a client is to close it, to part with the writer, to collect the ids of
the pending requests, and to take and tell each of them. A call that is alone
does what the operation of the client does (`completes_request`, `completes_shut`).
-/

namespace Exchange.Client

namespace Desk

/-- The desk without the entry of a request, whose inbox is left as it is. -/
def without (d : Desk) (id : RequestId) : Desk :=
  { d with pending := d.pending.filter (·.id ≠ id) }

theorem mem_without {d : Desk} {id : RequestId} {q : Pending} :
    q ∈ (d.without id).pending ↔ q ∈ d.pending ∧ q.id ≠ id := by
  simp [without]

theorem mem_ids_without {d : Desk} {id i : RequestId} : i ∈ (d.without id).ids ↔ i ∈ d.ids ∧ i ≠ id := by
  simp only [ids, List.mem_map, mem_without]
  constructor
  · rintro ⟨q, ⟨hq, hid⟩, rfl⟩
    exact ⟨⟨q, hq, rfl⟩, hid⟩
  · rintro ⟨⟨q, hq, rfl⟩, hid⟩
    exact ⟨q, ⟨hq, hid⟩, rfl⟩

/-- The inbox of a request that was taken out receives what the end is to the request, and ends. -/
def dismiss (d : Desk) (failure : Option String) (q : Pending) : Desk :=
  { d with
    inboxes := d.inboxes.modify q.inbox fun c =>
      ((q.progress.accept (ending failure)).queue.foldl (fun c e => (c.send e).1) c).leave }

/-- To terminate a pending request is to take it out and to tell it of the end. -/
theorem terminate_of_find? {d : Desk} (h : d.Sound) {id : RequestId} {q : Pending} (hq : d.find? id = some q)
    (failure : Option String) : terminate failure d id = (d.without id).dismiss failure q := by
  obtain ⟨hmem, rfl⟩ := mem_of_find? hq
  have hfinished : (q.progress.accept (ending failure)).finished = true := by
    rw [Progress.accept_ending (h.resting q hmem).unfinished]
  rw [terminate_eq h, feed_of_find? hq]
  dsimp only
  rw [hfinished, Bool.true_or, if_pos rfl]
  generalize (q.progress.accept (ending failure)).drained = progress
  have hfind : (d.told q (q.progress.accept (ending failure)).queue progress).find? q.id =
      some { q with progress } := by
    rw [find?_told, hq]
    simp
  unfold remove
  rw [hfind]
  simp only [told, put, without, dismiss, Store.modify_modify, List.filter_map, Desk.mk.injEq, and_true]
  refine ⟨?_, rfl⟩
  have hid (r : Pending) : (if r.id = q.id then { r with progress } else r : Pending).id = r.id := by
    split <;> rfl
  simp only [Function.comp_def, hid]
  refine (List.map_congr_left fun r hr => ?_).trans (List.map_id _)
  exact if_neg (by simpa using (List.mem_filter.1 hr).2)

end Desk

namespace Shutdown

/-- What a call does at once. -/
inductive Step where
  /-- The request is refused if it is not valid or the client is closed. -/
  | check (id : RequestId) (r : Request)
  /-- A valid request enters the table. -/
  | enter (id : RequestId) (r : Request)
  /-- The client may have closed while the request entered. -/
  | recheck (id : RequestId) (inbox : Ref .inbox) (r : Request)
  /-- The frame is handed to the writer, if the writer takes frames. -/
  | send (id : RequestId) (inbox : Ref .inbox) (r : Request)
  /-- A request that was not sent leaves the table. -/
  | discard (id : RequestId)
  /-- The client is marked as closed. -/
  | close (failure : Option String)
  /-- The writer takes no more frames. -/
  | part (failure : Option String)
  /-- The ids of the pending requests are collected. -/
  | collect (failure : Option String)
  /-- A pending request is taken out of the table. -/
  | take (failure : Option String) (id : RequestId)
  /-- A request that was taken out is told of the end. -/
  | tell (failure : Option String) (q : Pending)

/-- What calls share. -/
structure Scene where
  client : Remote
  /-- The writer takes frames. -/
  taking : Bool := true
  /-- The requests that have succeeded, with their streams. -/
  accepted : List (RequestId × Ref .inbox) := []
  /-- The requests that have failed. -/
  refused : List (RequestId × Error) := []

namespace Scene

def desk (c : Scene) : Desk :=
  c.client.desk

def onDesk (c : Scene) (d : Desk) : Scene :=
  { c with client := { c.client with desk := d } }

def refuse (c : Scene) (id : RequestId) (e : Error) : Scene :=
  { c with refused := c.refused ++ [(id, e)] }

def accept (c : Scene) (id : RequestId) (inbox : Ref .inbox) (r : Request) : Scene :=
  { c with
    client := { c.client with queue := c.client.queue ++ [(Request.Envelope.enclose id r).encode c.client.encoding] }
    accepted := c.accepted ++ [(id, inbox)] }

/-- Takes a step; gives the steps that must follow. -/
def exec (c : Scene) : Step → Scene × List Step
  | .check id r =>
    match validate r with
    | .error e => (c.refuse id e, [])
    | .ok _ => if c.client.isClosed then (c.refuse id .closed, []) else (c, [.enter id r])
  | .enter id r => (c.onDesk (c.desk.insert id).1, [.recheck id (c.desk.insert id).2 r])
  | .recheck id inbox r => (c, [if c.client.isClosed then .discard id else .send id inbox r])
  | .send id inbox r => if c.taking then (c.accept id inbox r, []) else (c, [.discard id])
  | .discard id => ((c.onDesk (c.desk.remove id)).refuse id .closed, [])
  | .close failure => (c.onDesk c.desk.sealed, [.part failure])
  | .part failure => ({ c with taking := false }, [.collect failure])
  | .collect failure => (c, c.desk.ids.map (.take failure))
  | .take failure id =>
    match c.desk.find? id with
    | some q => (c.onDesk (c.desk.without id), [.tell failure q])
    | none => (c, [])
  | .tell failure q => (c.onDesk (c.desk.dismiss failure q), [])

end Scene

/-- Steps call for steps of lower rank only. -/
def Step.rank : Step → Nat
  | .discard _ | .tell _ _ => 0
  | .send _ _ _ | .take _ _ => 1
  | .recheck _ _ _ | .collect _ => 2
  | .enter _ _ | .part _ => 3
  | .check _ _ | .close _ => 4

theorem Scene.rank_lt_of_exec (c : Scene) (s t : Step) (h : t ∈ (c.exec s).2) : t.rank < s.rank := by
  cases s with
  | check id r =>
    simp only [exec] at h
    split at h
    · cases h
    · split at h
      · cases h
      · obtain rfl := List.mem_singleton.1 h
        exact Nat.lt_succ_self _
  | recheck id inbox r =>
    obtain rfl := List.mem_singleton.1 h
    split
    · exact Nat.two_pos
    · exact Nat.one_lt_two
  | send id inbox r =>
    simp only [exec] at h
    split at h
    · cases h
    · obtain rfl := List.mem_singleton.1 h
      exact Nat.lt_succ_self _
  | collect failure =>
    obtain ⟨id, -, rfl⟩ := List.mem_map.1 h
    exact Nat.lt_succ_self _
  | take failure id =>
    simp only [exec] at h
    split at h
    · obtain rfl := List.mem_singleton.1 h
      exact Nat.lt_succ_self _
    · cases h
  | enter | close | part =>
    obtain rfl := List.mem_singleton.1 h
    exact Nat.lt_succ_self _
  | discard | tell => cases h

/-! ## A call that is alone -/

section Alone

variable {c c' : Scene}

open Interleaving (Completes)

/-- Alone, a request does what `Remote.request` does. -/
theorem completes_request (htaking : c.taking = !c.client.isClosed) (id : RequestId) (r : Request) :
    ∃ c', Completes Scene.exec c [.check id r] c' ∧ c'.client = (c.client.request id r).1 ∧
      (c'.accepted, c'.refused) =
        match (c.client.request id r).2 with
        | .ok inbox => (c.accepted ++ [(id, inbox)], c.refused)
        | .error e => (c.accepted, c.refused ++ [(id, e)]) := by
  unfold Remote.request
  cases hvalid : validate r with
  | error e =>
    refine ⟨c.refuse id e, .step ?_, rfl, rfl⟩
    simp only [Scene.exec, hvalid]
    exact .done _
  | ok =>
    cases hclosed : c.client.isClosed with
    | true =>
      refine ⟨c.refuse id .closed, .step ?_, rfl, rfl⟩
      simp only [Scene.exec, hvalid, hclosed]
      exact .done _
    | false =>
      rw [hclosed] at htaking
      have hcheck : c.exec (.check id r) = (c, [.enter id r]) := by
        simp only [Scene.exec, hvalid, hclosed, Bool.false_eq_true, if_false]
      obtain ⟨entered, hentered⟩ : ∃ d, d = c.onDesk (c.desk.insert id).1 := ⟨_, rfl⟩
      have hopen : entered.client.isClosed = false := hentered ▸ hclosed
      have hwriter : entered.taking = true := hentered ▸ htaking
      have hrecheck (inbox : Ref .inbox) : entered.exec (.recheck id inbox r) = (entered, [.send id inbox r]) := by
        simp only [Scene.exec, hopen, Bool.false_eq_true, if_false]
      have hsend (inbox : Ref .inbox) : entered.exec (.send id inbox r) = (entered.accept id inbox r, []) := by
        simp only [Scene.exec, hwriter, if_true]
      refine ⟨entered.accept id (c.desk.insert id).2 r, .step ?_, ?_, ?_⟩
      · rw [hcheck]
        refine .step ?_
        show Completes Scene.exec (c.onDesk (c.desk.insert id).1) [.recheck id (c.desk.insert id).2 r] _
        rw [← hentered]
        refine .step ?_
        rw [hrecheck]
        refine .step ?_
        rw [hsend]
        exact .done _
      · rw [hentered]
        rfl
      · rw [hentered]
        rfl

theorem completes_take (failure : Option String) {ids : List RequestId} {rest : List Step} (hsound : c.desk.Sound)
    (h : Completes Scene.exec (c.onDesk (ids.foldl (Desk.terminate failure) c.desk)) rest c') :
    Completes Scene.exec c (ids.map (.take failure) ++ rest) c' := by
  induction ids generalizing c with
  | nil => exact h
  | cons id ids ih =>
    refine .step ?_
    cases hq : c.desk.find? id with
    | none =>
      have hsame : Desk.terminate failure c.desk id = c.desk := by
        rw [Desk.terminate_eq hsound]
        simp only [Desk.feed, hq]
      simp only [Scene.exec, hq]
      rw [List.foldl_cons, hsame] at h
      exact ih hsound h
    | some q =>
      rw [List.foldl_cons, Desk.terminate_of_find? hsound hq] at h
      have hnext : ((c.desk.without id).dismiss failure q).Sound := by
        rw [← Desk.terminate_of_find? hsound hq, Desk.terminate_eq hsound]
        exact hsound.feed id _
      simp only [Scene.exec, hq]
      exact .step (ih hnext h)

/-- Alone, a call to shut does what `Remote.shut` does. -/
theorem completes_shut (hsound : c.desk.Sound) (failure : Option String) :
    Completes Scene.exec c [.close failure] { c with client := c.client.shut failure, taking := false } := by
  refine .step (.step (.step ?_))
  exact completes_take failure hsound.sealed (.done _)

end Alone

end Shutdown

end Exchange.Client
