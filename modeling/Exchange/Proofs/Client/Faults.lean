-- SUMMARY: What a caller is told of a failure: all that the failure says, but for doubles that text respells.
import Exchange.Proofs.Client.Agreement
import Exchange.Proofs.Envelope.Encodings
import Exchange.Proofs.Failures

/-!
# Failures as callers see them

`Failure.fault` lists what a failure says: status, code and text, and the fields
that its frame does not own. Whatever was attached to the failure, its frame
tells a caller within the program this fault and nothing else, and a remote
caller the same fault with its values as they are read back
(`Client.heard_intact_iff`).
-/

namespace Exchange

/-! ## What a failure says -/

namespace Failure

/-- The members that the frame of a failure owns. -/
def own (f : Failure) : List (String × Value) :=
  [("status", .ofNat f.status.toNat), ("statusCode", .text f.statusCode), ("message", .text f.message),
    ("type", .text "error"), ("fin", .bool true)]

/-- What a failure says to a caller. -/
def fault (f : Failure) : Client.Fault where
  status := f.status
  statusCode := f.statusCode
  message := if f.message.isEmpty then Client.Fault.defaultMessage else f.message
  fields := Members.ofList (f.own ++ f.extra)

/-- The frame of a failure with other extra members. -/
def reported (f : Failure) (extra : List (String × Value)) : Reply :=
  { f.toReply with extra }

/-- The frame tells what it owns and the extra members as they are, whatever these are. -/
theorem ofReply_reported (f : Failure) {extra : List (String × Value)} (h : (f.reported extra).ExtraFree) :
    Client.Fault.ofReply (f.reported extra) f.status =
      { f.fault with fields := Members.ofList (f.own ++ extra) } := by
  have hmembers : (f.reported extra).toMembers = f.own ++ extra := rfl
  have hsorted := Members.sorted_ofList (f.reported extra).toMembers
  have hget {key : String} (hkey : key ∈ Reply.reserved) := Reply.get?_ofList_toMembers h hkey
  have hfields : (Client.Fault.ofReply (f.reported extra) f.status).fields =
      Members.insert "statusCode" (.text f.statusCode) (Members.insert "status" (.ofNat f.status.toNat)
        (Members.erase "id" (Members.ofList (f.reported extra).toMembers))) := rfl
  rw [Members.erase_of_get?_none (hget (by decide)), Members.insert_of_get? hsorted (hget (by decide)),
    Members.insert_of_get? hsorted (hget (by decide)), hmembers] at hfields
  calc Client.Fault.ofReply (f.reported extra) f.status
      = { f.fault with fields := (Client.Fault.ofReply (f.reported extra) f.status).fields } := rfl
    _ = { f.fault with fields := Members.ofList (f.own ++ extra) } := by rw [hfields]

theorem map_own_carried (f : Failure) (encoding : Encoding) :
    f.own.map (fun m => (m.1, m.2.carried encoding.rounded)) = f.own := by
  have hnumber : (Value.ofNat f.status.toNat).carried encoding.rounded = .ofNat f.status.toNat := by
    obtain ⟨n, -, hvalue⟩ := Reply.exists_ofNat_toNat f.status
    rw [hvalue, Value.carried_number, Encoding.rounded_int]
  simp [own, hnumber]

/-- The frame as it is read back: what it owns is as it was. -/
theorem carried_reported {f : Failure} (hstatus : f.status.code ≠ 0) (hordered : f.Ordered) (id : RequestId)
    (encoding : Encoding) :
    (f.toReply.stamped id).carried encoding =
      (f.reported (f.extra.map fun m => (m.1, m.2.carried encoding.rounded))).stamped id := by
  have hkept : (some f.status).filter (fun s => s.code ≠ 0) = some f.status := by
    rw [Option.filter_some, if_pos (decide_eq_true hstatus)]
  let extra := f.extra.map fun m => (m.1, m.2.carried encoding.rounded)
  have hextra : Members.ofList extra = extra :=
    Members.ofList_of_sorted (hordered.extra.map (Value.carried encoding.rounded))
  calc (f.toReply.stamped id).carried encoding
      = { (f.reported (Members.ofList extra)).stamped id with
          status := (some f.status).filter fun s => s.code ≠ 0 } := rfl
    _ = (f.reported extra).stamped id := by
      rw [hkept, hextra]
      rfl

end Failure

/-! ## What callers are told -/

namespace Client

/-- The frame of a failure ends its request with one event. -/
theorem Progress.accept_reported {f : Failure} (herror : f.status.isError = true)
    {extra : List (String × Value)} (hextra : (f.reported extra).ExtraFree) (id : Option RequestId) :
    ({} : Progress).accept (.frame { f.reported extra with id }) =
      { status := some f.status, finished := true
        queue := [.error { f.fault with fields := Members.ofList (f.own ++ extra) } (f.reported extra)] } := by
  have hevents := eventsOf_error herror { f.reported extra with id }
  have hunder : ({ f.reported extra with id } : Reply).under f.status = f.reported extra := rfl
  rw [hunder, f.ofReply_reported hextra] at hevents
  show ({ status := some f.status } : Progress).push (eventsOf f.status { f.reported extra with id }) = _
  rw [hevents]
  rfl

/-- A failure of status 4xx or 5xx reaches its caller as one error event, which within the program is all that
the failure says, and remotely is that with the values of its fields as they are read back. Both are the same
just when the encoding is binary, or the digits of every double in the fields read back as that double. -/
theorem heard_intact_iff {f : Failure} (herror : f.status.isError = true) (hordered : f.Ordered)
    {id : RequestId} {encoding : Encoding}
    (hnesting : encoding.Admits (.object (f.toReply.stamped id).toMembers))
    (hlen : ((f.toReply.stamped id).encode encoding).payload.length < 2 ^ 64) :
    let here := Event.error f.fault f.toReply
    let there := Event.error
      { f.fault with fields := f.fault.fields.map fun m => (m.1, m.2.carried encoding.rounded) }
      { f.toReply with extra := f.extra.map fun m => (m.1, m.2.carried encoding.rounded) }
    ({} : Progress).listen (Result.frames (.error f)) = [here] ∧
      (∃ r, Reply.decode ((f.toReply.stamped id).encode encoding) = .ok r ∧
        ({} : Progress).accept (.frame r) =
          { status := some f.status, finished := true, queue := [there] }) ∧
      (there = here ↔
        encoding = .binary ∨
          ∀ x, Number.double x ∈ f.toReply.numbers → Json.respelled (.double x) = .double x) := by
  intro here there
  have hstatus : f.status.code ≠ 0 := by
    intro hzero
    have hclass : f.status = ⟨0⟩ := by rw [← hzero]
    rw [hclass] at herror
    cases herror
  have hfields : f.fault.fields.map (fun m => (m.1, m.2.carried encoding.rounded)) =
      Members.ofList (f.own ++ f.extra.map fun m => (m.1, m.2.carried encoding.rounded)) := by
    show (Members.ofList (f.own ++ f.extra)).map _ = _
    rw [← Members.ofList_map, List.map_append, f.map_own_carried]
  refine ⟨?_, ⟨_, Reply.decode_encode ⟨f.extraFree_toReply, hnesting⟩ hlen, ?_⟩, ?_⟩
  · have haccept := Progress.accept_reported herror f.extraFree_toReply none
    have hfinished : (({} : Progress).run [f.toReply]).finished = true := congrArg Progress.finished haccept
    exact (Progress.listen_of_finished rfl hfinished).trans (congrArg Progress.queue haccept)
  · have hextra : (f.reported (f.extra.map fun m => (m.1, m.2.carried encoding.rounded))).ExtraFree := by
      intro m hm
      obtain ⟨m', hm', rfl⟩ := List.mem_map.1 hm
      exact f.extraFree_toReply m' hm'
    have haccept := Progress.accept_reported herror hextra (some id)
    rw [Failure.carried_reported hstatus hordered]
    rw [← hfields] at haccept
    exact haccept
  · rw [← Encoding.keeps_iff]
    have hnumbers : f.toReply.numbers = f.extra.flatMap fun m => m.2.numbers := rfl
    have hkept : f.extra.map (fun m => (m.1, m.2.carried encoding.rounded)) = f.extra ↔
        ∀ n ∈ f.extra.flatMap (fun m => m.2.numbers), encoding.rounded n = n :=
      Value.map_carried_members_eq_self fun m hm => Value.carried_eq_self_iff (hordered.toReply.extra m hm)
    rw [hnumbers, ← hkept]
    constructor
    · intro hsame
      exact congrArg Reply.extra (Event.error.inj hsame).2
    · intro hsame
      have hsame : f.extra.map (fun m => (m.1, m.2.carried encoding.rounded)) = f.extra := hsame
      show Event.error _ _ = Event.error _ _
      rw [hfields, hsame]
      rfl

/-- A failure with a code of its own, a field, and a member put on it under a key that frames own. -/
def overloaded : Failure :=
  (Failure.withStatus ⟨413⟩ "").attachAll
    [.put "fin" (.bool false), .field "kg" (.number (.double Reply.large)), .code "413.1"]

/-- Served in binary, the failure reaches a remote caller as it is; served as text, its number does not. -/
theorem overloaded_respelled :
    let here := Event.error overloaded.fault overloaded.toReply
    let frame := overloaded.toReply.stamped ⟨"a"⟩
    overloaded.fault.message = "Server Error" ∧ overloaded.fault.statusCode = "413.1" ∧
      Members.get? "fin" overloaded.fault.fields = some (.bool true) ∧
      (∃ r, Reply.decode (frame.encode .binary) = .ok r ∧
        (({} : Progress).accept (.frame r)).queue = [here]) ∧
      ∃ r, Reply.decode (frame.encode .text) = .ok r ∧
        (({} : Progress).accept (.frame r)).queue ≠ [here] := by
  intro here frame
  have hordered : overloaded.Ordered := by
    refine (Failure.ordered_withStatus ⟨413⟩ "").attachAll ?_
    simp only [List.forall_mem_cons]
    exact ⟨.bool _, .number _, trivial, List.forall_mem_nil _⟩
  obtain ⟨-, ⟨r, hread, haccept⟩, hkept⟩ := @heard_intact_iff overloaded rfl hordered ⟨"a"⟩ .binary
    (by decide +kernel) (by decide +kernel)
  obtain ⟨-, ⟨r', hread', haccept'⟩, hkept'⟩ := @heard_intact_iff overloaded rfl hordered ⟨"a"⟩ .text
    (by decide +kernel) (by decide +kernel)
  refine ⟨rfl, rfl, rfl, ⟨r, hread, ?_⟩, r', hread', fun hsame => ?_⟩
  · rw [haccept, hkept.2 (.inl rfl)]
  · rw [haccept'] at hsame
    rcases hkept'.1 (List.singleton_inj.1 hsame) with hbinary | hdoubles
    · cases hbinary
    · have hmem : Number.double Reply.large ∈ overloaded.toReply.numbers := by decide +kernel
      have hrespelled : Json.respelled (.double Reply.large) ≠ .double Reply.large := by decide +kernel
      exact hrespelled (hdoubles _ hmem)

end Client

end Exchange
