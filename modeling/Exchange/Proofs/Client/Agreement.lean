-- SUMMARY: Callers within the program and remote ones are told the same, but for numbers that text respells.
import Exchange.Proofs.Client.Ending
import Exchange.Proofs.Client.Inside

/-!
# What callers are told here and elsewhere

The frames of a result reach a caller within the program as they are, and a
remote caller written and read once. Null messages apart, both are told the same
events just when the encoding keeps every number in them
(`Client.agree_iff`). The binary encoding keeps all numbers; text reads back
some doubles as their neighbours.
-/

namespace Exchange

/-! ## Null messages -/

/-- The members without the member `key` if it is null. -/
def Members.withoutNull (key : String) (members : List (String × Value)) : List (String × Value) :=
  match get? key members with
  | some .null => erase key members
  | _ => members

namespace Members

variable {key : String} {members : List (String × Value)}

theorem get?_erase (key k : String) (members : List (String × Value)) :
    get? k (erase key members) = if k = key then none else get? k members := by
  rw [erase, get?_filter fun k => k ≠ key]
  by_cases h : k = key
  · simp [h]
  · simp [h]

theorem get?_withoutNull (key k : String) (members : List (String × Value)) :
    get? k (withoutNull key members) =
      if k = key then Value.unlessNull (get? key members) else get? k members := by
  unfold withoutNull
  split
  · rename_i hnull
    rw [get?_erase, hnull]
    rfl
  · rename_i hnull
    by_cases h : k = key
    · subst h
      rw [if_pos rfl]
      unfold Value.unlessNull
      split
      · rename_i hget
        rw [hget]
      · rename_i hget
        exact absurd hget hnull
      · rename_i hget
        exact hget
    · rw [if_neg h]

theorem sorted_withoutNull (h : Sorted members) : Sorted (withoutNull key members) := by
  unfold withoutNull
  split
  · exact h.filter _
  · exact h

end Members

@[simp] theorem Value.unlessNull_unlessNull (v : Option Value) : unlessNull (unlessNull v) = unlessNull v := by
  cases v with
  | none => rfl
  | some v => cases v <;> rfl

namespace Reply

/-- The frame without its message if that is null. -/
def withoutNull (r : Reply) : Reply :=
  { r with message := Value.unlessNull r.message }

end Reply

namespace Client

def Fault.withoutNull (f : Fault) : Fault :=
  { f with fields := Members.withoutNull "message" f.fields }

def Event.withoutNull : Event → Event
  | .response message reply => .response (Value.unlessNull message) reply.withoutNull
  | .error fault reply => .error fault.withoutNull reply.withoutNull
  | e => e

/-- The numbers that an event tells. -/
def Event.numbers : Event → List Number
  | .response _ reply | .error _ reply => reply.numbers
  | _ => []

end Client

/-! ## One frame -/

namespace Reply

variable {r : Reply} {status : Status} {encoding : Encoding}

/-- A frame is reported as the same just when its numbers are kept. -/
theorem under_carried_eq_iff (h : r.Ordered) (status : Status) (encoding : Encoding) :
    ((r.carried encoding).under status).withoutNull = (r.under status).withoutNull ↔
      ∀ n ∈ r.numbers, encoding.rounded n = n := by
  rw [← values_carried_eq_iff h]
  simp [withoutNull, under, carried]

theorem owned?_withoutNull (r : Reply) {key : String} (h : key ≠ "message") :
    r.withoutNull.owned? key = r.owned? key := by
  unfold owned?
  split
  · rfl
  · rfl
  · rfl
  · exact absurd rfl h
  all_goals rfl

/-- A null message makes no difference to the members but that it is one. -/
theorem withoutNull_toMembers (h : r.ExtraFree) (key : String) :
    Members.get? key (Members.withoutNull "message" (Members.ofList r.withoutNull.toMembers)) =
      Members.get? key (Members.withoutNull "message" (Members.ofList r.toMembers)) := by
  rw [Members.get?_withoutNull, Members.get?_withoutNull]
  by_cases hkey : key = "message"
  · have hmem : "message" ∈ reserved := by decide
    rw [if_pos hkey, if_pos hkey, get?_ofList_toMembers h hmem,
      get?_ofList_toMembers (r := r.withoutNull) h hmem]
    exact Value.unlessNull_unlessNull _
  · rw [if_neg hkey, if_neg hkey, get?_toMembers, get?_toMembers, owned?_withoutNull r hkey]
    rfl

end Reply

namespace Client

theorem Fault.messageOf_unlessNull (v : Option Value) :
    messageOf (Value.unlessNull v) = messageOf v := by
  cases v with
  | none => rfl
  | some v => cases v <;> rfl

/-- A null message makes no difference to a fault but that it is among the fields. -/
theorem Fault.withoutNull_ofReply {r : Reply} (h : r.ExtraFree) (status : Status) :
    (Fault.ofReply r.withoutNull status).withoutNull = (Fault.ofReply r status).withoutNull := by
  have hsorted (r : Reply) : Members.Sorted (Members.withoutNull "message" (Fault.ofReply r status).fields) :=
    Members.sorted_withoutNull (Members.sorted_insert (Members.sorted_insert
      ((Members.sorted_ofList _).filter _)))
  have hfields : Members.withoutNull "message" (Fault.ofReply r.withoutNull status).fields =
      Members.withoutNull "message" (Fault.ofReply r status).fields := by
    refine (hsorted _).ext (hsorted _) fun key => ?_
    have hmembers := Reply.withoutNull_toMembers h key
    rw [Members.get?_withoutNull, Members.get?_withoutNull] at hmembers ⊢
    simp only [Fault.ofReply, Members.get?_insert, Members.get?_erase]
    by_cases hkey : key = "message"
    · subst hkey
      simpa using hmembers
    · rw [if_neg hkey, if_neg hkey] at hmembers ⊢
      rw [hmembers]
      rfl
  simp only [Fault.withoutNull, Fault.mk.injEq]
  exact ⟨rfl, rfl, Fault.messageOf_unlessNull _, hfields⟩

/-- The event of a frame in error. -/
def Event.ofError (status : Status) (r : Reply) : Event :=
  .error (Fault.ofReply r status) { r with statusCode := some (Fault.ofReply r status).statusCode }

theorem Event.withoutNull_ofError {r : Reply} (h : r.ExtraFree) (status : Status) :
    (Event.ofError status r.withoutNull).withoutNull = (Event.ofError status r).withoutNull := by
  have hreply (code : String) : { r.withoutNull with statusCode := some code }.withoutNull =
      { r with statusCode := some code }.withoutNull := by
    simp [Reply.withoutNull]
  simp only [ofError, withoutNull, Event.error.injEq]
  exact ⟨Fault.withoutNull_ofReply h status, hreply _⟩

theorem Event.withoutNull_ofError_eq_iff {r r' : Reply} (h : r.ExtraFree) (status : Status)
    (hcode : r'.statusCode = r.statusCode) :
    (Event.ofError status r').withoutNull = (Event.ofError status r).withoutNull ↔
      r'.withoutNull = r.withoutNull := by
  constructor
  · intro heq
    have hreply := congrArg (fun r : Reply => { r with statusCode := r'.statusCode }) (Event.error.inj heq).2
    have hsame : { r with statusCode := r'.statusCode } = r := by rw [hcode]
    exact hreply.trans (congrArg Reply.withoutNull hsame)
  · intro heq
    have h' : r'.ExtraFree := by
      have hextra := congrArg Reply.extra heq
      unfold Reply.ExtraFree at h ⊢
      rw [show r'.extra = r.extra from hextra]
      exact h
    rw [← withoutNull_ofError h, ← withoutNull_ofError h', heq]

/-- One frame tells the same events here and elsewhere just when its numbers are kept. -/
theorem eventsOf_carried_iff {status : Status} (hstatus : status.isDecisive = true) {r : Reply}
    (hordered : r.Ordered) (hextra : r.ExtraFree) (encoding : Encoding) :
    (Progress.eventsOf status (r.carried encoding)).map Event.withoutNull =
        (Progress.eventsOf status r).map Event.withoutNull ↔
      ∀ e ∈ Progress.eventsOf status r, ∀ n ∈ e.numbers, encoding.rounded n = n := by
  have hreply := Reply.under_carried_eq_iff hordered status encoding
  have hnumbers : (r.under status).numbers = r.numbers := rfl
  rcases Status.success_or_isError hstatus with hclass | herror
  · have hkind : (r.carried encoding).isFinish = r.isFinish := rfl
    have hfin : (r.carried encoding).fin = r.fin := rfl
    rw [Progress.eventsOf_success hclass, Progress.eventsOf_success hclass, hkind, hfin]
    cases r.isFinish with
    | true => cases r.fin <;> simp [Event.numbers]
    | false =>
      have hmessage (h : ((r.carried encoding).under status).withoutNull = (r.under status).withoutNull) :
          Value.unlessNull (r.carried encoding).message = Value.unlessNull r.message := congrArg Reply.message h
      simp only [Bool.false_eq_true, if_false, List.map_append, List.append_cancel_right_eq, List.map_cons,
        List.map_nil, List.cons.injEq, and_true, Event.withoutNull, Event.response.injEq]
      rw [and_iff_right_of_imp hmessage, hreply, ← hnumbers]
      cases r.fin <;> simp [Event.numbers]
  · have hevents (r : Reply) : Progress.eventsOf status r = [Event.ofError status (r.under status)] :=
      Progress.eventsOf_error herror r
    have hcode : ((r.carried encoding).under status).statusCode = (r.under status).statusCode := rfl
    have hsame := Event.withoutNull_ofError_eq_iff (r := r.under status) hextra status hcode
    have htold : (Event.ofError status (r.under status)).numbers = r.numbers := rfl
    rw [hevents, hevents, List.map_singleton, List.map_singleton, List.cons.injEq, and_iff_left rfl, hsame,
      hreply]
    simp only [List.mem_singleton, forall_eq, htold]

/-! ## All frames -/

/-- Lists that are put together of parts of the same lengths are the same just when the parts are. -/
theorem flatMap_eq_flatMap_iff {α β : Type} {f g : α → List β} {l : List α}
    (hlen : ∀ a ∈ l, (f a).length = (g a).length) : l.flatMap f = l.flatMap g ↔ ∀ a ∈ l, f a = g a := by
  induction l with
  | nil => simp
  | cons a l ih =>
    obtain ⟨ha, hrest⟩ := List.forall_mem_cons.1 hlen
    rw [List.flatMap_cons, List.flatMap_cons, List.forall_mem_cons, ← ih hrest]
    exact ⟨fun h => List.append_inj h ha, fun h => by rw [h.1, h.2]⟩

theorem length_eventsOf_carried {status : Status} (hstatus : status.isDecisive = true) (r : Reply)
    (encoding : Encoding) :
    (Progress.eventsOf status (r.carried encoding)).length = (Progress.eventsOf status r).length := by
  rcases Status.success_or_isError hstatus with hclass | herror
  · have hkind : (r.carried encoding).isFinish = r.isFinish := rfl
    have hfin : (r.carried encoding).fin = r.fin := rfl
    rw [Progress.eventsOf_success hclass, Progress.eventsOf_success hclass, hkind, hfin, List.length_append,
      List.length_append]
    cases r.isFinish <;> rfl
  · rw [Progress.eventsOf_error herror, Progress.eventsOf_error herror]
    rfl

/-- A caller within the program and a remote one are told the same events, null messages apart, just
when the encoding keeps every number in them. -/
theorem agree_iff {result : Result (List Reply)} {first : Reply} {rest : List Reply}
    (hresult : result.frames = first :: rest) (hdecisive : first.effectiveStatus.isDecisive = true)
    (hordered : ∀ r ∈ result.frames, r.Ordered) {encoding : Encoding} {id : RequestId}
    (htravels : ∀ r ∈ result.frames, (r.stamped id).Travels encoding)
    (hlen : ∀ f ∈ sent result id encoding, f.payload.length < 2 ^ 64) {d : Desk} {inbox : Ref .inbox}
    (hfresh : d.Tracks id inbox {}) :
    let here := ({} : Progress).listen result.frames
    ∃ c, ((sent result id encoding).foldl Desk.accept d).inboxes.get? inbox = some c ∧
      (c.queue.map Event.withoutNull = here.map Event.withoutNull ↔
        ∀ e ∈ here, ∀ n ∈ e.numbers, encoding.rounded n = n) := by
  intro here
  have hrest (h : first.effectiveStatus.isError = true) : rest = [] :=
    (hresult ▸ result.complete_frames).eq_nil_of_isError h
  -- the caller within the program hears the frames as they are
  have hhere : here = (first :: rest).flatMap (Progress.eventsOf first.effectiveStatus) := by
    have hrun := Progress.run_of_marked (hresult ▸ result.marked_frames) hrest hdecisive
    have hfinished : (({} : Progress).run (first :: rest)).finished = true := by rw [hrun]
    have hlisten := Progress.listen_of_finished rfl hfinished
    rw [hrun, ← hresult] at hlisten
    rw [← hresult]
    exact hlisten
  -- the remote one hears them written and read, under the same status
  have hstatus : ((first.stamped id).carried encoding).effectiveStatus = first.effectiveStatus :=
    (Reply.effectiveStatus_carried _ _).trans (if_neg (Status.code_ne_zero hdecisive))
  have hheard : heard result id encoding = (first.stamped id).carried encoding ::
      rest.map fun r => (r.stamped id).carried encoding := by
    rw [heard, hresult, List.map_cons]
  have hmarked := marked_heard result id encoding
  rw [hheard] at hmarked
  have hthere := Progress.run_of_marked hmarked (fun h => by rw [hrest (hstatus ▸ h), List.map_nil])
    (hstatus ▸ hdecisive)
  rw [← hheard, hstatus] at hthere
  obtain ⟨c, hget, -, hqueue⟩ := (Desk.tracks_sent hfresh htravels hlen).queue
  refine ⟨c, hget, ?_⟩
  have hqueue : c.queue = (first :: rest).flatMap fun r =>
      Progress.eventsOf first.effectiveStatus (r.carried encoding) := by
    rw [hqueue, hthere, heard, hresult, List.flatMap_map]
    rfl
  rw [hresult] at hordered htravels
  rw [hqueue, hhere, List.map_flatMap, List.map_flatMap, flatMap_eq_flatMap_iff fun r _ => by
    rw [List.length_map, List.length_map, length_eventsOf_carried hdecisive]]
  have hframe (r : Reply) (hr : r ∈ first :: rest) :=
    eventsOf_carried_iff hdecisive (hordered r hr) (htravels r hr).extra encoding
  constructor
  · intro h e he
    obtain ⟨r, hr, he⟩ := List.mem_flatMap.1 he
    exact (hframe r hr).1 (h r hr) e he
  · intro h r hr
    exact (hframe r hr).2 fun e he => h e (List.mem_flatMap.2 ⟨r, hr, he⟩)

/-- The double that is written `7.999999999999999e-25`. -/
def tiny : Double :=
  ⟨false, 4246598477948812760, by decide⟩

/-- The result of a handler that responds with this double. -/
def tinyResult : Result (List Reply) :=
  .ok { status := .ok, body := .message (.number (.double tiny)) }

/-- A remote caller who is served as text is told another number than one within the program. -/
theorem tinyResult_disagrees :
    ∃ c, ((sent tinyResult ⟨"a"⟩ .text).foldl Desk.accept (Desk.single ⟨"a"⟩)).inboxes.get? ⟨0⟩ = some c ∧
      c.queue.map Event.withoutNull ≠
        (({} : Progress).listen tinyResult.frames).map Event.withoutNull := by
  have hordered : ∀ r ∈ tinyResult.frames, r.Ordered := by
    have hframes : tinyResult.frames =
        [{ status := some .ok, message := some (.number (.double tiny)), kind := some .response },
          { status := some .ok, kind := some .finish, fin := true }] := rfl
    rw [hframes]
    simp only [List.mem_cons, List.not_mem_nil, or_false, forall_eq_or_imp, forall_eq]
    refine ⟨⟨fun v hv => ?_, List.Pairwise.nil, fun m hm => ?_⟩,
      ⟨fun v hv => ?_, List.Pairwise.nil, fun m hm => ?_⟩⟩
    · cases hv
      exact .number _
    · cases hm
    · cases hv
    · cases hm
  obtain ⟨c, hget, hagree⟩ := @agree_iff tinyResult _ _ rfl rfl hordered .text ⟨"a"⟩ (by decide +kernel)
    (by decide +kernel) (Desk.single ⟨"a"⟩) ⟨0⟩ (Desk.tracks_insert rfl (by decide))
  refine ⟨c, hget, fun h => ?_⟩
  have hkept := hagree.1 h _ List.mem_cons_self (.double tiny) List.mem_cons_self
  have hrespelled : Encoding.text.rounded (.double tiny) ≠ .double tiny := by decide +kernel
  exact hrespelled hkept

end Client

end Exchange
