-- SUMMARY: The frames of a result tell a caller of one end, and no pending request outlives the last of them.
import Exchange.Proofs.Client.Desk
import Exchange.Proofs.Envelope
import Exchange.Proofs.Shaping

/-!
# How requests end

The first frame of a result decides. Under a status of success the frame marked
as the last ends the request, and under a status of failure the first frame
does; either way one terminal event is told, and a desk drops the request. Under
any other status callers are told nothing, and the request stays pending.
-/

namespace Exchange

/-- The frame with the id of a request. -/
def Reply.stamped (id : RequestId) (r : Reply) : Reply :=
  { r with id := some id }

/-- The status is one of success or failure. -/
def Status.isDecisive (s : Status) : Bool :=
  match s.classOf with
  | .other _ => false
  | _ => true

theorem Status.success_or_isError {s : Status} (h : s.isDecisive = true) :
    s.classOf = .success ∨ s.isError = true := by
  unfold isDecisive at h
  unfold isError
  cases hclass : s.classOf with
  | success => exact .inl rfl
  | clientError | serverError => exact .inr rfl
  | other n =>
    rw [hclass] at h
    cases h

/-- The status zero is of no class. -/
theorem Status.code_ne_zero {s : Status} (h : s.isDecisive = true) : s.code ≠ 0 := by
  intro hzero
  obtain ⟨code⟩ := s
  obtain rfl : code = 0 := hzero
  cases h

/-- Only the last of the frames is marked as such. -/
def Marked (frames : List Reply) : Prop :=
  ∃ before last, frames = before ++ [last] ∧ (∀ r ∈ before, r.fin = false) ∧ last.fin = true

theorem Marked.map {frames : List Reply} (h : Marked frames) {f : Reply → Reply}
    (hfin : ∀ r, (f r).fin = r.fin) : Marked (frames.map f) := by
  obtain ⟨before, last, rfl, hbefore, hlast⟩ := h
  refine ⟨before.map f, f last, by rw [List.map_append, List.map_singleton], fun r hr => ?_,
    (hfin last).trans hlast⟩
  obtain ⟨r', hmem, rfl⟩ := List.mem_map.1 hr
  exact (hfin r').trans (hbefore r' hmem)

theorem Result.marked_frames (result : Result (List Reply)) : Marked result.frames :=
  result.complete_frames.eq_append_singleton

namespace Client

/-- The request is over, and its caller was told so once. -/
structure Progress.Ended (p : Progress) : Prop where
  finished : p.finished = true
  once : p.queue.countP Event.isTerminal = 1

/-! ## Progress -/

namespace Progress

variable {first : Reply} {rest : List Reply}

theorem under_first (status : Status) : ({ status := some status } : Progress).Under status :=
  ⟨rfl, rfl⟩

theorem ended_of_marked (hmarked : Marked (first :: rest))
    (hstatus : first.effectiveStatus.isDecisive = true) : (({} : Progress).run (first :: rest)).Ended := by
  obtain ⟨before, last, hframes, hbefore, hlast⟩ := hmarked
  rcases Status.success_or_isError hstatus with hclass | herror
  · rw [run_first, hframes, run_success (under_first _) hclass hbefore hlast]
    refine ⟨rfl, ?_⟩
    have hopen : (before.flatMap (eventsOf first.effectiveStatus)).countP Event.isTerminal = 0 := by
      refine List.countP_eq_zero.2 fun e he => ?_
      obtain ⟨r, hr, he⟩ := List.mem_flatMap.1 he
      have hcount := countP_eventsOf_success hclass r
      rw [hbefore r hr, if_neg (by decide)] at hcount
      exact List.countP_eq_zero.1 hcount e he
    rw [List.nil_append, List.flatMap_append, List.flatMap_singleton, List.countP_append, hopen,
      countP_eventsOf_success hclass, hlast]
    rfl
  · rw [run_first, run_error (under_first _) herror, eventsOf_error herror]
    exact ⟨rfl, rfl⟩

/-- Marked frames under a decisive status are all told, if none follows one in error. -/
theorem run_of_marked (hmarked : Marked (first :: rest))
    (hrest : first.effectiveStatus.isError = true → rest = [])
    (hstatus : first.effectiveStatus.isDecisive = true) :
    ({} : Progress).run (first :: rest) =
      { status := some first.effectiveStatus, finished := true
        queue := (first :: rest).flatMap (eventsOf first.effectiveStatus) } := by
  obtain ⟨before, last, hframes, hbefore, hlast⟩ := hmarked
  rcases Status.success_or_isError hstatus with hclass | herror
  · rw [run_first, hframes, run_success (under_first _) hclass hbefore hlast]
    rfl
  · rw [run_first, run_error (under_first _) herror, hrest herror, List.flatMap_singleton]
    rfl

/-- Under a status that is not decisive nothing is told. -/
theorem run_of_not_isDecisive (h : first.effectiveStatus.isDecisive = false) :
    ({} : Progress).run (first :: rest) = { status := some first.effectiveStatus } := by
  unfold Status.isDecisive at h
  split at h
  · rename_i n hclass
    rw [run_first, run_other (under_first _) hclass]
  · cases h

end Progress

/-! ## The frames of a result on their way -/

/-- The frames of a result as they are sent for a request. -/
def sent (result : Result (List Reply)) (id : RequestId) (encoding : Encoding) : List Frame :=
  result.frames.map fun r => (r.stamped id).encode encoding

/-- The frames of a result as they are heard: each encoded and decoded once. -/
def heard (result : Result (List Reply)) (id : RequestId) (encoding : Encoding) : List Reply :=
  result.frames.map fun r => (r.stamped id).carried encoding

section Remote

variable {result : Result (List Reply)} {encoding : Encoding} {id : RequestId}

theorem map_decode_sent (htravels : ∀ r ∈ result.frames, (r.stamped id).Travels encoding)
    (hlen : ∀ f ∈ sent result id encoding, f.payload.length < 2 ^ 64) :
    (sent result id encoding).map Reply.decode = (heard result id encoding).map .ok := by
  rw [sent, heard, List.map_map, List.map_map]
  exact List.map_congr_left fun r hr =>
    Reply.decode_encode (htravels r hr) (hlen _ (List.mem_map.2 ⟨r, hr, rfl⟩))

/-- A pending request hears all frames of its result. -/
theorem Desk.tracks_sent {d : Desk} {inbox : Ref .inbox} (hfresh : d.Tracks id inbox {})
    (htravels : ∀ r ∈ result.frames, (r.stamped id).Travels encoding)
    (hlen : ∀ f ∈ sent result id encoding, f.payload.length < 2 ^ 64) :
    ((sent result id encoding).foldl Desk.accept d).Tracks id inbox
      (Progress.run {} (heard result id encoding)) := by
  have hids : ∀ r ∈ heard result id encoding, r.id = some id := by
    intro r hr
    obtain ⟨r', -, rfl⟩ := List.mem_map.1 hr
    rfl
  have hall := hfresh.foldl_accept (map_decode_sent htravels hlen) fun r hr => by rw [hids r hr]; rfl
  rwa [List.filter_eq_self.2 fun r hr => by simpa using hids r hr] at hall

theorem marked_heard (result : Result (List Reply)) (id : RequestId) (encoding : Encoding) :
    Marked (heard result id encoding) :=
  result.marked_frames.map fun _ => rfl

end Remote

/-! ## Requests -/

/-- A result whose first status is decisive ends its request with one terminal event, in process and
remotely, and the desk drops the request. Any other status ends nothing. -/
theorem request_ends {result : Result (List Reply)} {first : Reply} {rest : List Reply}
    (hresult : result.frames = first :: rest) :
    Marked result.frames ∧
    (first.effectiveStatus.isDecisive = true → (({} : Progress).run result.frames).Ended) ∧
    (first.effectiveStatus.isDecisive = false → first.effectiveStatus.code ≠ 0 →
      ({} : Progress).run result.frames = { status := some first.effectiveStatus }) ∧
    ∀ {encoding : Encoding} {d : Desk} {id : RequestId} {inbox : Ref .inbox}, d.Tracks id inbox {} →
      (∀ r ∈ result.frames, (r.stamped id).Travels encoding) →
      (∀ f ∈ sent result id encoding, f.payload.length < 2 ^ 64) →
      let status := if first.effectiveStatus.code = 0 then .internalError else first.effectiveStatus
      let p := ({} : Progress).run (heard result id encoding)
      let d' := (sent result id encoding).foldl Desk.accept d
      (sent result id encoding).map Reply.decode = (heard result id encoding).map .ok ∧
        d'.Tracks id inbox p ∧
        (status.isDecisive = true → p.Ended ∧ d'.find? id = none) ∧
        (status.isDecisive = false → p = { status := some status } ∧ (d'.find? id).isSome) := by
  refine ⟨result.marked_frames, fun hdecisive => ?_, fun hother _ => ?_, ?_⟩
  · rw [hresult]
    exact Progress.ended_of_marked (hresult ▸ result.marked_frames) hdecisive
  · rw [hresult]
    exact Progress.run_of_not_isDecisive hother
  · intro encoding d id inbox hfresh htravels hlen status p d'
    have htracks : d'.Tracks id inbox p := Desk.tracks_sent hfresh htravels hlen
    have hheard : heard result id encoding = (first.stamped id).carried encoding ::
        rest.map fun r => (r.stamped id).carried encoding := by
      rw [heard, hresult, List.map_cons]
    have hstatus : ((first.stamped id).carried encoding).effectiveStatus = status :=
      Reply.effectiveStatus_carried _ _
    refine ⟨map_decode_sent htravels hlen, htracks, fun hdecisive => ?_, fun hother => ?_⟩
    · have hended : p.Ended := by
        have hmarked := marked_heard result id encoding
        rw [hheard] at hmarked
        show (({} : Progress).run (heard result id encoding)).Ended
        rw [hheard]
        exact Progress.ended_of_marked hmarked (hstatus ▸ hdecisive)
      exact ⟨hended, by rw [htracks.entry, if_pos hended.finished]⟩
    · have hp : p = { status := some status } := by
        show ({} : Progress).run (heard result id encoding) = _
        rw [hheard, Progress.run_of_not_isDecisive (hstatus ▸ hother), hstatus]
      exact ⟨hp, by rw [htracks.entry, hp]; rfl⟩

/-- A desk on which one request waits. -/
def Desk.single (id : RequestId) : Desk :=
  (({} : Desk).insert id).1

/-- The result of a handler that responds with nothing. -/
def emptyResult : Result (List Reply) :=
  .ok { status := .ok, body := .empty }

theorem emptyResult_ends :
    (({} : Progress).run emptyResult.frames).Ended ∧
      ((sent emptyResult ⟨"a"⟩ .text).foldl Desk.accept (Desk.single ⟨"a"⟩)).find? ⟨"a"⟩ = none := by
  obtain ⟨-, hlocal, -, hremote⟩ := @request_ends emptyResult _ _ rfl
  obtain ⟨-, -, hends, -⟩ := @hremote .text (Desk.single ⟨"a"⟩) ⟨"a"⟩ ⟨0⟩
    (Desk.tracks_insert rfl (by decide)) (by decide +kernel) (by decide +kernel)
  exact ⟨hlocal rfl, (hends rfl).2⟩

/-- The frames of a result, written and read, so far as they can be read. -/
def reread (result : Result (List Reply)) (encoding : Encoding) : List Reply :=
  result.frames.filterMap fun r => (Reply.decode (r.encode encoding)).toOption

/-- A value nested to a depth. -/
def nested : Nat → Value
  | 0 => .null
  | depth + 1 => .list [nested depth]

/-- A finish frame with an extra member that unmarks it. -/
def unmarked : Reply :=
  { Reply.finish with extra := [("fin", .bool false)] }

/-- A status of another class ends no request; nor does a frame whose mark is overwritten by an extra
member, or that is nested too deep to be read. -/
theorem request_does_not_end :
    ¬(({} : Progress).run (Result.frames (.ok { status := ⟨302⟩, body := .empty }))).Ended ∧
      ¬(({} : Progress).run (reread (.ok { status := .ok, body := .stream [unmarked] }) .text)).Ended ∧
      ¬(({} : Progress).run
        (reread (.error (.handler .internalError none "" [("deep", nested 127)])) .text)).Ended := by
  have hopen {p : Progress} (h : p.finished = false) : ¬p.Ended := by
    rintro ⟨hfinished, -⟩
    rw [h] at hfinished
    cases hfinished
  exact ⟨hopen (by decide +kernel), hopen (by decide +kernel), hopen (by decide +kernel)⟩

end Client

end Exchange
