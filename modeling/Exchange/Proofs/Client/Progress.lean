-- SUMMARY: Runs of a request's progress: the queue only grows, and a finished request takes in nothing.
import Exchange.Client.Progress
import Exchange.Proofs.Shaping

/-!
# Runs of a request's progress

`Progress.run` takes in frames one after the other. What a run adds to the
queue does not depend on what was in it, so draining in between loses nothing.
Complete frames under a status of success give one finish event, with the last.
-/

namespace Exchange

/-- A frame as it is reported under a status. -/
def Reply.under (status : Status) (r : Reply) : Reply :=
  { r with id := none, status := some status }

namespace Client.Progress

/-- Takes in frames in order. -/
def run (p : Progress) (frames : List Reply) : Progress :=
  frames.foldl (fun p r => p.accept (.frame r)) p

@[simp] theorem run_nil (p : Progress) : p.run [] = p := rfl

@[simp] theorem run_cons (p : Progress) (r : Reply) (frames : List Reply) :
    p.run (r :: frames) = (p.accept (.frame r)).run frames := rfl

theorem run_append (p : Progress) (a b : List Reply) : p.run (a ++ b) = (p.run a).run b :=
  List.foldl_append

/-! ## Finished requests -/

theorem accept_of_finished {p : Progress} (h : p.finished = true) (input : Input) : p.accept input = p :=
  if_pos h

theorem run_of_finished {p : Progress} (h : p.finished = true) (frames : List Reply) :
    p.run frames = p := by
  induction frames with
  | nil => rfl
  | cons r frames ih => rw [run_cons, accept_of_finished h, ih]

/-! ## Draining -/

/-- The progress with nothing in its queue. -/
def drained (p : Progress) : Progress :=
  p.drain.2

@[simp] theorem finished_drained (p : Progress) : p.drained.finished = p.finished := rfl

/-- News means the same to a progress that was drained before. -/
theorem accept_drained (p : Progress) (input : Input) :
    (p.drained.accept input).drained = (p.accept input).drained ∧
      p.queue ++ (p.drained.accept input).queue = (p.accept input).queue := by
  have hpush (status : Option Status) (events : List Event) :
      ({ p.drained with status }.push events).drained = ({ p with status }.push events).drained ∧
        p.queue ++ ({ p.drained with status }.push events).queue =
          ({ p with status }.push events).queue := ⟨rfl, rfl⟩
  by_cases h : p.finished
  · rw [accept_of_finished h, accept_of_finished (p := p.drained) h]
    exact ⟨rfl, List.append_nil _⟩
  · have hd : ¬p.drained.finished := h
    unfold accept
    rw [if_neg h, if_neg hd]
    cases input with
    | frame r => exact hpush _ _
    | warning text => exact hpush _ _
    | closed => exact hpush _ _
    | failed reason => exact hpush _ _

/-! ## The status of a request -/

/-- A request under way whose status is fixed. -/
def Under (p : Progress) (status : Status) : Prop :=
  p.finished = false ∧ p.status = some status

theorem accept_frame_of_status {p : Progress} {status : Status} (h : p.Under status) (r : Reply) :
    p.accept (.frame r) = p.push (eventsOf status r) := by
  obtain ⟨hfinished, hstatus⟩ := h
  unfold accept
  rw [if_neg (by simp [hfinished])]
  cases p
  cases hstatus
  rfl

/-- The first frame fixes the status that it is reported under itself. -/
theorem run_first (r : Reply) (frames : List Reply) :
    ({} : Progress).run (r :: frames) = ({ status := some r.effectiveStatus } : Progress).run (r :: frames) :=
  rfl

/-! ## Events -/

section Events

variable {status : Status}

theorem eventsOf_success (h : status.classOf = .success) (r : Reply) :
    eventsOf status r =
      (if r.isFinish then [] else [.response r.message (r.under status)]) ++
        (if r.fin then [.finish] else []) := by
  unfold eventsOf
  rw [h]
  rfl

theorem eventsOf_error (h : status.isError = true) (r : Reply) :
    eventsOf status r =
      [.error (Fault.ofReply (r.under status) status)
        { r.under status with statusCode := some (Fault.ofReply (r.under status) status).statusCode }] := by
  unfold Status.isError at h
  unfold eventsOf
  cases hc : status.classOf with
  | success | other =>
    rw [hc] at h
    cases h
  | clientError | serverError => rfl

/-- Under a status of success the frame that ends a request is told by its mark. -/
theorem countP_eventsOf_success (h : status.classOf = .success) (r : Reply) :
    (eventsOf status r).countP Event.isTerminal = if r.fin then 1 else 0 := by
  rw [eventsOf_success h, List.countP_append]
  cases r.fin with
  | true => cases r.isFinish <;> rfl
  | false => cases r.isFinish <;> rfl

theorem eventsOf_other {n : Nat} (h : status.classOf = .other n) (r : Reply) : eventsOf status r = [] := by
  unfold eventsOf
  rw [h]

end Events

/-! ## Runs under a status -/

section Runs

variable {p : Progress} {status : Status} {frames : List Reply}

/-- Frames that are not marked as the last leave a successful request open. -/
theorem run_open (hp : p.Under status) (h : status.classOf = .success) (hframes : ∀ r ∈ frames, r.fin = false) :
    p.run frames = { p with queue := p.queue ++ frames.flatMap (eventsOf status) } := by
  induction frames generalizing p with
  | nil => simp
  | cons r frames ih =>
    obtain ⟨hr, hrest⟩ := List.forall_mem_cons.1 hframes
    have hcount := countP_eventsOf_success h r
    rw [hr, if_neg (by decide), List.countP_eq_zero] at hcount
    have hopen : (eventsOf status r).any Event.isTerminal = false := by simpa using hcount
    have hpush : p.push (eventsOf status r) = { p with queue := p.queue ++ eventsOf status r } := by
      rw [push, hopen, ← hp.1]
    have hrun := ih (p := { p with queue := p.queue ++ eventsOf status r }) hp hrest
    rw [run_cons, accept_frame_of_status hp, hpush, hrun, List.flatMap_cons, List.append_assoc]

/-- A successful request is over with the frame that is marked as the last. -/
theorem run_success (hp : p.Under status) (h : status.classOf = .success) {last : Reply}
    (hframes : ∀ r ∈ frames, r.fin = false) (hlast : last.fin = true) :
    p.run (frames ++ [last]) =
      { p with finished := true, queue := p.queue ++ (frames ++ [last]).flatMap (eventsOf status) } := by
  have hcount := countP_eventsOf_success h last
  rw [hlast, if_pos rfl] at hcount
  have hterminal : (eventsOf status last).any Event.isTerminal = true := by
    rw [List.any_eq_true]
    exact List.countP_pos_iff.1 (hcount ▸ Nat.one_pos)
  have hopen : ({ p with queue := p.queue ++ frames.flatMap (eventsOf status) } : Progress).Under status := hp
  rw [run_append, run_open hp h hframes, run_cons, run_nil, accept_frame_of_status hopen, push, hterminal,
    List.flatMap_append, List.flatMap_singleton, List.append_assoc]

/-- A failed request is over with its first frame. -/
theorem run_error (hp : p.Under status) (h : status.isError = true) (r : Reply) :
    p.run (r :: frames) = { p with finished := true, queue := p.queue ++ eventsOf status r } := by
  rw [run_cons, accept_frame_of_status hp, eventsOf_error h]
  exact run_of_finished rfl frames

/-- Under a status of no known class nothing is told, and nothing ends. -/
theorem run_other (hp : p.Under status) {n : Nat} (h : status.classOf = .other n) : p.run frames = p := by
  induction frames with
  | nil => rfl
  | cons r frames ih =>
    have hpush : p.push [] = p := by
      rw [push, List.append_nil, List.any_nil, ← hp.1]
    rw [run_cons, accept_frame_of_status hp, eventsOf_other h, hpush, ih]

end Runs

end Client.Progress

end Exchange
