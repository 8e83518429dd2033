-- SUMMARY: A session and the requests it answers: what each request queues, whatever the others do.
import Exchange.Feed
import Exchange.Proofs.Data.Store
import Exchange.Proofs.Envelope
import Exchange.Proofs.Shaping
import Exchange.Session
import Exchange.World.Schedule

/-!
# Serving

`Serving` is a session with the requests that it answers. One act takes in a
frame, lets one request queue its next frame, writes what waits, or ends the
session; a run is any list of acts. `Answer.hand` is what a task of the world
does with frames that are known (`World.stepAnswer_rest`).

`Session.handed` lists the frames that a request hands over when nobody
disturbs it. A run never changes that list: what a request has queued, followed
by what it has still to queue, stays the same (`Serving.queuedBy_append_expected`).
-/

namespace Exchange

/-! ## Queueing one frame -/

namespace Session

/-- The frame is within the limit. -/
def Fits (limit : Nat) (encoding : Encoding) (r : Reply) : Prop :=
  (r.encode encoding).payload.length ≤ limit

instance (limit : Nat) (encoding : Encoding) : DecidablePred (Fits limit encoding) :=
  fun r => inferInstanceAs (Decidable ((r.encode encoding).payload.length ≤ limit))

/-- The frame that stands in for a frame past the limit. -/
def standIn (limit : Nat) (encoding : Encoding) (r : Reply) : Reply :=
  { (oversize limit (r.encode encoding).payload.length).toReply with id := r.id }

/-- The frames that a request hands over for `frames`. -/
def handed (limit : Nat) (encoding : Encoding) : List Reply → List Reply
  | [] => []
  | r :: frames =>
    if Fits limit encoding r then r :: handed limit encoding frames else [standIn limit encoding r]

variable {s : Session}

theorem push_of_isWriting (h : s.isWriting = true) (frame : Frame) :
    s.push frame = ({ s with queue := s.queue ++ [frame] }, true) := by
  unfold isWriting at h
  unfold push
  cases hw : s.writer with
  | writing => rfl
  | stopping | stopped | failed =>
    rw [hw] at h
    cases h

theorem enqueue_of_fits (h : s.isWriting = true) {r : Reply} {encoding : Encoding}
    (hr : Fits s.limit encoding r) :
    s.enqueue r encoding = ({ s with queue := s.queue ++ [r.encode encoding] }, true) := by
  unfold Fits at hr
  unfold enqueue
  dsimp only
  rw [if_pos hr, push_of_isWriting h]

theorem enqueue_of_not_fits (h : s.isWriting = true) {r : Reply} {encoding : Encoding}
    (hr : ¬Fits s.limit encoding r) :
    s.enqueue r encoding =
      ({ s with queue := s.queue ++ [(standIn s.limit encoding r).encode encoding] }, false) := by
  unfold Fits at hr
  unfold enqueue
  dsimp only
  rw [if_neg hr, push_of_isWriting h]
  rfl

/-- Queueing changes nothing but the queue. -/
theorem push_frame (frame : Frame) :
    (s.push frame).1.limit = s.limit ∧ (s.push frame).1.writer = s.writer := by
  unfold push
  split <;> simp [*]

/-- A queue that is closed stays as it is. -/
theorem queue_push_of_not_isWriting (h : s.isWriting = false) (frame : Frame) :
    (s.push frame).1.queue = s.queue := by
  unfold isWriting at h
  unfold push
  cases hw : s.writer with
  | writing =>
    rw [hw] at h
    cases h
  | stopping | stopped | failed => rfl

theorem queue_enqueue_of_not_isWriting (h : s.isWriting = false) (r : Reply) (encoding : Encoding) :
    (s.enqueue r encoding).1.queue = s.queue := by
  unfold enqueue
  dsimp only
  split
  · exact queue_push_of_not_isWriting h _
  · exact queue_push_of_not_isWriting h _

theorem enqueue_frame (r : Reply) (encoding : Encoding) :
    (s.enqueue r encoding).1.limit = s.limit ∧ (s.enqueue r encoding).1.writer = s.writer := by
  unfold enqueue
  dsimp only
  split
  · exact push_frame _
  · exact push_frame _

/-- Taking in a frame changes neither the limit nor the writer. -/
theorem accept_frame (frame : Frame) :
    (s.accept frame).1.limit = s.limit ∧ (s.accept frame).1.writer = s.writer := by
  unfold accept
  split
  · exact ⟨rfl, rfl⟩
  · dsimp only
    split
    · exact enqueue_frame _ _
    · exact ⟨rfl, rfl⟩

theorem finish_frame (result : Except Error Unit) :
    (s.finish result).limit = s.limit ∧ (s.finish result).isWriting = false := by
  unfold finish
  dsimp only
  split
  · refine ⟨rfl, ?_⟩
    cases h : s.isWriting with
    | true => rfl
    | false => rfl
  · refine ⟨rfl, ?_⟩
    cases h : s.isWriting with
    | true => rfl
    | false => rfl

/-- Writing never opens the queue again. -/
theorem write_frame (s : Session) :
    s.write.1.limit = s.limit ∧ (s.write.1.isWriting = true → s.isWriting = true) := by
  unfold write
  dsimp only
  split
  · refine ⟨rfl, fun h => ?_⟩
    cases h
  · split
    · refine ⟨rfl, fun h => ?_⟩
      cases h
    · exact ⟨rfl, id⟩

/-! ## What is handed over -/

/-- The frames within the limit up to the first that is not, and what stands in for that one. -/
theorem handed_eq (limit : Nat) (encoding : Encoding) (frames : List Reply) :
    handed limit encoding frames =
      frames.takeWhile (fun r => Fits limit encoding r) ++
        ((frames.dropWhile fun r => Fits limit encoding r).head?.map (standIn limit encoding)).toList := by
  induction frames with
  | nil => rfl
  | cons r frames ih =>
    rw [handed]
    by_cases h : Fits limit encoding r
    · simp [h, ih]
    · simp [h]

/-- Frames that are all within the limit are handed over; else something stands in for one of them. -/
theorem exists_rest_of_handed (limit : Nat) (encoding : Encoding) (frames : List Reply) :
    let fitting := frames.takeWhile fun r => Fits limit encoding r
    ∃ rest, handed limit encoding frames = fitting ++ rest ∧ (fitting = frames → rest = []) ∧
      (fitting ≠ frames → ∃ r ∈ frames, rest = [standIn limit encoding r]) := by
  intro fitting
  have hsplit : fitting ++ frames.dropWhile (fun r => Fits limit encoding r) = frames :=
    List.takeWhile_append_dropWhile
  refine ⟨_, handed_eq limit encoding frames, fun hall => ?_, fun hsome => ?_⟩
  · rw [hall] at hsplit
    rw [List.append_right_eq_self.1 hsplit]
    rfl
  · cases hdrop : frames.dropWhile fun r => Fits limit encoding r with
    | nil =>
      rw [hdrop, List.append_nil] at hsplit
      exact absurd hsplit hsome
    | cons r more =>
      exact ⟨r, hsplit ▸ List.mem_append_right _ (hdrop ▸ List.mem_cons_self), rfl⟩

theorem handed_of_fits {limit : Nat} {encoding : Encoding} {frames : List Reply}
    (h : ∀ r ∈ frames, Fits limit encoding r) : handed limit encoding frames = frames := by
  induction frames with
  | nil => rfl
  | cons r frames ih =>
    obtain ⟨hr, hrest⟩ := List.forall_mem_cons.1 h
    rw [handed, if_pos hr, ih hrest]

end Session

theorem Complete.handed {frames : List Reply} (h : Complete frames) (limit : Nat) (encoding : Encoding) :
    Complete (Session.handed limit encoding frames) := by
  induction h with
  | @last r hfin =>
    rw [Session.handed]
    split
    · exact .last hfin
    · exact .last rfl
  | @more r frames hfin herror _ ih =>
    rw [Session.handed]
    split
    · exact .more hfin herror ih
    · exact .last rfl

theorem Complete.map {frames : List Reply} (h : Complete frames) {f : Reply → Reply}
    (hfin : ∀ r, (f r).fin = r.fin) (hstatus : ∀ r, (f r).status = r.status) :
    Complete (frames.map f) := by
  induction h with
  | last h => exact .last ((hfin _).trans h)
  | @more r frames h herror _ ih =>
    refine .more ((hfin r).trans h) ?_ ih
    rw [Reply.effectiveStatus, hstatus]
    exact herror

/-! ## One request -/

/-- A request under way: the frames that are still to be queued for it. -/
structure Answer where
  id : Option RequestId
  encoding : Encoding
  left : List Reply
  ended : Bool := false

namespace Answer

/-- Takes the next frame and queues it with the id of the request, or ends. -/
def hand (a : Answer) (s : Session) : Session × Answer :=
  if a.ended then (s, a)
  else
    match a.left with
    | [] => ({ s with jobs := s.jobs - 1 }, { a with ended := true })
    | r :: left =>
      match s.enqueue { r with id := a.id } a.encoding with
      | (s, true) => (s, { a with left })
      | (s, false) => ({ s with jobs := s.jobs - 1 }, { a with left := [], ended := true })

/-- The frames that are still to be handed over, with the id of the request. -/
def expected (a : Answer) (limit : Nat) : List Reply :=
  if a.ended then []
  else Session.handed limit a.encoding (a.left.map fun r => { r with id := a.id })

/-- How many more turns the request can use. -/
def turns (a : Answer) : Nat :=
  if a.ended then 0 else a.left.length + 1

theorem expected_of_turns {a : Answer} (limit : Nat) (h : a.turns = 0) : a.expected limit = [] := by
  unfold turns at h
  unfold expected
  split
  · rfl
  · rename_i hended
    rw [if_neg hended] at h
    cases h

/-- Whatever becomes of the frames, every turn is one turn less. -/
theorem turns_hand (a : Answer) (s : Session) : (a.hand s).2.turns ≤ a.turns - 1 := by
  unfold hand
  split
  · rename_i hended
    simp [turns, hended]
  · rename_i hended
    split
    · simp [turns]
    · rename_i r left hleft
      have hturns : a.turns = left.length + 2 := by
        rw [turns, if_neg hended, hleft]
        rfl
      split
      · rw [turns, if_neg hended, hturns]
        exact Nat.le_refl _
      · simp [turns]

/-- Handing over changes nothing of a session but its queue and the number of requests. -/
theorem hand_frame (a : Answer) (s : Session) :
    (a.hand s).1.limit = s.limit ∧ (a.hand s).1.writer = s.writer ∧
      (a.hand s).2.id = a.id ∧ (a.hand s).2.encoding = a.encoding := by
  unfold hand
  split
  · exact ⟨rfl, rfl, rfl, rfl⟩
  · split
    · exact ⟨rfl, rfl, rfl, rfl⟩
    · rename_i r left _
      have hframe := Session.enqueue_frame (s := s) { r with id := a.id } a.encoding
      split
      · rename_i heq
        rw [heq] at hframe
        exact ⟨hframe.1, hframe.2, rfl, rfl⟩
      · rename_i heq
        rw [heq] at hframe
        exact ⟨hframe.1, hframe.2, rfl, rfl⟩

/-- What a turn queues, the request no longer has to hand over. -/
theorem hand_of_isWriting (a : Answer) {s : Session} (h : s.isWriting = true) :
    ∃ sent, (a.hand s).1.queue = s.queue ++ sent.map (·.encode a.encoding) ∧
      a.expected s.limit = sent ++ (a.hand s).2.expected s.limit := by
  unfold hand
  split
  · exact ⟨[], by simp⟩
  · rename_i hended
    split
    · rename_i hleft
      exact ⟨[], by simp [expected, hended, hleft, Session.handed]⟩
    · rename_i r left hleft
      by_cases hr : Session.Fits s.limit a.encoding { r with id := a.id }
      · rw [Session.enqueue_of_fits h hr]
        exact ⟨[{ r with id := a.id }], rfl, by simp [expected, hended, hleft, Session.handed, hr]⟩
      · rw [Session.enqueue_of_not_fits h hr]
        exact ⟨[Session.standIn s.limit a.encoding { r with id := a.id }], rfl,
          by simp [expected, hended, hleft, Session.handed, hr]⟩

theorem queue_hand_of_not_isWriting (a : Answer) {s : Session} (h : s.isWriting = false) :
    (a.hand s).1.queue = s.queue := by
  unfold hand
  split
  · rfl
  · split
    · rfl
    · rename_i r left _
      have hqueue := Session.queue_enqueue_of_not_isWriting h { r with id := a.id } a.encoding
      split
      · rename_i heq
        rw [heq] at hqueue
        exact hqueue
      · rename_i heq
        rw [heq] at hqueue
        exact hqueue

end Answer

/-- A task of the world that feeds known frames to a session hands them over one by one. -/
theorem World.stepAnswer_rest {w : World} (t : Ref .task) {s : Ref .session} {session : Session}
    (hs : w.sessions.get? s = some session) {a : Answer} (ha : a.ended = false) :
    w.stepAnswer t s a.id a.encoding (.feeding (.rest a.left)) =
      { w with
        sessions := w.sessions.set s (a.hand session).1
        tasks := w.tasks.set t
          (if (a.hand session).2.ended then .done
          else .answer s a.id a.encoding (.feeding (.rest (a.hand session).2.left))) } := by
  unfold stepAnswer stepWork
  dsimp only
  unfold Answer.hand
  rw [if_neg (by simp [ha])]
  cases hleft : a.left with
  | nil =>
    have hmodify := Store.modify_congr (f := fun s : Session => { s with jobs := s.jobs - 1 })
      (g := fun _ => { session with jobs := session.jobs - 1 }) (s := w.sessions) (r := s)
      (by intro b hb; rw [hs] at hb; cases hb; rfl)
    show World.endJob _ t s _ = _
    simp only [endJob, dropWork, Feed.drop, Feed.pull]
    exact congrArg (fun sessions => { w with sessions, tasks := w.tasks.set t .done }) hmodify
  | cons r left =>
    simp only [Feed.pull]
    have hget : (w.withHub w.hub).sessions.get? s = some session := hs
    rw [hget]
    dsimp only
    cases henq : session.enqueue { r with id := a.id } a.encoding with
    | mk session' goesOn =>
      cases goesOn with
      | true =>
        simp only [if_true, ha, Bool.false_eq_true, if_false]
        rfl
      | false =>
        have hmodify := Store.modify_modify w.sessions s (fun _ => session')
          fun s : Session => { s with jobs := s.jobs - 1 }
        simp only [Bool.false_eq_true, if_false, if_true, endJob, dropWork, Feed.drop]
        exact congrArg (fun sessions => { w with sessions, tasks := w.tasks.set t .done }) hmodify

/-! ## All requests of a session -/

/-- A session and its requests, in the order in which they were taken in. -/
structure Serving where
  session : Session
  answers : List Answer := []

namespace Serving

inductive Act where
  /-- Takes in a frame; if it is a request, it results in `result`. -/
  | accept (frame : Frame) (result : Result (List Reply))
  /-- Gives a turn to a request. -/
  | hand (i : Nat)
  | write
  | finish (result : Except Session.Error Unit)
  /-- The owner takes the session down. -/
  | abort

def step (sv : Serving) : Act → Serving
  | .accept frame result =>
    match sv.session.accept frame with
    | (session, some job) =>
      { session, answers := sv.answers ++ [{ id := job.id, encoding := job.encoding, left := result.frames }] }
    | (session, none) => { sv with session }
  | .hand i =>
    match sv.answers[i]? with
    | some a => { session := (a.hand sv.session).1, answers := sv.answers.set i (a.hand sv.session).2 }
    | none => sv
  | .write => { sv with session := sv.session.write.1 }
  | .finish result => { sv with session := sv.session.finish result }
  | .abort => { sv with session := { sv.session with reader := .aborted } }

def run (sv : Serving) (acts : List Act) : Serving :=
  acts.foldl step sv

/-- The frames that an act puts into the queue for a request, with its number. -/
def queues (sv : Serving) (act : Act) : List (Nat × Frame) :=
  match act with
  | .hand i => ((sv.step act).session.queue.drop sv.session.queue.length).map (i, ·)
  | _ => []

/-- The frames that a run puts into the queue for requests, in order. -/
def log (sv : Serving) : List Act → List (Nat × Frame)
  | [] => []
  | act :: acts => sv.queues act ++ (sv.step act).log acts

/-- The frames that bear a number. -/
def numbered (i : Nat) (entries : List (Nat × Frame)) : List Frame :=
  (entries.filter fun e => e.1 = i).map (·.2)

/-- The frames that a run puts into the queue for one request. -/
def queuedBy (i : Nat) (sv : Serving) (acts : List Act) : List Frame :=
  numbered i (sv.log acts)

def Act.isTurnOf (i : Nat) : Act → Bool
  | .hand j => j = i
  | _ => false

/-! ## Numbers -/

theorem numbered_append (i : Nat) (a b : List (Nat × Frame)) :
    numbered i (a ++ b) = numbered i a ++ numbered i b := by
  rw [numbered, List.filter_append, List.map_append]
  rfl

theorem numbered_map (i j : Nat) (frames : List Frame) :
    numbered i (frames.map (j, ·)) = if j = i then frames else [] := by
  unfold numbered
  split
  · rename_i h
    rw [List.filter_eq_self.2 (by simp [h]), List.map_map, Function.comp_def, List.map_id']
  · rename_i h
    rw [List.filter_eq_nil_iff.2 (by simp [h]), List.map_nil]

theorem numbered_eq_nil {i : Nat} {entries : List (Nat × Frame)} (h : ∀ e ∈ entries, e.1 ≠ i) :
    numbered i entries = [] := by
  rw [numbered, List.filter_eq_nil_iff.2 (by simpa using h), List.map_nil]

/-! ## One act -/

variable {sv : Serving} {act : Act} {i : Nat} {a : Answer}

/-- Taking in a request adds it to the others, with all of its frames still to be queued. -/
theorem step_accept_of_decode (sv : Serving) {frame : Frame} {e : Request.Envelope}
    (hreq : Request.Envelope.decode frame = .ok e) (result : Result (List Reply)) :
    sv.step (.accept frame result) =
      { session := { sv.session with jobs := sv.session.jobs + 1 }
        answers := sv.answers ++ [{ id := e.id, encoding := frame.encoding, left := result.frames }] } := by
  simp only [step, Session.accept, hreq]
  rfl

theorem step_limit (sv : Serving) (act : Act) : (sv.step act).session.limit = sv.session.limit := by
  cases act with
  | accept frame result =>
    have hframe := Session.accept_frame (s := sv.session) frame
    unfold step
    dsimp only
    split
    · rename_i heq
      rw [heq] at hframe
      exact hframe.1
    · rename_i heq
      rw [heq] at hframe
      exact hframe.1
  | hand i =>
    unfold step
    dsimp only
    split
    · exact (Answer.hand_frame _ _).1
    · rfl
  | write => exact (Session.write_frame _).1
  | finish result => exact (Session.finish_frame _).1
  | abort => rfl

theorem isWriting_congr {s s' : Session} (h : s'.writer = s.writer) : s'.isWriting = s.isWriting := by
  rw [Session.isWriting, h, Session.isWriting]

/-- A queue that is open was open before. -/
theorem isWriting_of_step (h : (sv.step act).session.isWriting = true) : sv.session.isWriting = true := by
  cases act with
  | accept frame result =>
    have hframe := Session.accept_frame (s := sv.session) frame
    unfold step at h
    dsimp only at h
    split at h
    · rename_i heq
      rw [heq] at hframe
      rwa [isWriting_congr hframe.2] at h
    · rename_i heq
      rw [heq] at hframe
      rwa [isWriting_congr hframe.2] at h
  | hand i =>
    unfold step at h
    dsimp only at h
    split at h
    · rwa [isWriting_congr (Answer.hand_frame _ _).2.1] at h
    · exact h
  | write => exact (Session.write_frame _).2 h
  | finish result =>
    rw [step, (Session.finish_frame _).2] at h
    cases h
  | abort => exact h

/-- A request changes only in its own turns. -/
theorem step_answer (hi : sv.answers[i]? = some a) :
    (sv.step act).answers[i]? = some (if act.isTurnOf i then (a.hand sv.session).2 else a) := by
  cases act with
  | accept frame result =>
    unfold step
    dsimp only
    split
    · rw [List.getElem?_append_left (List.getElem?_eq_some_iff.1 hi).1, hi]
      rfl
    · exact hi
  | hand j =>
    unfold step Act.isTurnOf
    dsimp only
    by_cases hj : j = i
    · subst hj
      rw [hi]
      have hlt := (List.getElem?_eq_some_iff.1 hi).1
      simp [hlt]
    · simp only [hj, decide_false, Bool.false_eq_true, if_false]
      split
      · rw [List.getElem?_set_ne hj, hi]
      · exact hi
  | write | finish | abort => exact hi

/-- What an act queues for a request is what the request no longer has to hand over. -/
theorem queues_append_expected (hi : sv.answers[i]? = some a)
    (hopen : (sv.step act).session.isWriting = true) :
    let a' := if act.isTurnOf i then (a.hand sv.session).2 else a
    numbered i (sv.queues act) ++ (a'.expected sv.session.limit).map (·.encode a.encoding) =
      (a.expected sv.session.limit).map (·.encode a.encoding) := by
  have hsv := isWriting_of_step hopen
  cases act with
  | hand j =>
    by_cases hj : j = i
    · subst hj
      obtain ⟨sent, hqueue, hsent⟩ := a.hand_of_isWriting hsv
      have hstep : (sv.step (.hand j)).session = (a.hand sv.session).1 := by
        unfold step
        dsimp only
        rw [hi]
      rw [queues, numbered_map, if_pos rfl, hstep, hqueue, List.drop_left, hsent, List.map_append]
      simp [Act.isTurnOf]
    · rw [queues, numbered_map, if_neg hj]
      simp [Act.isTurnOf, hj]
  | accept | write | finish | abort => rfl

/-! ## Runs -/

theorem isWriting_of_run {acts : List Act} (h : (sv.run acts).session.isWriting = true) :
    sv.session.isWriting = true := by
  induction acts generalizing sv with
  | nil => exact h
  | cons act acts ih => exact isWriting_of_step (ih h)

/-- While the queue is open, what a request has queued and what it has still to hand over make up
what it had to hand over at first, whatever the acts in between are. -/
theorem queuedBy_append_expected {acts : List Act} (hi : sv.answers[i]? = some a)
    (hopen : (sv.run acts).session.isWriting = true) :
    ∃ a', (sv.run acts).answers[i]? = some a' ∧
      sv.queuedBy i acts ++ (a'.expected sv.session.limit).map (·.encode a.encoding) =
        (a.expected sv.session.limit).map (·.encode a.encoding) ∧
      a'.turns ≤ a.turns - acts.countP (Act.isTurnOf i) := by
  induction acts generalizing sv a with
  | nil => exact ⟨a, hi, rfl, Nat.le_refl _⟩
  | cons act acts ih =>
    have hopen' : (sv.step act).session.isWriting = true := isWriting_of_run hopen
    have hstep := queues_append_expected hi hopen'
    obtain ⟨a', ha', hqueued, hturns⟩ := ih (step_answer hi) hopen
    have hencoding : (if act.isTurnOf i then (a.hand sv.session).2 else a).encoding = a.encoding := by
      split
      · exact (Answer.hand_frame _ _).2.2.2
      · rfl
    refine ⟨a', ha', ?_, ?_⟩
    · rw [hencoding, step_limit] at hqueued
      rw [queuedBy, log, numbered_append, List.append_assoc]
      exact (congrArg _ hqueued).trans hstep
    · rw [List.countP_cons]
      have hturn := a.turns_hand sv.session
      by_cases hact : act.isTurnOf i
      · rw [if_pos hact] at hturns ⊢
        omega
      · rw [if_neg hact] at hturns ⊢
        omega

/-- What a session queues for one request: the frames of its result with its id, up to the first
past the limit, and an error frame in the place of that one. -/
theorem queuedBy_accepted {frame : Frame} {e : Request.Envelope}
    (hreq : Request.Envelope.decode frame = .ok e) (result : Result (List Reply)) {acts : List Act}
    (hopen : ((sv.step (.accept frame result)).run acts).session.isWriting = true) :
    let frames := result.frames.map fun r => { r with id := e.id }
    let fitting := frames.takeWhile fun r => Session.Fits sv.session.limit frame.encoding r
    let queued := (sv.step (.accept frame result)).queuedBy sv.answers.length acts
    ∃ rest : List Reply,
      queued <+: (fitting ++ rest).map (·.encode frame.encoding) ∧
      (frames.length < acts.countP (Act.isTurnOf sv.answers.length) →
        queued = (fitting ++ rest).map (·.encode frame.encoding)) ∧
      (fitting = frames → rest = []) ∧
      (fitting ≠ frames → ∃ r, rest = [r] ∧ r.id = e.id ∧ r.status = some .internalError ∧
        r.kind = some .error) ∧
      ∃ before last, fitting ++ rest = before ++ [last] ∧ (∀ r ∈ before, r.fin = false) ∧
        last.fin = true := by
  intro frames fitting queued
  let a : Answer := { id := e.id, encoding := frame.encoding, left := result.frames }
  have hi : (sv.step (.accept frame result)).answers[sv.answers.length]? = some a := by
    rw [step_accept_of_decode sv hreq]
    exact List.getElem?_concat_length
  obtain ⟨a', -, hqueued, hturns⟩ := queuedBy_append_expected hi hopen
  obtain ⟨rest, hhanded, hall, hsome⟩ :=
    Session.exists_rest_of_handed sv.session.limit frame.encoding frames
  have hexpected : a.expected sv.session.limit = fitting ++ rest := hhanded
  rw [step_limit, hexpected] at hqueued
  refine ⟨rest, ⟨_, hqueued⟩, fun henough => ?_, hall, fun hpast => ?_, ?_⟩
  · have hzero : a'.turns = 0 := by
      have hlength : frames.length = result.frames.length := List.length_map _
      have hfull : a.turns = result.frames.length + 1 := rfl
      omega
    rw [Answer.expected_of_turns _ hzero, List.map_nil, List.append_nil] at hqueued
    exact hqueued
  · obtain ⟨r, hr, hrest⟩ := hsome hpast
    obtain ⟨q, -, rfl⟩ := List.mem_map.1 hr
    exact ⟨_, hrest, rfl, rfl, rfl⟩
  · have hcomplete : Complete frames := result.complete_frames.map (fun _ => rfl) fun _ => rfl
    rw [← hhanded]
    exact (hcomplete.handed _ _).eq_append_singleton

/-- A request for `/ping`. -/
def ping : Request.Envelope := { id := some ⟨"a"⟩, path := "/ping" }

/-- A session that has taken in nothing as yet. -/
def idle (limit : Nat) : Serving :=
  { session := { router := ⟨0⟩, scope := ⟨0⟩, limit, wire := ⟨0⟩ } }

theorem ping_queues_two :
    Request.Envelope.decode (ping.encode .text) = .ok ping ∧
      (((idle 1000).step (.accept (ping.encode .text) (.ok { status := .ok, body := .empty }))).run
        [.hand 0, .hand 0, .hand 0]).session.isWriting = true ∧
      (((idle 1000).step (.accept (ping.encode .text) (.ok { status := .ok, body := .empty }))).queuedBy 0
        [.hand 0, .hand 0, .hand 0]).length = 2 := by
  have hreq : Request.Envelope.decode (ping.encode .text) = .ok ping :=
    Request.Envelope.decode_encode (by decide) (by decide +kernel) (by decide +kernel)
  have hopen : (((idle 1000).step (.accept (ping.encode .text) (.ok { status := .ok, body := .empty }))).run
      [.hand 0, .hand 0, .hand 0]).session.isWriting = true := by decide +kernel
  obtain ⟨rest, -, hqueued, hrest, -⟩ := queuedBy_accepted hreq _ hopen
  have hfits : ((Result.frames (.ok { status := .ok, body := .empty })).map fun r =>
      { r with id := ping.id }).all (fun r => Session.Fits 1000 .text r) = true := by decide +kernel
  have hall : List.takeWhile (fun r => Session.Fits 1000 .text r)
      ((Result.frames (.ok { status := .ok, body := .empty })).map fun r => { r with id := ping.id }) =
      (Result.frames (.ok { status := .ok, body := .empty })).map fun r => { r with id := ping.id } := by
    have h := @List.takeWhile_append_of_pos _ _ _ [] (List.all_eq_true.1 hfits)
    simpa using h
  refine ⟨hreq, hopen, ?_⟩
  have hq := hqueued (by decide)
  rw [hrest hall, List.append_nil] at hq
  exact (congrArg List.length hq).trans (by rw [List.length_map]; exact (congrArg List.length hall))

end Serving

end Exchange
