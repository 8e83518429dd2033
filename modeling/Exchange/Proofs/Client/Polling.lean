-- SUMMARY: A request's progress with polls in between: the events told, their order, and their one status.
import Exchange.Proofs.Client.News

/-!
# Polling a request's progress

Whoever passes news to a request's progress may poll events at any time.
`Polled` keeps the events that were taken; with those that wait they are what
would be in the queue without polling (`Polled.unpolled_run`), so what polls do
not touch is shown of news alone. `Account` says what the whole list is like: a
terminal event is its last, and every frame in it bears the status that the
first frame fixed (`firstStatus`).
-/

namespace Exchange.Client

/-- The frame that an event reports. -/
def Event.reply? : Event → Option Reply
  | .response _ r | .error _ r => some r
  | .finish | .transportError _ | .warning _ | .close => none

namespace Progress

/-! ## The status of a request -/

/-- The status that the first frame fixes, unless the request is over before. -/
def firstStatus : List Input → Option Status
  | [] => none
  | .frame r :: _ => some r.effectiveStatus
  | .warning _ :: news => firstStatus news
  | .closed :: _ | .failed _ :: _ => none

theorem hear_of_finished {p : Progress} (h : p.finished = true) (news : List Input) : p.hear news = p := by
  induction news with
  | nil => rfl
  | cons input news ih =>
    show (p.accept input).hear news = p
    rw [accept_of_finished h, ih]

theorem status_accept {p : Progress} {status : Status} (h : p.status = some status) (input : Input) :
    (p.accept input).status = some status := by
  obtain ⟨status', finished, queue⟩ := p
  obtain rfl : status' = some status := h
  cases finished with
  | true => rfl
  | false => cases input <;> rfl

/-- A status that is fixed stays. -/
theorem status_hear {p : Progress} {status : Status} (h : p.status = some status) (news : List Input) :
    (p.hear news).status = some status := by
  induction news generalizing p with
  | nil => exact h
  | cons input news ih => exact ih (status_accept h input)

theorem status_hear_firstStatus {p : Progress} (hstatus : p.status = none) (hopen : p.finished = false)
    (news : List Input) : (p.hear news).status = firstStatus news := by
  induction news generalizing p with
  | nil => exact hstatus
  | cons input news ih =>
    obtain ⟨status, finished, queue⟩ := p
    obtain rfl : status = none := hstatus
    obtain rfl : finished = false := hopen
    cases input with
    | frame r => exact status_hear rfl news
    | warning text => exact ih rfl rfl
    | closed | failed => exact congrArg Progress.status (hear_of_finished rfl news)

/-! ## The list of events -/

/-- What the events of a request are like, if none was polled. -/
structure Account (p : Progress) : Prop where
  order : p.queue.Pairwise fun e _ => e.isTerminal = false
  finished : p.finished = p.queue.any Event.isTerminal
  reply : ∀ e ∈ p.queue, ∀ r, e.reply? = some r → r.id = none ∧ p.status.isSome = true ∧ r.status = p.status

theorem reply_eventsOf {status : Status} {q r : Reply} {e : Event} (he : e ∈ eventsOf status q)
    (hr : e.reply? = some r) : r.id = none ∧ r.status = some status := by
  unfold eventsOf at he
  dsimp only at he
  split at he
  · rcases List.mem_append.1 he with he | he
    · split at he
      · cases he
      · obtain rfl := List.mem_singleton.1 he
        cases hr
        exact ⟨rfl, rfl⟩
    · split at he
      · obtain rfl := List.mem_singleton.1 he
        cases hr
      · cases he
  · obtain rfl := List.mem_singleton.1 he
    cases hr
    exact ⟨rfl, rfl⟩
  · obtain rfl := List.mem_singleton.1 he
    cases hr
    exact ⟨rfl, rfl⟩
  · cases he

/-- What a piece of news adds reports frames under the status that is then fixed. -/
theorem reply_told {p : Progress} (hopen : p.finished = false) {input : Input} {e : Event}
    (he : e ∈ p.told input) {r : Reply} (hr : e.reply? = some r) :
    r.id = none ∧ (p.accept input).status.isSome = true ∧ r.status = (p.accept input).status := by
  obtain ⟨status, finished, queue⟩ := p
  obtain rfl : finished = false := hopen
  cases input with
  | frame q =>
    obtain ⟨hid, hstatus⟩ := reply_eventsOf he hr
    exact ⟨hid, rfl, hstatus⟩
  | warning | closed | failed =>
    obtain rfl := List.mem_singleton.1 he
    cases hr

theorem Account.accept {p : Progress} (h : p.Account) (input : Input) : (p.accept input).Account := by
  cases hfinished : p.finished with
  | true =>
    rw [accept_of_finished hfinished]
    exact h
  | false =>
    have hquiet : ∀ e ∈ p.queue, e.isTerminal = false := by
      have hany := h.finished
      rw [hfinished, eq_comm, List.any_eq_false] at hany
      exact fun e he => eq_false_of_ne_true (hany e he)
    have hreply : ∀ e ∈ p.told input, ∀ r, e.reply? = some r →
        r.id = none ∧ (p.accept input).status.isSome = true ∧ r.status = (p.accept input).status :=
      fun e he r hr => reply_told hfinished he hr
    obtain ⟨status, hpush⟩ := accept_eq_push hfinished input
    have hqueue : (p.accept input).queue = p.queue ++ p.told input := congrArg Progress.queue hpush
    have hend : (p.accept input).finished = (p.told input).any Event.isTerminal :=
      congrArg Progress.finished hpush
    refine ⟨?_, ?_, ?_⟩
    · rw [hqueue]
      exact List.pairwise_append.2 ⟨h.order, p.pairwise_told input, fun e he _ _ => hquiet e he⟩
    · rw [hqueue, hend, List.any_append, ← h.finished, hfinished, Bool.false_or]
    · intro e he r hr
      rw [hqueue] at he
      rcases List.mem_append.1 he with he | he
      · -- a frame was told before, so the status was fixed and still is
        obtain ⟨hid, hsome, hstatus⟩ := h.reply e he r hr
        obtain ⟨fixed, hfixed⟩ := Option.isSome_iff_exists.1 hsome
        rw [status_accept hfixed input]
        exact ⟨hid, rfl, hstatus.trans hfixed⟩
      · exact hreply e he r hr

theorem Account.hear {p : Progress} (h : p.Account) (news : List Input) : (p.hear news).Account := by
  induction news generalizing p with
  | nil => exact h
  | cons input news ih => exact ih (h.accept input)

theorem account_start : ({} : Progress).Account :=
  ⟨.nil, rfl, fun _ he => by cases he⟩

theorem Account.countP {p : Progress} (h : p.Account) :
    p.queue.countP Event.isTerminal = if p.finished then 1 else 0 := by
  obtain ⟨horder, hfinished, -⟩ := h
  rw [hfinished]
  generalize p.queue = queue at horder
  induction queue with
  | nil => rfl
  | cons e queue ih =>
    obtain ⟨he, hrest⟩ := List.pairwise_cons.1 horder
    cases hterminal : e.isTerminal with
    | false => simpa [hterminal] using ih hrest
    | true =>
      cases queue with
      | nil => simp [hterminal]
      | cons f queue =>
        rw [he f List.mem_cons_self] at hterminal
        cases hterminal

/-! ## Polls in between -/

/-- A use of a request's progress: news is passed on, or the oldest event is taken. -/
inductive Move where
  | news (input : Input)
  | poll

def Move.input? : Move → Option Input
  | .news input => some input
  | .poll => none

/-- The events that were polled, and the progress of the request. -/
structure Polled where
  taken : List Event := []
  progress : Progress := {}

namespace Polled

def move (s : Polled) : Move → Polled
  | .news input => { s with progress := s.progress.accept input }
  | .poll => { taken := s.taken ++ s.progress.poll.1.toList, progress := s.progress.poll.2 }

def run (s : Polled) (moves : List Move) : Polled :=
  moves.foldl move s

/-- The events polled and, after them, those that wait. -/
def events (s : Polled) : List Event :=
  s.taken ++ s.progress.queue

/-- The progress as it would be had nobody polled. -/
def unpolled (s : Polled) : Progress :=
  { s.progress with queue := s.events }

theorem queue_unpolled (s : Polled) : s.unpolled.queue = s.events := rfl

theorem status_unpolled (s : Polled) : s.unpolled.status = s.progress.status := rfl

theorem finished_unpolled (s : Polled) : s.unpolled.finished = s.progress.finished := rfl

theorem unpolled_news (s : Polled) (input : Input) :
    (s.move (.news input)).unpolled = s.unpolled.accept input := by
  obtain ⟨added, hadded⟩ := s.progress.accept_queue input
  have hqueue : (s.progress.accept input).queue = s.progress.queue ++ added :=
    congrArg Progress.queue (hadded s.progress.queue)
  rw [unpolled, unpolled, hadded, events, events, move, hqueue, List.append_assoc]

theorem unpolled_poll (s : Polled) : (s.move .poll).unpolled = s.unpolled := by
  obtain ⟨taken, ⟨status, finished, queue⟩⟩ := s
  cases queue with
  | nil => simp [move, poll, unpolled, events]
  | cons e queue => simp [move, poll, unpolled, events]

/-- Polling changes nothing of what news comes to. -/
theorem unpolled_run (s : Polled) (moves : List Move) :
    (s.run moves).unpolled = s.unpolled.hear (moves.filterMap Move.input?) := by
  induction moves generalizing s with
  | nil => rfl
  | cons m moves ih =>
    refine (ih _).trans ?_
    cases m with
    | news input => rw [unpolled_news]; rfl
    | poll => rw [unpolled_poll]; rfl

end Polled

/-- A request's progress over every run of news and polls. With those polled, the events are what news alone
comes to; a terminal one is the last, and is there just when the request is finished. The first frame fixes
the status, under which every frame is reported without an id. Under success a frame adds a response, unless
it is a finish frame, and a finish if it is marked as the last; a first frame in error adds one error. After
the end nothing changes. -/
theorem polled_account (moves : List Move) :
    let s := ({} : Polled).run moves
    let news := moves.filterMap Move.input?
    let p := ({} : Progress).hear news
    (s.events = p.queue ∧ s.progress.status = p.status ∧ s.progress.finished = p.finished) ∧
      ((s.events.Pairwise fun e _ => e.isTerminal = false) ∧
        s.events.countP Event.isTerminal = if s.progress.finished then 1 else 0) ∧
      (s.progress.finished = true ↔ ∃ e ∈ s.events, e.isTerminal = true) ∧
      (s.progress.status = firstStatus news ∧
        ∀ status more, s.progress.status = some status → (s.run more).progress.status = some status) ∧
      (∀ e ∈ s.events, ∀ r, e.reply? = some r →
        r.id = none ∧ s.progress.status.isSome = true ∧ r.status = s.progress.status) ∧
      (∀ r : Reply, s.progress.finished = false →
        let status := s.progress.status.getD r.effectiveStatus
        status.classOf = .success →
          (s.move (.news (.frame r))).events = s.events ++
            ((if r.isFinish then [] else [.response r.message (r.under status)]) ++
              if r.fin then [.finish] else [])) ∧
      (∀ r : Reply, s.progress.finished = false → s.progress.status = none → r.effectiveStatus.isError = true →
        ∃ fault reply, (s.move (.news (.frame r))).events = s.events ++ [.error fault reply] ∧
          fault.status = r.effectiveStatus ∧ reply.statusCode = some fault.statusCode) ∧
      (s.progress.finished = true → ∀ more, (s.run more).events = s.events ∧
        (s.run more).progress.status = s.progress.status ∧ (s.run more).progress.finished = true) := by
  intro s news p
  have hsame : s.unpolled = p := Polled.unpolled_run {} moves
  have hevents : s.events = p.queue := by rw [← hsame, Polled.queue_unpolled]
  have hstatus : s.progress.status = p.status := by rw [← hsame, Polled.status_unpolled]
  have hfinished : s.progress.finished = p.finished := by rw [← hsame, Polled.finished_unpolled]
  have haccount : p.Account := account_start.hear news
  have hmore (more : List Move) : (s.run more).unpolled = p.hear (more.filterMap Move.input?) := by
    rw [Polled.unpolled_run, hsame]
  have hframe (r : Reply) (hopen : s.progress.finished = false) :
      (s.move (.news (.frame r))).events = s.events ++ eventsOf (s.progress.status.getD r.effectiveStatus) r := by
    have hmove := s.unpolled_news (.frame r)
    obtain ⟨status, hpush⟩ := accept_eq_push (p := s.unpolled) hopen (.frame r)
    rw [hpush] at hmove
    exact congrArg Progress.queue hmove
  refine ⟨⟨hevents, hstatus, hfinished⟩, ⟨?_, ?_⟩, ?_, ⟨?_, ?_⟩, ?_, ?_, ?_, ?_⟩
  · rw [hevents]
    exact haccount.order
  · rw [hevents, hfinished]
    exact haccount.countP
  · rw [hevents, hfinished, haccount.finished]
    exact List.any_eq_true
  · rw [hstatus]
    exact status_hear_firstStatus rfl rfl news
  · intro status more hfixed
    rw [← Polled.status_unpolled, hmore]
    exact status_hear (hstatus.symm.trans hfixed) _
  · rw [hevents, hstatus]
    exact haccount.reply
  · intro r hopen status hclass
    rw [hframe r hopen, eventsOf_success hclass]
  · intro r hopen hnone herror
    rw [hframe r hopen, hnone, Option.getD_none, eventsOf_error herror]
    exact ⟨_, _, rfl, rfl, rfl⟩
  · intro hover more
    have hstays : (s.run more).unpolled = s.unpolled := by
      rw [hmore, hsame]
      exact hear_of_finished (hfinished.symm.trans hover) _
    rw [← Polled.queue_unpolled, ← Polled.status_unpolled, ← Polled.finished_unpolled, hstays]
    exact ⟨rfl, rfl, hover⟩

/-- A warning and a first frame are polled before the last frame comes, which bears a status of its own. -/
def visited : List Move :=
  [.news (.warning "noise"), .poll, .news (.frame { status := some .created, id := some ⟨"a"⟩ }), .poll, .poll,
    .news (.frame { status := some .internalError, fin := true, topic := some "t" }), .news .closed]

theorem visited_told :
    let s := ({} : Polled).run visited
    s.events = [.warning "noise", .response none { status := some .created },
        .response none { status := some .created, fin := true, topic := some "t" }, .finish] ∧
      (s.run [.news (.warning "late"), .poll]).events = s.events := by
  obtain ⟨⟨hevents, -, -⟩, -, -, -, -, -, -, hover⟩ := polled_account visited
  exact ⟨hevents, (hover rfl _).1⟩

end Progress

end Exchange.Client
