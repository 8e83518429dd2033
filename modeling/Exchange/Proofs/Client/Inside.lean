-- SUMMARY: What the caller of a request within this program is told of frames that are known.
import Exchange.Proofs.Client.Progress
import Exchange.Proofs.Data.Store
import Exchange.World.Schedule

/-!
# Requests within this program

A client of this program has no connection: a task of the world feeds the frames
of a result to the request's progress, one in a turn, and puts the events into
the inbox of the caller. `Progress.listen` lists these events, and
`World.turns_inside` shows that they are what the task delivers.
-/

namespace Exchange

/-! ## Listening -/

namespace Client.Progress

/-- The events that frames give until the request is over; if they do not end it, it is closed. -/
def listen (p : Progress) : List Reply → List Event
  | [] => (p.accept .closed).drain.1
  | r :: frames =>
    let (events, p) := (p.accept (.frame r)).drain
    events ++ if p.finished then [] else p.listen frames

/-- A request that its frames end is told what they give, and nothing more. -/
theorem listen_of_finished {p : Progress} {frames : List Reply} (hp : p.finished = false)
    (h : (p.run frames).finished = true) : p.queue ++ p.drained.listen frames = (p.run frames).queue := by
  induction frames generalizing p with
  | nil =>
    rw [run_nil, hp] at h
    cases h
  | cons r frames ih =>
    obtain ⟨hdrained, hqueue⟩ := p.accept_drained (.frame r)
    have hfinished := congrArg Progress.finished hdrained
    rw [finished_drained, finished_drained] at hfinished
    have hlisten : p.drained.listen (r :: frames) =
        (p.drained.accept (.frame r)).queue ++
          if (p.accept (.frame r)).finished then [] else (p.accept (.frame r)).drained.listen frames := by
      rw [← hfinished, ← hdrained]
      rfl
    rw [hlisten, ← List.append_assoc, hqueue, run_cons]
    cases hend : (p.accept (.frame r)).finished with
    | true => rw [if_pos rfl, List.append_nil, run_of_finished hend]
    | false => exact ih hend h

end Client.Progress

/-! ## Turns of a task -/

namespace World

/-- Gives a task a number of turns. -/
def turns (t : Ref .task) : (n : Nat) → World → World
  | 0, w => w
  | n + 1, w =>
    match w.tasks.get? t with
    | some task => turns t n (w.advance t task)
    | none => w

variable {w : World} {t : Ref .task} {inbox : Ref .inbox} {c : Channel Client.Event}

theorem turns_done (h : w.tasks.get? t = some .done) (n : Nat) : w.turns t n = w := by
  induction n with
  | zero => rfl
  | succ n ih =>
    rw [turns, h]
    exact ih

theorem get?_deliverInside (hc : w.inboxes.get? inbox = some c) (hread : c.reading = true)
    (events : List Client.Event) :
    (w.deliverInside inbox events).inboxes.get? inbox = some { c with queue := c.queue ++ events } := by
  refine (Store.get?_modify_self _ _ _).trans ?_
  rw [hc, Option.map_some, Channel.foldl_send hread]

/-- A task that has ended leaves in the inbox what is there. -/
theorem get?_endInside (hc : w.inboxes.get? inbox = some c) (t : Ref .task) (frames : List Reply) :
    (w.endInside t inbox (.feeding (.rest frames))).inboxes.get? inbox = some c.leave := by
  refine (Store.get?_modify_self _ _ _).trans ?_
  show (w.inboxes.get? inbox).map _ = _
  rw [hc, Option.map_some]

theorem tasks_endInside {task : Task} (ht : w.tasks.get? t = some task) (frames : List Reply) :
    (w.endInside t inbox (.feeding (.rest frames))).tasks.get? t = some .done :=
  Store.get?_set_self (s := w.tasks) ht .done

/-- A turn feeds one frame. -/
theorem stepInside_rest (hc : w.inboxes.get? inbox = some c) (hread : c.reading = true)
    (p : Client.Progress) (r : Reply) (frames : List Reply) :
    w.stepInside t (.feeding (.rest (r :: frames))) p inbox =
      let w' := w.deliverInside inbox (p.accept (.frame r)).queue
      if (p.accept (.frame r)).finished then w'.endInside t inbox (.feeding (.rest frames))
      else w'.setTask t (.inside (.feeding (.rest frames)) (p.accept (.frame r)).drained inbox) := by
  have hopen : (w.deliverInside inbox (p.accept (.frame r)).queue).isInboxRead inbox = true := by
    rw [isInboxRead, get?_deliverInside hc hread]
    exact hread
  have hstep : w.stepInside t (.feeding (.rest (r :: frames))) p inbox =
      let w' := w.deliverInside inbox (p.accept (.frame r)).queue
      if (p.accept (.frame r)).finished || !w'.isInboxRead inbox then
        w'.endInside t inbox (.feeding (.rest frames))
      else w'.setTask t (.inside (.feeding (.rest frames)) (p.accept (.frame r)).drained inbox) := rfl
  rw [hstep]
  dsimp only
  rw [hopen, Bool.not_true, Bool.or_false]

/-- A task that feeds known frames delivers what `Progress.listen` lists. -/
theorem turns_inside {frames : List Reply} {p : Client.Progress}
    (ht : w.tasks.get? t = some (.inside (.feeding (.rest frames)) p inbox))
    (hc : w.inboxes.get? inbox = some c) (hread : c.reading = true) :
    ∃ c', (w.turns t (frames.length + 1)).inboxes.get? inbox = some c' ∧
      c'.queue = c.queue ++ p.listen frames := by
  induction frames generalizing w p c with
  | nil =>
    refine ⟨{ c with queue := c.queue ++ (p.accept .closed).queue }.leave, ?_, rfl⟩
    rw [List.length_nil, turns, ht]
    exact get?_endInside (get?_deliverInside hc hread _) t []
  | cons r frames ih =>
    have hdelivered := get?_deliverInside hc hread (p.accept (.frame r)).queue
    have hlisten : p.listen (r :: frames) = (p.accept (.frame r)).queue ++
        if (p.accept (.frame r)).finished then [] else (p.accept (.frame r)).drained.listen frames := rfl
    rw [List.length_cons, turns, ht]
    dsimp only [advance]
    rw [stepInside_rest hc hread, hlisten]
    dsimp only
    cases hend : (p.accept (.frame r)).finished with
    | true =>
      rw [if_pos rfl, if_pos rfl, List.append_nil]
      refine ⟨{ c with queue := c.queue ++ (p.accept (.frame r)).queue }.leave, ?_, rfl⟩
      rw [turns_done (tasks_endInside (w := w.deliverInside inbox _) ht frames)]
      exact get?_endInside hdelivered t frames
    | false =>
      rw [if_neg (by decide), if_neg (by decide), ← List.append_assoc]
      have ht' : ((w.deliverInside inbox (p.accept (.frame r)).queue).setTask t
          (.inside (.feeding (.rest frames)) (p.accept (.frame r)).drained inbox)).tasks.get? t =
          some (.inside (.feeding (.rest frames)) (p.accept (.frame r)).drained inbox) :=
        Store.get?_set_self (s := w.tasks) ht _
      exact ih ht' hdelivered hread

end World

end Exchange
