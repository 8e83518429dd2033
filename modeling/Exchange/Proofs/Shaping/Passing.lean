-- SUMMARY: The frames of a result spelled out: how far a stream is passed on, and what becomes of each of its frames.
import Exchange.Proofs.Hub.Plugins
import Exchange.Proofs.Shaping
import Mathlib.Data.List.Forall2

/-!
# Passing a stream on

Three things decide what the caller sees of a stream. A frame without a status
is lent one, `Latch.lent`; the first frame that `closes` the stream is the last
of it; and `Reply.PassedOn` says what becomes of a frame. `frames_exact` says
that the frames of every result are just that, and that a feed gives them.
-/

namespace Exchange

/-! ## Frames of a stream -/

namespace Reply

/-- The frame with the status that it is given if it has none. -/
def lend (status : Status) (r : Reply) : Reply :=
  { r with status := some (r.status.getD status) }

/-- No frame of the stream is passed on after this one. -/
def closes (r : Reply) : Bool :=
  r.effectiveStatus.isError || r.isFinish || r.fin

/-- What a frame that has its status is passed on as. An error ends the request, and so does a finish
frame that is none; any other frame leaves it open. -/
structure PassedOn (r r' : Reply) : Prop where
  id : r'.id = r.id
  status : r'.status = r.status
  message : r'.message = r.message
  sid : r'.sid = r.sid
  topic : r'.topic = r.topic
  extra : r'.extra = r.extra
  code : ∀ code, r.statusCode = some code → r'.statusCode = some code
  ofError : r.effectiveStatus.isError = true →
    r'.kind = some .error ∧ r'.fin = true ∧ r'.statusCode = some (r.statusCode.getD r.effectiveStatus.text)
  ofFinish : r.effectiveStatus.isError = false → r.isFinish = true →
    r'.kind = some .finish ∧ r'.fin = true ∧ r'.statusCode = r.statusCode
  ofOther : r.effectiveStatus.isError = false → r.isFinish = false →
    r'.kind = some (r.kind.getD .response) ∧ r'.fin = false ∧ r'.statusCode = r.statusCode

theorem passedOn_toError {r : Reply} (h : r.effectiveStatus.isError = true) : r.PassedOn r.toError where
  id := rfl
  status := rfl
  message := rfl
  sid := rfl
  topic := rfl
  extra := rfl
  code code hcode := by simp [toError, hcode]
  ofError _ := ⟨rfl, rfl, rfl⟩
  ofFinish hno := by simp [h] at hno
  ofOther hno := by simp [h] at hno

theorem passedOn_finish {r : Reply} (herror : r.effectiveStatus.isError = false) (h : r.isFinish = true) :
    r.PassedOn { r with fin := true } where
  id := rfl
  status := rfl
  message := rfl
  sid := rfl
  topic := rfl
  extra := rfl
  code _ hcode := hcode
  ofError hno := by simp [herror] at hno
  ofFinish _ _ := ⟨by simpa [isFinish] using h, rfl, rfl⟩
  ofOther _ hno := by simp [h] at hno

theorem passedOn_other {r : Reply} (herror : r.effectiveStatus.isError = false) (h : r.isFinish = false) :
    r.PassedOn { r with fin := false, kind := some (r.kind.getD .response) } where
  id := rfl
  status := rfl
  message := rfl
  sid := rfl
  topic := rfl
  extra := rfl
  code _ hcode := hcode
  ofError hno := by simp [herror] at hno
  ofFinish _ hno := by simp [h] at hno
  ofOther _ _ := ⟨rfl, rfl, rfl⟩

end Reply

namespace Latch

/-- The status of frames without one: that of the first frame of the request, or else the fallback. -/
def lent (l : Latch) (rs : List Reply) : Status :=
  l.fixed.getD ((rs.head?.bind (·.status)).getD l.fallback)

theorem stamp_eq (l : Latch) (r : Reply) (rs : List Reply) :
    l.stamp r = ({ l with fixed := some (l.lent (r :: rs)) }, r.lend (l.lent (r :: rs))) := by
  obtain ⟨fixed, fallback⟩ := l
  obtain ⟨id, status, statusCode, message, kind, fin, sid, topic, extra⟩ := r
  cases status <;> cases fixed <;> rfl

/-- Once the first frame is there, the status that it fixes is lent to all that follow. -/
theorem lent_stamp (l : Latch) (r : Reply) (rs : List Reply) :
    (l.stamp r).1.lent rs = l.lent (r :: rs) := by
  rw [l.stamp_eq r rs]
  rfl

theorem finish_eq (l : Latch) : l.finish = { Reply.finish with status := some (l.lent []) } := by
  obtain ⟨fixed, fallback⟩ := l
  cases fixed <;> rfl

/-- A frame is passed on; what follows it depends on whether it closes the stream, and whether it ends the
request. -/
theorem shape_passedOn (l : Latch) (r : Reply) :
    ∃ r', (l.stamp r).2.PassedOn r' ∧
      l.shape r = ((l.stamp r).1,
        if (l.stamp r).2.closes then if r'.fin then .last r' else .closing r' else .more r') := by
  unfold shape
  generalize l.stamp r = stamped
  obtain ⟨l, r⟩ := stamped
  dsimp only
  cases herror : r.effectiveStatus.isError with
  | true =>
    refine ⟨r.toError, Reply.passedOn_toError herror, ?_⟩
    simp [Reply.closes, herror, Reply.toError]
  | false =>
    cases hfinish : r.isFinish with
    | true =>
      refine ⟨{ r with fin := true }, Reply.passedOn_finish herror hfinish, ?_⟩
      simp [Reply.closes, hfinish]
    | false =>
      refine ⟨{ r with fin := false, kind := some (r.kind.getD .response) },
        Reply.passedOn_other herror hfinish, ?_⟩
      cases hfin : r.fin <;> simp [Reply.closes, herror, hfinish, hfin]

/-- A stream that is not read to its end is passed on up to the frame that closes it; a finish frame follows,
unless that frame has ended the request. -/
theorem frames_passedOn (l : Latch) (rs : List Reply) :
    ∃ passed, List.Forall₂ Reply.PassedOn
        ((rs.map (Reply.lend (l.lent rs))).take ((rs.map (Reply.lend (l.lent rs))).findIdx Reply.closes + 1)) passed ∧
      l.frames rs = passed ++
        if passed.getLast?.any (·.fin) then [] else [{ Reply.finish with status := some (l.lent rs) }] := by
  induction rs generalizing l with
  | nil => exact ⟨[], .nil, by rw [frames, l.finish_eq]; rfl⟩
  | cons r rs ih =>
    obtain ⟨r', hr', hshape⟩ := l.shape_passedOn r
    have hstamp := l.stamp_eq r rs
    have hrest := l.lent_stamp r rs
    generalize l.lent (r :: rs) = status at hstamp hrest ⊢
    rw [frames, hshape]
    rw [hstamp] at hr' hrest ⊢
    dsimp only at hr' hrest ⊢
    rw [List.map_cons, List.findIdx_cons]
    cases hcloses : (r.lend status).closes with
    | true =>
      refine ⟨[r'], .cons hr' .nil, ?_⟩
      cases hfin : r'.fin with
      | true => simp [hfin]
      | false =>
        have hfinish := finish_eq { l with fixed := some status }
        simp [hfin, hfinish, lent]
    | false =>
      obtain ⟨passed, hpassed, hframes⟩ := ih { l with fixed := some status }
      rw [hrest] at hpassed hframes
      refine ⟨r' :: passed, .cons hr' hpassed, ?_⟩
      have hopen : r'.fin = false := by
        have hcomplete := l.shape_cases r
        rw [hshape, hstamp, hcloses] at hcomplete
        exact hcomplete.1
      have hlast : (r' :: passed).getLast?.any (·.fin) = passed.getLast?.any (·.fin) := by
        cases passed with
        | nil => simp [hopen]
        | cons q passed => rw [List.getLast?_cons_cons]
      rw [hlast, List.cons_append, ← hframes]
      rfl

end Latch

/-! ## Reading a stream -/

/-- Reading the stream gives these frames and then its end. -/
inductive Hub.Holds : Hub → Stream → List Reply → Prop where
  | ended {h : Hub} {s : Stream} : (h.pull s).2.2 = .finished → Holds h s []
  | more {h : Hub} {s : Stream} {r : Reply} {rs : List Reply} :
      (h.pull s).2.2 = .item r → Holds (h.pull s).1 (h.pull s).2.1 rs → Holds h s (r :: rs)

/-- A channel to which nobody writes any more holds what waits in it. -/
theorem Hub.holds_channel {h : Hub} {c : Ref .channel} {channel : Channel Reply}
    (hget : h.channels.get? c = some channel) (hwriters : channel.writers = 0) :
    h.Holds (.channel c) channel.queue := by
  generalize hqueue : channel.queue = rs
  induction rs generalizing h channel with
  | nil => exact .ended (by simp [Hub.pull, hget, Channel.pull, hqueue, hwriters])
  | cons r rs ih =>
    have hpull : h.pull (.channel c) =
        ({ h with channels := h.channels.set c { channel with queue := rs } }, .channel c, .item r) := by
      simp [Hub.pull, hget, Channel.pull, hqueue]
    refine .more (by rw [hpull]) ?_
    rw [hpull]
    exact ih (Store.get?_set_self hget _) hwriters rfl

/-- The results are the same, but for a stream, where the frames are listed that it holds. -/
inductive Hub.Spells (h : Hub) : Result Stream → Result (List Reply) → Prop where
  | failure (f : Failure) : Spells h (.error f) (.error f)
  | empty (status : Status) (code : Option String) :
      Spells h (.ok ⟨status, code, .empty⟩) (.ok ⟨status, code, .empty⟩)
  | message (status : Status) (code : Option String) (v : Value) :
      Spells h (.ok ⟨status, code, .message v⟩) (.ok ⟨status, code, .message v⟩)
  | stream (status : Status) (code : Option String) {s : Stream} {rs : List Reply} (hs : h.Holds s rs) :
      Spells h (.ok ⟨status, code, .stream s⟩) (.ok ⟨status, code, .stream rs⟩)

namespace Feed

variable {h : Hub} {s : Stream} {r : Reply}

theorem pull_of_finished (l : Latch) (hs : (h.pull s).2.2 = .finished) :
    (Feed.flow l s).pull h = ((h.pull s).1.dropStream (h.pull s).2.1, .rest [], .item l.finish) := by
  simp only [pull]
  generalize h.pull s = pulled at hs ⊢
  obtain ⟨h, s, found⟩ := pulled
  subst hs
  rfl

theorem pull_of_item (l : Latch) (hs : (h.pull s).2.2 = .item r) :
    (Feed.flow l s).pull h =
      match l.shape r with
      | (l, .more r) => ((h.pull s).1, .flow l (h.pull s).2.1, .item r)
      | (l, .closing r) => ((h.pull s).1.dropStream (h.pull s).2.1, .rest [l.finish], .item r)
      | (_, .last r) => ((h.pull s).1.dropStream (h.pull s).2.1, .rest [], .item r) := by
  simp only [pull]
  generalize h.pull s = pulled at hs ⊢
  obtain ⟨h, s, found⟩ := pulled
  subst hs
  rfl

theorem reads_rest (h : Hub) (frames : List Reply) :
    (Feed.rest frames).reads h (List.replicate (frames.length + 1) id) = frames.map .item ++ [.finished] := by
  induction frames with
  | nil => rfl
  | cons r frames ih =>
    rw [List.length_cons, List.replicate_succ]
    exact congrArg (Pull.item r :: ·) ih

/-- A feed gives the frames of what its stream holds, and nothing after them. -/
theorem reads_of_holds {rs : List Reply} (hs : h.Holds s rs) (l : Latch) :
    (Feed.flow l s).reads h (List.replicate ((l.frames rs).length + 1) id) =
      (l.frames rs).map .item ++ [.finished] := by
  induction hs generalizing l with
  | @ended h s hfinished =>
    have hpull := pull_of_finished l hfinished
    simp only [Latch.frames, List.length_singleton, List.replicate_succ, reads, id, hpull]
    rfl
  | @more h s r rs hitem hrest ih =>
    have hpull := pull_of_item l hitem
    rw [Latch.frames]
    generalize l.shape r = shaped at hpull ⊢
    obtain ⟨l, shaped⟩ := shaped
    cases shaped with
    | last r =>
      simp only [List.length_singleton, List.replicate_succ, reads, id, hpull]
      rfl
    | closing r =>
      simp only [List.length_cons, List.length_nil, List.replicate_succ, reads, id, hpull]
      rfl
    | more r =>
      dsimp only at hpull ⊢
      rw [List.length_cons, List.replicate_succ, reads, id, hpull]
      exact congrArg (Pull.item r :: ·) (ih l)

/-- A feed gives the frames of its result, and nothing after them. -/
theorem reads_of_spells {result : Result Stream} {listed : Result (List Reply)} (hresult : h.Spells result listed) :
    (Feed.ofResult result).reads h (List.replicate (listed.frames.length + 1) id) =
      listed.frames.map .item ++ [.finished] := by
  cases hresult with
  | failure | empty | message => exact reads_rest h _
  | stream status code hs => exact reads_of_holds hs ⟨none, status⟩

end Feed

/-! ## Results -/

/-- The frames of every result. A failure is one error frame. An outcome without a stream is a response and a
finish frame, or one error frame if its status is one of failure. Of a stream each frame is given a status
where it has none, and passed on, up to the first that closes it; then comes a finish frame, unless the last
frame has ended the request. Just the last frame ends it, and a feed gives these frames and no more. -/
theorem Result.frames_exact :
    (∀ f : Failure, Result.frames (.error f) = [f.toReply]) ∧
      (∀ (status : Status) (code : Option String) (message : Option Value),
        Result.frames (.ok ⟨status, code, message.elim .empty .message⟩) =
          if status.isError then
            [{ status := some status, statusCode := some (code.getD status.text), message := message
               kind := some .error, fin := true }]
          else
            [{ status := some status, statusCode := code, message := message, kind := some .response },
              { status := some status, kind := some .finish, fin := true }]) ∧
      (∀ (status : Status) (code : Option String) (rs : List Reply),
        let lent := (rs.head?.bind (·.status)).getD status
        let stamped := rs.map (Reply.lend lent)
        ∃ passed, List.Forall₂ Reply.PassedOn (stamped.take (stamped.findIdx Reply.closes + 1)) passed ∧
          Result.frames (.ok ⟨status, code, .stream rs⟩) = passed ++
            if passed.getLast?.any (·.fin) then [] else [{ Reply.finish with status := some lent }]) ∧
      (∀ result : Result (List Reply), ∃ before last, result.frames = before ++ [last] ∧
        (∀ r ∈ before, r.fin = false) ∧ last.fin = true) ∧
      ∀ (h : Hub) (result : Result Stream) (listed : Result (List Reply)), h.Spells result listed →
        (Feed.ofResult result).reads h (List.replicate (listed.frames.length + 1) id) =
          listed.frames.map .item ++ [.finished] := by
  have hsingle (status : Status) (code : Option String) (message : Option Value) :
      Outcome.single status code message =
        if status.isError then
          [{ status := some status, statusCode := some (code.getD status.text), message := message
             kind := some .error, fin := true }]
        else
          [{ status := some status, statusCode := code, message := message, kind := some .response },
            { status := some status, kind := some .finish, fin := true }] :=
    rfl
  refine ⟨fun f => rfl, ?_, ?_, fun result => result.complete_frames.eq_append_singleton,
    fun h _ _ hresult => Feed.reads_of_spells hresult⟩
  · intro status code message
    cases message with
    | none => exact hsingle status code none
    | some v => exact hsingle status code (some v)
  · intro status code rs
    exact Latch.frames_passedOn ⟨none, status⟩ rs

/-- A stream that goes on after an error, and whose first frame has a status of its own. -/
def brokenOff : List Reply :=
  [{ Reply.response none with status := some .created }, .response (some .null),
    { status := some .notFound, topic := some "a" }, .finish]

theorem brokenOff_told :
    let h : Hub := { channels := ⟨#[{ queue := brokenOff }]⟩ }
    h.Holds (.channel ⟨0⟩) brokenOff ∧
      (Feed.ofResult (.ok ⟨.ok, none, .stream (.channel ⟨0⟩)⟩)).reads h (List.replicate 4 id) =
        [.item { Reply.response none with status := some .created },
          .item { Reply.response (some .null) with status := some .created },
          .item { status := some .notFound, statusCode := some "404", kind := some .error, fin := true
                  topic := some "a" },
          .finished] := by
  intro h
  have hholds : h.Holds (.channel ⟨0⟩) brokenOff := @Hub.holds_channel h ⟨0⟩ { queue := brokenOff } rfl rfl
  obtain ⟨-, -, -, -, hreads⟩ := Result.frames_exact
  exact ⟨hholds, hreads h _ _ (.stream .ok none hholds)⟩

end Exchange
