-- SUMMARY: Frames in error are error frames, but for the one that ends an empty stream.
import Exchange.Proofs.Shaping.Passing

/-!
# Frames in error

A frame of status 4xx or 5xx is to be an error frame, the last of its request,
and to bear a status code (`Reply.Framed`). One kind of result has a frame in
error that is none: an outcome of such a status whose stream ends before it
held a frame (`Result.Hollow`). Its caller gets a bare finish frame.
-/

namespace Exchange

/-! ## Frames -/

namespace Reply

/-- If the frame is in error, it is an error frame that ends its request and bears a status code. -/
def Framed (r : Reply) : Prop :=
  r.effectiveStatus.isError = true → r.kind = some .error ∧ r.fin = true ∧ r.statusCode.isSome = true

theorem framed_of_not_isError {r : Reply} (h : r.effectiveStatus.isError = false) : r.Framed := by
  intro herror
  rw [h] at herror
  cases herror

theorem framed_toError (r : Reply) : r.toError.Framed :=
  fun _ => ⟨rfl, rfl, rfl⟩

theorem PassedOn.framed {r r' : Reply} (h : r.PassedOn r') : r'.Framed := by
  intro herror
  have hstatus : r'.effectiveStatus = r.effectiveStatus := congrArg Status.orInternal h.status
  rw [hstatus] at herror
  obtain ⟨hkind, hfin, hcode⟩ := h.ofError herror
  exact ⟨hkind, hfin, by rw [hcode]; rfl⟩

end Reply

theorem Failure.framed_toReply (f : Failure) : f.toReply.Framed :=
  fun _ => ⟨rfl, rfl, rfl⟩

theorem Outcome.framed_single (status : Status) (code : Option String) (message : Option Value) :
    ∀ r ∈ Outcome.single status code message, r.Framed := by
  unfold single
  dsimp only
  split
  · exact List.forall_mem_singleton.2 (Reply.framed_toError _)
  · rename_i h
    have hstatus : status.isError = false := eq_false_of_ne_true h
    have hfinish : ((Latch.mk (some status) status).finish).Framed := Reply.framed_of_not_isError hstatus
    exact List.forall_mem_cons.2 ⟨Reply.framed_of_not_isError hstatus, List.forall_mem_singleton.2 hfinish⟩

/-! ## Streams -/

namespace Latch

theorem framed_of_passedOn {frames passed : List Reply} (h : List.Forall₂ Reply.PassedOn frames passed) :
    ∀ r ∈ passed, r.Framed := by
  induction h with
  | nil => exact List.forall_mem_nil _
  | cons hr _ ih => exact List.forall_mem_cons.2 ⟨hr.framed, ih⟩

/-- If the first frame of a stream is in error, then no finish frame is added. -/
theorem last_of_isError {r : Reply} {rs passed : List Reply} (herror : r.effectiveStatus.isError = true)
    (hpassed : List.Forall₂ Reply.PassedOn ((r :: rs).take ((r :: rs).findIdx Reply.closes + 1)) passed) :
    passed.getLast?.any (·.fin) = true := by
  have hcloses : r.closes = true := by rw [Reply.closes, herror]; rfl
  have hfirst : (r :: rs).take ((r :: rs).findIdx Reply.closes + 1) = [r] := by
    rw [List.findIdx_cons, hcloses]
    rfl
  rw [hfirst] at hpassed
  cases hpassed with
  | cons hr hrest =>
    cases hrest
    simpa using (hr.ofError herror).2.1

/-- What is lent to frames without a status is the status of the first. -/
theorem effectiveStatus_lend_first (status : Status) (r : Reply) (rs : List Reply) :
    (r.lend ((Latch.mk none status).lent (r :: rs))).effectiveStatus = (Latch.mk none status).lent (r :: rs) := by
  obtain ⟨id, status', statusCode, message, kind, fin, sid, topic, extra⟩ := r
  cases status' <;> rfl

/-- The frames of a stream with a frame in it are framed. What the finish frame is lent is the status of the
first, and had that been one of failure, it would have ended the request. -/
theorem framed_frames (status : Status) (r : Reply) (rs : List Reply) :
    ∀ q ∈ (Latch.mk none status).frames (r :: rs), q.Framed := by
  obtain ⟨passed, hpassed, hframes⟩ := (Latch.mk none status).frames_passedOn (r :: rs)
  rw [hframes]
  refine List.forall_mem_append.2 ⟨framed_of_passedOn hpassed, ?_⟩
  split
  · exact List.forall_mem_nil _
  · rename_i hopen
    refine List.forall_mem_singleton.2 (Reply.framed_of_not_isError ?_)
    refine eq_false_of_ne_true fun herror => hopen (last_of_isError ?_ hpassed)
    rw [effectiveStatus_lend_first]
    exact herror

end Latch

/-! ## Results -/

/-- An outcome of a status of failure, with a stream that ends before it held a frame. -/
def Result.Hollow (result : Result (List Reply)) : Prop :=
  ∃ status code, result = .ok ⟨status, code, .stream []⟩ ∧ status.isError = true

/-- The frames in error of a result are error frames that end the request and bear a status code, unless the
result is hollow; then its one frame is a finish frame in error without a code. A feed gives the same. -/
theorem Result.framed_iff_not_hollow (result : Result (List Reply)) :
    ((∀ r ∈ result.frames, r.Framed) ↔ ¬result.Hollow) ∧
      (result.Hollow → ∃ status : Status, status.isError = true ∧
        result.frames = [{ Reply.finish with status := some status }]) ∧
      ∀ (h : Hub) (streamed : Result Stream), h.Spells streamed result →
        (Feed.ofResult streamed).reads h (List.replicate (result.frames.length + 1) id) =
          result.frames.map .item ++ [.finished] := by
  have hbare : result.Hollow → ∃ status : Status, status.isError = true ∧
      result.frames = [{ Reply.finish with status := some status }] := by
    rintro ⟨status, code, rfl, herror⟩
    exact ⟨status, herror, rfl⟩
  refine ⟨⟨fun hframed hhollow => ?_, fun hhollow => ?_⟩, hbare, fun h _ hresult => Feed.reads_of_spells hresult⟩
  · obtain ⟨status, herror, hframes⟩ := hbare hhollow
    rw [hframes] at hframed
    obtain ⟨hkind, -, -⟩ := hframed _ List.mem_cons_self herror
    cases hkind
  · match result with
    | .error f => exact List.forall_mem_singleton.2 f.framed_toReply
    | .ok ⟨status, code, .empty⟩ => exact Outcome.framed_single status code none
    | .ok ⟨status, code, .message v⟩ => exact Outcome.framed_single status code (some v)
    | .ok ⟨status, code, .stream (r :: rs)⟩ => exact Latch.framed_frames status r rs
    | .ok ⟨status, code, .stream []⟩ =>
      have hstatus : status.isError = false :=
        eq_false_of_ne_true fun herror => hhollow ⟨status, code, rfl, herror⟩
      exact List.forall_mem_singleton.2 (Reply.framed_of_not_isError hstatus)

/-- What a handler leaves that sets status and code, and answers with a stream that has already ended. -/
def emptied : Slot :=
  { status := some .notFound, statusCode := some "404.7", body := .stream .ended }

/-- The caller gets the status in a finish frame, and the code not at all. -/
theorem emptied_unframed :
    (Feed.ofResult (.ok emptied.outcome)).reads {} [id, id] =
        [.item { Reply.finish with status := some .notFound }, .finished] ∧
      ¬({ Reply.finish with status := some .notFound } : Reply).Framed := by
  have hspells : Hub.Spells {} (.ok emptied.outcome) (.ok ⟨.notFound, some "404.7", .stream []⟩) :=
    .stream _ _ (.ended rfl)
  obtain ⟨hframed, -, hreads⟩ := Result.framed_iff_not_hollow (.ok ⟨.notFound, some "404.7", .stream []⟩)
  refine ⟨hreads {} _ hspells, fun hfinish => ?_⟩
  exact hframed.1 (List.forall_mem_singleton.2 hfinish) ⟨_, _, rfl, by decide⟩

end Exchange
