-- SUMMARY: The frames of a result: the last alone ends the request, and none before it is in error.
import Exchange.Shaping

/-!
# The frames of a result

Whatever a handler chain settled with, its frames are some that leave the
request open, none of them in error, and then one that ends it (`Complete`).
-/

namespace Exchange

/-- Frames of which the last, and only the last, ends the request. -/
inductive Complete : List Reply → Prop where
  | last {r : Reply} : r.fin = true → Complete [r]
  | more {r : Reply} {frames : List Reply} :
      r.fin = false → r.effectiveStatus.isError = false → Complete frames → Complete (r :: frames)

namespace Complete

variable {frames : List Reply}

theorem eq_append_singleton (h : Complete frames) :
    ∃ before last, frames = before ++ [last] ∧ (∀ r ∈ before, r.fin = false) ∧ last.fin = true := by
  induction h with
  | @last r hfin => exact ⟨[], r, rfl, by simp, hfin⟩
  | @more r frames hfin _ _ ih =>
    obtain ⟨before, last, rfl, hbefore, hlast⟩ := ih
    exact ⟨r :: before, last, rfl, List.forall_mem_cons.2 ⟨hfin, hbefore⟩, hlast⟩

/-- After a frame in error there is none. -/
theorem eq_nil_of_isError {r : Reply} (h : Complete (r :: frames)) (hr : r.effectiveStatus.isError = true) :
    frames = [] := by
  cases h with
  | last => rfl
  | more _ herror =>
    rw [hr] at herror
    cases herror

end Complete

/-! ## One frame of a stream -/

namespace Latch

theorem fin_finish (l : Latch) : l.finish.fin = true := rfl

/-- A frame after which the stream is not over is no error and leaves the request open; a last frame
ends it. -/
theorem shape_cases (l : Latch) (r : Reply) :
    match (l.shape r).2 with
    | .more r | .closing r => r.fin = false ∧ r.effectiveStatus.isError = false
    | .last r => r.fin = true := by
  unfold shape
  dsimp only
  by_cases herror : (l.stamp r).2.effectiveStatus.isError
  · rw [if_pos herror]
    rfl
  · rw [if_neg herror]
    by_cases hfinish : (l.stamp r).2.isFinish
    · rw [if_pos hfinish]
    · rw [if_neg hfinish]
      have herror : (l.stamp r).2.effectiveStatus.isError = false := by simpa using herror
      by_cases hfin : (l.stamp r).2.fin
      · rw [if_pos hfin]
        exact ⟨rfl, herror⟩
      · rw [if_neg hfin]
        exact ⟨rfl, herror⟩

theorem complete_frames (l : Latch) (rs : List Reply) : Complete (l.frames rs) := by
  induction rs generalizing l with
  | nil => exact .last l.fin_finish
  | cons r rs ih =>
    have hshape := l.shape_cases r
    rw [frames]
    split
    · rename_i heq
      rw [heq] at hshape
      exact .last hshape
    · rename_i heq
      rw [heq] at hshape
      exact .more hshape.1 hshape.2 (.last (fin_finish _))
    · rename_i heq
      rw [heq] at hshape
      exact .more hshape.1 hshape.2 (ih _)

end Latch

/-! ## Results -/

theorem Outcome.complete_single (status : Status) (statusCode : Option String) (message : Option Value) :
    Complete (Outcome.single status statusCode message) := by
  unfold single
  dsimp only
  split
  · exact .last rfl
  · rename_i h
    exact .more rfl (by simpa using h) (.last (Latch.fin_finish _))

theorem Result.complete_frames (result : Result (List Reply)) : Complete result.frames := by
  unfold frames
  split
  · exact .last rfl
  · split
    · exact Outcome.complete_single _ _ _
    · exact Outcome.complete_single _ _ _
    · exact Latch.complete_frames _ _

end Exchange
