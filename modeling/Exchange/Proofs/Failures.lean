-- SUMMARY: Failures as they are built, and what their frames carry beside their own members.
import Exchange.Failure
import Exchange.Proofs.Envelope

/-!
# What failures carry

A failure is built with codes and fields attached to it, and its fields may be
reached past the check on their keys. Whatever is done to it, its frame carries
no member under a key that frames own (`Failure.extraFree_toReply`), and the
members that it carries stay in order (`Failure.Ordered.attachAll`).
-/

namespace Exchange.Failure

/-! ## Building a failure -/

/-- The fields that were put on a failure, those included that frames own. -/
def fields : Failure → List (String × Value)
  | .handler _ _ _ fields => fields
  | _ => []

/-- The fields have their keys in order, and so has every object inside them. -/
structure Ordered (f : Failure) : Prop where
  sorted : Members.Sorted f.fields
  values : ∀ m ∈ f.fields, m.2.Ordered

/-- What is attached to a failure on its way. -/
inductive Attachment where
  | code (code : String)
  | field (key : String) (value : Value)
  /-- A field that is put on a failure even if frames own its key. -/
  | put (key : String) (value : Value)

def attach (f : Failure) : Attachment → Failure
  | .code code => f.withCode code
  | .field key value => f.withField key value
  | .put key value => f.putField key value

def attachAll (f : Failure) (attachments : List Attachment) : Failure :=
  attachments.foldl attach f

def Attachment.Ordered : Attachment → Prop
  | .code _ => True
  | .field _ value | .put _ value => value.Ordered

theorem ordered_withStatus (status : Status) (message : String) : (withStatus status message).Ordered :=
  ⟨.nil, fun m hm => by cases hm⟩

theorem Ordered.withCode {f : Failure} (h : f.Ordered) (code : String) : (f.withCode code).Ordered := by
  cases f with
  | handler => exact ⟨h.sorted, h.values⟩
  | validation | noRoute | transport | noSubscription => exact ⟨.nil, fun m hm => by cases hm⟩

theorem Ordered.putField {f : Failure} (h : f.Ordered) (key : String) {value : Value}
    (hvalue : value.Ordered) : (f.putField key value).Ordered := by
  cases f with
  | handler =>
    refine ⟨Members.sorted_insert h.sorted, fun m hm => ?_⟩
    rcases Members.mem_insert hm with rfl | hm
    · exact hvalue
    · exact h.values m hm
  | validation | noRoute | transport | noSubscription => exact h

theorem Ordered.withField {f : Failure} (h : f.Ordered) (key : String) {value : Value}
    (hvalue : value.Ordered) : (f.withField key value).Ordered := by
  unfold Failure.withField
  split
  · exact h
  · exact h.putField key hvalue

theorem Ordered.attach {f : Failure} (h : f.Ordered) {a : Attachment} (ha : a.Ordered) :
    (f.attach a).Ordered := by
  cases a with
  | code code => exact h.withCode code
  | field key value => exact h.withField key ha
  | put key value => exact h.putField key ha

/-- Whatever is attached to a failure, and in whatever order, its fields stay in order. -/
theorem Ordered.attachAll {f : Failure} (h : f.Ordered) {attachments : List Attachment}
    (hattached : ∀ a ∈ attachments, a.Ordered) : (f.attachAll attachments).Ordered := by
  induction attachments generalizing f with
  | nil => exact h
  | cons a attachments ih =>
    obtain ⟨ha, hrest⟩ := List.forall_mem_cons.1 hattached
    exact ih (h.attach ha) hrest

/-! ## The frame of a failure -/

theorem extra_eq (f : Failure) : f.extra = f.fields.filter fun m => !Reply.isReserved m.1 := by
  cases f <;> rfl

/-- What a failure's frame carries beside its own was put on the failure, under a key that frames do not own. -/
theorem mem_extra {f : Failure} {m : String × Value} (h : m ∈ f.extra) :
    m ∈ f.fields ∧ Reply.isReserved m.1 = false := by
  rw [extra_eq] at h
  obtain ⟨hmem, hfree⟩ := List.mem_filter.1 h
  exact ⟨hmem, by simpa using hfree⟩

theorem extraFree_toReply (f : Failure) : f.toReply.ExtraFree :=
  fun _ hm => (mem_extra hm).2

theorem Ordered.extra {f : Failure} (h : f.Ordered) : Members.Sorted f.extra := by
  rw [extra_eq]
  exact h.sorted.filter _

theorem Ordered.toReply {f : Failure} (h : f.Ordered) : f.toReply.Ordered := by
  refine ⟨fun v hv => ?_, h.extra, fun m hm => h.values m (mem_extra hm).1⟩
  cases hv
  exact .text _

end Exchange.Failure
