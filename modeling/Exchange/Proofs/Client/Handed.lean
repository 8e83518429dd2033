-- SUMMARY: The request that a handler is handed behind a connection, and when it is the one that was sent.
import Exchange.Proofs.Client.Arriving
import Exchange.Proofs.Envelope.Encodings

/-!
# Requests handed over

A client puts a request into an envelope, encodes it, and the session takes it
out again. Path, kind, sid and topic come out as they went in. The data do if
the encoding keeps every number in them: binary does, and text keeps integers
and those doubles that are read back from their own digits
(`Request.handed_over_iff`).
-/

namespace Exchange.Request

variable {encoding : Encoding} {r : Request}

theorem of_validate (h : Client.validate r = .ok ()) : r.path ≠ "" ∧ r.data.isObject = true := by
  unfold Client.validate at h
  split at h
  · cases h
  · rename_i hpath
    split at h
    · cases h
    · rename_i hdata
      exact ⟨by simpa using hpath, by simpa using hdata⟩

/-- A request is read as it was written just when its data are. -/
theorem carried_eq_self_iff (hordered : r.data.Ordered) :
    r.carried encoding = r ↔
      encoding = .binary ∨ ∀ x, Number.double x ∈ r.data.numbers → Json.respelled (.double x) = .double x := by
  have hdata : r.carried encoding = r ↔ r.data.carried encoding.rounded = r.data := by
    constructor
    · intro h
      exact congrArg Request.data h
    · intro h
      show { r with data := r.data.carried encoding.rounded } = r
      rw [h]
  exact hdata.trans ((Value.carried_eq_self_iff hordered).trans Encoding.keeps_iff)

/-- A request that the client accepts, and whose data can be read inside an envelope, comes out of its frame
with its id, as the encoding carries it. What comes out is the request itself just when the encoding is
binary, or each double in the data is read back from its own digits. -/
theorem handed_over_iff (id : RequestId) (encoding : Encoding) (hvalid : Client.validate r = .ok ())
    (hordered : r.data.Ordered) (hlen : (r.frame id encoding).payload.length < 2 ^ 64) :
    (encoding.AdmitsData r.data → ∃ e, Envelope.decode (r.frame id encoding) = .ok e ∧
        e.contents = (some id, r.carried encoding)) ∧
      ((∃ e, Envelope.decode (r.frame id encoding) = .ok e ∧ e.contents = (some id, r)) ↔
        encoding.AdmitsData r.data ∧ (encoding = .binary ∨
          ∀ x, Number.double x ∈ r.data.numbers → Json.respelled (.double x) = .double x)) := by
  obtain ⟨hpath, hobject⟩ := of_validate hvalid
  have hread (hnest : encoding.AdmitsData r.data) :
      ∃ e, Envelope.decode (r.frame id encoding) = .ok e ∧ e.contents = (some id, r.carried encoding) :=
    ⟨_, decode_frame hpath hnest hlen, contents_carried hobject⟩
  refine ⟨hread, ?_⟩
  constructor
  · rintro ⟨e, hdecode, hcontents⟩
    have hnest : encoding.AdmitsData r.data := by
      apply Decidable.byContradiction
      intro hdeep
      have hrefused := decode_frame_of_deep hdeep hlen
      rw [hdecode] at hrefused
      cases hrefused
    obtain ⟨e', hdecode', hcontents'⟩ := hread hnest
    obtain rfl : e = e' := Except.ok.inj (hdecode.symm.trans hdecode')
    have hsame : r.carried encoding = r := (Prod.mk.inj (hcontents'.symm.trans hcontents)).2
    exact ⟨hnest, (carried_eq_self_iff hordered).1 hsame⟩
  · rintro ⟨hnest, hkept⟩
    obtain ⟨e, hdecode, hcontents⟩ := hread hnest
    rw [(carried_eq_self_iff hordered).2 hkept] at hcontents
    exact ⟨e, hdecode, hcontents⟩

/-- A subscription whose data hold the double that is written `3e+23`. -/
def weighing : Request where
  path := "/mass"
  data := .object [("kg", .number (.double Reply.large))]
  kind := .subscribe
  topic := some "scales"

/-- In binary the request is handed over, and in text another one is. -/
theorem weighing_respelled :
    (∃ e, Envelope.decode (weighing.frame ⟨"1"⟩ .binary) = .ok e ∧ e.contents = (some ⟨"1"⟩, weighing)) ∧
      (∃ e, Envelope.decode (weighing.frame ⟨"1"⟩ .text) = .ok e ∧
        e.contents = (some ⟨"1"⟩, weighing.carried .text)) ∧
      ¬∃ e, Envelope.decode (weighing.frame ⟨"1"⟩ .text) = .ok e ∧ e.contents = (some ⟨"1"⟩, weighing) := by
  have hordered : weighing.data.Ordered := by
    refine .object (Members.sorted_cons.2 ⟨by simp, Members.sorted_nil⟩) ?_
    simp only [List.forall_mem_cons]
    exact ⟨.number _, by simp⟩
  obtain ⟨-, hbinary⟩ :=
    handed_over_iff ⟨"1"⟩ .binary (show Client.validate weighing = .ok () by rfl) hordered (by decide +kernel)
  obtain ⟨htext, htext_iff⟩ :=
    handed_over_iff ⟨"1"⟩ .text (show Client.validate weighing = .ok () by rfl) hordered (by decide +kernel)
  refine ⟨hbinary.2 ⟨by decide +kernel, .inl rfl⟩, htext (by decide +kernel), ?_⟩
  intro hsame
  rcases (htext_iff.1 hsame).2 with h | hkept
  · cases h
  · have hrespelled : Json.respelled (.double Reply.large) ≠ .double Reply.large := by decide +kernel
    exact hrespelled (hkept Reply.large (by decide +kernel))

end Exchange.Request
