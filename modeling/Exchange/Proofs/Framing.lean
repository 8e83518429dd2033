-- SUMMARY: Reading a byte stream does not depend on where it was cut, and gives back the frames written.
import Exchange.Session

/-!
# Framing and chunks

`Drained.resume` reads on with bytes that come later. Reading a concatenation is
reading its parts one after the other (`drain_append`), so it does not matter
where a byte stream is cut. Records that a writer let through read back as the
frames that they were made of (`drain_records`).
-/

namespace Exchange.Framing

/-! ## The front of a buffer -/

section Front

variable {max : Nat} {a b : Bytes}

theorem front_append_tooLarge {length : Nat} (h : front max a = .tooLarge length) :
    front max (a ++ b) = .tooLarge length := by
  unfold front at h
  split at h
  · dsimp only at h
    split at h
    · rename_i hbig
      simp only [List.cons_append, front]
      rw [if_pos hbig]
      exact h
    · split at h
      · cases h
      · cases h
  · cases h

theorem front_append_record {kind : UInt8} {payload rest : Bytes}
    (h : front max a = .record kind payload rest) :
    front max (a ++ b) = .record kind payload (rest ++ b) := by
  unfold front at h
  split at h
  · dsimp only at h
    split at h
    · cases h
    · rename_i hsmall
      split at h
      · cases h
      · rename_i hcomplete
        cases h
        have hle := Nat.le_of_not_lt hcomplete
        simp only [List.cons_append, front]
        rw [if_neg hsmall, if_neg (by rw [List.length_append]; omega), List.take_append_of_le_length hle,
          List.drop_append_of_le_length hle]
  · cases h

theorem front_record {kind : UInt8} {payload : Bytes} (rest : Bytes) (hmax : payload.length ≤ max)
    (hlen : payload.length < 2 ^ 32) :
    front max (record kind payload ++ rest) = .record kind payload rest := by
  have hbytes := Bytes.toNatBE_ofNatBE 4 payload.length hlen
  have hfour := Bytes.length_ofNatBE 4 payload.length
  unfold record
  match hb : Bytes.ofNatBE 4 payload.length, hfour with
  | [w, x, y, z], _ =>
    rw [hb] at hbytes
    simp only [List.cons_append, List.nil_append, front, hbytes, List.length_append]
    rw [if_neg (by omega), if_neg (by omega), List.take_left, List.drop_left]

end Front

/-! ## Reading on -/

/-- Appends bytes that come later to the buffer, and reads on. -/
def Drained.resume (d : Drained) (max : Nat) (bytes : Bytes) : Drained :=
  let e := drain max (d.buffer ++ bytes)
  { e with frames := d.frames ++ e.frames }

section Drain

variable {max : Nat} {a : Bytes}

theorem drain_incomplete (h : front max a = .incomplete) : drain max a = ⟨[], none, a⟩ := by
  rw [drain]
  split
  · rfl
  · rename_i heq
    rw [h] at heq
    cases heq
  · rename_i heq
    rw [h] at heq
    cases heq

@[simp] theorem drain_nil (max : Nat) : drain max [] = ⟨[], none, []⟩ :=
  drain_incomplete rfl

theorem drain_tooLarge {length : Nat} (h : front max a = .tooLarge length) :
    drain max a = ⟨[], some (.tooLarge length max), a⟩ := by
  rw [drain]
  split
  · rename_i heq
    rw [h] at heq
    cases heq
  · rename_i heq
    rw [h] at heq
    cases heq
    rfl
  · rename_i heq
    rw [h] at heq
    cases heq

theorem drain_record {kind : UInt8} {payload rest : Bytes} (h : front max a = .record kind payload rest) :
    drain max a = { drain max rest with
      frames := ((encodingOf? kind).map (⟨·, payload⟩)).toList ++ (drain max rest).frames } := by
  rw [drain]
  split
  · rename_i heq
    rw [h] at heq
    cases heq
  · rename_i heq
    rw [h] at heq
    cases heq
  · rename_i heq
    rw [h] at heq
    cases heq
    cases encodingOf? kind <;> rfl

/-- Reading a concatenation is reading its parts one after the other. -/
theorem drain_append (max : Nat) (a b : Bytes) : drain max (a ++ b) = (drain max a).resume max b := by
  -- induction on the length of the first part, which every record shortens
  induction h : a.length using Nat.strongRecOn generalizing a with
  | _ n ih =>
    cases hf : front max a with
    | incomplete =>
      rw [drain_incomplete hf]
      rfl
    | tooLarge length =>
      rw [drain_tooLarge hf]
      rfl
    | record kind payload rest =>
      have hrest := ih rest.length (h ▸ front_rest_length hf) rest rfl
      rw [drain_record (front_append_record hf), drain_record hf, hrest]
      simp only [Drained.resume, List.append_assoc]

/-- What was read before more came is read first. -/
theorem frames_prefix (max : Nat) (a b : Bytes) : (drain max a).frames <+: (drain max (a ++ b)).frames := by
  rw [drain_append]
  exact List.prefix_append _ _

/-- What was refused in the first part is refused in the whole. -/
theorem error_append {b : Bytes} {e : Error} (h : (drain max a).error = some e) :
    (drain max (a ++ b)).error = some e := by
  induction hn : a.length using Nat.strongRecOn generalizing a with
  | _ n ih =>
    cases hf : front max a with
    | incomplete =>
      rw [drain_incomplete hf] at h
      cases h
    | tooLarge length =>
      rw [drain_tooLarge hf] at h
      rw [drain_tooLarge (front_append_tooLarge hf)]
      exact h
    | record kind payload rest =>
      rw [drain_record hf] at h
      rw [drain_record (front_append_record hf)]
      exact ih rest.length (hn ▸ front_rest_length hf) h rfl

/-- An error in the first part is one in the whole. -/
theorem error_of_append {b : Bytes} (h : (drain max (a ++ b)).error = none) : (drain max a).error = none := by
  cases he : (drain max a).error with
  | none => rfl
  | some e =>
    rw [error_append he] at h
    cases h

/-- Nothing can be read from the bytes that are left over. -/
theorem drain_buffer (h : (drain max a).error = none) :
    drain max (drain max a).buffer = ⟨[], none, (drain max a).buffer⟩ := by
  have happend := drain_append max a []
  rw [List.append_nil, Drained.resume, List.append_nil] at happend
  have hframes := List.self_eq_append_right.1 (congrArg Drained.frames happend)
  have herror := (congrArg Drained.error happend).symm.trans h
  have hbuffer := (congrArg Drained.buffer happend).symm
  generalize drain max (drain max a).buffer = e at *
  obtain ⟨_, _, _⟩ := e
  exact congr (congr (congrArg Drained.mk hframes) herror) hbuffer

end Drain

/-! ## Records -/

/-- A record by its kind and its payload. -/
structure Record where
  kind : UInt8
  payload : Bytes

namespace Record

def bytes (r : Record) : Bytes :=
  record r.kind r.payload

/-- The frame that a record of kind 1 or 2 holds. -/
def frame? (r : Record) : Option Frame :=
  (encodingOf? r.kind).map (⟨·, r.payload⟩)

/-- The payload is within the limit, and four bytes can tell its length. -/
structure Fits (max : Nat) (r : Record) : Prop where
  limit : r.payload.length ≤ max
  width : r.payload.length < 2 ^ 32

end Record

/-- A record that stands before other bytes is read first. -/
theorem drain_bytes_append {max : Nat} {r : Record} (h : r.Fits max) (rest : Bytes) :
    drain max (r.bytes ++ rest) =
      { drain max rest with frames := r.frame?.toList ++ (drain max rest).frames } :=
  drain_record (front_record rest h.limit h.width)

/-- The record of a frame, whatever its length. -/
def recordOf (frame : Frame) : Bytes :=
  record (kindOf frame.encoding) frame.payload

theorem encode_of_fits {max : Nat} {frame : Frame} (hmax : frame.payload.length ≤ max)
    (hlen : frame.payload.length < 2 ^ 32) :
    encode max frame = .ok (recordOf frame) := by
  unfold encode
  dsimp only
  rw [if_neg (by omega), if_neg (by omega), recordOf]

@[simp] theorem encodingOf?_kindOf (encoding : Encoding) : encodingOf? (kindOf encoding) = some encoding := by
  cases encoding <;> rfl

/-- The records of frames read back as these frames, whatever comes after them. -/
theorem drain_records {max : Nat} {frames : List Frame}
    (h : ∀ f ∈ frames, f.payload.length ≤ max ∧ f.payload.length < 2 ^ 32) (rest : Bytes) :
    drain max (frames.flatMap recordOf ++ rest) =
      { drain max rest with frames := frames ++ (drain max rest).frames } := by
  induction frames with
  | nil => rfl
  | cons f frames ih =>
    obtain ⟨⟨hmax, hlen⟩, hframes⟩ := List.forall_mem_cons.1 h
    have hread := drain_bytes_append (r := ⟨kindOf f.encoding, f.payload⟩) ⟨hmax, hlen⟩
      (frames.flatMap recordOf ++ rest)
    rw [ih hframes] at hread
    rw [List.flatMap_cons, List.append_assoc]
    refine hread.trans ?_
    simp [Record.frame?]

theorem drain_all_records {max : Nat} {frames : List Frame}
    (h : ∀ f ∈ frames, f.payload.length ≤ max ∧ f.payload.length < 2 ^ 32) :
    drain max (frames.flatMap recordOf) = ⟨frames, none, []⟩ := by
  have hrecords := drain_records h []
  rw [List.append_nil, drain_nil, List.append_nil] at hrecords
  exact hrecords

end Exchange.Framing
