-- SUMMARY: What a reader takes off a byte stream: the longest run of records that fit, however the stream is cut.
import Exchange.Proofs.Framing

/-!
# Runs of records

A byte stream starts with a longest run of complete records within the limit.
After it comes the end of the stream, in the middle of a record perhaps, or a
record that is too long. A reader that is given the stream in chunks, and called
for one frame after the other, takes off just this run, whatever the chunks are
(`received_longest_run`): it has the frames of the run, and its buffer holds what
comes after.
-/

namespace Exchange.Framing

/-! ## The longest run -/

section Front

variable {max : Nat} {bytes rest : Bytes} {r : Record}

/-- The front of a buffer is a record just when the buffer is that record and what follows it. -/
theorem front_eq_record_iff :
    front max bytes = .record r.kind r.payload rest ↔ r.Fits max ∧ bytes = r.bytes ++ rest := by
  constructor
  · intro h
    unfold front at h
    split at h
    · rename_i kind a b c d more
      have hheader := Bytes.ofNatBE_toNatBE [a, b, c, d]
      have hwidth : Bytes.toNatBE [a, b, c, d] < 256 ^ 4 := Bytes.toNatBE_lt [a, b, c, d]
      generalize Bytes.toNatBE [a, b, c, d] = length at *
      dsimp only at h
      split at h
      · cases h
      · rename_i hmax
        split at h
        · cases h
        · rename_i hcomplete
          obtain ⟨hkind, hpayload, hrest⟩ := Front.record.inj h
          have hlength : r.payload.length = length := by
            rw [← hpayload, List.length_take]
            omega
          have hsame : Bytes.ofNatBE 4 r.payload.length = [a, b, c, d] := hlength ▸ hheader
          refine ⟨⟨by omega, by omega⟩, ?_⟩
          rw [Record.bytes, record, hsame, ← hkind, ← hpayload, ← hrest]
          simp
    · cases h
  · rintro ⟨hfits, rfl⟩
    exact front_record rest hfits.limit hfits.width

end Front

/-- The records `run` stand at the start of `bytes` and are within the limit, `rest` comes after them, and
no other such run goes further. -/
structure LongestRun (max : Nat) (bytes : Bytes) (run : List Record) (rest : Bytes) : Prop where
  split : bytes = run.flatMap Record.bytes ++ rest
  fits : ∀ r ∈ run, r.Fits max
  longest : ∀ other : List Record, (∀ r ∈ other, r.Fits max) →
    other.flatMap Record.bytes <+: bytes → other <+: run

namespace LongestRun

variable {max : Nat} {bytes rest left : Bytes} {r : Record} {run : List Record}

theorem nil (h : ∀ (r : Record) (rest : Bytes), front max bytes ≠ .record r.kind r.payload rest) :
    LongestRun max bytes [] bytes where
  split := rfl
  fits := by simp
  longest := by
    intro other hfits hprefix
    cases other with
    | nil => exact List.prefix_rfl
    | cons r other =>
      obtain ⟨more, hbytes⟩ := hprefix
      rw [List.flatMap_cons, List.append_assoc] at hbytes
      exact absurd (front_eq_record_iff.2 ⟨hfits r List.mem_cons_self, hbytes.symm⟩) (h r _)

theorem cons (hr : r.Fits max) (h : LongestRun max rest run left) :
    LongestRun max (r.bytes ++ rest) (r :: run) left where
  split := by rw [List.flatMap_cons, List.append_assoc, ← h.split]
  fits := List.forall_mem_cons.2 ⟨hr, h.fits⟩
  longest := by
    intro other hfits hprefix
    cases other with
    | nil => exact List.nil_prefix
    | cons r' other =>
      obtain ⟨hr', hother⟩ := List.forall_mem_cons.1 hfits
      obtain ⟨more, hbytes⟩ := hprefix
      rw [List.flatMap_cons, List.append_assoc] at hbytes
      -- the front of the bytes is the first record of either run
      have hfront : front max (r.bytes ++ rest) = .record r.kind r.payload rest :=
        front_eq_record_iff.2 ⟨hr, rfl⟩
      have hfront' := front_eq_record_iff.2 ⟨hr', hbytes.symm⟩
      rw [hfront] at hfront'
      obtain ⟨hkind, hpayload, hrest⟩ := Front.record.inj hfront'
      have hsame : r' = r := by
        cases r
        cases r'
        simp_all
      exact List.cons_prefix_cons.2 ⟨hsame, h.longest other hother ⟨more, hrest.symm⟩⟩

end LongestRun

/-! ## What stops a reader -/

/-- The length that a header at the front tells. -/
def announced? : Bytes → Option Nat
  | _ :: a :: b :: c :: d :: _ => some (Bytes.toNatBE [a, b, c, d])
  | _ => none

/-- The error that a header at the front gives rise to, if the length that it tells is past the limit. -/
def refusal? (max : Nat) (bytes : Bytes) : Option Error :=
  ((announced? bytes).filter fun length => max < length).map (.tooLarge · max)

section Stops

variable {max : Nat} {bytes : Bytes}

theorem refusal?_of_incomplete (h : front max bytes = .incomplete) : refusal? max bytes = none := by
  unfold front at h
  split at h
  · dsimp only at h
    split at h
    · cases h
    · rename_i hmax
      simpa [refusal?, announced?] using hmax
  · rename_i hshort
    unfold refusal? announced?
    split
    · exact absurd rfl (hshort _ _ _ _ _ _)
    · rfl

theorem refusal?_of_tooLarge {length : Nat} (h : front max bytes = .tooLarge length) :
    refusal? max bytes = some (.tooLarge length max) := by
  unfold front at h
  split at h
  · dsimp only at h
    split at h
    · rename_i hmax
      cases h
      simp [refusal?, announced?, hmax]
    · split at h
      · cases h
      · cases h
  · cases h

end Stops

/-- Reading takes the longest run off the buffer. -/
theorem exists_longestRun (max : Nat) (bytes : Bytes) :
    ∃ run rest, LongestRun max bytes run rest ∧
      drain max bytes = ⟨run.filterMap Record.frame?, refusal? max rest, rest⟩ := by
  induction h : bytes.length using Nat.strongRecOn generalizing bytes with
  | _ n ih =>
    cases hf : front max bytes with
    | incomplete =>
      refine ⟨[], bytes, .nil (by simp [hf]), ?_⟩
      rw [drain_incomplete hf, refusal?_of_incomplete hf]
      rfl
    | tooLarge length =>
      refine ⟨[], bytes, .nil (by simp [hf]), ?_⟩
      rw [drain_tooLarge hf, refusal?_of_tooLarge hf]
      rfl
    | record kind payload rest =>
      obtain ⟨run, left, hrun, hdrain⟩ := ih rest.length (h ▸ front_rest_length hf) rest rfl
      obtain ⟨hfits, rfl⟩ := front_eq_record_iff (r := ⟨kind, payload⟩).1 hf
      refine ⟨⟨kind, payload⟩ :: run, left, hrun.cons hfits, ?_⟩
      rw [drain_bytes_append hfits, hdrain, List.filterMap_cons]
      cases Record.frame? ⟨kind, payload⟩ <;> rfl

/-! ## One frame at a time -/

/-- One call of a reader: the next frame, if it is there or not refused, and what stays in the buffer.
Records of other kinds before the frame are skipped in the same call. -/
def decode (max : Nat) (buffer : Bytes) : Except Error (Option Frame) × Bytes :=
  match _h : front max buffer with
  | .incomplete => (.ok none, buffer)
  | .tooLarge length => (.error (.tooLarge length max), buffer)
  | .record kind payload rest =>
    match encodingOf? kind with
    | some encoding => (.ok (some ⟨encoding, payload⟩), rest)
    | none => decode max rest
termination_by buffer.length
decreasing_by exact front_rest_length _h

section Decode

variable {max : Nat} {buffer : Bytes}

theorem decode_incomplete (h : front max buffer = .incomplete) : decode max buffer = (.ok none, buffer) := by
  rw [decode]
  split <;> simp_all

theorem decode_tooLarge {length : Nat} (h : front max buffer = .tooLarge length) :
    decode max buffer = (.error (.tooLarge length max), buffer) := by
  rw [decode]
  split <;> simp_all

theorem decode_record {kind : UInt8} {payload rest : Bytes} (h : front max buffer = .record kind payload rest) :
    decode max buffer =
      match encodingOf? kind with
      | some encoding => (.ok (some ⟨encoding, payload⟩), rest)
      | none => decode max rest := by
  rw [decode]
  split <;> simp_all

/-- A call that gives a frame takes bytes off the buffer. -/
theorem decode_rest_length {f : Frame} {rest : Bytes} (h : decode max buffer = (.ok (some f), rest)) :
    rest.length < buffer.length := by
  induction hn : buffer.length using Nat.strongRecOn generalizing buffer with
  | _ n ih =>
    cases hf : front max buffer with
    | incomplete =>
      rw [decode_incomplete hf] at h
      cases h
    | tooLarge length =>
      rw [decode_tooLarge hf] at h
      cases h
    | record kind payload more =>
      have hshorter := front_rest_length hf
      rw [decode_record hf] at h
      cases hk : encodingOf? kind with
      | some encoding =>
        rw [hk] at h
        cases h
        omega
      | none =>
        rw [hk] at h
        have hrest := ih more.length (by omega) h rfl
        omega

end Decode

/-- Calls for frames until there is none. -/
def decodeAll (max : Nat) (buffer : Bytes) : Drained :=
  match _h : decode max buffer with
  | (.ok none, rest) => ⟨[], none, rest⟩
  | (.error e, rest) => ⟨[], some e, rest⟩
  | (.ok (some f), rest) =>
    let d := decodeAll max rest
    { d with frames := f :: d.frames }
termination_by buffer.length
decreasing_by exact decode_rest_length _h

theorem decodeAll_eq (max : Nat) (buffer : Bytes) : decodeAll max buffer =
    match decode max buffer with
    | (.ok none, rest) => ⟨[], none, rest⟩
    | (.error e, rest) => ⟨[], some e, rest⟩
    | (.ok (some f), rest) => { decodeAll max rest with frames := f :: (decodeAll max rest).frames } := by
  rw [decodeAll]
  split <;> simp_all

/-- Calls for one frame after the other read what is read at once. -/
theorem decodeAll_eq_drain (max : Nat) (buffer : Bytes) : decodeAll max buffer = drain max buffer := by
  induction h : buffer.length using Nat.strongRecOn generalizing buffer with
  | _ n ih =>
    rw [decodeAll_eq]
    cases hf : front max buffer with
    | incomplete => rw [decode_incomplete hf, drain_incomplete hf]
    | tooLarge length => rw [decode_tooLarge hf, drain_tooLarge hf]
    | record kind payload rest =>
      have hrest := ih rest.length (h ▸ front_rest_length hf) rest rfl
      rw [decode_record hf, drain_record hf, ← hrest]
      cases hk : encodingOf? kind with
      | some encoding => rfl
      | none => exact (decodeAll_eq max rest).symm

/-! ## What writers write -/

/-- What is written at a time, and the frame that is in it: a frame that was let through, or a record of
another kind that is within the limit. -/
inductive Written (max : Nat) : Bytes → Option Frame → Prop where
  | frame {f : Frame} {bytes : Bytes} : encode max f = .ok bytes → Written max bytes (some f)
  | other {r : Record} : encodingOf? r.kind = none → r.Fits max → Written max r.bytes none

theorem Written.exists_record {max : Nat} {bytes : Bytes} {f : Option Frame} (h : Written max bytes f) :
    ∃ r : Record, r.Fits max ∧ bytes = r.bytes ∧ r.frame? = f := by
  cases h with
  | @frame f bytes h =>
    refine ⟨⟨kindOf f.encoding, f.payload⟩, ?_⟩
    unfold encode at h
    dsimp only at h
    split at h
    · cases h
    · split at h
      · cases h
      · cases h
        exact ⟨⟨by dsimp only; omega, by dsimp only; omega⟩, rfl, by simp [Record.frame?]⟩
  | @other r hkind hfits => exact ⟨r, hfits, rfl, by simp [Record.frame?, hkind]⟩

theorem drain_written {max : Nat} {pieces : List (Bytes × Option Frame)}
    (h : ∀ p ∈ pieces, Written max p.1 p.2) :
    drain max (pieces.flatMap (·.1)) = ⟨pieces.filterMap (·.2), none, []⟩ := by
  induction pieces with
  | nil => exact drain_nil max
  | cons p pieces ih =>
    obtain ⟨hp, hpieces⟩ := List.forall_mem_cons.1 h
    obtain ⟨r, hfits, hbytes, hframe⟩ := hp.exists_record
    rw [List.flatMap_cons, hbytes, drain_bytes_append hfits, ih hpieces, hframe, List.filterMap_cons]
    cases p.2 <;> rfl

/-! ## Chunks -/

/-- Appends a chunk to the buffer, and calls for frames until there is none. An error that was raised before
stays. -/
def Drained.receive (max : Nat) (d : Drained) (chunk : Bytes) : Drained :=
  let e := decodeAll max (d.buffer ++ chunk)
  ⟨d.frames ++ e.frames, d.error.or e.error, e.buffer⟩

/-- What a reader has when the chunks have come, one after the other. -/
def received (max : Nat) (chunks : List Bytes) : Drained :=
  chunks.foldl (Drained.receive max) ⟨[], none, []⟩

theorem receive_drain (max : Nat) (bytes chunk : Bytes) :
    (drain max bytes).receive max chunk = drain max (bytes ++ chunk) := by
  have happend := drain_append max bytes chunk
  have herror : (drain max bytes).error.or (drain max ((drain max bytes).buffer ++ chunk)).error =
      (drain max (bytes ++ chunk)).error := by
    cases he : (drain max bytes).error with
    | none => rw [happend, Drained.resume, Option.none_or]
    | some e => rw [error_append he, Option.some_or]
  rw [Drained.receive, decodeAll_eq_drain, herror, happend]
  rfl

/-- It does not matter how the bytes were cut. -/
theorem received_eq_drain (max : Nat) (chunks : List Bytes) : received max chunks = drain max chunks.flatten := by
  have hfold (bytes : Bytes) :
      chunks.foldl (Drained.receive max) (drain max bytes) = drain max (bytes ++ chunks.flatten) := by
    induction chunks generalizing bytes with
    | nil => simp
    | cons chunk chunks ih =>
      rw [List.foldl_cons, receive_drain, ih, List.flatten_cons, List.append_assoc]
  rw [received, ← drain_nil max, hfold, List.nil_append]

/-- For every way to cut a byte stream into chunks, a reader has the frames of its longest run, the bytes
after that run, and an error if these start with a header past the limit. Of what writers wrote it has all
frames, and no byte is left. -/
theorem received_longest_run (max : Nat) :
    (∀ chunks : List Bytes, received max chunks = drain max chunks.flatten) ∧
      (∀ bytes, ∃ run rest, LongestRun max bytes run rest ∧
        drain max bytes = ⟨run.filterMap Record.frame?, refusal? max rest, rest⟩) ∧
      ∀ pieces : List (Bytes × Option Frame), (∀ p ∈ pieces, Written max p.1 p.2) →
        drain max (pieces.flatMap (·.1)) = ⟨pieces.filterMap (·.2), none, []⟩ :=
  ⟨received_eq_drain max, exists_longestRun max, fun _ => drain_written⟩

/-- A record of kind 9 and a text frame. -/
def twoWritten : List (Bytes × Option Frame) :=
  [([9, 0, 0, 0, 1, 63], none), ([1, 0, 0, 0, 2, 123, 125], some ⟨.text, [123, 125]⟩)]

/-- The frame is received though both headers are cut, and a header past the limit stays in the buffer. -/
theorem received_twoWritten :
    (∀ p ∈ twoWritten, Written 4 p.1 p.2) ∧
      received 4 [[9, 0], [0, 0, 1, 63, 1], [], [0, 0, 0, 2, 123], [125]] =
        ⟨[⟨.text, [123, 125]⟩], none, []⟩ ∧
      received 4 [[9, 0, 0, 0, 1], [63, 2, 0], [0, 0, 5]] = ⟨[], some (.tooLarge 5 4), [2, 0, 0, 0, 5]⟩ := by
  have hwritten : ∀ p ∈ twoWritten, Written 4 p.1 p.2 := by
    refine List.forall_mem_cons.2 ⟨?_, List.forall_mem_singleton.2 ?_⟩
    · exact .other (r := ⟨9, [63]⟩) rfl ⟨by decide, by decide⟩
    · exact .frame rfl
  have hfront : front 4 [2, 0, 0, 0, 5] = .tooLarge 5 := rfl
  have hrefused : drain 4 (Record.bytes ⟨9, [63]⟩ ++ [2, 0, 0, 0, 5]) =
      ⟨[], some (.tooLarge 5 4), [2, 0, 0, 0, 5]⟩ := by
    rw [drain_bytes_append ⟨by decide, by decide⟩, drain_tooLarge hfront]
    rfl
  obtain ⟨hcut, -, hall⟩ := received_longest_run 4
  exact ⟨hwritten, (hcut _).trans (hall twoWritten hwritten), (hcut _).trans hrefused⟩

end Exchange.Framing
