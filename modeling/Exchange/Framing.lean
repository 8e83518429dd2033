-- SUMMARY: Length-delimited records on a byte stream: writing, and reading that does not depend on chunks.
import Exchange.Envelope.Encoding

/-!
# Framing

A record is a byte that tells its kind, the length of the payload as four bytes
with the most significant first, and the payload. Kind 1 is text and kind 2
binary; records of any other kind are skipped. `Framing.drain` reads all
complete records at the front of a buffer.
-/

namespace Exchange.Framing

/-- The largest payload where nothing else is said. -/
def defaultMax : Nat := 16 * 1024 * 1024

/-- Why a connection cannot go on. -/
inductive Error where
  | io
  | tooLarge (length max : Nat)
  deriving DecidableEq, Repr

def Error.message : Error → String
  | .io => "connection I/O failed"
  | .tooLarge length max =>
    "frame of " ++ toString length ++ " bytes exceeds the " ++ toString max ++ " byte limit"

/-! ## Writing -/

def kindOf : Encoding → UInt8
  | .text => 1
  | .binary => 2

def encodingOf? (kind : UInt8) : Option Encoding :=
  if kind = 1 then some .text else if kind = 2 then some .binary else none

/-- A record of any kind. -/
def record (kind : UInt8) (payload : Bytes) : Bytes :=
  kind :: Bytes.ofNatBE 4 payload.length ++ payload

/-- The record of a frame, whose payload must be within the limit and its length within four bytes. -/
def encode (max : Nat) (frame : Frame) : Except Error Bytes :=
  let length := frame.payload.length
  if max < length then .error (.tooLarge length max)
  else if 2 ^ 32 ≤ length then .error (.tooLarge length (2 ^ 32 - 1))
  else .ok (record (kindOf frame.encoding) frame.payload)

/-! ## Reading -/

/-- What stands at the front of a buffer. -/
inductive Front where
  | incomplete
  | tooLarge (length : Nat)
  | record (kind : UInt8) (payload rest : Bytes)

/-- Looks at the front of a buffer. A length past the limit is refused before its payload is there. -/
def front (max : Nat) : Bytes → Front
  | kind :: a :: b :: c :: d :: rest =>
    let length := Bytes.toNatBE [a, b, c, d]
    if max < length then .tooLarge length
    else if rest.length < length then .incomplete
    else .record kind (rest.take length) (rest.drop length)
  | _ => .incomplete

theorem front_rest_length {max : Nat} {buffer payload rest : Bytes} {kind : UInt8}
    (h : front max buffer = .record kind payload rest) : rest.length < buffer.length := by
  unfold front at h
  split at h
  · dsimp only at h
    split at h
    · cases h
    · split at h
      · cases h
      · cases h
        simp [List.length_drop]
        omega
  · cases h

/-- What reading a buffer gives: frames, perhaps an error, and the bytes that stay in the buffer. -/
structure Drained where
  frames : List Frame
  error : Option Error
  buffer : Bytes

/-- Reads records until one is incomplete or too large; there the buffer stays as it is. -/
def drain (max : Nat) (buffer : Bytes) : Drained :=
  match _h : front max buffer with
  | .incomplete => ⟨[], none, buffer⟩
  | .tooLarge length => ⟨[], some (.tooLarge length max), buffer⟩
  | .record kind payload rest =>
    let d := drain max rest
    match encodingOf? kind with
    | some encoding => { d with frames := ⟨encoding, payload⟩ :: d.frames }
    | none => d
termination_by buffer.length
decreasing_by exact front_rest_length _h

/-- Reads the buffer of a stream that has ended, in which nothing may be left over. -/
def drainEnd (max : Nat) (buffer : Bytes) : Drained :=
  let d := drain max buffer
  match d.error with
  | some _ => d
  | none => if d.buffer.isEmpty then d else { d with error := some .io }

end Exchange.Framing
