/-
UTF-8: the bytes of a text, and the text of a byte sequence with the first fault when it has none.
-/
import SampleTypes.Text.Quoted

namespace SampleTypes.Text.Utf8

/-! ## Writing -/

/-- The bytes of one code point. -/
def encodeCode (n : Nat) : List Nat :=
  if n < 0x80 then [n]
  else if n < 0x800 then [0xC0 + n / 0x40, 0x80 + n % 0x40]
  else if n < 0x10000 then [0xE0 + n / 0x1000, 0x80 + n / 0x40 % 0x40, 0x80 + n % 0x40]
  else
    [0xF0 + n / 0x40000, 0x80 + n / 0x1000 % 0x40, 0x80 + n / 0x40 % 0x40, 0x80 + n % 0x40]

/-- The bytes of a text. -/
def encode (s : String) : List UInt8 :=
  (s.toList.flatMap (fun c => encodeCode c.toNat)).map UInt8.ofNat

/-! ## Reading -/

/-- Why a byte cannot be read. -/
inductive Fault where
  /-- No sequence starts with this byte. -/
  | startByte
  /-- The bytes after a start byte do not go on as it demands. -/
  | continuation
  /-- The bytes end inside a sequence. -/
  | truncated
  deriving DecidableEq, Repr

/-- The first fault of a byte sequence: the bytes it concerns and their position. -/
structure DecodeError where
  fault : Fault
  position : Nat
  bytes : List UInt8
  deriving DecidableEq, Repr

/-- What a start byte demands: its share of the code point and the bounds of each further byte. -/
def demands (b : Nat) : Option (Nat × List (Nat × Nat)) :=
  if b < 0x80 then some (b, [])
  else if 0xC2 ≤ b ∧ b ≤ 0xDF then some (b - 0xC0, [(0x80, 0xBF)])
  else if b = 0xE0 then some (0, [(0xA0, 0xBF), (0x80, 0xBF)])
  else if b = 0xED then some (0xD, [(0x80, 0x9F), (0x80, 0xBF)])
  else if 0xE1 ≤ b ∧ b ≤ 0xEF then some (b - 0xE0, [(0x80, 0xBF), (0x80, 0xBF)])
  else if b = 0xF0 then some (0, [(0x90, 0xBF), (0x80, 0xBF), (0x80, 0xBF)])
  else if 0xF1 ≤ b ∧ b ≤ 0xF3 then some (b - 0xF0, [(0x80, 0xBF), (0x80, 0xBF), (0x80, 0xBF)])
  else if b = 0xF4 then some (4, [(0x80, 0x8F), (0x80, 0xBF), (0x80, 0xBF)])
  else none

/-- How far the bytes after a start byte go on as demanded. -/
inductive Follow where
  /-- All of them: the code point, and the bytes left over. -/
  | complete (code : Nat) (rest : List UInt8)
  /-- A wrong byte after this many right ones. -/
  | wrong (count : Nat)
  /-- The end after this many right ones. -/
  | short (count : Nat)

/-- Reads the further bytes of a sequence. -/
def follow (code count : Nat) : List (Nat × Nat) → List UInt8 → Follow
  | [], bytes => .complete code bytes
  | _ :: _, [] => .short count
  | (low, high) :: bounds, b :: bytes =>
    if low ≤ b.toNat ∧ b.toNat ≤ high then
      follow (code * 0x40 + (b.toNat - 0x80)) (count + 1) bounds bytes
    else .wrong count

theorem length_of_follow {code count : Nat} {bounds : List (Nat × Nat)} {bytes : List UInt8}
    {n : Nat} {rest : List UInt8} (h : follow code count bounds bytes = .complete n rest) :
    rest.length ≤ bytes.length := by
  induction bounds generalizing code count bytes with
  | nil => simp [follow] at h; simp [h.2]
  | cons bound bounds ih =>
    cases bytes with
    | nil => simp [follow] at h
    | cons b bytes =>
      obtain ⟨low, high⟩ := bound
      simp only [follow] at h
      split at h
      · have := ih h
        simp; omega
      · simp at h

/-- Reads from `position` on; the position counts the bytes already read. -/
def decodeFrom (position : Nat) : List UInt8 → Except DecodeError (List Char)
  | [] => .ok []
  | b :: bytes =>
    match demands b.toNat with
    | none => .error ⟨.startByte, position, [b]⟩
    | some (code, bounds) =>
      match h : follow code 0 bounds bytes with
      | .complete n rest =>
        have := length_of_follow h
        (decodeFrom (position + 1 + bounds.length) rest).map (Char.ofNat n :: ·)
      | .wrong count => .error ⟨.continuation, position, b :: bytes.take count⟩
      | .short count => .error ⟨.truncated, position, b :: bytes.take count⟩
  termination_by bytes => bytes.length

/-- The text that the bytes write, or the first fault. -/
def decode (bytes : List UInt8) : Except DecodeError String :=
  (decodeFrom 0 bytes).map String.ofList

namespace DecodeError

/-- The words for a fault. -/
def reason : Fault → String
  | .startByte => "invalid start byte"
  | .continuation => "invalid continuation byte"
  | .truncated => "unexpected end of data"

/-- Names the byte, or the range of bytes, and says what is wrong. -/
def message (e : DecodeError) : String :=
  "'utf-8' codec can't decode " ++
    (match e.bytes with
    | [b] => "byte 0x" ++ String.ofList (hexDigits 2 b.toNat) ++ " in position " ++ toString e.position
    | bytes =>
      "bytes in position " ++ toString e.position ++ "-" ++
        toString (e.position + bytes.length - 1)) ++
    ": " ++ reason e.fault

end DecodeError

end SampleTypes.Text.Utf8
