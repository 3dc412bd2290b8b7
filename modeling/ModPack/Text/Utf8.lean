import ModPack.Text.Hex

/-!
# UTF-8 with located faults

Decoding is strict: no overlong forms, no surrogates, nothing above U+10FFFF. When the bytes are no
UTF-8, the fault tells where the first ill-formed sequence starts, how many of its bytes are well
formed, and what is wrong with it. Main statement: what encoding writes is read back.
-/
namespace ModPack.Utf8

inductive Problem
  | invalidStart
  | invalidContinuation
  | truncated
  deriving DecidableEq, Repr

/-- The first ill-formed sequence: `length` bytes from `start` on, the first being `lead`. -/
structure Fault where
  start : Nat
  length : Nat
  lead : UInt8
  problem : Problem
  deriving DecidableEq, Repr

def Problem.message : Problem → String
  | .invalidStart => "invalid start byte"
  | .invalidContinuation => "invalid continuation byte"
  | .truncated => "unexpected end of data"

def Fault.message (fault : Fault) : String :=
  let place :=
    if fault.length = 1 then
      "byte 0x" ++ .ofList (Hex.escape 2 fault.lead.toNat) ++ " in position " ++
        toString fault.start
    else
      "bytes in position " ++ toString fault.start ++ "-" ++
        toString (fault.start + fault.length - 1)
  "'utf-8' codec can't decode " ++ place ++ ": " ++ fault.problem.message

/-- How many continuation bytes follow a lead byte, and the range of the first of them. -/
def shape? (lead : UInt8) : Option (Nat × UInt8 × UInt8) :=
  if lead < 0x80 then some (0, 0x80, 0xBF)
  else if lead < 0xC2 then none
  else if lead < 0xE0 then some (1, 0x80, 0xBF)
  else if lead = 0xE0 then some (2, 0xA0, 0xBF)
  else if lead = 0xED then some (2, 0x80, 0x9F)
  else if lead < 0xF0 then some (2, 0x80, 0xBF)
  else if lead = 0xF0 then some (3, 0x90, 0xBF)
  else if lead < 0xF4 then some (3, 0x80, 0xBF)
  else if lead = 0xF4 then some (3, 0x80, 0x8F)
  else none

def isContinuation (byte : UInt8) : Bool :=
  0x80 ≤ byte && byte ≤ 0xBF

/-- The bytes of a sequence after its lead: none when all `count` are there and in range, else how
many bytes are well formed, the lead included, and the problem. -/
def brokenTail? (count : Nat) (low high : UInt8) (rest : List UInt8) : Option (Nat × Problem) :=
  match count, rest with
  | 0, _ => none
  | _ + 1, [] => some (1, .truncated)
  | more + 1, byte :: rest =>
    if low ≤ byte ∧ byte ≤ high then
      (brokenTail? more 0x80 0xBF rest).map fun (length, problem) => (length + 1, problem)
    else some (1, .invalidContinuation)

/-- The first fault at or after `offset`, where `bytes` begins. -/
def firstFault? (offset : Nat) (bytes : List UInt8) : Option Fault :=
  match bytes with
  | [] => none
  | lead :: rest =>
    match shape? lead with
    | none => some ⟨offset, 1, lead, .invalidStart⟩
    | some (count, low, high) =>
      match brokenTail? count low high rest with
      | some (length, problem) => some ⟨offset, length, lead, problem⟩
      | none => firstFault? (offset + count + 1) (rest.drop count)
termination_by bytes.length
decreasing_by
  simp only [List.length_drop, List.length_cons]
  omega

/-- The fault of bytes that are no UTF-8. -/
def faultOf (bytes : ByteArray) : Fault :=
  (firstFault? 0 bytes.toList).getD ⟨0, 1, 0, .truncated⟩

def decode (bytes : ByteArray) : Except Fault String :=
  match String.fromUTF8? bytes with
  | some text => .ok text
  | none => .error (faultOf bytes)

def encode (text : String) : ByteArray :=
  text.toUTF8

/-- Where the bytes left over from the pieces before `boundary` begin: at the lead byte of the
sequence that crosses it. -/
def pendingStart (bytes : ByteArray) : Nat → Nat → Nat
  | boundary + 1, steps + 1 =>
    if (bytes[boundary + 1]?.map isContinuation).getD false then pendingStart bytes boundary steps
    else boundary + 1
  | boundary, _ => boundary

/-- Size of the pieces in which a long file is decoded. -/
def pieceSize : Nat := 8192

/-- A fault as decoding in pieces counts it: from the start of the piece that shows it, with the
bytes left over from the piece before in front. A sequence cut off by the end of the file is all
that is left over then. -/
def Fault.inPiece (bytes : ByteArray) (fault : Fault) : Fault :=
  match fault.problem with
  | .truncated => { fault with start := 0 }
  | .invalidStart | .invalidContinuation =>
    let shown := if fault.problem = .invalidStart then fault.start else fault.start + fault.length
    let boundary := shown / pieceSize * pieceSize
    let base := min fault.start (pendingStart bytes boundary 3)
    { fault with start := fault.start - base }

/-- Decoding in pieces: the same texts, with faults counted from their piece. -/
def decodePieces (bytes : ByteArray) : Except Fault String :=
  (decode bytes).mapError (·.inPiece bytes)

theorem decode_encode (text : String) : decode (encode text) = .ok text := by
  have h : String.fromUTF8? text.toUTF8 = some text := by
    simp only [String.fromUTF8?, String.toUTF8_eq_toByteArray, text.isValidUTF8, dite_true]
    rfl
  simp only [decode, encode, h]

end ModPack.Utf8
