import RoutingData.Wire.Varint

/-!
# Fields of messages

A message is a sequence of numbered fields. The key before a field holds its number and the kind of
its payload, by which a reader can pass over a field that it does not know. Fields may repeat; what
that means is up to the message.
-/

namespace RoutingData.Wire

/-- What a field carries, as far as a reader needs it. -/
inductive Payload where
  /-- A number below `2 ^ 64`. -/
  | varint (n : Nat)
  /-- Bytes: a text, a message, or just bytes. -/
  | bytes (bs : Bytes)
  /-- Something of a kind that no known field has. -/
  | other
  deriving DecidableEq, Repr

/-- A field of a message. -/
structure Field where
  /-- The number of the field. -/
  number : Nat
  /-- Its payload. -/
  payload : Payload
  deriving DecidableEq, Repr

/-! ### Writing -/

/-- A field with a number in it. -/
def varintField (number n : Nat) : Bytes := varint (8 * number) ++ varint n

/-- A field with bytes in it. -/
def bytesField (number : Nat) (bs : Bytes) : Bytes :=
  varint (8 * number + 2) ++ varint bs.length ++ bs

/-- A field with a number in it, left out for zero. -/
def varintFieldUnlessZero (number n : Nat) : Bytes := if n = 0 then [] else varintField number n

/-- A field with bytes in it, left out for none. -/
def bytesFieldUnlessEmpty (number : Nat) (bs : Bytes) : Bytes :=
  if bs.isEmpty then [] else bytesField number bs

/-! ### Reading -/

/-- Reads the number of a field and the kind of its payload. -/
def readKey (bytes : Bytes) : Option ((Nat × Nat) × Bytes) := do
  let (key, rest) ← readVarint bytes
  guard (key < 0x100000000 ∧ 8 ≤ key)
  return ((key / 8, key % 8), rest)

/-- The first `count` bytes and those after them, if there are that many. -/
def splitBytes (count : Nat) (bytes : Bytes) : Option (Bytes × Bytes) :=
  let head := bytes.take count
  if head.length = count then some (head, bytes.drop count) else none

/-- Reads a payload other than a group. -/
def readPayload (kind : Nat) (bytes : Bytes) : Option (Payload × Bytes) :=
  match kind with
  | 0 => (readVarint bytes).map fun r => (.varint r.1, r.2)
  | 1 => (splitBytes 8 bytes).map fun r => (.other, r.2)
  | 2 => do
    let (length, rest) ← readVarint bytes
    (splitBytes length rest).map fun r => (.bytes r.1, r.2)
  | 5 => (splitBytes 4 bytes).map fun r => (.other, r.2)
  | _ => none

/-- The kind of payload that starts a group. -/
def groupStart : Nat := 3

/-- The kind of payload that ends a group. -/
def groupEnd : Nat := 4

/-- Passes over the fields of a group and the key that ends it. Groups in it may be nested as deep
as `depth` allows; `fuel` bounds the number of fields. -/
def skipGroup : Nat → Nat → Nat → Bytes → Option Bytes
  | 0, _, _, _ => none
  | fuel + 1, depth, number, bytes => do
    let ((n, kind), rest) ← readKey bytes
    if kind = groupEnd then if n = number then some rest else none
    else if depth = 0 then none
    else
      let rest ← if kind = groupStart then skipGroup fuel (depth - 1) n rest
        else (readPayload kind rest).map (·.2)
      skipGroup fuel depth number rest

/-- Reads the fields of a message; those read so far come last one first. -/
def readFieldsFrom (depth : Nat) : Nat → List Field → Bytes → Option (List Field)
  | 0, _, _ => none
  | fuel + 1, fields, bytes =>
    match bytes with
    | [] => some fields.reverse
    | _ => do
      let ((number, kind), rest) ← readKey bytes
      let (payload, rest) ← if kind = groupStart then
          (skipGroup rest.length (depth - 1) number rest).map (Payload.other, ·)
        else readPayload kind rest
      readFieldsFrom depth fuel (⟨number, payload⟩ :: fields) rest

/-- How deep groups and messages may be nested. -/
def maxNesting : Nat := 100

/-- Reads the fields of a message that stands in `level` others. -/
def readFields (level : Nat) (bytes : Bytes) : Option (List Field) :=
  readFieldsFrom (maxNesting - level) (bytes.length + 1) [] bytes

/-! ### Fields by number -/

/-- The payloads of the fields with a number, in order. -/
def payloads (number : Nat) (fields : List Field) : List Payload :=
  (fields.filter (·.number == number)).map (·.payload)

/-- The number in a payload. -/
def Payload.varint? : Payload → Option Nat
  | varint n => some n
  | _ => none

/-- The bytes in a payload. -/
def Payload.bytes? : Payload → Option Bytes
  | bytes bs => some bs
  | _ => none

/-- The text in a payload. -/
def Payload.text? (p : Payload) : Option String := p.bytes?.bind Bytes.text?

/-- The last value of a field that every occurrence can be read as; `default` stands for a field
that does not occur. -/
def lastOf {α : Type} (read : Payload → Option α) (default : α) (number : Nat)
    (fields : List Field) : Option α :=
  ((payloads number fields).mapM read).map (·.getLastD default)

/-- The values of a repeated field. -/
def allOf {α : Type} (read : Payload → Option α) (number : Nat) (fields : List Field) :
    Option (List α) :=
  (payloads number fields).mapM read

end RoutingData.Wire
