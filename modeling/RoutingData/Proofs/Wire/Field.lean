import RoutingData.Proofs.Bytes
import RoutingData.Proofs.Wire.Varint
import RoutingData.Wire.Field

/-!
# Reading fields back

A message is written field by field (`writeFields`), and a reader finds exactly the fields that were
written, in order (`readFields_writeFields`): each is read back key and payload (`read_written`),
and what comes after it is left for the next.

The one thing that writing cannot do is a length above 64 bits. `Bytes.Addressable` rules that out
for a message, and with it for every payload in the message.
-/

namespace RoutingData.Wire

/-- A field as it is written; the payload of an unknown kind never is. -/
def Field.written (f : Field) : Bytes :=
  match f.payload with
  | .varint n => varintField f.number n
  | .bytes bs => bytesField f.number bs
  | .other => []

/-- Fields as they are written, one after the other. -/
def writeFields (fields : List Field) : Bytes := fields.flatMap Field.written

/-- A field that can be written: its number and its payload are within their bounds. The length of
bytes is not bounded here, since it is bounded by that of the message. -/
structure Field.Writable (f : Field) : Prop where
  /-- Numbers of fields start with one. -/
  number_pos : 0 < f.number
  /-- The key, which holds the number, has 32 bits. -/
  number_lt : f.number < 2 ^ 29
  /-- A number has 64 bits. -/
  payload : match f.payload with
    | .varint n => n < 2 ^ 64
    | .bytes _ => True
    | .other => False

variable {f : Field} {fields : List Field}

/-! ### One field -/

/-- A key is read back. -/
theorem readKey_varint {number kind : Nat} (hpos : 0 < number) (hlt : number < 2 ^ 29)
    (hkind : kind < 8) (rest : Bytes) :
    readKey (varint (8 * number + kind) ++ rest) = some ((number, kind), rest) := by
  rw [readKey, readVarint_varint (by omega), Option.bind_eq_bind, Option.bind_some]
  have hguard : (guard (8 * number + kind < 0x100000000 ∧ 8 ≤ 8 * number + kind) : Option Unit) =
      some () := if_pos (by omega)
  have hdiv : (8 * number + kind) / 8 = number := by omega
  have hmod : (8 * number + kind) % 8 = kind := by omega
  dsimp only
  rw [hguard, hdiv, hmod]
  rfl

/-- The number in a field is read back. -/
theorem readPayload_varint {n : Nat} (h : n < 2 ^ 64) (rest : Bytes) :
    readPayload 0 (varint n ++ rest) = some (.varint n, rest) := by
  rw [readPayload, readVarint_varint h]
  rfl

/-- Bytes that are counted off are those that were written. -/
theorem splitBytes_append (bs rest : Bytes) :
    splitBytes bs.length (bs ++ rest) = some (bs, rest) := by
  simp [splitBytes]

/-- The bytes in a field are read back. -/
theorem readPayload_bytes {bs : Bytes} (h : bs.Addressable) (rest : Bytes) :
    readPayload 2 (varint bs.length ++ bs ++ rest) = some (.bytes bs, rest) := by
  rw [readPayload, List.append_assoc, readVarint_varint h]
  change (splitBytes bs.length (bs ++ rest)).map _ = _
  rw [splitBytes_append]
  rfl

/-- The payload is a part of the field. -/
theorem sublist_bytesField (number : Nat) (bs : Bytes) : bs.Sublist (bytesField number bs) :=
  List.sublist_append_right _ bs

/-- A field that was written is read back, key and payload. -/
theorem read_written (h : f.Writable) (hlength : f.written.Addressable) (rest : Bytes) :
    ∃ kind tail, readKey (f.written ++ rest) = some ((f.number, kind), tail) ∧
      kind ≠ groupStart ∧ readPayload kind tail = some (f.payload, rest) := by
  obtain ⟨number, payload⟩ := f
  obtain ⟨hpos, hlt, hpayload⟩ := h
  -- only two kinds are written, and neither of them is that of a group
  cases payload with
  | varint n =>
    refine ⟨0, varint n ++ rest, ?_, by decide, readPayload_varint hpayload rest⟩
    change readKey (varintField number n ++ rest) = _
    rw [varintField, List.append_assoc]
    exact readKey_varint hpos hlt (show 0 < 8 by decide) _
  | bytes bs =>
    have hbs : bs.Addressable := hlength.of_sublist (sublist_bytesField number bs)
    refine ⟨2, varint bs.length ++ bs ++ rest, ?_, by decide, readPayload_bytes hbs rest⟩
    change readKey (bytesField number bs ++ rest) = _
    rw [bytesField, List.append_assoc, List.append_assoc, ← List.append_assoc _ bs]
    exact readKey_varint hpos hlt (by decide) _
  | other => exact hpayload.elim

/-- A field takes at least one byte. -/
theorem length_written_pos (h : f.Writable) : 0 < f.written.length := by
  obtain ⟨number, payload⟩ := f
  cases payload with
  | varint n =>
    have hkey := length_varint_pos (8 * number)
    simp only [Field.written, varintField, List.length_append]
    omega
  | bytes bs =>
    have hkey := length_varint_pos (8 * number + 2)
    simp only [Field.written, bytesField, List.length_append]
    omega
  | other => exact h.payload.elim

/-! ### All fields -/

/-- Reading goes on behind a field. -/
theorem readFieldsFrom_written (h : f.Writable) (hlength : f.written.Addressable)
    (depth fuel : Nat) (before : List Field) (rest : Bytes) :
    readFieldsFrom depth (fuel + 1) before (f.written ++ rest) =
      readFieldsFrom depth fuel (f :: before) rest := by
  obtain ⟨kind, tail, hkey, hkind, hpayload⟩ := read_written h hlength rest
  have hne : f.written ++ rest ≠ [] := by
    intro hnil
    have hpos := length_written_pos h
    rw [(List.append_eq_nil_iff.1 hnil).1] at hpos
    cases hpos
  rw [readFieldsFrom, hkey]
  · simp [hkind, hpayload]
  · exact hne

/-- Fields are read back with enough fuel. -/
theorem readFieldsFrom_writeFields (depth : Nat) :
    ∀ {fields : List Field}, (∀ f ∈ fields, f.Writable) →
      (writeFields fields).Addressable → ∀ {fuel : Nat}, fields.length < fuel →
      ∀ before, readFieldsFrom depth fuel before (writeFields fields) =
        some (before.reverse ++ fields) := by
  intro fields
  -- a field takes one unit of fuel, and the fields before it are kept last one first
  induction fields with
  | nil =>
    rintro - - (_ | fuel) hfuel before
    · cases hfuel
    · simp [writeFields, readFieldsFrom]
  | cons f fields ih =>
    rintro hwritable hlength (_ | fuel) hfuel before
    · cases hfuel
    · obtain ⟨hf, hfields⟩ := List.forall_mem_cons.1 hwritable
      rw [writeFields, List.flatMap_cons, ← writeFields] at hlength ⊢
      rw [readFieldsFrom_written hf (hlength.of_sublist (List.sublist_append_left _ _)),
        ih hfields (hlength.of_sublist (List.sublist_append_right _ _))
          (Nat.lt_of_succ_lt_succ hfuel)]
      simp

/-- There are at least as many bytes as fields. -/
theorem length_le_length_writeFields (h : ∀ f ∈ fields, f.Writable) :
    fields.length ≤ (writeFields fields).length := by
  induction fields with
  | nil => exact Nat.le_refl 0
  | cons f fields ih =>
    obtain ⟨hf, hfields⟩ := List.forall_mem_cons.1 h
    have hpos := length_written_pos hf
    have hrest := ih hfields
    rw [writeFields, List.flatMap_cons, ← writeFields, List.length_append, List.length_cons]
    omega

/-- Fields are read back. -/
theorem readFields_writeFields (h : ∀ f ∈ fields, f.Writable)
    (hlength : (writeFields fields).Addressable) (level : Nat) :
    readFields level (writeFields fields) = some fields :=
  readFieldsFrom_writeFields _ h hlength (Nat.lt_succ_of_le (length_le_length_writeFields h)) []

end RoutingData.Wire
