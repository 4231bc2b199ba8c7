import RoutingData.Proofs.Wire.Field

/-!
# Messages as fields

The fields that a message is made of: numbers and bytes that are left out when they have their
default value, and messages that repeat. For each there is what is written, what stands under a
number, and what is read from there: a value that was left out is read as the default
(`lastOf_varintFields`, `lastOf_bytesFields`), and repeated messages are read one by one
(`allOf_messageFields`).
-/

namespace RoutingData.Wire

variable {α : Type}

/-- The field of a number, left out for zero. -/
def varintFields (number n : Nat) : List Field := if n = 0 then [] else [⟨number, .varint n⟩]

/-- The field of some bytes, left out for none. -/
def bytesFields (number : Nat) (bs : Bytes) : List Field :=
  if bs.isEmpty then [] else [⟨number, .bytes bs⟩]

/-- The fields of messages, one for each. -/
def messageFields (number : Nat) (encode : α → Bytes) (xs : List α) : List Field :=
  xs.map fun x => ⟨number, .bytes (encode x)⟩

variable {number n level : Nat} {bs : Bytes} {fields : List Field} {encode : α → Bytes}
  {read : Payload → Option α} {xs : List α}

/-! ### Writing -/

/-- Fields are written one after the other. -/
theorem writeFields_append (fields more : List Field) :
    writeFields (fields ++ more) = writeFields fields ++ writeFields more :=
  List.flatMap_append

/-- A number is written unless it is zero. -/
theorem writeFields_varintFields (number n : Nat) :
    writeFields (varintFields number n) = varintFieldUnlessZero number n := by
  rw [varintFields, varintFieldUnlessZero]
  split
  · rfl
  · rw [writeFields, List.flatMap_singleton, Field.written]

/-- Bytes are written unless there are none. -/
theorem writeFields_bytesFields (number : Nat) (bs : Bytes) :
    writeFields (bytesFields number bs) = bytesFieldUnlessEmpty number bs := by
  rw [bytesFields, bytesFieldUnlessEmpty]
  split
  · rfl
  · rw [writeFields, List.flatMap_singleton, Field.written]

/-- Messages are written one after the other. -/
theorem writeFields_messageFields (number : Nat) (encode : α → Bytes) (xs : List α) :
    writeFields (messageFields number encode xs) =
      xs.flatMap fun x => bytesField number (encode x) := by
  rw [writeFields, messageFields, List.flatMap_map]
  rfl

/-- A number of 64 bits can be written. -/
theorem writable_varint (hpos : 0 < number) (hlt : number < 2 ^ 29) (hn : n < 2 ^ 64) :
    Field.Writable ⟨number, .varint n⟩ :=
  ⟨hpos, hlt, hn⟩

/-- The field of a number can be written if the number has 64 bits. -/
theorem writable_of_mem_varintFields (hpos : 0 < number) (hlt : number < 2 ^ 29) (hn : n < 2 ^ 64) :
    ∀ f ∈ varintFields number n, f.Writable := by
  intro f hf
  rw [varintFields] at hf
  split at hf
  · cases hf
  · rw [List.mem_singleton.1 hf]
    exact writable_varint hpos hlt hn

/-- The field of some bytes can be written. -/
theorem writable_of_mem_bytesFields (hpos : 0 < number) (hlt : number < 2 ^ 29) :
    ∀ f ∈ bytesFields number bs, f.Writable := by
  intro f hf
  rw [bytesFields] at hf
  split at hf
  · cases hf
  · rw [List.mem_singleton.1 hf]
    exact ⟨hpos, hlt, trivial⟩

/-- The fields of messages can be written. -/
theorem writable_of_mem_messageFields (hpos : 0 < number) (hlt : number < 2 ^ 29) :
    ∀ f ∈ messageFields number encode xs, f.Writable := by
  intro f hf
  obtain ⟨x, -, rfl⟩ := List.mem_map.1 hf
  exact ⟨hpos, hlt, trivial⟩

/-- A message in a message is a part of it. -/
theorem sublist_of_mem_messageFields {x : α} (hx : x ∈ xs)
    (hsub : messageFields number encode xs ⊆ fields) :
    (encode x).Sublist (writeFields fields) := by
  have hmem : (⟨number, .bytes (encode x)⟩ : Field) ∈ fields :=
    hsub (List.mem_map.2 ⟨x, hx, rfl⟩)
  exact (sublist_bytesField number _).trans
    (List.sublist_flatten_of_mem (List.mem_map_of_mem hmem))

/-! ### Reading -/

@[simp]
theorem payloads_append (number : Nat) (fields more : List Field) :
    payloads number (fields ++ more) = payloads number fields ++ payloads number more := by
  rw [payloads, List.filter_append, List.map_append, payloads, payloads]

@[simp]
theorem payloads_singleton (number k : Nat) (p : Payload) :
    payloads number [⟨k, p⟩] = if k = number then [p] else [] := by
  by_cases hk : k = number
  · simp [payloads, hk]
  · simp [payloads, hk]

@[simp]
theorem payloads_varintFields (number k n : Nat) :
    payloads number (varintFields k n) =
      if k = number then if n = 0 then [] else [.varint n] else [] := by
  rw [varintFields]
  split
  · simp [payloads]
  · exact payloads_singleton number k _

@[simp]
theorem payloads_bytesFields (number k : Nat) (bs : Bytes) :
    payloads number (bytesFields k bs) =
      if k = number then if bs.isEmpty then [] else [.bytes bs] else [] := by
  rw [bytesFields]
  split
  · simp [payloads]
  · exact payloads_singleton number k _

@[simp]
theorem payloads_messageFields (number k : Nat) (encode : α → Bytes) (xs : List α) :
    payloads number (messageFields k encode xs) =
      if k = number then xs.map fun x => .bytes (encode x) else [] := by
  rw [payloads, messageFields, List.filter_map, List.map_map]
  by_cases hk : k = number
  · rw [if_pos hk, List.filter_eq_self.2 (by simp [hk])]
    rfl
  · rw [if_neg hk, List.filter_eq_nil_iff.2 (by simp [hk]), List.map_nil]

/-- A number is read back, as zero when it was left out. -/
theorem lastOf_varintFields (h : payloads number fields = payloads number (varintFields number n)) :
    lastOf Payload.varint? 0 number fields = some n := by
  rw [lastOf, h, payloads_varintFields, if_pos rfl]
  by_cases hn : n = 0
  · simp [hn]
  · simp [hn, Payload.varint?]

/-- What was written as bytes is read back, as the default when it was left out. -/
theorem lastOf_bytesFields {x default : α} (hread : read (.bytes bs) = some x)
    (hdefault : bs = [] → x = default)
    (h : payloads number fields = payloads number (bytesFields number bs)) :
    lastOf read default number fields = some x := by
  rw [lastOf, h, payloads_bytesFields, if_pos rfl]
  -- no bytes are not written, so the default is read for them
  cases bs with
  | nil => simp [hdefault rfl]
  | cons b bs => simp [hread]

/-- Messages are read back one by one. -/
theorem allOf_messageFields (hread : ∀ x ∈ xs, read (.bytes (encode x)) = some x)
    (h : payloads number fields = payloads number (messageFields number encode xs)) :
    allOf read number fields = some xs := by
  rw [allOf, h, payloads_messageFields, if_pos rfl]
  clear h
  induction xs with
  | nil => rfl
  | cons x xs ih =>
    obtain ⟨hx, hxs⟩ := List.forall_mem_cons.1 hread
    rw [List.map_cons, List.mapM_cons, hx, ih hxs]
    rfl

end RoutingData.Wire
