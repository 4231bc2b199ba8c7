import RoutingData.Dataset
import RoutingData.Proofs.Wire.Message

/-!
# Datasets are read back

Each message is written as its fields, and from these fields every part of it is read: a part that
was left out has the default value, and the messages in a message are read back before. So the proof
goes up from attributes and networks to whole datasets, one step (`decode_encode`) for each kind of
message. Both kinds of datasets are read back (`datasets_read_back`).
-/

namespace RoutingData

open Wire

/-! ### Values -/

/-- A kind is read back from its sign extension. -/
theorem toInt32_ofNat_toInt64 (k : Int32) :
    (UInt32.ofNat k.toInt64.toUInt64.toNat).toInt32 = k := by
  have hbits : (UInt32.ofNat k.toInt64.toUInt64.toNat).toInt32.toBitVec =
      (k.toBitVec.signExtend 64).setWidth 32 := by simp
  rw [← Int32.toBitVec_inj, hbits]
  refine BitVec.eq_of_getLsbD_eq fun i hi => ?_
  have hi64 : i < 64 := by omega
  rw [BitVec.getLsbD_setWidth, BitVec.getLsbD_signExtend]
  simp [hi, hi64]

/-- A text is read back. -/
theorem lastOf_text {s : String} {number : Nat} {fields : List Field}
    (h : payloads number fields = payloads number (bytesFields number (.ofText s))) :
    lastOf Payload.text? "" number fields = some s :=
  lastOf_bytesFields (Bytes.text?_ofText s) Bytes.eq_empty_of_ofText_eq_nil h

/-! ### Domain lists -/

namespace SiteAttribute

/-- The field of a value, left out only for none. -/
def valueFields : Option AttributeValue → List Field
  | none => []
  | some (.bool b) => [⟨2, .varint b.toNat⟩]
  | some (.int i) => [⟨3, .varint i.toUInt64.toNat⟩]

/-- The fields of an attribute. -/
def fields (a : SiteAttribute) : List Field :=
  bytesFields 1 (.ofText a.key) ++ valueFields a.value

/-- An attribute is written as its fields. -/
theorem encode_eq (a : SiteAttribute) : a.encode = writeFields a.fields := by
  rw [encode, fields, writeFields_append, writeFields_bytesFields]
  rcases a.value with _ | _ | _
  · rfl
  · simp [valueFields, writeFields, Field.written]
  · simp [valueFields, writeFields, Field.written]

/-- The fields of an attribute can be written. -/
theorem writable_of_mem_fields (a : SiteAttribute) : ∀ f ∈ a.fields, f.Writable := by
  refine List.forall_mem_append.2 ⟨writable_of_mem_bytesFields (by decide) (by decide), ?_⟩
  rcases a.value with _ | b | i
  · simp [valueFields]
  · have hb : b.toNat < 2 ^ 64 := Nat.lt_of_le_of_lt b.toNat_le (by decide)
    exact List.forall_mem_singleton.2 (writable_varint (by decide) (by decide) hb)
  · have hi : i.toUInt64.toNat < 2 ^ 64 := i.toUInt64.toNat_lt
    exact List.forall_mem_singleton.2 (writable_varint (by decide) (by decide) hi)

/-- The value of an attribute is read back, set or not. -/
theorem decodeValue_fields (a : SiteAttribute) : decodeValue a.fields = some a.value := by
  -- the key stands under another number than values
  have hkey : (bytesFields 1 (.ofText a.key)).filter (fun f => f.number == 2 || f.number == 3) =
      [] := by
    rw [bytesFields]
    split
    · rfl
    · rfl
  rw [decodeValue, fields, List.filter_append, hkey, List.nil_append]
  rcases a.value with _ | b | i
  · rfl
  · simp [valueFields, Payload.varint?]
  · simp [valueFields, Payload.varint?, -UInt64.toInt64_ofNat']

/-- The key of an attribute is the only text in it. -/
theorem payloads_fields (a : SiteAttribute) :
    payloads 1 a.fields = payloads 1 (bytesFields 1 (.ofText a.key)) := by
  rw [fields, payloads_append]
  rcases a.value with _ | _ | _
  · simp [valueFields, payloads]
  · simp [valueFields]
  · simp [valueFields]

/-- An attribute is read back. -/
theorem decode_encode (a : SiteAttribute) (h : a.encode.Addressable) :
    decode (.bytes a.encode) = some a := by
  rw [encode_eq] at h ⊢
  have hfields := readFields_writeFields a.writable_of_mem_fields h 3
  have hkey := lastOf_text a.payloads_fields
  simp [decode, Payload.bytes?, hfields, hkey, a.decodeValue_fields]

end SiteAttribute

namespace SiteDomain

/-- The fields of a rule. -/
def fields (d : SiteDomain) : List Field :=
  varintFields 1 d.kind.toInt64.toUInt64.toNat ++ bytesFields 2 (.ofText d.value) ++
    messageFields 3 SiteAttribute.encode d.attributes

/-- A rule is written as its fields. -/
theorem encode_eq (d : SiteDomain) : d.encode = writeFields d.fields := by
  rw [encode, fields, writeFields_append, writeFields_append, writeFields_varintFields,
    writeFields_bytesFields, writeFields_messageFields]

/-- The fields of a rule can be written. -/
theorem writable_of_mem_fields (d : SiteDomain) : ∀ f ∈ d.fields, f.Writable := by
  have hkind : d.kind.toInt64.toUInt64.toNat < 2 ^ 64 := d.kind.toInt64.toUInt64.toNat_lt
  refine List.forall_mem_append.2 ⟨List.forall_mem_append.2 ⟨?_, ?_⟩, ?_⟩
  · exact writable_of_mem_varintFields (by decide) (by decide) hkind
  · exact writable_of_mem_bytesFields (by decide) (by decide)
  · exact writable_of_mem_messageFields (by decide) (by decide)

/-- A rule is read back. -/
theorem decode_encode (d : SiteDomain) (h : d.encode.Addressable) :
    decode (.bytes d.encode) = some d := by
  rw [encode_eq] at h ⊢
  have hfields := readFields_writeFields d.writable_of_mem_fields h 2
  have hkind : lastOf Payload.varint? 0 1 d.fields = some d.kind.toInt64.toUInt64.toNat :=
    lastOf_varintFields (by simp [fields])
  have hvalue : lastOf Payload.text? "" 2 d.fields = some d.value :=
    lastOf_text (by simp [fields])
  have hattributes : allOf SiteAttribute.decode 3 d.fields = some d.attributes := by
    refine allOf_messageFields (fun a ha => a.decode_encode (h.of_sublist ?_)) (by simp [fields])
    exact sublist_of_mem_messageFields ha (List.subset_append_right _ _)
  simp only [decode, Payload.bytes?, Option.bind_eq_bind, Option.bind_some, hfields, hkind, hvalue,
    hattributes, toInt32_ofNat_toInt64]
  rfl

end SiteDomain

namespace SiteEntry

/-- The fields of a list. -/
def fields (e : SiteEntry) : List Field :=
  bytesFields 1 (.ofText e.code) ++ messageFields 2 SiteDomain.encode e.domains

/-- A list is written as its fields. -/
theorem encode_eq (e : SiteEntry) : e.encode = writeFields e.fields := by
  rw [encode, fields, writeFields_append, writeFields_bytesFields, writeFields_messageFields]

/-- The fields of a list can be written. -/
theorem writable_of_mem_fields (e : SiteEntry) : ∀ f ∈ e.fields, f.Writable := by
  refine List.forall_mem_append.2 ⟨?_, ?_⟩
  · exact writable_of_mem_bytesFields (by decide) (by decide)
  · exact writable_of_mem_messageFields (by decide) (by decide)

/-- A list is read back. -/
theorem decode_encode (e : SiteEntry) (h : e.encode.Addressable) :
    decode (.bytes e.encode) = some e := by
  rw [encode_eq] at h ⊢
  have hfields := readFields_writeFields e.writable_of_mem_fields h 1
  have hcode : lastOf Payload.text? "" 1 e.fields = some e.code := lastOf_text (by simp [fields])
  have hdomains : allOf SiteDomain.decode 2 e.fields = some e.domains := by
    refine allOf_messageFields (fun d hd => d.decode_encode (h.of_sublist ?_)) (by simp [fields])
    exact sublist_of_mem_messageFields hd (List.subset_append_right _ _)
  simp [decode, Payload.bytes?, hfields, hcode, hdomains]

end SiteEntry

/-! ### Address lists -/

namespace AddressRange

/-- The fields of a network. -/
def fields (r : AddressRange) : List Field :=
  bytesFields 1 r.address ++ varintFields 2 r.length.toNat

/-- A network is written as its fields. -/
theorem encode_eq (r : AddressRange) : r.encode = writeFields r.fields := by
  rw [encode, fields, writeFields_append, writeFields_bytesFields, writeFields_varintFields]

/-- The fields of a network can be written. -/
theorem writable_of_mem_fields (r : AddressRange) : ∀ f ∈ r.fields, f.Writable := by
  have hlength : r.length.toNat < 2 ^ 64 := Nat.lt_trans r.length.toNat_lt (by decide)
  refine List.forall_mem_append.2 ⟨?_, ?_⟩
  · exact writable_of_mem_bytesFields (by decide) (by decide)
  · exact writable_of_mem_varintFields (by decide) (by decide) hlength

/-- A network is read back, whatever its bytes are. -/
theorem decode_encode (r : AddressRange) (h : r.encode.Addressable) :
    decode (.bytes r.encode) = some r := by
  rw [encode_eq] at h ⊢
  have hfields := readFields_writeFields r.writable_of_mem_fields h 2
  have haddress : lastOf Payload.bytes? [] 1 r.fields = some r.address :=
    lastOf_bytesFields rfl id (by simp [fields])
  have hlength : lastOf Payload.varint? 0 2 r.fields = some r.length.toNat :=
    lastOf_varintFields (by simp [fields])
  simp [decode, Payload.bytes?, hfields, haddress, hlength]

end AddressRange

namespace AddressEntry

/-- The fields of a list. -/
def fields (e : AddressEntry) : List Field :=
  bytesFields 1 (.ofText e.code) ++ messageFields 2 AddressRange.encode e.ranges ++
    varintFields 3 e.inverted.toNat

/-- A list is written as its fields. -/
theorem encode_eq (e : AddressEntry) : e.encode = writeFields e.fields := by
  rw [encode, fields, writeFields_append, writeFields_append, writeFields_bytesFields,
    writeFields_messageFields, writeFields_varintFields]

/-- The fields of a list can be written. -/
theorem writable_of_mem_fields (e : AddressEntry) : ∀ f ∈ e.fields, f.Writable := by
  have hinverted : e.inverted.toNat < 2 ^ 64 := Nat.lt_of_le_of_lt e.inverted.toNat_le (by decide)
  refine List.forall_mem_append.2 ⟨List.forall_mem_append.2 ⟨?_, ?_⟩, ?_⟩
  · exact writable_of_mem_bytesFields (by decide) (by decide)
  · exact writable_of_mem_messageFields (by decide) (by decide)
  · exact writable_of_mem_varintFields (by decide) (by decide) hinverted

/-- A list is read back. -/
theorem decode_encode (e : AddressEntry) (h : e.encode.Addressable) :
    decode (.bytes e.encode) = some e := by
  rw [encode_eq] at h ⊢
  have hfields := readFields_writeFields e.writable_of_mem_fields h 1
  have hcode : lastOf Payload.text? "" 1 e.fields = some e.code := lastOf_text (by simp [fields])
  have hranges : allOf AddressRange.decode 2 e.fields = some e.ranges := by
    refine allOf_messageFields (fun r hr => r.decode_encode (h.of_sublist ?_)) (by simp [fields])
    have hsub : messageFields 2 AddressRange.encode e.ranges ⊆ e.fields :=
      fun f hf => List.mem_append_left _ (List.mem_append_right _ hf)
    exact sublist_of_mem_messageFields hr hsub
  have hinverted : lastOf Payload.varint? 0 3 e.fields = some e.inverted.toNat :=
    lastOf_varintFields (by simp [fields])
  simp [decode, Payload.bytes?, hfields, hcode, hranges, hinverted]

end AddressEntry

/-! ### Datasets -/

namespace Dataset

/-- A dataset is read back when each of its entries is. -/
theorem decodeEntries_flatMap {α : Type} {encode : α → Bytes} {read : Payload → Option α}
    (hread : ∀ e, (encode e).Addressable → read (.bytes (encode e)) = some e) (entries : List α)
    (h : Bytes.Addressable (entries.flatMap fun e => bytesField 1 (encode e))) :
    decodeEntries read (entries.flatMap fun e => bytesField 1 (encode e)) = some entries := by
  rw [← writeFields_messageFields] at h ⊢
  have hwritable : ∀ f ∈ messageFields 1 encode entries, f.Writable :=
    writable_of_mem_messageFields (by decide) (by decide)
  have hentries : allOf read 1 (messageFields 1 encode entries) = some entries :=
    allOf_messageFields (fun e he => hread e
      (h.of_sublist (sublist_of_mem_messageFields he (List.Subset.refl _)))) rfl
  rw [decodeEntries, readFields_writeFields hwritable h]
  exact hentries

/-- A dataset of domain lists is read back. -/
theorem decodeSites_encodeSites {entries : List SiteEntry}
    (h : (encodeSites entries).Addressable) : decodeSites (encodeSites entries) = .ok entries := by
  rw [decodeSites, encodeSites, decodeEntries_flatMap SiteEntry.decode_encode entries h]

/-- A dataset of address lists is read back. -/
theorem decodeAddresses_encodeAddresses {entries : List AddressEntry}
    (h : (encodeAddresses entries).Addressable) :
    decodeAddresses (encodeAddresses entries) = .ok entries := by
  rw [decodeAddresses, encodeAddresses, decodeEntries_flatMap AddressEntry.decode_encode entries h]

/-- Every dataset is read back as it was written, whatever its texts and bytes, its kinds and
lengths and its attributes are. The bytes are only as many as a buffer or a file can hold. -/
theorem datasets_read_back :
    (∀ entries : List SiteEntry, (encodeSites entries).Addressable →
      decodeSites (encodeSites entries) = .ok entries) ∧
    ∀ entries : List AddressEntry, (encodeAddresses entries).Addressable →
      decodeAddresses (encodeAddresses entries) = .ok entries :=
  ⟨fun _ => decodeSites_encodeSites, fun _ => decodeAddresses_encodeAddresses⟩

/-- Lists with an unknown kind, empty texts, and attributes without a value and with default and
extreme ones. -/
def unusualSites : List SiteEntry :=
  [⟨"", []⟩,
    ⟨"É", [⟨-7, "", [⟨"", none⟩, ⟨"a", some (.bool false)⟩, ⟨"b", some (.int Int64.minValue)⟩]⟩]⟩]

/-- Lists with addresses of no family, and a length that no network has. -/
def unusualAddresses : List AddressEntry := [⟨"", [⟨[], 0⟩, ⟨[1, 2, 3], 4294967295⟩], true⟩]

/-- The unusual lists are read back. -/
theorem unusual_read_back :
    ((encodeSites unusualSites).Addressable ∧
      decodeSites (encodeSites unusualSites) = .ok unusualSites) ∧
    (encodeAddresses unusualAddresses).Addressable ∧
      decodeAddresses (encodeAddresses unusualAddresses) = .ok unusualAddresses := by
  have hsites : (encodeSites unusualSites).Addressable := by decide +kernel
  have haddresses : (encodeAddresses unusualAddresses).Addressable := by decide +kernel
  exact ⟨⟨hsites, datasets_read_back.1 _ hsites⟩, haddresses, datasets_read_back.2 _ haddresses⟩

end Dataset

end RoutingData
