import RoutingData.Build
import RoutingData.Proofs.Building
import RoutingData.Proofs.RoundTrip

/-!
# Datasets are loaded as they were written

What is loaded from a dataset is made from the messages that are read back. A message makes the rule
(`toRule?_ofRule`) or the network (`toNet?_ofNet`) that it was written for, so none is left out, and
since codes are distinct, no list takes the place of another. Rules must have been built; those of a
registry are, before and after resolution.
-/

namespace RoutingData

/-- What can be made again from each message is made again from all of them. -/
theorem filterMap_map_eq_self {α β : Type} {write : α → β} {make : β → Option α} {xs : List α}
    (h : ∀ x ∈ xs, make (write x) = some x) : (xs.map write).filterMap make = xs := by
  rw [List.filterMap_map]
  exact (List.filterMap_congr h).trans List.filterMap_some

/-! ### Rules -/

/-- The number for a kind stands for it. -/
theorem SiteDomain.kind?_kindNumber (kind : RuleKind) : kind? (kindNumber kind) = some kind := by
  cases kind <;> rfl

/-- The message for a rule that was built makes this rule. -/
theorem SiteDomain.toRule?_ofRule {x : Rule} (h : x.Built) : (ofRule x).toRule? = some x := by
  have hkeys : (ofRule x).attributes.map (·.key) = x.attributes := by
    rw [ofRule, List.map_map]
    exact List.map_id _
  rw [toRule?, hkeys, ofRule, kind?_kindNumber, Option.map_some,
    (Rule.built_iff_folded.1 h).rebuild]

/-! ### Networks -/

/-- The addresses of a family are the numbers that its bytes spell. -/
theorem Family.size_eq (f : Family) : f.size = 256 ^ f.byteCount := by
  cases f <;> rfl

namespace Net

/-- There are as many bytes as are asked for. -/
theorem length_bigEndian (count n : Nat) : (bigEndian count n).length = count := by
  induction count generalizing n with
  | zero => rfl
  | succ count ih => rw [bigEndian, List.length_append, ih, List.length_singleton]

/-- Bytes spell the number that they were made from, unless there are too few of them. -/
theorem ofBigEndian_bigEndian {count n : Nat} (h : n < 256 ^ count) :
    ofBigEndian (bigEndian count n) = n := by
  induction count generalizing n with
  | zero =>
    rw [Nat.pow_zero, Nat.lt_one_iff] at h
    rw [h]
    rfl
  | succ count ih =>
    have hrest : n / 256 < 256 ^ count := Nat.div_lt_of_lt_mul (by rwa [← Nat.pow_succ'])
    have hlast : (UInt8.ofNat n).toNat = n % 256 := UInt8.toNat_ofNat'
    rw [bigEndian, ofBigEndian, List.foldl_append, ← ofBigEndian, ih hrest, List.foldl_cons,
      List.foldl_nil, hlast, Nat.div_add_mod]

/-- The number of bytes tells the family. -/
theorem familyOfByteCount?_byteCount (f : Family) : familyOfByteCount? f.byteCount = some f := by
  cases f <;> rfl

/-- A network is made from the bytes of its address, host bits included, and the length of its
mask. -/
theorem ofBytes?_addressBytes (n : Net) : ofBytes? n.addressBytes n.length = some n := by
  have haddress : ofBigEndian n.addressBytes = n.address :=
    ofBigEndian_bigEndian (n.family.size_eq ▸ n.address_lt)
  rw [ofBytes?, addressBytes, length_bigEndian, familyOfByteCount?_byteCount, ← addressBytes,
    haddress]
  exact dif_pos ⟨n.address_lt, n.length_le⟩

end Net

/-- The message for a network makes this network. -/
theorem AddressRange.toNet?_ofNet (n : Net) : (ofNet n).toNet? = some n := by
  -- lengths are short, so writing them with 32 bits loses nothing
  have hwidth : n.family.width ≤ 128 := by cases n.family <;> decide
  have hlength : (UInt32.ofNat n.length).toNat = n.length :=
    UInt32.toNat_ofNat_of_lt' (Nat.lt_of_le_of_lt (n.length_le.trans hwidth) (by decide))
  rw [toNet?, ofNet, hlength, Net.ofBytes?_addressBytes]

namespace Dataset

/-! ### Domain lists -/

/-- The dataset of the entries is loaded as the lists: each code has its rules, in order, and there
are no other codes. -/
def LoadsAs (entries : List SiteEntry) (lists : List (String × List Rule)) : Prop :=
  ∃ t, loadSites (encodeSites entries) = .ok t ∧
    ∀ code rules, t.get? code = some rules ↔ (code, rules) ∈ lists

/-- Lists of rules that were built, under distinct codes, are loaded. -/
theorem loadsAs_ofRules {lists : List (String × List Rule)} (hcodes : (lists.map (·.1)).Nodup)
    (hbuilt : ∀ e ∈ lists, ∀ x ∈ e.2, x.Built)
    (h : (encodeSites (lists.map fun e => .ofRules e.1 e.2)).Addressable) :
    LoadsAs (lists.map fun e => .ofRules e.1 e.2) lists := by
  have hlists : (lists.map fun e => SiteEntry.ofRules e.1 e.2).map
      (fun e => (e.code, e.domains.filterMap (·.toRule?))) = lists := by
    rw [List.map_map]
    refine (List.map_congr_left fun e he => ?_).trans lists.map_id
    have hrules := filterMap_map_eq_self fun x hx => SiteDomain.toRule?_ofRule (hbuilt e he x hx)
    exact congrArg (e.1, ·) hrules
  refine ⟨.ofList lists, ?_, fun code rules => Table.get?_ofList hcodes⟩
  rw [loadSites, decodeSites_encodeSites h, Except.map, rulesByCode, hlists]

/-- Lists of rules that were built are loaded as they were written: under distinct codes, or as the
export of a resolved registry, whatever is excluded. The rules of lists that were read were built
(`Registry.Parsed.holdsOnly_built`). -/
theorem sites_loaded_as_written :
    (∀ lists : List (String × List Rule),
      (lists.map (·.1)).Nodup → (∀ e ∈ lists, ∀ x ∈ e.2, x.Built) →
      (encodeSites (lists.map fun e => .ofRules e.1 e.2)).Addressable →
        LoadsAs (lists.map fun e => .ofRules e.1 e.2) lists) ∧
    ∀ (r : Registry) (excluded : Exclusions),
      r.Keyed → (∀ a l, r.get? a = some l → l.HoldsOnly Rule.Built) →
      (encodeSites (r.resolve.2.toEntries excluded)).Addressable →
        LoadsAs (r.resolve.2.toEntries excluded) (r.resolve.2.exportedRules excluded) := by
  refine ⟨fun lists => loadsAs_ofRules, fun r excluded hkeyed hbuilt h => ?_⟩
  -- resolution keeps the names of lists and makes no rules
  have hR := hkeyed.resolve
  have hRbuilt := Registry.forall_resolve_of_kept (DomainList.kept_holdsOnly Rule.Built) hbuilt
  refine loadsAs_ofRules ?_ ?_ h
  · -- lists stand under their own names
    have hcodes : (r.resolve.2.exportedRules excluded).map (·.1) = r.resolve.2.keys := by
      rw [Registry.exportedRules, List.map_map, Table.values, Table.keys, List.map_map]
      exact List.map_congr_left fun e he => hR _ _ (Table.mem_entries_iff.1 he)
    rw [hcodes]
    exact Table.keys_nodup _
  · intro e he x hx
    obtain ⟨l, hl, rfl⟩ := List.mem_map.1 he
    obtain ⟨a, hl⟩ := Table.mem_values_iff.1 hl
    exact (hRbuilt a l hl).of_mem_toRules x hx

/-- Lists of rules with letters that are folded, repeated attributes and no value. -/
def builtLists : List (String × List Rule) :=
  [("", []),
    ("É", [(Rule.plain .regex "^Qq$").withAttributes ["B", "a", "b"], Rule.plain .full "İ.Ä",
      (Rule.plain .keyword "").withAttributes [""]])]

/-- A list that includes rules of another one. -/
def includingLists : Registry :=
  Registry.ofTexts [("a", "include:b\nregexp:^Q$"), ("b", "full:É\nb.C @Ads @cn\nkeyword:X @y")]

/-- Rules with one attribute are left out of the including list. -/
def withoutCn : Exclusions := .ofList [("A", .ofList [("cn", ())])]

/-- The lists are loaded as they were written. -/
theorem sites_loaded_as_written_folded :
    ((builtLists.map (·.1)).Nodup ∧ (∀ e ∈ builtLists, ∀ x ∈ e.2, x.Built) ∧
      (encodeSites (builtLists.map fun e => .ofRules e.1 e.2)).Addressable ∧
        LoadsAs (builtLists.map fun e => .ofRules e.1 e.2) builtLists) ∧
    includingLists.Keyed ∧
      (∀ a l, includingLists.get? a = some l → l.HoldsOnly Rule.Built) ∧
      (encodeSites (includingLists.resolve.2.toEntries withoutCn)).Addressable ∧
        LoadsAs (includingLists.resolve.2.toEntries withoutCn)
          (includingLists.resolve.2.exportedRules withoutCn) := by
  have hcodes : (builtLists.map (·.1)).Nodup := by decide
  have hbuilt : ∀ e ∈ builtLists, ∀ x ∈ e.2, x.Built := by
    simp only [builtLists, List.forall_mem_cons]
    exact ⟨by simp, ⟨⟨_, _, _, rfl⟩, ⟨_, _, [], rfl⟩, ⟨_, _, _, rfl⟩, by simp⟩, by simp⟩
  have hsize : (encodeSites (builtLists.map fun e => .ofRules e.1 e.2)).Addressable := by
    decide +kernel
  have hparsed : includingLists.Parsed := Registry.parsed_ofTexts _
  have hread : ∀ a l, includingLists.get? a = some l → l.HoldsOnly Rule.Built :=
    fun _ _ => hparsed.holdsOnly_built
  have hresolved : (encodeSites (includingLists.resolve.2.toEntries withoutCn)).Addressable := by
    decide +kernel
  exact ⟨⟨hcodes, hbuilt, hsize, sites_loaded_as_written.1 _ hcodes hbuilt hsize⟩,
    hparsed.keyed, hread, hresolved,
    sites_loaded_as_written.2 _ _ hparsed.keyed hread hresolved⟩

/-! ### Address lists -/

/-- Address lists are loaded as they were written, and the message for each network makes it. -/
theorem addresses_loaded_as_written (lists : AddressLists)
    (h : (encodeAddresses lists.toEntries).Addressable) :
    loadAddresses (encodeAddresses lists.toEntries) = .ok lists ∧
      ∀ nets ∈ lists.values, ∀ n ∈ nets, (AddressRange.ofNet n).toNet? = some n := by
  have hentries : lists.toEntries.map
      (fun e => (e.code, e.ranges.filterMap (·.toNet?))) = lists.entries := by
    rw [AddressLists.toEntries, List.map_map]
    refine (List.map_congr_left fun e _ => ?_).trans lists.entries.map_id
    have hnets : (e.2.map AddressRange.ofNet).filterMap (·.toNet?) = e.2 :=
      filterMap_map_eq_self fun n _ => AddressRange.toNet?_ofNet n
    exact congrArg (e.1, ·) hnets
  refine ⟨?_, fun _ _ n _ => AddressRange.toNet?_ofNet n⟩
  rw [loadAddresses, decodeAddresses_encodeAddresses h, Except.map, netsByCode, hentries,
    Table.ofList_entries]

/-- Networks with host bits below an empty mask, and an address of one family inside the other. -/
def hostBits : AddressLists :=
  .ofList [("V4", [⟨.v4, 0x01020304, 0, by decide, by decide⟩]),
    ("V6", [⟨.v6, 0xFFFF01020304, 128, by decide, by decide⟩, ⟨.v6, 1, 0, by decide, by decide⟩])]

/-- The networks are loaded with their host bits and in their family. -/
theorem addresses_loaded_as_written_hostBits :
    (encodeAddresses hostBits.toEntries).Addressable ∧
      loadAddresses (encodeAddresses hostBits.toEntries) = .ok hostBits ∧
      ∀ nets ∈ hostBits.values, ∀ n ∈ nets, (AddressRange.ofNet n).toNet? = some n := by
  have hsize : (encodeAddresses hostBits.toEntries).Addressable := by decide +kernel
  exact ⟨hsize, addresses_loaded_as_written _ hsize⟩

end Dataset

end RoutingData
