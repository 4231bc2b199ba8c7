import RoutingData.Proofs.Holding

/-!
# Rules that were built

A rule is built from a kind and a value, and attributes are added to it one after the other. All
texts are folded on the way, and since folding once more changes nothing (`Text.lower_lower`), a
rule that was built is built again from its own kind, value and attributes (`Folded.rebuild`). The
lists that are read hold only such rules.
-/

namespace RoutingData

namespace Rule

variable {x : Rule} {keys : List String}

/-- The rule was made from a kind and a value, and then attributes were added. -/
def Built (x : Rule) : Prop :=
  ∃ kind value keys, x = (plain kind value).withAttributes keys

/-- The texts of the rule are folded, and no attribute is repeated. -/
structure Folded (x : Rule) : Prop where
  /-- Folding does not change the value. -/
  foldValue_eq : foldValue x.kind x.value = x.value
  /-- Folding does not change the attributes. -/
  lower_eq : ∀ key ∈ x.attributes, Text.lower key = key
  /-- No attribute is repeated. -/
  nodup : x.attributes.Nodup

/-- A folded value stays as it is. -/
theorem foldValue_foldValue (kind : RuleKind) (value : String) :
    foldValue kind (foldValue kind value) = foldValue kind value := by
  rw [foldValue, foldValue]
  split
  · rfl
  · exact Text.lower_lower value

/-- A rule without attributes is folded. -/
theorem folded_plain (kind : RuleKind) (value : String) : (plain kind value).Folded where
  foldValue_eq := foldValue_foldValue kind value
  lower_eq := by simp [plain]
  nodup := List.nodup_nil

/-- Adding an attribute folds it. -/
theorem Folded.withAttribute (h : x.Folded) (key : String) : (x.withAttribute key).Folded := by
  rw [Rule.withAttribute]
  split
  next => exact h
  next hnew =>
    refine ⟨h.foldValue_eq, fun other hother => ?_, ?_⟩
    · rcases List.mem_append.1 hother with hother | hother
      · exact h.lower_eq other hother
      · rw [List.mem_singleton.1 hother, Text.lower_lower]
    · refine h.nodup.append (List.nodup_singleton _) (List.disjoint_singleton.2 fun hmem => ?_)
      exact hnew (List.contains_iff_mem.2 hmem)

/-- Adding attributes folds them. -/
theorem Folded.withAttributes (h : x.Folded) (keys : List String) :
    (x.withAttributes keys).Folded :=
  List.foldlRecOn keys Rule.withAttribute h fun _ hx key _ => hx.withAttribute key

/-- New attributes that are folded and distinct are added as they stand. -/
theorem withAttributes_eq (hlower : ∀ key ∈ keys, Text.lower key = key)
    (hnodup : (x.attributes ++ keys).Nodup) :
    x.withAttributes keys = { x with attributes := x.attributes ++ keys } := by
  induction keys generalizing x with
  | nil => simp [withAttributes]
  | cons key keys ih =>
    obtain ⟨hkey, hkeys⟩ := List.forall_mem_cons.1 hlower
    have hnew : key ∉ x.attributes :=
      fun hmem => List.disjoint_of_nodup_append hnodup hmem List.mem_cons_self
    -- the key is already in lower case and new, so it is put last
    have hstep : x.withAttribute key = { x with attributes := x.attributes ++ [key] } := by
      simp [withAttribute, hkey, hnew]
    rw [List.append_cons] at hnodup
    rw [withAttributes, List.foldl_cons, ← withAttributes, hstep, ih hkeys hnodup,
      List.append_assoc, List.singleton_append]

/-- A folded rule is built again from its kind, its value and its attributes. -/
theorem Folded.rebuild (h : x.Folded) : (plain x.kind x.value).withAttributes x.attributes = x := by
  have hnodup : ((plain x.kind x.value).attributes ++ x.attributes).Nodup := h.nodup
  rw [withAttributes_eq h.lower_eq hnodup, plain, h.foldValue_eq]
  rfl

/-- The rules that can be built are the folded ones. -/
theorem built_iff_folded : x.Built ↔ x.Folded := by
  constructor
  · rintro ⟨kind, value, keys, rfl⟩
    exact (folded_plain kind value).withAttributes keys
  · exact fun h => ⟨x.kind, x.value, x.attributes, h.rebuild.symm⟩

end Rule

/-- The rules of a list that was read were built. -/
theorem DomainList.holdsOnly_built_of_parseFrom {l : DomainList} {file name text : String}
    (h : parseFrom file name text = .ok l) : l.HoldsOnly Rule.Built := by
  obtain ⟨lines, hlines, rfl⟩ := parseFrom_eq_ok_iff.1 h
  refine holdsOnly_ofLines fun x hx => ?_
  obtain ⟨line, hline⟩ := exists_parse_of_mem_rulesOf hlines hx
  obtain ⟨kind, value, keys, -, heq⟩ := ListLine.exists_of_parse hline
  exact ⟨kind, value, keys, heq⟩

/-- The rules of lists that were read were built. -/
theorem Registry.Parsed.holdsOnly_built {r : Registry} {a : String} {l : DomainList}
    (hr : r.Parsed) (hl : r.get? a = some l) : l.HoldsOnly Rule.Built := by
  obtain ⟨file, name, text, hparse⟩ := hr.exists_parseFrom hl
  exact DomainList.holdsOnly_built_of_parseFrom hparse

end RoutingData
