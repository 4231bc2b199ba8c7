import RoutingData.Proofs.Export

/-!
# Including and excluding by attribute

An inclusion that asks for an attribute looks for it in the keys of groups, which it splits at every
at sign. An exclusion compares it with each attribute of a rule. A word after the value of a rule is
one attribute, also when further at signs stand in it, so the inclusion finds the pieces of such an
attribute (`DomainList.mem_keyAttributes_groupKey`) and the exclusion does not. The two agree on a
rule unless the attribute is only a piece of one that the rule has
(`DomainList.copies_and_drops_iff`).
-/

namespace RoutingData.DomainList

variable {l included : DomainList} {lookup : String → Option DomainList} {file name text : String}
  {target x : String} {filters : List Filter} {r : Rule}

/-! ### Inclusion -/

/-- The list without the inclusion of one list. -/
def without (l : DomainList) (target : String) : DomainList :=
  { l with inclusions := l.inclusions.erase target }

/-- The inclusion of `target` makes a list take over a rule with attributes. -/
def Copies (lookup : String → Option DomainList) (l : DomainList) (target : String) (r : Rule) :
    Prop :=
  ((l.without target).flatten lookup).2.attributeRules.count r <
    (l.flatten lookup).2.attributeRules.count r

/-- Excluding an attribute leaves a rule out that is exported otherwise. -/
def Drops (l : DomainList) (x : String) (r : Rule) : Prop :=
  r ∈ l.toRules ∅ ∧ r ∉ l.toRules ((∅ : AttributeSet).insert x ())

/-- The attributes in the key of a group are the pieces of the attributes of its rules. -/
theorem mem_keyAttributes_groupKey (hx : x ≠ "") :
    x ∈ keyAttributes r.groupKey ↔ ∃ k ∈ r.attributes, x ∈ Text.splitAt '@' k := by
  have hpieces : Text.splitAt '@' r.groupKey = "" :: r.attributes.flatMap (Text.splitAt '@') := by
    have hjoin := Text.splitAt_append_join '@' r.attributes ""
    rwa [String.empty_append] at hjoin
  rw [keyAttributes, hpieces, List.mem_filter, List.mem_cons, List.mem_flatMap]
  simp [hx]

/-- Of the lists that can be looked up only those that are included need to be filed. -/
theorem Part.rules_flatten_of_found (p : Part)
    (hfound : ∀ b ∈ l.targets, ∃ included, lookup b = some included ∧ included.Filed) :
    p.rules (l.flatten lookup).2 =
      p.rules l ++ l.inclusions.entries.flatMap (p.addition lookup) := by
  -- a lookup that finds the included lists and nothing else finds filed lists only
  let seen (b : String) : Option DomainList := if b ∈ l.targets then lookup b else none
  have hseen : ∀ b ∈ l.targets, seen b = lookup b := fun b hb => if_pos hb
  have hfiled : ∀ b included, seen b = some included → included.Filed := by
    intro b included hb
    obtain ⟨hmem, hincluded⟩ := Option.ite_none_right_eq_some.1 hb
    obtain ⟨m, hm, hmfiled⟩ := hfound b hmem
    rw [hm] at hincluded
    cases hincluded
    exact hmfiled
  have hok := flatten_ok_of_found fun b hb => (hfound b hb).imp fun _ h => h.1
  rw [← flatten_congr hseen] at hok ⊢
  rw [p.rules_flatten hfiled hok]
  congr 1
  refine List.flatMap_congr fun e he => ?_
  rw [addition, addition, hseen e.1 (List.mem_map_of_mem he)]

/-- An inclusion adds to a part what its filters ask for, whatever else the list includes. -/
theorem Part.count_flatten (p : Part)
    (hfound : ∀ b ∈ l.targets, ∃ included, lookup b = some included ∧ included.Filed)
    (htarget : l.inclusions.get? target = some filters) (hincluded : lookup target = some included)
    (x : Rule) :
    (p.rules (l.flatten lookup).2).count x =
      (p.rules ((l.without target).flatten lookup).2).count x +
        if ∃ f ∈ filters, p.Wants f then (p.rules included).count x else 0 := by
  -- the inclusion may stand anywhere among the others, which counting does not see
  have hperm := Table.perm_cons_entries_erase htarget
  have hothers : ∀ b ∈ (l.without target).targets, b ∈ l.targets := fun b hb =>
    (hperm.map Prod.fst).mem_iff.2 (List.mem_cons_of_mem _ hb)
  have hsame : p.rules (l.without target) = p.rules l := by
    rcases p with (_ | _ | _ | _) | _ <;> rfl
  have haddition : (p.addition lookup (target, filters)).count x =
      if ∃ f ∈ filters, p.Wants f then (p.rules included).count x else 0 := by
    rw [addition, hincluded]
    split <;> rfl
  have hsplit := (hperm.flatMap_right (p.addition lookup)).count_eq x
  rw [List.flatMap_cons, List.count_append, haddition] at hsplit
  have hinclusions : (l.without target).inclusions = l.inclusions.erase target := rfl
  rw [p.rules_flatten_of_found hfound, List.count_append, hsplit,
    p.rules_flatten_of_found fun b hb => hfound b (hothers b hb), List.count_append, hsame,
    hinclusions]
  omega

/-- Asking for one attribute takes over the rules with an attribute that it is a piece of. -/
theorem copies_iff
    (hfound : ∀ b ∈ l.targets, ∃ included, lookup b = some included ∧ included.Filed)
    (htarget : l.inclusions.get? target = some [.attribute x])
    (hincluded : lookup target = some included) (hr : r ∈ included.attributeRules) (hx : x ≠ "") :
    Copies lookup l target r ↔ ∃ k ∈ r.attributes, x ∈ Text.splitAt '@' k := by
  have hwants : (∃ f ∈ [Filter.attribute x], (Part.tagged r.groupKey).Wants f) ↔
      ∃ k ∈ r.attributes, x ∈ Text.splitAt '@' k := by
    rw [← mem_keyAttributes_groupKey hx]
    simp [Part.Wants]
  have hsum := (Part.tagged r.groupKey).count_flatten hfound htarget hincluded r
  simp only [Part.count_rules_groupKey, if_congr hwants rfl rfl] at hsum
  have hpos : 0 < included.attributeRules.count r := List.count_pos_iff.2 hr
  rw [Copies, hsum]
  split
  next h => exact iff_of_true (Nat.lt_add_of_pos_right hpos) h
  next h => exact iff_of_false (Nat.lt_irrefl _) h

/-! ### Exclusion -/

/-- A rule with attributes is exported unless one of them is excluded. -/
theorem Filed.mem_toRules_iff (h : l.Filed) (hr : r ∈ l.attributeRules) {excluded : AttributeSet} :
    r ∈ l.toRules excluded ↔ r.attributes.any excluded.contains = false := by
  have htagged := h.of_mem_attributeRules r hr
  -- the other rules that are exported have no attributes
  have hbucket : ∀ k, r ∉ l.bucket k := fun k hk => by
    simp [(h.of_mem_bucket k r hk).2] at htagged
  have hunique : r ∉ l.uniqueDomain := fun hk => by
    simp [(h.of_mem_uniqueDomain r hk).2] at htagged
  rw [DomainList.mem_toRules_iff]
  constructor
  · rintro (hk | hk | hk | ⟨hk, -⟩ | ⟨-, hkept⟩)
    · exact absurd hk (hbucket .full)
    · exact absurd hk hunique
    · exact absurd hk (hbucket .regex)
    · exact absurd hk (hbucket .keyword)
    · exact hkept
  · exact fun hkept => .inr (.inr (.inr (.inr ⟨hr, hkept⟩)))

/-- Excluding an attribute drops the rules that have it. -/
theorem Filed.drops_iff (h : l.Filed) (hr : r ∈ l.attributeRules) :
    l.Drops x r ↔ r.hasAttribute x = true := by
  have hcontains : ∀ k, ((∅ : AttributeSet).insert x ()).contains k = true ↔ k = x := by
    intro k
    rw [Table.contains, Table.get?_insert]
    split
    next h => simp [h]
    next h => simp [h]
  have hnone : r.attributes.any (∅ : AttributeSet).contains = false :=
    List.any_eq_false.2 fun k _ => by simp [Table.contains]
  have hone : r.attributes.any ((∅ : AttributeSet).insert x ()).contains = true ↔
      x ∈ r.attributes := by
    simp only [List.any_eq_true, hcontains, exists_eq_right]
  rw [Drops, h.mem_toRules_iff hr, h.mem_toRules_iff hr, Bool.not_eq_false, hone,
    Rule.hasAttribute, List.contains_iff_mem]
  exact and_iff_right hnone

/-! ### Agreement -/

/-- Including a list by an attribute copies a rule exactly when the attribute is a piece of one of
its attributes, and excluding the attribute drops it exactly when it is one of them. The two
therefore agree exactly when the attribute is no piece of an attribute without being one itself, as
it is when no attribute of the rule has an at sign in it. -/
theorem copies_and_drops_iff (hl : parseFrom file name text = .ok l) (hr : r ∈ l.attributeRules)
    (hx : x ≠ "") (hat : '@' ∉ x.toList) {a : DomainList}
    (hfound : ∀ b ∈ a.targets, ∃ included, lookup b = some included ∧ included.Filed)
    (htarget : a.inclusions.get? target = some [.attribute x]) (hlookup : lookup target = some l) :
    (a.flatten lookup).1 = .ok () ∧
      (Copies lookup a target r ↔ ∃ k ∈ r.attributes, x ∈ Text.splitAt '@' k) ∧
      (l.Drops x r ↔ r.hasAttribute x = true) ∧
      ((Copies lookup a target r ↔ l.Drops x r) ↔
        ((∃ k ∈ r.attributes, x ∈ Text.splitAt '@' k) → r.hasAttribute x = true)) ∧
      ((∀ k ∈ r.attributes, '@' ∉ k.toList) → (Copies lookup a target r ↔ l.Drops x r)) := by
  have hcopies := copies_iff hfound htarget hlookup hr hx
  have hdrops := (fresh_of_parseFrom hl).1.filed.drops_iff (x := x) hr
  -- an attribute of the rule is its own only piece
  have hpiece : r.hasAttribute x = true → ∃ k ∈ r.attributes, x ∈ Text.splitAt '@' k := by
    rw [Rule.hasAttribute, List.contains_iff_mem]
    intro hmem
    exact ⟨x, hmem, by simp [Text.splitAt_of_not_mem hat]⟩
  have hagree : (Copies lookup a target r ↔ l.Drops x r) ↔
      ((∃ k ∈ r.attributes, x ∈ Text.splitAt '@' k) → r.hasAttribute x = true) := by
    rw [hcopies, hdrops]
    exact ⟨Iff.mp, fun h => ⟨h, hpiece⟩⟩
  refine ⟨flatten_ok_of_found fun b hb => (hfound b hb).imp fun _ h => h.1, hcopies, hdrops, hagree,
    fun hplain => hagree.2 ?_⟩
  rintro ⟨k, hk, hmem⟩
  rw [Text.splitAt_of_not_mem (hplain k hk), List.mem_singleton] at hmem
  rw [Rule.hasAttribute, List.contains_iff_mem, hmem]
  exact hk

/-- A rule whose only attribute has an at sign in it. -/
def joinedTags : Rule := ⟨.domain, "a.com", ["cn@ads"]⟩

/-- The list of that rule. -/
def joined : DomainList := (named "l").addRule joinedTags

/-- A list that asks for the first piece of the attribute. -/
def asksForPiece : DomainList := (named "a").addInclusion "l" [.attribute "cn"]

/-- Two attributes without a blank between them are read as one. -/
theorem parse_joined : parse "l" "a.com @cn@ads" = .ok joined := by rfl

/-- The list asks for the attribute alone. -/
theorem get?_inclusions_asksForPiece :
    asksForPiece.inclusions.get? "L" = some [.attribute "cn"] := by decide +kernel

/-- What is asked of is the list of the rule. -/
theorem get?_joined : ((∅ : Registry).add joined).get? "L" = some joined := by decide +kernel

/-- All that is included is found and filed. -/
theorem found_of_mem_targets : ∀ b ∈ asksForPiece.targets,
    ∃ included, ((∅ : Registry).add joined).get? b = some included ∧ included.Filed := by
  intro b hb
  have htargets : asksForPiece.targets = ["L"] := by decide +kernel
  rw [htargets, List.mem_singleton] at hb
  subst hb
  exact ⟨joined, get?_joined, (fresh_of_parseFrom parse_joined).1.filed⟩

/-- Asking for the piece copies the rule, and excluding it does not drop the rule. -/
theorem copies_and_drops_joinedTags :
    parse "l" "a.com @cn@ads" = .ok joined ∧
      Copies ((∅ : Registry).add joined).get? asksForPiece "L" joinedTags ∧
        ¬ joined.Drops "cn" joinedTags := by
  have hmem : joinedTags ∈ joined.attributeRules := by decide +kernel
  obtain ⟨-, hcopies, hdrops, -, -⟩ := copies_and_drops_iff parse_joined hmem (x := "cn")
    (by decide) (by decide) found_of_mem_targets get?_inclusions_asksForPiece get?_joined
  rw [hcopies, hdrops]
  exact ⟨parse_joined, ⟨"cn@ads", by decide, by decide +kernel⟩, by decide⟩

/-- Including and excluding by an attribute in lower case, without blanks and at signs, do not agree
on every rule of every list that can be read. -/
theorem not_forall_copies_iff_drops :
    ¬ ∀ (name text : String) (l : DomainList) (x : String) (r : Rule),
      parse name text = .ok l → x ≠ "" → Text.lower x = x →
        (∀ c ∈ x.toList, c ≠ '@' ∧ Text.isBlank c = false) → r ∈ l.attributeRules →
          ∀ (a : DomainList) (lookup : String → Option DomainList) (target : String),
            (∀ b ∈ a.targets, ∃ included, lookup b = some included ∧ included.Filed) →
              a.inclusions.get? target = some [.attribute x] → lookup target = some l →
                (Copies lookup a target r ↔ r.hasAttribute x = true) ∧
                  (Copies lookup a target r ↔ l.Drops x r) := by
  intro h
  have hmem : joinedTags ∈ joined.attributeRules := by decide +kernel
  have hcopies : Copies ((∅ : Registry).add joined).get? asksForPiece "L" joinedTags :=
    (copies_iff found_of_mem_targets get?_inclusions_asksForPiece get?_joined hmem (by decide)).2
      ⟨"cn@ads", by decide, by decide +kernel⟩
  have hchars : ∀ c ∈ "cn".toList, c ≠ '@' ∧ Text.isBlank c = false := by
    intro c hc
    have hcn : c = 'c' ∨ c = 'n' := by simpa using hc
    rcases hcn with rfl | rfl
    · decide
    · decide
  have hagree := h "l" "a.com @cn@ads" joined "cn" joinedTags parse_joined (by decide)
    (by decide +kernel) hchars hmem asksForPiece _ "L" found_of_mem_targets
    get?_inclusions_asksForPiece get?_joined
  exact absurd (hagree.1.1 hcopies) (by decide)

end RoutingData.DomainList
