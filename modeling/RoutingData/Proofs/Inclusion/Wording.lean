import RoutingData.Proofs.Inclusion.Alike

/-!
# How inclusions are written

Inclusions may stand anywhere among the rules of a text, in any order, repeated, one for each
attribute or one for several. When two texts have the same lines for rules and ask for the same
(`SayAlike`), the lists that are read from them are alike (`alike_of_sayAlike`). So it makes no
difference to a dataset how inclusions are written.
-/

namespace RoutingData

/-- An inclusion asks for something; without attributes it asks for every rule. -/
theorem ListLine.filters_ne_nil_of_parse {line : List Char} {target : String}
    {filters : List Filter} (h : parse line = .ok (.inclusion target filters)) : filters ≠ [] := by
  obtain ⟨rest, -, -, -, rfl⟩ := parse_eq_inclusion_iff.1 h
  unfold filtersFor
  split
  next => exact List.cons_ne_nil _ _
  next hkeys => simpa using hkeys

namespace DomainList

/-- The lines of a text that state rules, in order and without comments. -/
def ruleLines (text : String) : List (List Char) :=
  ((Text.meaningfulLines text).map (·.2)).filter fun line =>
    (Text.stripHead? ListLine.inclusionWord.toList line).isNone

/-- What a line asks to include. -/
def requestOf? (line : List Char) : Option Request :=
  (ListLine.parse line).toOption.bind fun
    | .inclusion target filters => some (target, filters)
    | .rule _ => none

/-- What the lines of a text ask to include. -/
def requestsIn (text : String) : List Request :=
  ((Text.meaningfulLines text).map (·.2)).filterMap requestOf?

/-- The requests ask for the rules of a list by a filter. -/
def Asks (requests : List Request) (a : String) (f : Filter) : Prop :=
  ∃ q ∈ requests, Text.upper q.1 = a ∧ f ∈ q.2

/-- The texts differ at most in how their inclusions are written. -/
structure SayAlike (s t : String) : Prop where
  /-- They have the same lines for rules. -/
  ruleLines_eq : ruleLines s = ruleLines t
  /-- They ask for the same filters of each list. -/
  asks_iff : ∀ a f, Asks (requestsIn s) a f ↔ Asks (requestsIn t) a f

variable {l m : DomainList} {file name text s t : String} {lines : List ListLine}
  {requests others : List Request}

/-- Whether requests ask for the same can be decided, since they are for few lists. -/
theorem asks_iff_asks :
    (∀ a f, Asks requests a f ↔ Asks others a f) ↔
      (∀ q ∈ requests, ∀ f ∈ q.2, Asks others (Text.upper q.1) f) ∧
        ∀ q ∈ others, ∀ f ∈ q.2, Asks requests (Text.upper q.1) f := by
  constructor
  · intro h
    exact ⟨fun q hq f hf => (h _ f).1 ⟨q, hq, rfl, hf⟩, fun q hq f hf => (h _ f).2 ⟨q, hq, rfl, hf⟩⟩
  · rintro ⟨hothers, hrequests⟩ a f
    constructor
    · rintro ⟨q, hq, rfl, hf⟩
      exact hothers q hq f hf
    · rintro ⟨q, hq, rfl, hf⟩
      exact hrequests q hq f hf

instance (requests : List Request) (a : String) (f : Filter) : Decidable (Asks requests a f) :=
  inferInstanceAs (Decidable (∃ q ∈ requests, _))

instance (s t : String) : Decidable (SayAlike s t) :=
  decidable_of_iff
    (ruleLines s = ruleLines t ∧
      (∀ q ∈ requestsIn s, ∀ f ∈ q.2, Asks (requestsIn t) (Text.upper q.1) f) ∧
        ∀ q ∈ requestsIn t, ∀ f ∈ q.2, Asks (requestsIn s) (Text.upper q.1) f)
    ⟨fun h => ⟨h.1, asks_iff_asks.2 h.2⟩, fun h => ⟨h.1, asks_iff_asks.1 h.2⟩⟩

/-! ### Lines -/

/-- The rule that a line states. -/
def ruleOf? (line : List Char) : Option Rule :=
  (ListLine.parse line).toOption.bind fun
    | .rule x => some x
    | .inclusion .. => none

/-- The inclusions among lines. -/
def inclusionsOf (lines : List ListLine) : List Request :=
  lines.filterMap fun
    | .inclusion target filters => some (target, filters)
    | .rule _ => none

/-- What is picked from the lines of a text that is read may be picked from how each of them is
read. -/
theorem filterMap_parse {α : Type} (pick : ListLine → Option α)
    (h : (Text.meaningfulLines text).mapM (fun p => ListLine.parseAt file p.1 p.2) = .ok lines) :
    lines.filterMap pick =
      ((Text.meaningfulLines text).map (·.2)).filterMap fun line =>
        (ListLine.parse line).toOption.bind pick := by
  have hsteps := mapM_eq_ok_iff.1 h
  clear h
  generalize Text.meaningfulLines text = numbered at hsteps ⊢
  induction hsteps with
  | nil => rfl
  | cons hline _ ih =>
    rw [List.map_cons, List.filterMap_cons, List.filterMap_cons, ListLine.parseAt_eq_ok_iff.1 hline,
      ih]
    rfl

/-- A line that asks for an inclusion states no rule. -/
theorem ruleOf?_of_inclusion {line rest : List Char}
    (h : Text.stripHead? ListLine.inclusionWord.toList line = some rest) : ruleOf? line = none := by
  unfold ruleOf? ListLine.parse
  rw [h]
  simp only [ListLine.parseInclusion]
  split
  · rfl
  · rfl

/-- The rules of a text that is read are those of its lines for rules. -/
theorem rulesOf_eq
    (h : (Text.meaningfulLines text).mapM (fun p => ListLine.parseAt file p.1 p.2) = .ok lines) :
    ListLine.rulesOf lines = (ruleLines text).filterMap ruleOf? := by
  refine (filterMap_parse _ h).trans ?_
  -- the other lines have no part in this
  unfold ruleLines
  rw [List.filterMap_filter]
  refine List.filterMap_congr fun line _ => ?_
  cases hhead : Text.stripHead? ListLine.inclusionWord.toList line with
  | none => rfl
  | some rest => exact ruleOf?_of_inclusion hhead

/-- Its inclusions are those that its lines ask for. -/
theorem inclusionsOf_eq
    (h : (Text.meaningfulLines text).mapM (fun p => ListLine.parseAt file p.1 p.2) = .ok lines) :
    inclusionsOf lines = requestsIn text :=
  filterMap_parse _ h

/-- Every inclusion asks for something. -/
theorem filters_ne_nil_of_mem_requestsIn {q : Request} (h : q ∈ requestsIn text) : q.2 ≠ [] := by
  obtain ⟨line, -, hline⟩ := List.mem_filterMap.1 h
  unfold requestOf? at hline
  cases hparse : ListLine.parse line with
  | error fault =>
    rw [hparse] at hline
    cases hline
  | ok stated =>
    rw [hparse] at hline
    cases stated with
    | rule x => cases hline
    | inclusion target filters =>
      cases hline
      exact ListLine.filters_ne_nil_of_parse hparse

/-! ### Lists -/

/-- Adding what a line states. -/
def operationOf : ListLine → Operation
  | .rule x => .addRule x
  | .inclusion target filters => .addInclusion target filters

/-- A list holds the requests of the lines that it is made of, and is marked when there are any. -/
theorem holds_ofLines (name : String) (lines : List ListLine) :
    (ofLines name lines).Holds (inclusionsOf lines) ∧
      ((ofLines name lines).hasInclusion = true ↔ inclusionsOf lines ≠ []) := by
  -- adding lines is a history in which nothing fails
  let ops := lines.map operationOf
  have hops : ofLines name lines = (named name).performAll ops := by
    rw [ofLines, performAll, List.foldl_map]
    congr 1
    ext1 l
    ext1 line
    cases line with
    | rule x => rfl
    | inclusion target filters => rfl
  have hrequests : requestsOf ops = inclusionsOf lines := by
    rw [requestsOf, List.filterMap_map, inclusionsOf]
    congr 1
    ext1 line
    cases line with
    | rule x => rfl
    | inclusion target filters => rfl
  have hnever : ∀ before lookup after, ops = before ++ .flatten lookup :: after →
      (((named name).performAll before).flatten lookup).1 = .ok () := by
    intro before lookup after hsplit
    have hmem : Operation.flatten lookup ∈ ops := by simp [hsplit]
    obtain ⟨line, -, hline⟩ := List.mem_map.1 hmem
    cases line with
    | rule x => cases hline
    | inclusion target filters => cases hline
  have hstanding : standing ops = inclusionsOf lines := by
    rw [standing_eq_requestsOf hnever, hrequests]
  have hholds := holds_performAll name ops
  have hmark := hasInclusion_performAll (named name) ops
  rw [hstanding] at hholds
  rw [hrequests] at hmark
  rw [hops]
  refine ⟨hholds, hmark.trans (or_iff_right ?_)⟩
  simp [named]

/-- There are requests when something is asked for. -/
theorem ne_nil_iff_exists_asks (hne : ∀ q ∈ requests, q.2 ≠ []) :
    requests ≠ [] ↔ ∃ a f, Asks requests a f := by
  constructor
  · intro h
    obtain ⟨q, hq⟩ := List.exists_mem_of_ne_nil _ h
    obtain ⟨f, hf⟩ := List.exists_mem_of_ne_nil _ (hne q hq)
    exact ⟨_, f, q, hq, rfl, hf⟩
  · rintro ⟨a, f, q, hq, -, -⟩
    exact List.ne_nil_of_mem hq

/-- There is something for a list when some filter of it is asked for. -/
theorem isSome_requested_iff_exists_asks (hne : ∀ q ∈ requests, q.2 ≠ []) {a : String} :
    (requested requests a).isSome ↔ ∃ f, Asks requests a f := by
  rw [isSome_requested_iff]
  constructor
  · rintro ⟨q, hq, ha⟩
    obtain ⟨f, hf⟩ := List.exists_mem_of_ne_nil _ (hne q hq)
    exact ⟨f, q, hq, ha, hf⟩
  · rintro ⟨f, q, hq, ha, -⟩
    exact ⟨q, hq, ha⟩

/-- Requests that ask for the same make inclusions that are alike. -/
theorem rel_requested (h : ∀ a f, Asks requests a f ↔ Asks others a f)
    (hne : ∀ q ∈ requests, q.2 ≠ []) (hne' : ∀ q ∈ others, q.2 ≠ []) (a : String) :
    Option.Rel (fun fs gs => ∀ f, f ∈ fs ↔ f ∈ gs) (requested requests a) (requested others a) := by
  have hboth : (requested requests a).isSome ↔ (requested others a).isSome := by
    rw [isSome_requested_iff_exists_asks hne, isSome_requested_iff_exists_asks hne']
    exact exists_congr (h a)
  have hmem : ∀ f, (∃ fs, requested requests a = some fs ∧ f ∈ fs) ↔
      ∃ gs, requested others a = some gs ∧ f ∈ gs := by
    intro f
    rw [mem_requested_iff, mem_requested_iff]
    exact h a f
  -- both have something for the list or neither has, and what they have is the same set
  generalize requested requests a = x at hboth hmem ⊢
  generalize requested others a = y at hboth hmem ⊢
  cases x with
  | none =>
    cases y with
    | none => exact .none
    | some gs => simp at hboth
  | some fs =>
    cases y with
    | none => simp at hboth
    | some gs => exact .some (by simpa using hmem)

/-- Lists that are read, under the same name, from texts that say alike are alike. -/
theorem alike_of_sayAlike {file' name' : String} (hl : parseFrom file name s = .ok l)
    (hm : parseFrom file' name' t = .ok m) (hname : Text.upper name = Text.upper name')
    (h : SayAlike s t) : l.Alike m := by
  obtain ⟨lines, hlines, rfl⟩ := parseFrom_eq_ok_iff.1 hl
  obtain ⟨lines', hlines', rfl⟩ := parseFrom_eq_ok_iff.1 hm
  have hrules : ListLine.rulesOf lines = ListLine.rulesOf lines' := by
    rw [rulesOf_eq hlines, rulesOf_eq hlines', h.ruleLines_eq]
  obtain ⟨hholds, hmark⟩ := holds_ofLines name lines
  obtain ⟨hholds', hmark'⟩ := holds_ofLines name' lines'
  have hrel := rel_requested h.asks_iff (fun _ => filters_ne_nil_of_mem_requestsIn)
    fun _ => filters_ne_nil_of_mem_requestsIn
  rw [← inclusionsOf_eq hlines, ← inclusionsOf_eq hlines'] at hrel
  have hhas : (ofLines name lines).hasInclusion = (ofLines name' lines').hasInclusion := by
    rw [Bool.eq_iff_iff, hmark, hmark', inclusionsOf_eq hlines, inclusionsOf_eq hlines',
      ne_nil_iff_exists_asks fun _ => filters_ne_nil_of_mem_requestsIn,
      ne_nil_iff_exists_asks fun _ => filters_ne_nil_of_mem_requestsIn]
    exact exists_congr fun a => exists_congr (h.asks_iff a)
  obtain ⟨has, inclusions, heq⟩ := ofLines_eq name lines
  obtain ⟨has', inclusions', heq'⟩ := ofLines_eq name' lines'
  refine ⟨?_, fun a => ?_⟩
  · -- name, mark and rules make up all of a list but its inclusions
    have hnamed : named name = named name' := by
      unfold named
      rw [hname]
    have hhas : has = has' := by
      rw [heq, heq'] at hhas
      exact hhas
    rw [heq, heq', hrules, hnamed, hhas]
  · rw [hholds a, hholds' a]
    exact hrel a

end DomainList

namespace Registry

open DomainList

/-- The registry has, for each text, the list that is read from it, under the name of the text. -/
def ReadFrom (r : Registry) (texts : Table String String) : Prop :=
  ∀ a, Option.Rel
    (fun l text => ∃ file name, Text.upper name = a ∧ parseFrom file name text = .ok l)
    (r.get? a) (texts.get? a)

variable {r r' : Registry} {texts texts' : Table String String}

/-- One more list is read from one more text. -/
theorem ReadFrom.add (hr : r.ReadFrom texts) {l : DomainList} {file name text : String}
    (h : parseFrom file name text = .ok l) :
    (r.add l).ReadFrom (texts.insert (Text.upper name) text) := by
  intro a
  rw [Registry.add, (fresh_of_parseFrom h).2, Table.get?_insert, Table.get?_insert]
  split
  next ha => exact .some ⟨file, name, ha.symm, h⟩
  next => exact hr a

/-- Texts that can be read make the registry of the lists that are read from them. -/
theorem readFrom_ofTexts {texts : List (String × String)}
    (h : ∀ t ∈ texts, (DomainList.parse t.1 t.2).isOk) :
    (ofTexts texts).ReadFrom (.ofList (texts.map fun t => (Text.upper t.1, t.2))) := by
  -- by induction from the end, since the text that comes last is added last
  induction texts using List.reverseRecOn with
  | nil => exact fun a => .none
  | append_singleton texts t ih =>
    obtain ⟨hfront, hlast⟩ := List.forall_mem_append.1 h
    have ht := hlast t List.mem_cons_self
    unfold ofTexts Table.ofList
    rw [List.map_append, List.map_singleton, List.foldl_concat, List.foldl_concat]
    split
    next hparse => exact (ih hfront).add hparse
    next hparse =>
      rw [hparse] at ht
      cases ht

/-- Registries that are read, under the same names, from texts that say alike are alike. -/
theorem alike_of_readFrom (hr : r.ReadFrom texts) (hr' : r'.ReadFrom texts')
    (h : ∀ a, Option.Rel SayAlike (texts.get? a) (texts'.get? a)) : r.Alike r' := by
  intro a
  have hlist := hr a
  have hlist' := hr' a
  have hsay := h a
  generalize r.get? a = x at hlist ⊢
  generalize r'.get? a = y at hlist' ⊢
  generalize texts.get? a = s at hlist hsay
  generalize texts'.get? a = t at hlist' hsay
  cases hsay with
  | none =>
    cases hlist
    cases hlist'
    exact .none
  | some hsay =>
    cases hlist with
    | some hlist =>
      cases hlist' with
      | some hlist' =>
        obtain ⟨file, name, hname, hparse⟩ := hlist
        obtain ⟨file', name', hname', hparse'⟩ := hlist'
        exact .some (alike_of_sayAlike hparse hparse' (hname.trans hname'.symm) hsay)

/-- Where and how inclusions are written makes no difference. When texts with the same names have
the same lines for rules and ask for the same filters of each list, the lists that are read from
them resolve with the same result, and the dataset is the same, whatever is excluded. -/
theorem dataset_eq_of_sayAlike (hr : r.ReadFrom texts) (hr' : r'.ReadFrom texts')
    (h : ∀ a, Option.Rel SayAlike (texts.get? a) (texts'.get? a)) :
    r.resolve.1 = r'.resolve.1 ∧ ∀ excluded,
      Dataset.encodeSites (r.resolve.2.toEntries excluded) =
        Dataset.encodeSites (r'.resolve.2.toEntries excluded) := by
  obtain ⟨hresult, halike⟩ := (alike_of_readFrom hr hr' h).resolve
  refine ⟨hresult, fun excluded => ?_⟩
  rw [halike.toEntries_eq]

/-- Lists with inclusions before their rules. -/
def inclusionsFirst : List (String × String) := [
  ("a", "full:x.com @cn\nkeyword:k @ads"),
  ("b", "include:a @cn @ads\nb.com\nd.com @cn"),
  ("c", "include:a\ninclude:a @cn\ninclude:b @cn\nfull:z.com")]

/-- The same lists with inclusions elsewhere, in other words and in another order. -/
def inclusionsAnywhere : List (String × String) := [
  ("C", "include: B@CN\nfull:z.com # last rule\ninclude:A@cn\ninclude:a"),
  ("b", "b.com\ninclude:A @ADS # one\nd.com @cn\ninclude:a @Cn\ninclude:a @ads"),
  ("a", "full:x.com @cn\nkeyword:k @ads")]

/-- The lists differ in the order of filters, but what is exported does not. -/
theorem dataset_eq_of_sayAlike_anywhere :
    ∃ texts texts', (ofTexts inclusionsFirst).ReadFrom texts ∧
      (ofTexts inclusionsAnywhere).ReadFrom texts' ∧
      (∀ a, Option.Rel SayAlike (texts.get? a) (texts'.get? a)) ∧
      ofTexts inclusionsFirst ≠ ofTexts inclusionsAnywhere ∧
      (ofTexts inclusionsFirst).resolve.1 = .ok () ∧
      (ofTexts inclusionsAnywhere).resolve.1 = .ok () ∧
      ∀ excluded, Dataset.encodeSites ((ofTexts inclusionsFirst).resolve.2.toEntries excluded) =
        Dataset.encodeSites ((ofTexts inclusionsAnywhere).resolve.2.toEntries excluded) := by
  have hfirst : (ofTexts inclusionsFirst).ReadFrom _ := readFrom_ofTexts (by decide +kernel)
  have hanywhere : (ofTexts inclusionsAnywhere).ReadFrom _ := readFrom_ofTexts (by decide +kernel)
  have hsay : ∀ a, Option.Rel SayAlike
      (Table.get? (.ofList (inclusionsFirst.map fun t => (Text.upper t.1, t.2))) a)
      (Table.get? (.ofList (inclusionsAnywhere.map fun t => (Text.upper t.1, t.2))) a) :=
    Table.rel_get? (by decide +kernel)
  have hok : (ofTexts inclusionsFirst).resolve.1 = .ok () := by decide +kernel
  obtain ⟨hresult, hdataset⟩ := dataset_eq_of_sayAlike hfirst hanywhere hsay
  exact ⟨_, _, hfirst, hanywhere, hsay, by decide +kernel, hok, hresult ▸ hok, hdataset⟩

end Registry

end RoutingData
