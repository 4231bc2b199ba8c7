import Mathlib.Logic.Relation
import RoutingData.AddressLists
import RoutingData.Proofs.Net.Notation
import RoutingData.Proofs.Net.Smallest
import RoutingData.Proofs.Text.Lines

/-!
# The lines of an address list

An address list means the addresses that its lines denote (`denoted`): the networks that are read
from it have these addresses (`addresses_nets`), and merging depends on the addresses alone, however
it is done (`Net.IsMerging`). So the lines may be put in another order, be repeated or rephrased,
and lines that denote nothing may be put in anywhere (`Relisted`).
-/

namespace RoutingData.AddressLists

open Net (Denotes Rephrased Writes)

variable {s t text : String} {lines lines' : List (List Char)} {cs comment : List Char} {f : Family}
  {x : ℕ} {merging : List Net → List Net}

/-! ### What a text denotes -/

/-- The addresses that lines denote, as far as they are no comments. -/
def denotedBy (lines : List (List Char)) : Set (Family × ℕ) :=
  {a | ∃ line ∈ lines, Denotes (Text.stripComment line) a.1 a.2}

/-- The addresses that the lines of a text denote. -/
def denoted (text : String) : Set (Family × ℕ) := denotedBy (Text.lines text)

/-- The networks that are read from the lines of a text. -/
def nets (text : String) : List Net :=
  (Text.contents text).filterMap fun line => (Net.parse (.ofList line)).toOption

/-- A list file is read as these networks, merged. -/
theorem readNets_eq (text : String) (merging : List Net → List Net) :
    readNets text merging = merging (nets text) := by
  unfold readNets nets Text.contents
  rw [List.filterMap_map]
  rfl

/-- An empty line denotes nothing. -/
theorem not_denotes_nil : ¬ Denotes [] f x := by
  rw [← Net.exists_parse_iff]
  rintro ⟨n, hparse, -⟩
  cases hparse

/-- A network is read from the text when it is read from what one of its lines says. -/
theorem mem_nets_iff {n : Net} :
    n ∈ nets text ↔ ∃ line ∈ Text.contents text, Net.parse (.ofList line) = .ok n := by
  unfold nets
  rw [List.mem_filterMap]
  refine exists_congr fun line => and_congr_right fun _ => ?_
  cases Net.parse (.ofList line) with
  | error e => exact iff_of_false nofun nofun
  | ok m => simp [Except.toOption]

/-- The networks of a text have the addresses that its lines denote. -/
theorem addresses_nets (text : String) : Net.addresses (nets text) = denoted text := by
  ext ⟨f, x⟩
  calc (f, x) ∈ Net.addresses (nets text)
    _ ↔ ∃ line ∈ Text.contents text, ∃ n, Net.parse (.ofList line) = .ok n ∧ n.contains f x := by
      simp only [Net.mem_addresses, mem_nets_iff]
      constructor
      · rintro ⟨n, ⟨line, hline, hparse⟩, hx⟩
        exact ⟨line, hline, n, hparse, hx⟩
      · rintro ⟨line, hline, n, hparse, hx⟩
        exact ⟨n, ⟨line, hline, hparse⟩, hx⟩
    _ ↔ ∃ line ∈ Text.contents text, Denotes line f x := by simp only [Net.exists_parse_iff]
    _ ↔ (f, x) ∈ denoted text := by
      rw [Text.contents_eq_filter]
      constructor
      · rintro ⟨line, hline, hx⟩
        obtain ⟨raw, hraw, rfl⟩ := List.mem_map.1 (List.mem_filter.1 hline).1
        exact ⟨raw, hraw, hx⟩
      · rintro ⟨raw, hraw, hx⟩
        -- a line of which nothing is left denotes nothing
        refine ⟨_, List.mem_filter.2 ⟨List.mem_map_of_mem hraw, ?_⟩, hx⟩
        rw [Bool.not_eq_true', List.isEmpty_eq_false_iff]
        intro hempty
        rw [hempty] at hx
        exact not_denotes_nil hx

/-- Texts whose lines denote the same addresses are read alike. -/
theorem readNets_eq_of_denoted_eq (hmerging : Net.IsMerging merging) (h : denoted s = denoted t) :
    readNets s merging = readNets t merging := by
  rw [readNets_eq, readNets_eq, hmerging.eq_merge]
  apply Net.merge_eq_of_addresses_eq
  rw [addresses_nets, addresses_nets, h]

/-! ### Other lines for the same addresses -/

/-- The end of a line, which is empty or a comment. -/
def IsComment (cs : List Char) : Prop := ∀ c ∈ cs.head?, c = '#'

/-- Lines are changed without a change of the addresses. -/
inductive Relisted : List (List Char) → List (List Char) → Prop
  /-- They are put in another order. -/
  | permuted {lines lines' : List (List Char)} (hperm : lines.Perm lines') : Relisted lines lines'
  /-- A line is repeated. -/
  | repeated {lines : List (List Char)} {line : List Char} (hline : line ∈ lines) :
      Relisted lines (line :: lines)
  /-- A line is put in that is blank, a comment, or not accepted. -/
  | inserted {line : List Char} (before after : List (List Char))
      (hline : Text.stripComment line = [] ∨
        ¬ ∃ n, Net.parse (.ofList (Text.stripComment line)) = .ok n) :
      Relisted (before ++ after) (before ++ line :: after)
  /-- A line is rephrased, and its comment may change. -/
  | rephrased {cs ds comment comment' : List Char} (before after : List (List Char))
      (hrephrased : Rephrased cs ds) (hcs : '#' ∉ cs) (hds : '#' ∉ ds)
      (hcomment : IsComment comment) (hcomment' : IsComment comment') :
      Relisted (before ++ (cs ++ comment) :: after) (before ++ (ds ++ comment') :: after)

/-- What is left of a line does not include its comment. -/
theorem stripComment_append_isComment (hcs : '#' ∉ cs) (hcomment : IsComment comment) :
    Text.stripComment (cs ++ comment) = Text.trimChars cs := by
  have hkeep : cs.takeWhile (· != '#') = cs := by
    refine List.takeWhile_eq_self_iff.2 fun c hc => ?_
    rw [bne_iff_ne]
    rintro rfl
    exact hcs hc
  have hbare : Text.stripComment cs = Text.trimChars cs := by
    unfold Text.stripComment
    rw [hkeep]
  cases comment with
  | nil => rw [List.append_nil, hbare]
  | cons c words =>
    obtain rfl : c = '#' := hcomment c rfl
    rw [Text.stripComment_append_comment, hbare]

/-- Where a line stands does not matter to what lines denote. -/
theorem mem_denotedBy_middle (before after : List (List Char)) (line : List Char) :
    (f, x) ∈ denotedBy (before ++ line :: after) ↔
      Denotes (Text.stripComment line) f x ∨ (f, x) ∈ denotedBy (before ++ after) := by
  simp only [denotedBy, Set.mem_ofPred_eq, List.mem_append, List.mem_cons]
  constructor
  · rintro ⟨other, hother | rfl | hother, hx⟩
    · exact .inr ⟨other, .inl hother, hx⟩
    · exact .inl hx
    · exact .inr ⟨other, .inr hother, hx⟩
  · rintro (hx | ⟨other, hother, hx⟩)
    · exact ⟨line, .inr (.inl rfl), hx⟩
    · exact ⟨other, hother.imp_right .inr, hx⟩

/-- Such a change leaves what the lines denote. -/
theorem Relisted.denotedBy_eq (h : Relisted lines lines') : denotedBy lines' = denotedBy lines := by
  ext ⟨f, x⟩
  cases h with
  | permuted hperm => simp only [denotedBy, Set.mem_ofPred_eq, hperm.mem_iff]
  | @repeated _ line hline =>
    have hmiddle := @mem_denotedBy_middle f x [] lines line
    rw [List.nil_append, List.nil_append] at hmiddle
    exact hmiddle.trans (or_iff_right_of_imp fun hx => ⟨line, hline, hx⟩)
  | inserted before after hline =>
    rw [mem_denotedBy_middle]
    refine or_iff_right fun hx => ?_
    rcases hline with hempty | hrefused
    · rw [hempty] at hx
      exact not_denotes_nil hx
    · obtain ⟨n, hparse, -⟩ := Net.exists_parse_iff.2 hx
      exact hrefused ⟨n, hparse⟩
  | rephrased before after hrephrased hcs hds hcomment hcomment' =>
    have htrim : ∀ {cs : List Char}, Denotes (Text.trimChars cs) f x ↔ Denotes cs f x :=
      Net.denotes_congr (Net.parts_trimChars _)
    rw [mem_denotedBy_middle, mem_denotedBy_middle, stripComment_append_isComment hcs hcomment,
      stripComment_append_isComment hds hcomment', htrim, htrim, hrephrased.denotes_iff]

/-- So do any number of changes, made or undone. -/
theorem denotedBy_eq_of_eqvGen (h : Relation.EqvGen Relisted lines lines') :
    denotedBy lines = denotedBy lines' := by
  induction h with
  | rel _ _ h => exact h.denotedBy_eq.symm
  | refl _ => rfl
  | symm _ _ _ ih => exact ih.symm
  | trans _ _ _ _ _ ihfirst ihsecond => exact ihfirst.trans ihsecond

/-- An address list means the addresses that its lines denote. A line is accepted when it writes an
address of which some leading bits count, and its network then contains the addresses with the same
leading bits; an address on its own denotes itself alone. However networks are merged, texts whose
accepted lines denote the same addresses are read alike. So are texts of which one becomes the other
when lines change places, are repeated or rephrased, and when blank lines, comments and lines that
are not accepted are put in or taken out. No text fails to be read. -/
theorem address_list_means_addresses (hmerging : Net.IsMerging merging) :
    (∀ line, (∃ n, Net.parse (.ofList line) = .ok n) ↔ ∃ f a length, Writes line f a length) ∧
    (∀ line n, Net.parse (.ofList line) = .ok n →
      ∀ f x, n.contains f x ↔ Denotes line f x) ∧
    (∀ cs f a, '/' ∉ cs → Net.parseAddress? (Text.trimChars cs) = some (f, a) →
      ∀ g x, Denotes cs g x ↔ g = f ∧ x = a) ∧
    (∀ s t, denoted s = denoted t → readNets s merging = readNets t merging) ∧
    (∀ s t, Relation.EqvGen Relisted (Text.lines s) (Text.lines t) →
      readNets s merging = readNets t merging) ∧
    ∀ (files : FileTree) (path text : String), files.textOf path = .ok text →
      loadNets files path merging = .ok (readNets text merging) := by
  refine ⟨fun line => Net.exists_parse_eq_ok_iff, fun line n hparse f x =>
    Net.contains_iff_denotes hparse, fun cs f a hcs haddress g x =>
    Net.denotes_bare_iff hcs haddress, fun s t => readNets_eq_of_denoted_eq hmerging,
    fun s t h => ?_, fun files path text htext => ?_⟩
  · exact readNets_eq_of_denoted_eq hmerging (denotedBy_eq_of_eqvGen h)
  · rw [loadNets, htext]
    rfl

/-- A list of a network, with host bits, and of an address. -/
def plainList : String := "10.9.8.7/8\n1.2.3.4"

/-- The same addresses in other words. -/
def wordyList : String := "10.0.0.1 /8# ten\nbogus\n1.2.3.4\n"

/-- The first line is rephrased twice, and a line is put in that is not accepted. -/
theorem address_list_means_addresses_wordyList :
    Net.IsMerging Net.merge ∧
      Relation.EqvGen Relisted (Text.lines plainList) (Text.lines wordyList) ∧
      readNets plainList = readNets wordyList := by
  have hplain : Text.lines plainList = ["10.9.8.7/8".toList ++ [], "1.2.3.4".toList] := by
    decide +kernel
  have hwordy : Text.lines wordyList =
      ["10.0.0.1 /8".toList ++ "# ten".toList, "bogus".toList, "1.2.3.4".toList] := by
    decide +kernel
  have hten : Writes "10.9.8.7/8".toList .v4 0x0a090807 8 :=
    @Writes.masked "10.9.8.7".toList ['8'] _ _ _ (by decide) (by decide +kernel)
      (by decide +kernel) (by decide)
  have hten' : Writes "10.0.0.1/8".toList .v4 0x0a000001 8 :=
    @Writes.masked "10.0.0.1".toList ['8'] _ _ _ (by decide) (by decide +kernel)
      (by decide +kernel) (by decide)
  have hagree : Net.AgreesIn .v4 8 0x0a090807 0x0a000001 := by
    unfold Net.AgreesIn
    decide +kernel
  have hblank : Rephrased "10.0.0.1/8".toList "10.0.0.1 /8".toList :=
    @Rephrased.beforeSlash [' '] "10.0.0.1".toList ['8'] (List.forall_mem_singleton.2 rfl)
      (by decide)
  have hfirst : Relisted ["10.9.8.7/8".toList ++ [], "1.2.3.4".toList]
      ["10.0.0.1/8".toList ++ [], "1.2.3.4".toList] :=
    .rephrased [] _ (.readdress hten hten' hagree) (by decide) (by decide) nofun nofun
  have hsecond : Relisted ["10.0.0.1/8".toList ++ [], "1.2.3.4".toList]
      ["10.0.0.1 /8".toList ++ "# ten".toList, "1.2.3.4".toList] :=
    .rephrased [] _ hblank (by decide) (by decide) nofun fun _ hc => (Option.some.inj hc).symm
  have hthird : Relisted ["10.0.0.1 /8".toList ++ "# ten".toList, "1.2.3.4".toList]
      ["10.0.0.1 /8".toList ++ "# ten".toList, "bogus".toList, "1.2.3.4".toList] := by
    refine .inserted [_] [_] (.inr ?_)
    rintro ⟨n, hparse⟩
    cases hparse
  have hchanges : Relation.EqvGen Relisted (Text.lines plainList) (Text.lines wordyList) := by
    rw [hplain, hwordy]
    exact .trans _ _ _ (.rel _ _ hfirst) (.trans _ _ _ (.rel _ _ hsecond) (.rel _ _ hthird))
  obtain ⟨-, -, -, -, hread, -⟩ := address_list_means_addresses Net.isMerging_merge
  exact ⟨Net.isMerging_merge, hchanges, hread _ _ hchanges⟩

end RoutingData.AddressLists
