import Mathlib.Logic.Function.Iterate
import RoutingData.Proofs.AddressLines
import RoutingData.Proofs.Editing

/-!
# Applying overrides again

To the lines of a file, edits are a filter and some lines at the end, however many of them there are
(`LineEdits.exists_filter_append`). Lines that were put there last time are there when the same
edits come again, so these only repeat some of them (`LineEdits.repeatsLines_applyAll`).

Which edits reach which file does not change either: paths lead where they led, and what could be
read before can be read afterwards (`FileTree.Retexted`). So the run is the same every time, on one
file under two paths as on two files, and also when one of them cannot be read
(`Overrides.retexted_iterate`). An address list only means the addresses that its lines denote, and
repeated lines denote no others.
-/

namespace RoutingData

/-! ### What lines mean -/

namespace AddressLists

open RuleText (readLines)

variable {s t text : String} {merging : List Net → List Net}

/-- The addresses that a text denotes are those that its trimmed lines denote. -/
theorem mem_denoted_iff_readLines {a : Family × ℕ} :
    a ∈ denoted text ↔
      ∃ line ∈ readLines text, Net.Denotes (Text.stripComment line.toList) a.1 a.2 := by
  have hread : ∀ line, line ∈ readLines text ↔
      ∃ raw ∈ Text.lines text, Text.trimChars raw ≠ [] ∧ .ofList (Text.trimChars raw) = line := by
    simp [RuleText.readLines, and_assoc]
  simp only [hread]
  constructor
  · rintro ⟨raw, hraw, hx⟩
    rw [← Text.stripComment_trimChars] at hx
    refine ⟨_, ⟨raw, hraw, fun hempty => ?_, rfl⟩, by rwa [String.toList_ofList]⟩
    -- a blank line denotes nothing
    rw [hempty] at hx
    exact not_denotes_nil hx
  · rintro ⟨_, ⟨raw, hraw, -, rfl⟩, hx⟩
    rw [String.toList_ofList, Text.stripComment_trimChars] at hx
    exact ⟨raw, hraw, hx⟩

/-- Texts with the same trimmed lines are read alike. -/
theorem readNets_eq_of_mem_readLines_iff (hmerging : Net.IsMerging merging)
    (h : ∀ line, line ∈ readLines t ↔ line ∈ readLines s) :
    readNets t merging = readNets s merging := by
  refine readNets_eq_of_denoted_eq hmerging (Set.ext fun a => ?_)
  rw [mem_denoted_iff_readLines, mem_denoted_iff_readLines]
  exact exists_congr fun line => and_congr_left fun _ => h line

end AddressLists

/-! ### Lines after edits -/

namespace LineEdits

open RuleText

variable {edits : LineEdits} {es : List LineEdits} {added : List String} {s t u text : String}

/-- The lines that are kept when some lines are edited. -/
def keptOf (edits : LineEdits) (ls : List String) : List String :=
  (ls ++ edits.add.flatMap readLines).filter (· ∉ edits.remove)

/-- The text of a file after edits, which come one after the other. -/
def applyAll (es : List LineEdits) (text : String) : String :=
  es.foldl (fun text edits => ofLines (edits.kept text)) text

/-- The lines that edits add. -/
def addedLines (es : List LineEdits) : List String := (es.flatMap (·.add)).flatMap readLines

/-- The second text has the lines of the first, and more only as repetitions of added lines. -/
structure RepeatsLines (added : List String) (s t : String) : Prop where
  /-- The texts have the same lines. -/
  mem_iff : ∀ line, line ∈ readLines t ↔ line ∈ readLines s
  /-- The lines of the second are those of the first and some that were added. -/
  perm_append : ∃ repeated, (readLines t).Perm (readLines s ++ repeated) ∧ repeated ⊆ added

/-- Nothing is repeated. -/
theorem RepeatsLines.refl (added : List String) (s : String) : RepeatsLines added s s :=
  ⟨fun _ => Iff.rfl, [], by rw [List.append_nil], List.nil_subset _⟩

/-- Lines are repeated once more. -/
theorem RepeatsLines.trans (h : RepeatsLines added s t) (h' : RepeatsLines added t u) :
    RepeatsLines added s u := by
  obtain ⟨first, hfirst, hadded⟩ := h.perm_append
  obtain ⟨second, hsecond, hadded'⟩ := h'.perm_append
  refine ⟨fun line => (h'.mem_iff line).trans (h.mem_iff line), first ++ second, ?_,
    List.append_subset.2 ⟨hadded, hadded'⟩⟩
  rw [← List.append_assoc]
  exact hsecond.trans (hfirst.append_right second)

/-- The lines of a text after edits. -/
theorem readLines_applyAll (es : List LineEdits) (text : String) :
    readLines (applyAll es text) = es.foldl (fun ls edits => edits.keptOf ls) (readLines text) := by
  induction es generalizing text with
  | nil => rw [applyAll, List.foldl_nil, List.foldl_nil]
  | cons edits es ih =>
    have hkept : edits.kept text = edits.keptOf (readLines text) := rfl
    rw [applyAll, List.foldl_cons, List.foldl_cons, ← applyAll, ih, readLines_ofLines_kept, hkept]

/-- An edited text is its lines, with a line feed after each. -/
theorem ofLines_readLines_applyAll (hes : es ≠ []) (text : String) :
    ofLines (readLines (applyAll es text)) = applyAll es text := by
  rcases List.eq_nil_or_concat es with rfl | ⟨front, last, rfl⟩
  · exact absurd rfl hes
  · have hlast : applyAll (front.concat last) text = ofLines (last.kept (applyAll front text)) := by
      rw [applyAll, List.concat_eq_append, List.foldl_concat]
      rfl
    rw [hlast, readLines_ofLines_kept]

/-- Edits one after the other filter the lines and then add some at the end. -/
theorem exists_filter_append (es : List LineEdits) :
    ∃ (keeps : String → Bool) (rest : List String), rest ⊆ addedLines es ∧
      ∀ ls, es.foldl (fun ls edits => edits.keptOf ls) ls = ls.filter keeps ++ rest := by
  induction es with
  | nil => exact ⟨fun _ => true, [], List.nil_subset _, fun ls => by simp⟩
  | cons edits es ih =>
    obtain ⟨keeps, rest, hrest, heq⟩ := ih
    let keeps' := fun line => keeps line && decide (line ∉ edits.remove)
    refine ⟨keeps', (edits.add.flatMap readLines).filter keeps' ++ rest, ?_, fun ls => ?_⟩
    · rw [addedLines, List.flatMap_cons, List.flatMap_append]
      exact List.append_subset.2
        ⟨List.subset_append_of_subset_left _ (List.filter_subset_self _),
          List.subset_append_of_subset_right _ hrest⟩
    · rw [List.foldl_cons, heq, keptOf, List.filter_filter, List.filter_append, List.append_assoc]

/-- When a text was edited already, the same edits only repeat lines that they added. -/
theorem repeatsLines_applyAll (es : List LineEdits) (text : String) :
    RepeatsLines (addedLines es) (applyAll es text) (applyAll es (applyAll es text)) := by
  obtain ⟨keeps, rest, hrest, heq⟩ := exists_filter_append es
  have honce : readLines (applyAll es text) = (readLines text).filter keeps ++ rest := by
    rw [readLines_applyAll, heq]
  have htwice : readLines (applyAll es (applyAll es text)) =
      (readLines text).filter keeps ++ (rest.filter keeps ++ rest) := by
    rw [readLines_applyAll, honce, heq, List.filter_append, List.filter_filter, List.append_assoc]
    simp only [Bool.and_self]
  have hperm : (readLines (applyAll es (applyAll es text))).Perm
      (readLines (applyAll es text) ++ rest.filter keeps) := by
    rw [htwice, honce, List.append_assoc]
    exact List.perm_append_comm.append_left _
  refine ⟨fun line => ?_, rest.filter keeps, hperm,
    List.Subset.trans (List.filter_subset_self _) hrest⟩
  rw [hperm.mem_iff, List.mem_append]
  refine or_iff_left_of_imp fun hline => ?_
  rw [honce]
  exact List.mem_append_right _ (List.mem_of_mem_filter hline)

/-- However often they come again. -/
theorem repeatsLines_iterate (es : List LineEdits) (text : String) (n : ℕ) :
    RepeatsLines (addedLines es) (applyAll es text) ((applyAll es)^[n + 1] text) := by
  induction n with
  | zero => exact .refl _ _
  | succ n ih =>
    refine ih.trans ?_
    rw [Function.iterate_succ_apply' (applyAll es) (n + 1), Function.iterate_succ_apply']
    exact repeatsLines_applyAll es _

end LineEdits

/-! ### Files after edits -/

namespace FileTree

variable {t t' t'' : FileTree} {F G : String → String → String} {path text : String}
  {e : BuildError}

/-- Every path leads where it led, and what is read by it, if it is a text, has become another
text. -/
structure Retexted (F : String → String → String) (t t' : FileTree) : Prop where
  /-- Everything lies in a directory. -/
  rooted : t'.Rooted
  /-- Every path leads where it led. -/
  locate_eq : ∀ path, t'.locate path = t.locate path
  /-- Texts have changed, and whatever could not be read cannot be read. -/
  textOf_eq : ∀ path, t'.textOf path = (t.textOf path).map (F path)

/-- Nothing has changed. -/
theorem Retexted.refl (ht : t.Rooted) : Retexted (fun _ => id) t t := by
  refine ⟨ht, fun _ => rfl, fun path => ?_⟩
  cases t.textOf path with
  | error e => rfl
  | ok text => rfl

/-- Texts have changed twice. -/
theorem Retexted.trans (h : Retexted F t t') (h' : Retexted G t' t'') :
    Retexted (fun path => G path ∘ F path) t t'' := by
  refine ⟨h'.rooted, fun path => (h'.locate_eq path).trans (h.locate_eq path), fun path => ?_⟩
  rw [h'.textOf_eq, h.textOf_eq]
  cases t.textOf path with
  | error e => rfl
  | ok text => rfl

/-- Texts have changed so, however that is put. -/
theorem Retexted.congr (h : Retexted F t t') (hFG : ∀ path text, F path text = G path text) :
    Retexted G t t' := by
  rwa [← funext₂ hFG]

/-- A text has become the other text. -/
theorem Retexted.textOf_of_ok (h : Retexted F t t') (htext : t.textOf path = .ok text) :
    t'.textOf path = .ok (F path text) := by
  rw [h.textOf_eq, htext]
  rfl

/-- What could not be read fails as before. -/
theorem Retexted.textOf_of_error (h : Retexted F t t') (herror : t.textOf path = .error e) :
    t'.textOf path = .error e := by
  rw [h.textOf_eq, herror]
  rfl

/-- What can be read can still be read. -/
theorem Retexted.isOk_eq (h : Retexted F t t') (path : String) :
    (t'.textOf path).isOk = (t.textOf path).isOk := by
  rw [h.textOf_eq]
  cases t.textOf path with
  | error e => rfl
  | ok text => rfl

end FileTree

open FileAction FileTree RuleText

variable {t t' : FileTree} {path directPath proxyPath : String}

/-- Edits succeed when the file is a text. By every path that leads to it the edited text is read
then, and nothing else has changed. -/
theorem LineEdits.exists_run_apply_retexted (ht : t.Rooted) (edits : LineEdits) (path : String) :
    ∃ t', (edits.apply path).run.run t = ((t.textOf path).map fun _ => (), t') ∧
      Retexted (fun other text =>
        if (t.textOf path).isOk ∧ t.locate other = t.locate path then ofLines (edits.kept text)
        else text) t t' := by
  cases htext : t.textOf path with
  | error e =>
    refine ⟨t, edits.run_apply_of_error htext, ht, fun _ => rfl, fun other => ?_⟩
    cases t.textOf other with
    | error e => rfl
    | ok text => rfl
  | ok text =>
    obtain ⟨a, t', hrun, h⟩ := edits.exists_run_apply ht htext
    refine ⟨t', hrun, h.rooted ht, h.locate_unchanged, fun other => ?_⟩
    by_cases hother : t.locate other = t.locate path
    · -- the same file is read by both paths
      obtain ⟨b, contents, hlocate, hnode, hcontents⟩ := textOf_eq_ok_iff_exists_node.1 htext
      have hfound : t.textOf other = .ok text :=
        textOf_eq_ok_iff_exists_node.2 ⟨b, contents, hother.trans hlocate, hnode, hcontents⟩
      rw [h.textOf_of_eq (hother.trans h.locate_eq), hfound]
      exact congrArg Except.ok (if_pos ⟨rfl, hother⟩).symm
    · rw [h.textOf_of_ne fun hsame => hother (hsame.trans h.locate_eq.symm)]
      cases t.textOf other with
      | error e => rfl
      | ok found => exact congrArg Except.ok (if_neg fun hboth => hother hboth.2).symm

namespace Overrides

open LineEdits (applyAll addedLines RepeatsLines)

variable {o : Overrides}

/-- The edits that reach the file to which a path leads: those of the direct rules if these can be
read, and those of the proxy rules if both can be read. -/
def editsOf (o : Overrides) (directPath proxyPath : String) (t : FileTree) (path : String) :
    List LineEdits :=
  (if (t.textOf directPath).isOk ∧ t.locate path = t.locate directPath then [o.direct] else []) ++
    if (t.textOf directPath).isOk ∧ (t.textOf proxyPath).isOk ∧
        t.locate path = t.locate proxyPath then [o.proxy] else []

/-- The result of reading the two rule files. -/
def readable (directPath proxyPath : String) (t : FileTree) : Except BuildError Unit := do
  let _ ← t.textOf directPath
  let _ ← t.textOf proxyPath
  return ()

/-- Overrides succeed when both rule files can be read, and change the text of each file by the
edits that reach it. -/
theorem exists_run_apply_retexted (ht : t.Rooted) (o : Overrides) (directPath proxyPath : String) :
    ∃ t', (o.apply directPath proxyPath).run.run t = (readable directPath proxyPath t, t') ∧
      Retexted (fun path => applyAll (o.editsOf directPath proxyPath t path)) t t' := by
  obtain ⟨t₁, hrun₁, h₁⟩ := o.direct.exists_run_apply_retexted ht directPath
  unfold Overrides.apply readable
  rw [run_bind, hrun₁]
  cases hdirect : t.textOf directPath with
  | error e =>
    refine ⟨t₁, rfl, h₁.congr fun path text => ?_⟩
    simp [editsOf, applyAll, hdirect, Except.isOk, Except.toBool]
  | ok direct =>
    obtain ⟨t₂, hrun₂, h₂⟩ := o.proxy.exists_run_apply_retexted h₁.rooted proxyPath
    refine ⟨t₂, ?_, (h₁.trans h₂).congr fun path text => ?_⟩
    · refine hrun₂.trans ?_
      rw [h₁.textOf_eq]
      cases t.textOf proxyPath with
      | error e => rfl
      | ok proxy => rfl
    · rw [h₁.isOk_eq, h₁.locate_eq, h₁.locate_eq]
      have hok : (t.textOf directPath).isOk = true := by rw [hdirect]; rfl
      simp only [editsOf, hok, true_and, Function.comp_apply, applyAll, List.foldl_append]
      -- the first edits reach the file or not, and so do the second ones
      split
      · split
        · simp only [List.foldl_cons, List.foldl_nil]
        · simp only [List.foldl_cons, List.foldl_nil]
      · split
        · simp only [List.foldl_cons, List.foldl_nil]
        · simp only [List.foldl_nil]

/-- The tree after overrides, whether they succeed or not. -/
def after (o : Overrides) (directPath proxyPath : String) (t : FileTree) : FileTree :=
  ((o.apply directPath proxyPath).run.run t).2

/-- Which edits reach a file does not change when texts do. -/
theorem editsOf_eq {F : String → String → String} (h : Retexted F t t') (o : Overrides)
    (directPath proxyPath : String) :
    o.editsOf directPath proxyPath t' = o.editsOf directPath proxyPath t := by
  funext path
  unfold editsOf
  rw [h.isOk_eq, h.isOk_eq, h.locate_eq, h.locate_eq, h.locate_eq]

/-- Neither does what the overrides result in. -/
theorem readable_eq {F : String → String → String} (h : Retexted F t t')
    (directPath proxyPath : String) :
    readable directPath proxyPath t' = readable directPath proxyPath t := by
  unfold readable
  rw [h.textOf_eq, h.textOf_eq]
  cases t.textOf directPath with
  | error e => rfl
  | ok direct =>
    cases t.textOf proxyPath with
    | error e => rfl
    | ok proxy => rfl

/-- After overrides have been applied any number of times, every text has been changed as often by
the same edits. -/
theorem retexted_iterate (ht : t.Rooted) (o : Overrides) (directPath proxyPath : String) (n : ℕ) :
    Retexted (fun path => (applyAll (o.editsOf directPath proxyPath t path))^[n]) t
      ((o.after directPath proxyPath)^[n] t) := by
  induction n with
  | zero => exact .refl ht
  | succ n ih =>
    obtain ⟨t', hrun, h⟩ := o.exists_run_apply_retexted ih.rooted directPath proxyPath
    have hafter : (o.after directPath proxyPath)^[n + 1] t = t' := by
      rw [Function.iterate_succ_apply', after, hrun]
    rw [hafter]
    refine (ih.trans h).congr fun path text => ?_
    rw [editsOf_eq ih, Function.iterate_succ_apply', Function.comp_apply]

/-- Applying overrides again is harmless. The result is the same each time, and every path still
leads where it led. Whatever can be read has the lines that it had after the first time, and more
only as repetitions of lines that were added to it; an edited file consists of these lines. So an
address list in any file is read as the same networks, by every way of merging networks. -/
theorem reapplying_is_harmless (ht : t.Rooted) {merging : List Net → List Net}
    (hmerging : Net.IsMerging merging) (o : Overrides) (directPath proxyPath : String) (n : ℕ) :
    let first := o.after directPath proxyPath t
    let again := (o.after directPath proxyPath)^[n + 1] t
    ((o.apply directPath proxyPath).run.run ((o.after directPath proxyPath)^[n] t)).1 =
        ((o.apply directPath proxyPath).run.run t).1 ∧
    (∀ path, again.locate path = t.locate path) ∧
    (∀ path e, t.textOf path = .error e →
      first.textOf path = .error e ∧ again.textOf path = .error e) ∧
    (∀ path text, t.textOf path = .ok text →
      ∃ s s', first.textOf path = .ok s ∧ again.textOf path = .ok s' ∧
        RepeatsLines (addedLines (o.editsOf directPath proxyPath t path)) s s' ∧
        (o.editsOf directPath proxyPath t path ≠ [] →
          s = ofLines (readLines s) ∧ s' = ofLines (readLines s'))) ∧
    ∀ path, AddressLists.loadNets again path merging =
      AddressLists.loadNets first path merging := by
  intro first again
  let F := fun path => applyAll (o.editsOf directPath proxyPath t path)
  have hfirst : Retexted F t first := o.retexted_iterate ht directPath proxyPath 1
  have hagain : Retexted (fun path => (F path)^[n + 1]) t again :=
    o.retexted_iterate ht directPath proxyPath (n + 1)
  refine ⟨?_, hagain.locate_eq, fun path e herror => ?_, fun path text htext => ?_, fun path => ?_⟩
  · have hmany := o.retexted_iterate ht directPath proxyPath n
    obtain ⟨_, hrun, -⟩ := o.exists_run_apply_retexted ht directPath proxyPath
    obtain ⟨_, hrun', -⟩ := o.exists_run_apply_retexted hmany.rooted directPath proxyPath
    rw [hrun, hrun']
    exact readable_eq hmany directPath proxyPath
  · exact ⟨hfirst.textOf_of_error herror, hagain.textOf_of_error herror⟩
  · refine ⟨_, _, hfirst.textOf_of_ok htext, hagain.textOf_of_ok htext,
      LineEdits.repeatsLines_iterate _ text n, fun hes => ⟨?_, ?_⟩⟩
    · exact (LineEdits.ofLines_readLines_applyAll hes text).symm
    · rw [Function.iterate_succ_apply']
      exact (LineEdits.ofLines_readLines_applyAll hes _).symm
  · unfold AddressLists.loadNets
    cases htext : t.textOf path with
    | error e => rw [hfirst.textOf_of_error htext, hagain.textOf_of_error htext]
    | ok text =>
      rw [hfirst.textOf_of_ok htext, hagain.textOf_of_ok htext]
      refine congrArg Except.ok (AddressLists.readNets_eq_of_mem_readLines_iff hmerging ?_)
      exact (LineEdits.repeatsLines_iterate _ text n).mem_iff

/-- A tree with one list of networks. -/
def sharedFile : FileTree where
  nodes := .ofList [(["nets"], .file (.ofText "10.0.0.0/8\n1.2.3.4"))]

/-- Overrides of which either part removes what the other one adds. -/
def opposed : Overrides where
  direct := { add := ["5.6.7.8"], remove := ["1.2.3.4"] }
  proxy := { add := ["1.2.3.4", "::1"], remove := ["5.6.7.8"] }

/-- On one file, one line is removed and added again, and another one is repeated. -/
theorem reapplying_is_harmless_sharedFile :
    sharedFile.Rooted ∧ Net.IsMerging Net.merge ∧
      (opposed.after "nets" "./nets" sharedFile).textOf "nets" =
        .ok "10.0.0.0/8\n1.2.3.4\n::1\n" ∧
      ((opposed.after "nets" "./nets")^[2] sharedFile).textOf "nets" =
        .ok "10.0.0.0/8\n::1\n1.2.3.4\n::1\n" ∧
      AddressLists.loadNets ((opposed.after "nets" "./nets")^[2] sharedFile) "nets" =
        AddressLists.loadNets (opposed.after "nets" "./nets" sharedFile) "nets" := by
  have hrooted : sharedFile.Rooted := by decide +kernel
  obtain ⟨-, -, -, -, hnets⟩ :=
    reapplying_is_harmless hrooted Net.isMerging_merge opposed "nets" "./nets" 1
  exact ⟨hrooted, Net.isMerging_merge, by decide +kernel, by decide +kernel, hnets "nets"⟩

end Overrides

end RoutingData
