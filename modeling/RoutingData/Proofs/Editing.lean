import RoutingData.Overrides.Apply
import RoutingData.Proofs.Bytes
import RoutingData.Proofs.FileTree.Rooted
import RoutingData.Proofs.RuleText

/-!
# What edits make of rule files

In a tree where everything lies in a directory (`FileTree.Rooted`), a file that can be read can be
written: the path of a file does not end with dots or a slash, so the place that it leads to is the
place that something new would get (`FileTree.Rooted.written`). Writing a file anew leads no other
path elsewhere (`FileTree.Rewritten.locate_unchanged`). So edits of a rule file succeed whenever it
is a text, and all that they change is this file (`LineEdits.exists_run_apply`); overrides edit one
file and then the other, which may be the same one (`Overrides.apply_edits`).
-/

namespace RoutingData

namespace FileTree

variable {t t' t'' : FileTree} {a b : Address} {path part text : String} {contents old : Bytes}

/-! ### Writing a file that is there -/

/-- A path that leads to a file has a place for it and does not end with a slash, so the file can be
written. -/
theorem Rooted.written (ht : t.Rooted) (hlocate : t.locate path = .ok a)
    (hfile : t.node? a = some (.file old)) (contents : Bytes) :
    Written path contents a t (t.setNode a (.file contents)) := by
  have hdirectory : t.node? a ≠ some .directory := by simp [hfile]
  rw [locate] at hlocate
  split at hlocate
  next => cases hlocate
  next hpath =>
    have hslash : Path.endsWithSlash path = false := by
      -- after a slash there is one step more, which leads to a directory
      by_contra hslash
      rw [Bool.not_eq_false] at hslash
      rw [if_pos hslash, walk_concat_eq_ok_iff] at hlocate
      obtain ⟨d, -, hstep⟩ := hlocate
      obtain ⟨hd, hstep⟩ := step_eq_ok_iff.1 hstep
      obtain rfl : a = d := by simpa using hstep
      exact hdirectory hd
    obtain ⟨front, name, hparts, -⟩ := Path.exists_parts_append hpath hslash
    rw [if_neg (by simp [hslash]), List.append_nil, hparts, walk_concat_eq_ok_iff] at hlocate
    obtain ⟨d, hwalk, hstep⟩ := hlocate
    obtain ⟨hd, hstep⟩ := step_eq_ok_iff.1 hstep
    refine ⟨place_eq_some_iff.2 ⟨hpath, d, name, ?_⟩, hslash, hdirectory, rfl⟩
    -- dots at the end would lead to a directory, so the last part is a name
    rcases hstep with ⟨-, rfl⟩ | ⟨-, rfl⟩ | ⟨hdot, hdots, rfl, -⟩
    · exact absurd hd hdirectory
    · exact absurd (ht.dropLast (by rw [hd]; rfl)) hdirectory
    · rw [hparts, List.dropLast_concat]
      exact ⟨List.getLast?_concat, hdot, hdots, hwalk, hd, rfl⟩

/-! ### Files that are written anew -/

/-- The path leads to a file, which has become another text, and nothing else has changed. -/
structure Rewritten (path text : String) (a : Address) (t t' : FileTree) : Prop where
  /-- The path leads to the file. -/
  locate_eq : t.locate path = .ok a
  /-- It was a file before. -/
  was_file : ∃ old, t.node? a = some (.file old)
  /-- Relative paths start from the same directory. -/
  current_eq : t'.current = t.current
  /-- The file is the text, and everything else is as it was. -/
  node?_eq : ∀ b, t'.node? b = if b = a then some (.file (.ofText text)) else t.node? b

namespace Rewritten

/-- The file is the text. -/
theorem node?_self (h : Rewritten path text a t t') :
    t'.node? a = some (.file (.ofText text)) := by
  rw [h.node?_eq, if_pos rfl]

/-- Everything else is as it was. -/
theorem frame (h : Rewritten path text a t t') (hb : b ≠ a) : t'.node? b = t.node? b := by
  rw [h.node?_eq, if_neg hb]

/-- A step leads where it led before. -/
theorem step_unchanged (h : Rewritten path text a t t') (b : Address) (part : String) :
    t'.step b part = t.step b part := by
  obtain ⟨old, hold⟩ := h.was_file
  -- a step asks only what is there and whether it is a directory
  have hsome : ∀ c, (t'.node? c).isSome = (t.node? c).isSome := by
    intro c
    by_cases hc : c = a
    · rw [hc, h.node?_self, hold]
      rfl
    · rw [h.frame hc]
  unfold step
  rw [hsome]
  by_cases hb : b = a
  · rw [hb, h.node?_self, hold]
  · rw [h.frame hb]

/-- Every path leads where it led before. -/
theorem locate_unchanged (h : Rewritten path text a t t') (other : String) :
    t'.locate other = t.locate other := by
  have hstep : t'.step = t.step := funext fun b => funext (h.step_unchanged b)
  unfold locate walk
  rw [hstep, h.current_eq]

/-- Everything still lies in a directory. -/
theorem rooted (h : Rewritten path text a t t') (ht : t.Rooted) : t'.Rooted := by
  obtain ⟨old, hold⟩ := h.was_file
  intro b part hsome
  have hb : t.node? b = some .directory := by
    apply ht b part
    rw [h.node?_eq] at hsome
    split at hsome
    next hpart => rw [hpart, hold]; rfl
    next => exact hsome
  -- a directory is not the file
  have hne : b ≠ a := by
    rintro rfl
    rw [hb] at hold
    cases hold
  rw [h.frame hne, hb]

end Rewritten

/-- A path leads to a text when it leads to a file whose contents are one. -/
theorem textOf_eq_ok_iff_exists_node : t.textOf path = .ok text ↔
    ∃ a contents, t.locate path = .ok a ∧ t.node? a = some (.file contents) ∧
      contents.text? = some text := by
  simp only [textOf_eq_ok_iff, contentsOf_eq_ok_iff]
  constructor
  · rintro ⟨contents, ⟨a, hlocate, hnode⟩, htext⟩
    exact ⟨a, contents, hlocate, hnode, htext⟩
  · rintro ⟨a, contents, hlocate, hnode, htext⟩
    exact ⟨contents, ⟨a, hlocate, hnode⟩, htext⟩

/-- The new text is what is read by every path that leads to the file. -/
theorem Rewritten.textOf_of_eq {other : String} (h : Rewritten path text a t t')
    (hother : t.locate other = .ok a) : t'.textOf other = .ok text :=
  textOf_eq_ok_iff_exists_node.2
    ⟨a, _, (h.locate_unchanged other).trans hother, h.node?_self, Bytes.text?_ofText text⟩

/-- By any other path is read what was read before. -/
theorem Rewritten.textOf_of_ne {other : String} (h : Rewritten path text a t t')
    (hother : t.locate other ≠ .ok a) : t'.textOf other = t.textOf other := by
  have hread : t'.read other = t.read other := by
    unfold FileTree.read
    rw [h.locate_unchanged]
    cases hlocate : t.locate other with
    | error e => rfl
    | ok b =>
      have hb : b ≠ a := by
        rintro rfl
        exact hother hlocate
      dsimp only [bind, Except.bind]
      rw [h.frame hb]
  unfold textOf readText
  rw [hread]

/-- A file that is written anew twice has become what was written last. -/
theorem Rewritten.trans {text' : String} (h : Rewritten path text a t t')
    (h' : Rewritten path text' b t' t'') : Rewritten path text' a t t'' := by
  have hlocate := h'.locate_eq
  rw [h.locate_unchanged, h.locate_eq] at hlocate
  cases hlocate
  refine ⟨h.locate_eq, h.was_file, h'.current_eq.trans h.current_eq, fun c => ?_⟩
  rw [h'.node?_eq, h.node?_eq]
  split
  · rfl
  · rfl

end FileTree

/-! ### Edits -/

section Edits

open FileAction FileTree RuleText

variable {t : FileTree} {path text : String}

/-- Editing a file that is a text succeeds, and writes this file anew. -/
theorem FileAction.exists_run_edit (ht : t.Rooted) (htext : t.textOf path = .ok text)
    (change : String → String) :
    ∃ a t', (edit path change).run.run t = (.ok (), t') ∧
      Rewritten path (change text) a t t' := by
  obtain ⟨a, old, hlocate, hold, -⟩ := textOf_eq_ok_iff_exists_node.1 htext
  have hwritten := ht.written hlocate hold (.ofText (change text))
  have hrewritten : Rewritten path (change text) a t
      (t.setNode a (.file (.ofText (change text)))) :=
    ⟨hlocate, ⟨old, hold⟩, rfl, node?_setNode t _ (ne_nil_of_place hwritten.place_eq)⟩
  refine ⟨a, _, ?_, hrewritten⟩
  unfold edit
  rw [run_look_bind_of_ok htext]
  exact run_write_eq_ok_iff.2 (write_eq_ok_iff.2 ⟨a, hwritten⟩)

/-- Edits of a rule file succeed when it is a text, and leave in it the lines that are kept. -/
theorem LineEdits.exists_run_apply (ht : t.Rooted) (htext : t.textOf path = .ok text)
    (edits : LineEdits) :
    ∃ a t', (edits.apply path).run.run t = (.ok (), t') ∧
      Rewritten path (ofLines (edits.kept text)) a t t' := by
  obtain ⟨a, t₁, hadd, hadded⟩ := exists_run_edit ht htext (RuleText.addLines edits.add)
  -- what is to be removed is looked for in the text that was just written
  obtain ⟨b, t₂, hremove, hremoved⟩ :=
    exists_run_edit (hadded.rooted ht) (hadded.textOf_of_eq hadded.locate_eq)
      (RuleText.removeLines edits.remove)
  refine ⟨a, t₂, run_bind_eq_ok_iff.2 ⟨(), t₁, hadd, hremove⟩, ?_⟩
  rw [← edits.removeLines_addLines]
  exact hadded.trans hremoved

/-- Edits of a file that is no text, or not there, fail before anything is written. -/
theorem LineEdits.run_apply_of_error {e : BuildError} (h : t.textOf path = .error e)
    (edits : LineEdits) : (edits.apply path).run.run t = (.error e, t) := by
  have hadd : (FileAction.addLines path edits.add).run.run t = (.error e, t) :=
    run_look_bind_of_error h
  unfold LineEdits.apply
  rw [run_bind, hadd]

/-- Overrides edit the file of direct rules and then that of proxy rules. When both paths lead to
the same file, the second edits find what the first ones left. -/
theorem Overrides.exists_run_apply {directPath proxyPath direct proxy : String} (ht : t.Rooted)
    (hdirect : t.textOf directPath = .ok direct) (hproxy : t.textOf proxyPath = .ok proxy)
    (o : Overrides) :
    ∃ a b t', t.locate directPath = .ok a ∧ t.locate proxyPath = .ok b ∧
      (o.apply directPath proxyPath).run.run t = (.ok (), t') ∧ t'.current = t.current ∧
      ∀ c, t'.node? c =
        if c = b then
          some (.file (.ofText (ofLines (o.proxy.kept
            (if a = b then ofLines (o.direct.kept direct) else proxy)))))
        else if c = a then some (.file (.ofText (ofLines (o.direct.kept direct))))
        else t.node? c := by
  obtain ⟨b, -, hlocate, -, -⟩ := textOf_eq_ok_iff_exists_node.1 hproxy
  obtain ⟨a, t₁, hrun₁, h₁⟩ := o.direct.exists_run_apply ht hdirect
  have hfound : t₁.textOf proxyPath =
      .ok (if a = b then ofLines (o.direct.kept direct) else proxy) := by
    split
    next hab =>
      -- both paths lead to the file that was edited first
      exact h₁.textOf_of_eq (by rw [hlocate, hab])
    next hab =>
      refine (h₁.textOf_of_ne fun hsame => hab ?_).trans hproxy
      rw [hlocate] at hsame
      exact (Except.ok.inj hsame).symm
  obtain ⟨b', t₂, hrun₂, h₂⟩ := o.proxy.exists_run_apply (h₁.rooted ht) hfound
  obtain rfl : b' = b := by
    have hsame := h₂.locate_eq
    rw [h₁.locate_unchanged, hlocate] at hsame
    exact (Except.ok.inj hsame).symm
  refine ⟨a, b', t₂, h₁.locate_eq, hlocate, run_bind_eq_ok_iff.2 ⟨(), t₁, hrun₁, hrun₂⟩,
    h₂.current_eq.trans h₁.current_eq, fun c => ?_⟩
  rw [h₂.node?_eq, h₁.node?_eq]

/-- Edits of a rule file that is a text succeed. The file then holds the lines that are kept, a line
feed after each, and nothing else has changed; a file that is no text is left alone. What is kept is
what was read of the text and then of each addition, without the lines to remove, and it is what is
read of the file from now on. Overrides are the edits of one file and then of the other. -/
theorem Overrides.apply_edits (ht : t.Rooted) :
    (∀ (edits : LineEdits) (path text : String), t.textOf path = .ok text →
      ∃ a t', (edits.apply path).run.run t = (.ok (), t') ∧
        Rewritten path (ofLines (edits.kept text)) a t t') ∧
    (∀ (edits : LineEdits) (path : String) e, t.textOf path = .error e →
      (edits.apply path).run.run t = (.error e, t)) ∧
    (∀ (edits : LineEdits) (text : String),
      readLines (ofLines (edits.kept text)) = edits.kept text ∧
        (∀ line ∈ edits.kept text, line ∉ edits.remove) ∧
        edits.kept text = (readLines text).filter (· ∉ edits.remove) ++
          (edits.add.flatMap readLines).filter (· ∉ edits.remove)) ∧
    ∀ (o : Overrides) (directPath proxyPath direct proxy : String),
      t.textOf directPath = .ok direct → t.textOf proxyPath = .ok proxy →
      ∃ a b t', t.locate directPath = .ok a ∧ t.locate proxyPath = .ok b ∧
        (o.apply directPath proxyPath).run.run t = (.ok (), t') ∧ t'.current = t.current ∧
        ∀ c, t'.node? c =
          if c = b then
            some (.file (.ofText (ofLines (o.proxy.kept
              (if a = b then ofLines (o.direct.kept direct) else proxy)))))
          else if c = a then some (.file (.ofText (ofLines (o.direct.kept direct))))
          else t.node? c :=
  ⟨fun edits _ _ htext => edits.exists_run_apply ht htext,
    fun edits _ _ h => edits.run_apply_of_error h,
    fun edits text => ⟨edits.readLines_ofLines_kept text,
      fun _ hline => (LineEdits.of_mem_kept hline).1, List.filter_append ..⟩,
    fun o _ _ _ _ hdirect hproxy => o.exists_run_apply ht hdirect hproxy⟩

/-- A rule file with a repeated line and without a line feed at its end. -/
def directRules : String := "full:a.com\r\n\n  b.com \nfull:a.com\nc.com"

/-- Two rule files. -/
def ruleFiles : FileTree where
  nodes := .ofList [
    (["direct"], .file (.ofText directRules)),
    (["proxy"], .file (.ofText "d.com\n"))]

/-- Overrides with additions that are blank, padded, repeated or several lines in one. -/
def ruleOverrides : Overrides where
  direct := { add := ["", " e.com\t\r", "f.com\nb.com\r\n\n c.com"], remove := ["c.com", " b.com"] }
  proxy := { add := ["g.com", "g.com"], remove := ["b.com", "d.com"] }

/-- Of what is added only the lines that are to be removed as they stand are not kept. On one file
the second edits remove what the first ones have kept. -/
theorem Overrides.apply_edits_ruleFiles :
    (∃ t', (ruleOverrides.apply "direct" "proxy").run.run ruleFiles = (.ok (), t') ∧
      t'.node? ["direct"] = some (.file (.ofText
        (ofLines ["full:a.com", "b.com", "full:a.com", "e.com", "f.com", "b.com"]))) ∧
      t'.node? ["proxy"] = some (.file (.ofText (ofLines ["g.com", "g.com"])))) ∧
    ∃ t', (ruleOverrides.apply "direct" "./direct").run.run ruleFiles = (.ok (), t') ∧
      t'.node? ["direct"] = some (.file (.ofText
        (ofLines ["full:a.com", "full:a.com", "e.com", "f.com", "g.com", "g.com"]))) := by
  have hrooted : ruleFiles.Rooted := by decide +kernel
  have hdirect : ruleFiles.textOf "direct" = .ok directRules := by decide +kernel
  have hkept : ruleOverrides.direct.kept directRules =
      ["full:a.com", "b.com", "full:a.com", "e.com", "f.com", "b.com"] := by
    decide +kernel
  have hlocate : ruleFiles.locate "direct" = .ok ["direct"] := by decide +kernel
  obtain ⟨-, -, -, happly⟩ := apply_edits hrooted
  constructor
  · have hproxy : ruleFiles.textOf "proxy" = .ok "d.com\n" := by decide +kernel
    have hother : ruleFiles.locate "proxy" = .ok ["proxy"] := by decide +kernel
    have hkept' : ruleOverrides.proxy.kept "d.com\n" = ["g.com", "g.com"] := by decide +kernel
    obtain ⟨a, b, t', ha, hb, hrun, -, hnode⟩ := happly ruleOverrides _ _ _ _ hdirect hproxy
    obtain rfl := Except.ok.inj (hlocate.symm.trans ha)
    obtain rfl := Except.ok.inj (hother.symm.trans hb)
    refine ⟨t', hrun, ?_, ?_⟩
    · rw [hnode, if_neg (by decide), if_pos rfl, hkept]
    · rw [hnode, if_pos rfl, if_neg (by decide), hkept']
  · have hproxy : ruleFiles.textOf "./direct" = .ok directRules := by decide +kernel
    have hother : ruleFiles.locate "./direct" = .ok ["direct"] := by decide +kernel
    have hkept' : ruleOverrides.proxy.kept
        (ofLines ["full:a.com", "b.com", "full:a.com", "e.com", "f.com", "b.com"]) =
          ["full:a.com", "full:a.com", "e.com", "f.com", "g.com", "g.com"] := by
      decide +kernel
    obtain ⟨a, b, t', ha, hb, hrun, -, hnode⟩ := happly ruleOverrides _ _ _ _ hdirect hproxy
    obtain rfl := Except.ok.inj (hlocate.symm.trans ha)
    obtain rfl := Except.ok.inj (hother.symm.trans hb)
    refine ⟨t', hrun, ?_⟩
    rw [hnode, if_pos rfl, if_pos rfl, hkept, hkept']

end Edits

end RoutingData
