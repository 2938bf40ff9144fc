import Mathlib.Data.List.Infix
import Unbundled.Proofs.Affixes
import Unbundled.Proofs.LoadableImports

namespace Unbundled.Proofs.Wrapping

open Files Linking Loadable Script Affixes LoadableImports

def withoutShebang (text : String) : String :=
  if Text.startsWith "#!" text then
    String.ofList (text.toList.dropWhile fun c => !Text.isLineEnd c)
  else text

/-- The texts of which modules are made up. -/
structure ModuleGrammar where
  /-- A statement with the semicolon and the line end behind it. -/
  IsStatement : String → Prop
  /-- An item that starts with a word which cannot go on what is in front of it. -/
  IsItem : String → Prop
  /-- The items of a module. -/
  IsBody : String → Prop

def ModuleGrammar.IsModule (gr : ModuleGrammar) (text : String) : Prop :=
  gr.IsBody (withoutShebang text)

/-- What is relied on of the grammar of modules, which knows nothing of scopes. -/
structure ModuleGrammar.Laws (gr : ModuleGrammar) : Prop where
  not_shebang : ∀ rest, ¬gr.IsBody ("#!" ++ rest)
  statement_append : ∀ s text, gr.IsStatement s → (gr.IsBody (s ++ text) ↔ gr.IsBody text)
  append_item : ∀ text item, gr.IsBody text → gr.IsItem item → gr.IsBody (text ++ "\n" ++ item)
  isStatement_exportsLine : gr.IsStatement exportsLine
  isStatement_moduleLine : gr.IsStatement moduleLine
  isItem_defaultLine : gr.IsItem defaultLine

theorem wrapped_eq (code : String) :
    wrapped code = exportsLine ++ (moduleLine ++ (code ++ "\n" ++ defaultLine)) := by
  simp only [wrapped, String.append_assoc]

theorem isModule_wrapped {gr : ModuleGrammar} (laws : gr.Laws) (code : String) :
    gr.IsModule (wrapped code) ↔ gr.IsBody (code ++ "\n" ++ defaultLine) := by
  have hstart : Text.startsWith "#!" (wrapped code) = false := by
    rw [wrapped_eq, Text.startsWith, String.toList_append]
    rfl
  rw [ModuleGrammar.IsModule, withoutShebang, hstart, if_neg (by simp), wrapped_eq,
    laws.statement_append _ _ laws.isStatement_exportsLine,
    laws.statement_append _ _ laws.isStatement_moduleLine]

theorem isModule_wrapped_iff {gr : ModuleGrammar} (laws : gr.Laws) {code : String}
    (hcode : gr.IsModule code) :
    gr.IsModule (wrapped code) ↔ Text.startsWith "#!" code = false := by
  rw [isModule_wrapped laws]
  cases hstart : Text.startsWith "#!" code with
  | true =>
      obtain ⟨rest, rfl⟩ := startsWith_iff.mp hstart
      have hnot := laws.not_shebang (rest ++ "\n" ++ defaultLine)
      simp only [String.append_assoc] at hnot ⊢
      simpa using hnot
  | false =>
      rw [ModuleGrammar.IsModule, withoutShebang, hstart, if_neg (by simp)] at hcode
      simpa using laws.append_item code defaultLine hcode laws.isItem_defaultLine

/-- The module that a browser gets reads as one if what was printed does, unless that has a
shebang line and no export. -/
theorem ofSource_isModule_iff {gr : ModuleGrammar} (laws : gr.Laws) {fs : FileSystem}
    {root path source : String} {l : Loadable}
    (h : ofSource fs root path source = .ok l) :
    ∃ m, readSource path source = .ok m ∧
      (gr.IsModule (printed fs root path m).text →
        (gr.IsModule l.code ↔
          l.exports = true ∨ Text.startsWith "#!" (printed fs root path m).text = false)) := by
  obtain ⟨m, hm, -, hcode⟩ := ofSource_eq_ok h
  refine ⟨m, hm, fun hprinted => ?_⟩
  cases hexports : l.exports with
  | true =>
      rw [hcode, hexports, if_pos rfl]
      simpa using hprinted
  | false =>
      rw [hcode, hexports, if_neg (by simp), isModule_wrapped_iff laws hprinted]
      simp

def withoutMarks : ModuleGrammar where
  IsStatement s := '#' ∉ s.toList
  IsItem s := '#' ∉ s.toList
  IsBody text := ¬['#', '!'] <:+: text.toList

theorem infix_append_iff {s : List Char} (hs : '#' ∉ s) (text : List Char) :
    ['#', '!'] <:+: s ++ text ↔ ['#', '!'] <:+: text := by
  induction s with
  | nil => rfl
  | cons c s ih =>
      rw [List.mem_cons, not_or] at hs
      rw [List.cons_append, List.infix_cons_iff, ih hs.2]
      simp [hs.1]

theorem not_infix_append {text item : List Char} (ht : ¬['#', '!'] <:+: text)
    (hi : '#' ∉ item) : ¬['#', '!'] <:+: text ++ '\n' :: item := by
  induction text with
  | nil =>
      intro h
      have hmem : '#' ∈ '\n' :: item := h.subset List.mem_cons_self
      simp [hi] at hmem
  | cons c text ih =>
      rw [List.infix_cons_iff, not_or] at ht
      rw [List.cons_append, List.infix_cons_iff, not_or]
      refine ⟨fun h => ?_, ih ht.2⟩
      cases text with
      | nil => simp at h
      | cons d text => exact ht.1 (by simpa using h)

theorem withoutMarks_laws : withoutMarks.Laws where
  not_shebang rest h := by
    refine h ⟨[], rest.toList, ?_⟩
    rw [String.toList_append]
    rfl
  statement_append s text hs := by
    change ¬_ ↔ ¬_
    rw [String.toList_append, infix_append_iff hs]
  append_item text item ht hi := by
    change ¬_
    rw [String.append_assoc, String.toList_append, String.toList_append]
    exact not_infix_append ht hi
  isStatement_exportsLine := by
    change '#' ∉ exportsLine.toList
    decide
  isStatement_moduleLine := by
    change '#' ∉ moduleLine.toList
    decide
  isItem_defaultLine := by
    change '#' ∉ defaultLine.toList
    decide

theorem ofSource_isModule_iff_shebang :
    let source := "#!/usr/bin/env node\nmodule.exports = 1;\n"
    let l : Loadable := ⟨wrapped source, false, []⟩
    ofSource default "/" "/cli.js" source = .ok l ∧
      (∃ m, readSource "/cli.js" source = .ok m ∧
        (withoutMarks.IsModule (printed default "/" "/cli.js" m).text →
          (withoutMarks.IsModule l.code ↔ l.exports = true ∨
            Text.startsWith "#!" (printed default "/" "/cli.js" m).text = false))) ∧
      (readSource "/cli.js" l.code).toOption.isNone := by
  intro source l
  have h : ofSource default "/" "/cli.js" source = .ok l := by decide +kernel
  exact ⟨h, ofSource_isModule_iff withoutMarks_laws h, by decide +kernel⟩

end Unbundled.Proofs.Wrapping
