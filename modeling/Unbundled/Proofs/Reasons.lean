import Unbundled.Proofs.FileRequests
import Unbundled.Proofs.ManifestTexts
import Unbundled.Proofs.Resolved

namespace Unbundled.Proofs.Reasons

open Files FileRequests JsonGrammar ManifestTexts Resolved

variable {fs : FileSystem} {root : String}

def HoldsText (fs : FileSystem) (path text : String) : Prop :=
  ∃ f, fs.readFile path = .ok f ∧ String.fromUTF8? f.bytes = some text

def HoldsNoText (fs : FileSystem) (path : String) : Prop :=
  ∃ f, fs.readFile path = .ok f ∧ String.fromUTF8? f.bytes = none

def IsNamed (fs : FileSystem) (root name : String) : Prop :=
  ∃ suffix ∈ ["", ".ts", ".js", ".json"],
    fs.isFile (Path.join (Resolver.nodeModules root) (name ++ suffix)) = true

/-- A name stands for a package: one without a slash always, any other if there is a manifest and no
file of that name. -/
def IsPackage (fs : FileSystem) (root name : String) : Prop :=
  '/' ∉ name.toList ∨ (¬IsNamed fs root name ∧ fs.isFile (manifestPath root name) = true)

theorem readText_eq_ok {path text : String} : fs.readText path = .ok text ↔ HoldsText fs path text := by
  unfold HoldsText FileSystem.readText
  cases h : fs.readFile path with
  | error fault => simp [bind, Except.bind]
  | ok f => cases htext : String.fromUTF8? f.bytes <;> simp [bind, Except.bind, htext]

theorem readText_eq_error {path : String} :
    (∃ fault, fs.readText path = .error fault) ↔ fs.isFile path = false ∨ HoldsNoText fs path := by
  rw [← Bool.not_eq_true, isFile_iff]
  unfold HoldsNoText FileSystem.readText
  cases h : fs.readFile path with
  | error fault => simp [bind, Except.bind]
  | ok f => cases htext : String.fromUTF8? f.bytes <;> simp [bind, Except.bind, htext]

variable {name : String} {r : Resolution}

theorem ne_notFound (h : PackageEnds fs root name r) : r ≠ .unresolved .notFound := by
  cases h <;> simp

theorem manifestNotFound_iff (h : PackageEnds fs root name r) :
    r = .unresolved .manifestNotFound ↔
      fs.isFile (manifestPath root name) = false ∨ HoldsNoText fs (manifestPath root name) := by
  rw [← readText_eq_error]
  cases h <;> simp [*]

theorem manifestInvalid_iff (h : PackageEnds fs root name r) :
    (∃ fault, r = .unresolved (.manifestInvalid (manifestPath root name) fault)) ↔
      ∃ text, HoldsText fs (manifestPath root name) text ∧ ∀ m, ¬Describes text.toList m := by
  simp only [← readText_eq_ok, ← read_eq_ok]
  cases h <;> simp [*]

theorem entryNotFound_iff (h : PackageEnds fs root name r) :
    r = .unresolved .entryNotFound ↔
      ∃ text m, HoldsText fs (manifestPath root name) text ∧ Describes text.toList m ∧
        fs.isFile (Path.join (packageDir root name) m.entry) = false := by
  simp only [← readText_eq_ok, ← read_eq_ok]
  cases h <;> simp [*]

theorem probe_eq_none : Resolver.probe fs root name = none ↔ ¬IsNamed fs root name := by
  unfold Resolver.probe IsNamed Resolver.suffixes
  simp

inductive Ends (fs : FileSystem) (root name : String) : Resolution → Prop
  | named {url} (hslash : '/' ∈ name.toList) (h : IsNamed fs root name) :
      Ends fs root name (.resolved url)
  | missing (hslash : '/' ∈ name.toList) (h : ¬IsNamed fs root name)
      (hmanifest : fs.isFile (manifestPath root name) = false) :
      Ends fs root name (.unresolved .notFound)
  | package {r'} (hname : IsPackage fs root name) (h : PackageEnds fs root name r') :
      Ends fs root name r'

theorem ends_resolve (specifier : String) :
    Ends fs root (Text.withoutTrailing '/' specifier) (Resolver.resolve fs root specifier) := by
  unfold Resolver.resolve
  extract_lets name
  split
  · rename_i hslash
    have hslash : '/' ∈ name.toList := by simpa using hslash
    split
    · rename_i file hprobe
      refine .named hslash ?_
      by_contra hnamed
      rw [probe_eq_none.mpr hnamed] at hprobe
      cases hprobe
    · rename_i hprobe
      have hnamed := probe_eq_none.mp hprobe
      split
      · rename_i hmanifest
        exact .package (.inr ⟨hnamed, hmanifest⟩) packageEnds_resolvePackage
      · rename_i hmanifest
        exact .missing hslash hnamed (Bool.eq_false_iff.mpr hmanifest)
  · rename_i hslash
    exact .package (.inl (by simpa using hslash)) packageEnds_resolvePackage

theorem not_isPackage_of_isNamed (hslash : '/' ∈ name.toList) (h : IsNamed fs root name) :
    ¬IsPackage fs root name := by
  rintro (hname | ⟨hnamed, -⟩)
  · exact hname hslash
  · exact hnamed h

theorem not_isPackage_of_isFile (hslash : '/' ∈ name.toList)
    (h : fs.isFile (manifestPath root name) = false) : ¬IsPackage fs root name := by
  rintro (hname | ⟨-, hmanifest⟩)
  · exact hname hslash
  · rw [h] at hmanifest
    cases hmanifest

theorem not_describes_iff {text : List Char} : (∀ m, ¬Describes text m) ↔
    ¬IsJson text ∨ (IsJson text ∧ ∀ m, ¬Describes text m) := by
  constructor
  · intro h
    by_cases hjson : IsJson text
    · exact .inr ⟨hjson, h⟩
    · exact .inl hjson
  · rintro (hjson | ⟨-, h⟩) m
    · exact fun hm => hjson hm.isJson
    · exact h m

theorem unresolved_iff (fs : FileSystem) (root specifier : String) :
    let name := Text.withoutTrailing '/' specifier
    let manifest := manifestPath root name
    let r := Resolver.resolve fs root specifier
    (r = .unresolved .notFound ↔
      '/' ∈ name.toList ∧ ¬IsNamed fs root name ∧ fs.isFile manifest = false) ∧
    (r = .unresolved .manifestNotFound ↔
      ('/' ∉ name.toList ∧ fs.isFile manifest = false) ∨
        (IsPackage fs root name ∧ HoldsNoText fs manifest)) ∧
    ((∃ fault, r = .unresolved (.manifestInvalid manifest fault)) ↔
      IsPackage fs root name ∧ ∃ text, HoldsText fs manifest text ∧
        (¬IsJson text.toList ∨ (IsJson text.toList ∧ ∀ m, ¬Describes text.toList m))) ∧
    (r = .unresolved .entryNotFound ↔
      IsPackage fs root name ∧ ∃ text m, HoldsText fs manifest text ∧ Describes text.toList m ∧
        fs.isFile (Path.join (packageDir root name) m.entry) = false) := by
  intro name manifest r
  simp only [← not_describes_iff]
  have h : Ends fs root name r := ends_resolve specifier
  clear_value r
  cases h with
  | named hslash hnamed =>
      have hname := not_isPackage_of_isNamed hslash hnamed
      simp [hslash, hnamed, hname]
  | missing hslash hnamed hmanifest =>
      have hname := not_isPackage_of_isFile hslash hmanifest
      simp [hslash, hnamed, hname, hmanifest, manifest]
  | package hname h =>
      refine ⟨iff_of_false (ne_notFound h) ?_, ?_, ?_, ?_⟩
      · rintro ⟨hslash, -, hmanifest⟩
        exact not_isPackage_of_isFile hslash hmanifest hname
      · rw [manifestNotFound_iff h]
        refine or_congr ⟨fun hmanifest => ⟨fun hslash => ?_, hmanifest⟩, And.right⟩ ?_
        · exact not_isPackage_of_isFile hslash hmanifest hname
        · exact (and_iff_right hname).symm
      · rw [manifestInvalid_iff h, and_iff_right hname]
      · rw [entryNotFound_iff h, and_iff_right hname]

def withManifest (bytes : ByteArray) : FileSystem :=
  let package := .dir [("package.json", .file ⟨bytes, ⟨0, 0⟩⟩), ("index.js", .file ⟨.empty, ⟨0, 0⟩⟩)]
  ⟨.dir [("app", .dir [("node_modules", .dir [("pkg", package)])])]⟩

/-- A manifest that is no text counts as none, and one that is JSON but has a field of another type, or a
field twice, as no JSON, though there is an entry. -/
theorem resolve_of_odd_manifests :
    Resolver.resolve (withManifest ⟨#[0x7b, 0x7d, 0xff]⟩) "/app" "pkg" = .unresolved .manifestNotFound ∧
    Resolver.resolve (withManifest "\x7b\"main\": 5\x7d".toUTF8) "/app" "pkg" =
      .unresolved (.manifestInvalid "/app/node_modules/pkg/package.json"
        "invalid type: integer `5`, expected a string at line 1 column 10") ∧
    IsJson "\x7b\"main\": 5\x7d".toList ∧
    Resolver.resolve (withManifest "\x7b\"main\": null, \"main\": null\x7d".toUTF8) "/app" "pkg" =
      .unresolved (.manifestInvalid "/app/node_modules/pkg/package.json"
        "duplicate field `main` at line 1 column 21") ∧
    IsJson "\x7b\"main\": null, \"main\": null\x7d".toList ∧
    Resolver.resolve (withManifest "\x7b\"main\": null\x7d".toUTF8) "/app" "pkg" =
      .resolved "/node_modules/pkg/index.js" := by
  decide +kernel

end Unbundled.Proofs.Reasons
