import Unbundled.Proofs.FilesAside
import Unbundled.Proofs.SettingValues

namespace Unbundled.Proofs.OptionLayers

open Config Files Paths FilesAside SettingValues

/-- The file that counts, if there is one, and the names of those behind it: a given one comes before all
others, and of those in the project the first one that is a regular file. -/
inductive Selects (fs : FileSystem) (root : String) :
    Option String → Option String → List String → Prop
  | given (path) : Selects fs root (some path) (some (Path.join root path))
      (fileNames.filter fun name => name :: place root ≠ place (Path.join root path))
  | found {before name after} (hnames : fileNames = before ++ name :: after)
      (hfile : fs.isFile (Path.join root name) = true)
      (hbefore : ∀ n ∈ before, fs.isFile (Path.join root n) = false) :
      Selects fs root none (some (Path.join root name)) after
  | nothing (h : ∀ n ∈ fileNames, fs.isFile (Path.join root n) = false) : Selects fs root none none []

variable {fs fs' : FileSystem} {root : String} {explicit path : Option String} {lower : List String}

theorem exists_selects (fs : FileSystem) (root : String) (explicit : Option String) :
    ∃ path lower, Selects fs root explicit path lower := by
  cases explicit with
  | some p => exact ⟨_, _, .given p⟩
  | none =>
      cases hfind : fileNames.find? (fun n => fs.isFile (Path.join root n)) with
      | none => exact ⟨_, _, .nothing (by simpa using hfind)⟩
      | some name =>
          obtain ⟨hfile, before, after, hnames, hbefore⟩ := List.find?_eq_some_iff_append.mp hfind
          exact ⟨_, _, .found hnames hfile (by simpa using hbefore)⟩

theorem Selects.path? (h : Selects fs root explicit path lower) :
    Config.path? fs root explicit = path := by
  cases h with
  | given p => rfl
  | @found before name _ hnames hfile hbefore =>
      have hfind : fileNames.find? (fun n => fs.isFile (Path.join root n)) = some name := by
        refine List.find?_eq_some_iff_append.mpr ⟨hfile, before, _, hnames, ?_⟩
        simpa using hbefore
      rw [Config.path?, find?, List.find?_map]
      exact congrArg (Option.map (Path.join root)) hfind
  | nothing h =>
      have hfind : fileNames.find? (fun n => fs.isFile (Path.join root n)) = none := by
        simpa using h
      rw [Config.path?, find?, List.find?_map]
      exact congrArg (Option.map (Path.join root)) hfind

/-- What is asked for, or else what is said, or else the default. -/
inductive Layer {α : Type} (default : α) : Option α → Option α → α → Prop
  | asked (a said) : Layer default (some a) said a
  | said (b) : Layer default none (some b) b
  | default : Layer default none none default

/-- Each of the options comes from the first layer that has it. -/
structure Layered (asked said : Settings) (o : Options) : Prop where
  port : Layer 3000 asked.port said.port o.port
  host : Layer "127.0.0.1" asked.host said.host o.host
  index : Layer "index.html" asked.index said.index o.index

theorem layer_iff {α : Type} {default a : α} {asked said : Option α} :
    Layer default asked said a ↔ asked.getD (said.getD default) = a := by
  constructor
  · intro h
    cases h <;> rfl
  · rintro rfl
    cases asked with
    | some a => exact .asked a said
    | none =>
        cases said with
        | some b => exact .said b
        | none => exact .default

theorem layered_iff {asked said : Settings} {o : Options} :
    Layered asked said o ↔ asked.onto (said.onto {}) = o := by
  constructor
  · rintro ⟨hport, hhost, hindex⟩
    cases o
    rw [Settings.onto, Options.mk.injEq]
    exact ⟨layer_iff.mp hport, layer_iff.mp hhost, layer_iff.mp hindex⟩
  · rintro rfl
    exact ⟨layer_iff.mpr rfl, layer_iff.mpr rfl, layer_iff.mpr rfl⟩

inductive Says (fs : FileSystem) : Option String → Settings → Prop
  | nothing : Says fs none {}
  | file {path source v said} (htext : fs.readText path = .ok source)
      (hvalue : (value path source).1 = .ok v) (hholds : Holds v said) : Says fs (some path) said

inductive Fails (fs : FileSystem) : Option String → Failure → Prop
  | unreadable {path fault} (htext : fs.readText path = .error fault) :
      Fails fs (some path) (.configUnreadable path fault.message)
  | invalid {path source failure} (htext : fs.readText path = .ok source)
      (hparse : (parse path source).1 = .error failure) : Fails fs (some path) failure

def optionsOf (asked : Settings) (path : String) : Except Fault String → Noted (Except Failure Options)
  | .error fault => (.error (.configUnreadable path fault.message), [])
  | .ok source =>
    ((parse path source).1.map fun said => asked.onto (said.onto {}), (parse path source).2)

theorem options_eq (h : Config.path? fs root explicit = path) (asked : Settings) :
    options fs root explicit asked =
      path.elim (.ok (asked.onto {}), []) fun p => optionsOf asked p (fs.readText p) := by
  unfold options load
  rw [h]
  cases path with
  | none => rfl
  | some p =>
      dsimp only [Option.elim_some]
      cases fs.readText p with
      | error fault => rfl
      | ok source =>
          dsimp only [optionsOf]
          cases (parse p source).1 <;> rfl

theorem says_or_fails (fs : FileSystem) (path : Option String) :
    (∃ said, Says fs path said) ∨ ∃ e, Fails fs path e := by
  cases path with
  | none => exact .inl ⟨{}, .nothing⟩
  | some p =>
      cases htext : fs.readText p with
      | error fault => exact .inr ⟨_, .unreadable htext⟩
      | ok source =>
          cases hparse : (parse p source).1 with
          | error failure => exact .inr ⟨_, .invalid htext hparse⟩
          | ok said =>
              obtain ⟨v, hvalue, hholds⟩ := parse_eq_ok.mp hparse
              exact .inl ⟨said, .file htext hvalue hholds⟩

section

variable (hpath : Config.path? fs root explicit = path) {asked : Settings}
include hpath

theorem options_said {said : Settings} (h : Says fs path said) :
    (options fs root explicit asked).1 = .ok (asked.onto (said.onto {})) := by
  rw [options_eq hpath]
  cases h with
  | nothing => rfl
  | file htext hvalue hholds =>
      rw [Option.elim_some, htext, optionsOf, parse_eq_ok.mpr ⟨_, hvalue, hholds⟩]
      rfl

theorem options_of_fails {e : Failure} (h : Fails fs path e) :
    (options fs root explicit asked).1 = .error e := by
  rw [options_eq hpath]
  cases h with
  | unreadable htext =>
      rw [Option.elim_some, htext]
      rfl
  | invalid htext hparse =>
      rw [Option.elim_some, htext, optionsOf, hparse]
      rfl

theorem options_eq_ok {o : Options} :
    (options fs root explicit asked).1 = .ok o ↔ ∃ said, Says fs path said ∧ Layered asked said o := by
  constructor
  · intro ho
    obtain ⟨said, hsays⟩ | ⟨e, hfails⟩ := says_or_fails fs path
    · rw [options_said hpath hsays] at ho
      exact ⟨said, hsays, layered_iff.mpr (Except.ok.inj ho)⟩
    · rw [options_of_fails hpath hfails] at ho
      cases ho
  · rintro ⟨said, hsays, ho⟩
    rw [options_said hpath hsays, layered_iff.mp ho]

theorem options_eq_error {e : Failure} :
    (options fs root explicit asked).1 = .error e ↔ Fails fs path e := by
  constructor
  · intro he
    obtain ⟨said, hsays⟩ | ⟨e', hfails⟩ := says_or_fails fs path
    · rw [options_said hpath hsays] at he
      cases he
    · rw [options_of_fails hpath hfails] at he
      exact Except.error.inj he ▸ hfails
  · exact options_of_fails hpath

end

def PlacesOf (root : String) (names : List String) (p : List String) : Prop :=
  ∃ name ∈ names, p = name :: place root

theorem place_join {name : String} (h : name ∈ fileNames) :
    place (Path.join root name) = name :: place root := by
  have hname : ∀ n ∈ fileNames, Path.isAbsolute n = false ∧ plainNames n = [n] ∧ n ≠ ".." := by
    decide +kernel
  obtain ⟨habs, hplain, hparent⟩ := hname name h
  rw [place, plainNames_join root habs, hplain, List.foldl_append]
  exact if_neg hparent

theorem not_placesOf {name : String} (hname : name ∈ fileNames) {names : List String}
    (hnot : name ∉ names) : ¬PlacesOf root names (place (Path.join root name)) := by
  rintro ⟨n, hn, hplace⟩
  rw [place_join hname] at hplace
  exact hnot ((List.cons.inj hplace).1 ▸ hn)

theorem not_placesOf_before {before after : List String} {name n : String}
    (hnames : fileNames = before ++ name :: after) (hn : n ∈ before ++ [name]) :
    ¬PlacesOf root after (place (Path.join root n)) := by
  have hdistinct : fileNames.Nodup := by decide +kernel
  rw [← List.singleton_append, ← List.append_assoc] at hnames
  rw [hnames] at hdistinct
  have hmem : n ∈ fileNames := hnames ▸ List.mem_append_left _ hn
  exact not_placesOf hmem fun hafter => (List.nodup_append.mp hdistinct).2.2 n hn n hafter rfl

section

variable (h : Selects fs root explicit path lower)
  (hsame : SameBut (PlacesOf root lower) [] fs.top fs'.top)
include h hsame

theorem Selects.path?_same : Config.path? fs' root explicit = path := by
  cases h with
  | given p => rfl
  | @found before name _ hnames hfile hbefore =>
      have hisFile {n : String} (hn : n ∈ before ++ [name]) :
          fs'.isFile (Path.join root n) = fs.isFile (Path.join root n) :=
        (isFile_same hsame (not_placesOf_before hnames hn)).symm
      refine (Selects.found hnames ?_ ?_).path?
      · rwa [hisFile (by simp)]
      · intro n hn
        rw [hisFile (by simp [hn]), hbefore n hn]
  | nothing h =>
      refine (Selects.nothing fun n hn => ?_).path?
      rw [← isFile_same hsame (by simp [PlacesOf]), h n hn]

theorem Selects.readText_same {p : String} (hp : path = some p) :
    fs.readText p = fs'.readText p ∨
      (∃ rest, explicit = some rest ∧ p = Path.join root rest) ∧
        LeadsThrough (PlacesOf root lower) p ∧ Blocked (fs.readText p) ∧ Blocked (fs'.readText p) := by
  cases h with
  | given rest =>
      obtain rfl := Option.some.inj hp
      have hplace : ¬PlacesOf root (fileNames.filter fun name =>
          name :: place root ≠ place (Path.join root rest)) (place (Path.join root rest)) := by
        rintro ⟨name, hname, hplace⟩
        exact of_decide_eq_true (List.mem_filter.mp hname).2 hplace.symm
      exact (FilesAside.readText_same hsame hplace).imp_right fun h => ⟨⟨rest, rfl, rfl⟩, h⟩
  | found hnames hfile hbefore =>
      obtain rfl := Option.some.inj hp
      have hread := (readFile_same hsame (not_placesOf_before hnames (by simp))).resolve_right
        fun h => Bool.false_ne_true (h.2.1.isFile.symm.trans hfile)
      rw [Agreement.readText_eq, Agreement.readText_eq, hread]
      exact .inl rfl
  | nothing h => cases hp

end

/-- There are no options, since there is nothing at the end of the path. -/
inductive NothingAt (path : String) : Noted (Except Failure Options) → Prop
  | notFound : NothingAt path (.error (.configUnreadable path Fault.notFound.message), [])
  | notDirectory : NothingAt path (.error (.configUnreadable path Fault.notDirectory.message), [])

theorem nothingAt_optionsOf {p : String} {text : Except Fault String} (h : Blocked text)
    (asked : Settings) : NothingAt p (optionsOf asked p text) := by
  obtain rfl | rfl := h
  · exact .notFound
  · exact .notDirectory

/-- There are options if the file that counts can be read and holds settings, or if there is none, and each
option comes from the first layer that has it. A fault in the file is one whatever is asked for. File systems
that differ only in the files behind the one that counts give the same options or the same fault, with
the same notices. Only if the given path leads through one of these files may they differ in why there
is nothing at its end. -/
theorem options_layered (fs : FileSystem) (root : String) (explicit : Option String) (asked : Settings) :
    ∃ path lower, Selects fs root explicit path lower ∧
      (∀ o, (options fs root explicit asked).1 = .ok o ↔
        ∃ said, Says fs path said ∧ Layered asked said o) ∧
      (∀ e, (options fs root explicit asked).1 = .error e ↔ Fails fs path e) ∧
      ∀ fs' : FileSystem, SameBut (PlacesOf root lower) [] fs.top fs'.top →
        options fs' root explicit asked = options fs root explicit asked ∨
          ∃ given, explicit = some given ∧
            LeadsThrough (PlacesOf root lower) (Path.join root given) ∧
            NothingAt (Path.join root given) (options fs root explicit asked) ∧
            NothingAt (Path.join root given) (options fs' root explicit asked) := by
  obtain ⟨path, lower, h⟩ := exists_selects fs root explicit
  refine ⟨path, lower, h, fun o => options_eq_ok h.path?, fun e => options_eq_error h.path?, ?_⟩
  intro fs' hsame
  rw [options_eq h.path?, options_eq (h.path?_same hsame)]
  cases path with
  | none => exact .inl rfl
  | some p =>
      rw [Option.elim_some, Option.elim_some]
      obtain htext | ⟨⟨given, hgiven, rfl⟩, hleads, hblocked, hblocked'⟩ := h.readText_same hsame rfl
      · rw [htext]
        exact .inl rfl
      · exact .inr ⟨given, hgiven, hleads, nothingAt_optionsOf hblocked asked,
          nothingAt_optionsOf hblocked' asked⟩

def project (entries : List (String × Node)) : FileSystem := ⟨.dir [("app", .dir entries)]⟩

theorem place_app : place "/app" = ["app"] := by decide +kernel

theorem sameBut_project {aside : List String → Prop} {entries entries' : List (String × Node)}
    (h : ∀ name, SameEntry aside [name, "app"] (entries.lookup name) (entries'.lookup name)) :
    SameBut aside [] (project entries).top (project entries').top := by
  refine .dir fun name => ?_
  rw [List.lookup_cons, List.lookup_cons]
  by_cases hname : name = "app"
  · subst hname
    exact .same (.dir h)
  · rw [beq_false_of_ne hname]
    exact .missing _

theorem options_layered_script :
    let script : File := ⟨"export default \x7b port: 8080, host: '0.0.0.0' \x7d;\n".toUTF8, ⟨0, 0⟩⟩
    let faulty : File := ⟨"export default \x7b;\n".toUTF8, ⟨0, 0⟩⟩
    let fs := project [("esms.config.ts", .file script)]
    let fs' := project [("esms.config.ts", .file script), ("esms.config.js", .file faulty)]
    let asked : Settings := ⟨some 9000, none, none⟩
    options fs "/app" none asked = (.ok ⟨9000, "0.0.0.0", "index.html"⟩, []) ∧
      options fs' "/app" none asked = options fs "/app" none asked := by
  intro script faulty fs fs' asked
  refine ⟨by decide +kernel, ?_⟩
  obtain ⟨path, lower, hselects, -, -, hsame⟩ := options_layered fs "/app" none asked
  have hjson : fs.isFile (Path.join "/app" "esms.config.json") = false := by decide +kernel
  have hscript : fs.isFile (Path.join "/app" "esms.config.ts") = true := by decide +kernel
  have hlower : "esms.config.js" ∈ lower := by
    cases hselects with
    | @found before name _ hnames hfile hbefore =>
        cases before with
        | nil =>
            obtain ⟨rfl, -⟩ := List.cons.inj hnames
            cases hjson.symm.trans hfile
        | cons first before =>
            have hrest := (List.cons.inj hnames).2
            cases before with
            | nil =>
                obtain ⟨-, rfl⟩ := List.cons.inj hrest
                exact List.mem_singleton_self _
            | cons second before =>
                obtain ⟨rfl, -⟩ := List.cons.inj hrest
                cases (hbefore _ (by simp)).symm.trans hscript
    | nothing h => cases (h _ (by decide)).symm.trans hscript
  refine (hsame fs' (sameBut_project fun name => ?_)).resolve_right nofun
  by_cases hname : name = "esms.config.js"
  · subst hname
    exact .aside ⟨_, hlower, congrArg _ place_app.symm⟩ nofun nofun
  · rw [List.lookup_cons, List.lookup_cons, List.lookup_cons, beq_false_of_ne hname]
    cases name == "esms.config.ts" with
    | true => exact .same (.file _ _)
    | false => exact .missing _

/-- A given path that leads through a configuration file, which does not count then: the reason why the path
cannot be read depends on whether this file is there. -/
theorem options_through_file :
    let fs := project []
    let fs' := project [("esms.config.js", .file ⟨"module.exports = \x7b\x7d;\n".toUTF8, ⟨0, 0⟩⟩)]
    let path := "/app/esms.config.js/x"
    Selects fs "/app" (some "esms.config.js/x") (some path) fileNames ∧
      SameBut (PlacesOf "/app" fileNames) [] fs.top fs'.top ∧
      options fs "/app" (some "esms.config.js/x") {} =
        (.error (.configUnreadable path "No such file or directory (os error 2)"), []) ∧
      options fs' "/app" (some "esms.config.js/x") {} =
        (.error (.configUnreadable path "Not a directory (os error 20)"), []) := by
  intro fs fs' path
  have hlower : fileNames.filter (fun name =>
      name :: place "/app" ≠ place (Path.join "/app" "esms.config.js/x")) = fileNames := by
    decide +kernel
  have hselects : Selects fs "/app" _ _ _ := .given "esms.config.js/x"
  rw [hlower] at hselects
  refine ⟨hselects, sameBut_project fun name => ?_, by decide +kernel, by decide +kernel⟩
  by_cases hname : name = "esms.config.js"
  · subst hname
    exact .aside ⟨_, by decide, congrArg _ place_app.symm⟩ nofun nofun
  · rw [List.lookup_cons, beq_false_of_ne hname]
    exact .missing _

end Unbundled.Proofs.OptionLayers
