import Mathlib.Data.List.Find
import Unbundled.Proofs.Agreement
import Unbundled.Proofs.Resolved
import Unbundled.Proofs.Specifiers
import Unbundled.Server

namespace Unbundled.Proofs.Confinement

open Files Linking Script Affixes Paths Agreement Specifiers Resolved

variable {fs fs' : FileSystem} {root : String}

/-! ## Packages -/

theorem resolvePackage_eq (fs : FileSystem) (root name : String) :
    Resolver.resolvePackage fs root name =
      match fs.readText (manifestPath root name) with
      | .error _ => .unresolved .manifestNotFound
      | .ok text =>
        match Manifest.read text with
        | .error f => .unresolved (.manifestInvalid (manifestPath root name) (f.message text))
        | .ok m =>
          if fs.isFile (Path.join (packageDir root name) m.entry) then
            .resolved ("/node_modules/" ++ name ++ "/" ++ m.entry)
          else .unresolved .entryNotFound := by
  unfold Resolver.resolvePackage manifestPath packageDir
  extract_lets dir manifest
  cases fs.readText manifest with
  | error fault => rfl
  | ok text =>
      cases hread : Manifest.read text with
      | error fault => simp only [hread, manifest, dir]
      | ok m => simp only [hread, dir]

structure LooksAlike (fs fs' : FileSystem) (root name : String) : Prop where
  named : ∀ suffix ∈ Resolver.suffixes,
    fs.isFile (packageDir root (name ++ suffix)) = fs'.isFile (packageDir root (name ++ suffix))
  manifest : fs.isFile (manifestPath root name) = fs'.isFile (manifestPath root name)
  text : (fs.readText (manifestPath root name)).toOption =
    (fs'.readText (manifestPath root name)).toOption
  entry : ∀ text m, fs.readText (manifestPath root name) = .ok text → Manifest.read text = .ok m →
    fs.isFile (Path.join (packageDir root name) m.entry) =
      fs'.isFile (Path.join (packageDir root name) m.entry)

section

variable {name : String} (h : LooksAlike fs fs' root name)
include h

theorem LooksAlike.probe_congr : Resolver.probe fs root name = Resolver.probe fs' root name := by
  rw [Resolver.probe, Resolver.probe]
  refine List.find?_congr fun candidate hcandidate => ?_
  obtain ⟨suffix, hsuffix, rfl⟩ := List.mem_map.mp hcandidate
  exact h.named suffix hsuffix

theorem LooksAlike.resolvePackage_congr :
    Resolver.resolvePackage fs root name = Resolver.resolvePackage fs' root name := by
  rw [resolvePackage_eq, resolvePackage_eq]
  obtain ⟨e, e', htext, htext'⟩ | ⟨text, htext, htext'⟩ := toOption_cases h.text
  · rw [htext, htext']
  · rw [htext, htext']
    cases hread : Manifest.read text with
    | error fault => simp only [hread]
    | ok m => simp only [hread, h.entry text m htext hread]

end

theorem LooksAlike.resolve_congr {specifier : String}
    (h : LooksAlike fs fs' root (Text.withoutTrailing '/' specifier)) :
    Resolver.resolve fs root specifier = Resolver.resolve fs' root specifier := by
  have hmanifest := h.manifest
  rw [manifestPath, packageDir] at hmanifest
  simp only [Resolver.resolve, h.probe_congr, h.resolvePackage_congr, hmanifest]

/-- The file that the package starts with lies within the root, if its manifest names one. -/
def EntryStays (fs : FileSystem) (root name : String) : Prop :=
  ∀ text m, fs.readText (manifestPath root name) = .ok text → Manifest.read text = .ok m →
    Path.isAbsolute m.entry = false ∧ Stays ("node_modules/" ++ name ++ "/" ++ m.entry)

theorem stays_package (name : String) :
    Stays ("node_modules/" ++ name) ↔ Stay ("node_modules" :: plainNames name) := by
  have hnames : plainNames ("node_modules/" ++ name) = "node_modules" :: plainNames name :=
    plainNames_append_slash "node_modules" name
  have habs : Path.isAbsolute ("node_modules/" ++ name) = false := by
    refine Bool.eq_false_iff.mpr fun h => ?_
    obtain ⟨cs, hcs⟩ := isAbsolute_iff.mp h
    rw [String.toList_append] at hcs
    cases hcs
  rw [Stays, hnames, and_iff_right habs]

theorem within_package {name : String} (hname : Path.isAbsolute name = false)
    (h : Stays ("node_modules/" ++ name)) : Within root (packageDir root name) := by
  refine ⟨"node_modules" :: plainNames name, ?_, (stays_package name).mp h⟩
  rw [packageDir, plainNames_join _ hname, Resolver.nodeModules, plainNames_join root (by decide),
    List.append_assoc]
  rfl

theorem within_packageFile {name file : String} (hname : Path.isAbsolute name = false)
    (hfile : Path.isAbsolute file = false) (h : Stays ("node_modules/" ++ name ++ "/" ++ file)) :
    Within root (Path.join (packageDir root name) file) := by
  rw [String.append_assoc, String.append_assoc, stays_package, ← String.append_assoc,
    plainNames_append_slash] at h
  refine ⟨_, ?_, h⟩
  rw [plainNames_join _ hfile, packageDir, plainNames_join _ hname, Resolver.nodeModules,
    plainNames_join root (by decide)]
  simp only [List.append_assoc]
  rfl

theorem stays_suffixed {name suffix : String} (h : Stays ("node_modules/" ++ name))
    (hsuffix : suffix ∈ Resolver.suffixes) : Stays ("node_modules/" ++ (name ++ suffix)) := by
  rw [← String.append_assoc]
  simp only [Resolver.suffixes, List.mem_cons, List.not_mem_nil, or_false] at hsuffix
  rcases hsuffix with rfl | rfl | rfl | rfl
  · rwa [String.append_empty]
  all_goals exact h.append (by decide) (by decide)

section

variable {name : String} (hname : Path.isAbsolute name = false)
  (hstays : Stays ("node_modules/" ++ name)) (hagree : AgreeWithin root fs fs')
include hname hstays hagree

theorem looksAlike_of_stays (hentry : EntryStays fs root name) : LooksAlike fs fs' root name := by
  have hmanifest : Within root (manifestPath root name) :=
    (within_package hname hstays).join (by decide)
  have habs : ∀ suffix ∈ Resolver.suffixes, Path.isAbsolute suffix = false := by decide
  refine ⟨fun suffix hsuffix => isFile_congr (hagree _ ?_), isFile_congr (hagree _ hmanifest),
    readText_congr (hagree _ hmanifest), fun text m htext hread => isFile_congr (hagree _ ?_)⟩
  · exact within_package (isAbsolute_append hname (habs suffix hsuffix))
      (stays_suffixed hstays hsuffix)
  · obtain ⟨hentryAbs, hentryStays⟩ := hentry text m htext hread
    exact within_packageFile hname hentryAbs hentryStays

end

/-- The specifier names nothing outside of the root, and neither does the manifest of its package. -/
def NameStays (fs : FileSystem) (root specifier : String) : Prop :=
  let name := Text.withoutTrailing '/' specifier
  Path.isAbsolute name = false ∧ Stays ("node_modules/" ++ name) ∧ EntryStays fs root name

theorem resolve_congr {specifier : String} (h : NameStays fs root specifier)
    (hagree : AgreeWithin root fs fs') :
    Resolver.resolve fs root specifier = Resolver.resolve fs' root specifier := by
  obtain ⟨hname, hstays, hentry⟩ := h
  exact (looksAlike_of_stays hname hstays hagree hentry).resolve_congr

theorem within_under {path : String} (h : Stays (Text.withoutLeading "/" path)) :
    Within root (Server.under root path) :=
  (Within.refl root).join h

theorem within_resolved {specifier url : String} (h : NameStays fs root specifier)
    (hurl : Resolver.resolve fs root specifier = .resolved url) :
    Within root (Server.under root url) := by
  obtain ⟨hname, hstays, hentry⟩ := h
  have hurl' : ∃ path, url = "/" ++ path ∧ Stays path := by
    obtain ⟨file, hends, -⟩ := Resolved.endsAt_of_resolve hurl
    cases hends with
    | file suffix hsuffix =>
        exact ⟨_, by rw [← String.append_assoc]; rfl, stays_suffixed hstays hsuffix⟩
    | entry text m htext hread =>
        refine ⟨_, ?_, (hentry text m htext hread).2⟩
        simp only [← String.append_assoc]
        rfl
  obtain ⟨path, rfl, hstay⟩ := hurl'
  refine within_under ⟨isAbsolute_withoutLeading _, ?_⟩
  have hnames : plainNames ("/" ++ path) = plainNames path := plainNames_append_slash "" path
  rw [plainNames_withoutLeading, hnames]
  exact hstay.2

/-! ## Modules -/

def IsBare (specifier : String) : Prop :=
  Text.afterPrefix? "@/" specifier = none ∧ isLoadable specifier = false

instance (specifier : String) : Decidable (IsBare specifier) := inferInstanceAs (Decidable (_ ∧ _))

theorem classify_congr {specifier : String} (h : IsBare specifier → NameStays fs root specifier)
    (hagree : AgreeWithin root fs fs') :
    classify fs root specifier = classify fs' root specifier := by
  unfold classify
  split
  · rfl
  · rename_i halias
    split
    · rfl
    · rename_i hloadable
      rw [resolve_congr (h ⟨halias, by simpa using hloadable⟩) hagree]

/-- No bare specifier of the module that the text is read as names anything outside of the root. -/
def SpecifiersStay (fs : FileSystem) (root path source : String) : Prop :=
  ∀ m, readSource path source = .ok m → ∀ x ∈ specifiers m.items, IsBare x → NameStays fs root x

theorem bind_congr_ok {ε α β : Type} {x : Except ε α} {f g : α → Except ε β}
    (h : ∀ a, x = .ok a → f a = g a) : x >>= f = x >>= g := by
  cases x with
  | error e => rfl
  | ok a => exact h a rfl

theorem ofSource_congr {path source : String}
    (h : SpecifiersStay fs root path source) (hagree : AgreeWithin root fs fs') :
    Loadable.ofSource fs root path source = Loadable.ofSource fs' root path source := by
  unfold Loadable.ofSource
  refine bind_congr_ok fun m hm => ?_
  have hlink : link fs root m.items = link fs' root m.items :=
    link_congr fun x hx => classify_congr (h m hm x hx) hagree
  rw [hlink]

/-! ## Requests -/

theorem locatePackage_congr {path : String}
    (h : ∀ specifier, Text.afterPrefix? Server.packagesPath path = some specifier →
      Resolver.resolve fs root specifier = Resolver.resolve fs' root specifier) :
    Server.locatePackage fs root path = Server.locatePackage fs' root path := by
  unfold Server.locatePackage
  cases hspecifier : Text.afterPrefix? Server.packagesPath path with
  | none => rfl
  | some specifier =>
      dsimp only
      rw [h specifier hspecifier]

theorem within_suffixed {path suffix : String} (h : Stays (Text.withoutLeading "/" path))
    (hsuffix : suffix ∈ Server.suffixes) :
    Within root (Path.join root (Text.withoutLeading "/" path ++ suffix)) := by
  refine (Within.refl root).join ?_
  simp only [Server.suffixes, List.mem_cons, List.not_mem_nil, or_false] at hsuffix
  rcases hsuffix with rfl | rfl
  all_goals exact h.append (by decide) (by decide)

theorem locate_congr {path : String} (hpath : Stays (Text.withoutLeading "/" path))
    (h : ∀ specifier, Text.afterPrefix? Server.packagesPath path = some specifier →
      NameStays fs root specifier)
    (hagree : AgreeWithin root fs fs') :
    Server.locate fs root path = Server.locate fs' root path := by
  have hexact := hagree _ (within_under hpath)
  have hsuffixes : (Server.suffixes.find? fun s =>
        fs.isFile (Path.join root (Text.withoutLeading "/" path ++ s))) =
      Server.suffixes.find? fun s =>
        fs'.isFile (Path.join root (Text.withoutLeading "/" path ++ s)) :=
    List.find?_congr fun suffix hsuffix =>
      isFile_congr (hagree _ (within_suffixed hpath hsuffix))
  unfold Server.locate
  extract_lets exact
  rw [isFile_congr hexact, exists_congr hexact, hsuffixes,
    locatePackage_congr fun specifier hspecifier => resolve_congr (h specifier hspecifier) hagree]

theorem within_locatedPackage {path : String} {l : Server.Location}
    (h : ∀ specifier, Text.afterPrefix? Server.packagesPath path = some specifier →
      NameStays fs root specifier)
    (hl : (Server.locatePackage fs root path).1 = some l) : Within root l.file := by
  unfold Server.locatePackage at hl
  cases hspecifier : Text.afterPrefix? Server.packagesPath path with
  | none =>
      rw [hspecifier] at hl
      cases hl
  | some specifier =>
      rw [hspecifier] at hl
      cases hresolve : Resolver.resolve fs root specifier with
      | unresolved reason =>
          simp only [hresolve] at hl
          cases hl
      | resolved url =>
          have hwithin := within_resolved (h specifier hspecifier) hresolve
          simp only [hresolve] at hl
          generalize Server.under root url = file at hl hwithin
          obtain rfl := Option.some.inj hl
          exact hwithin

theorem locate_cases {path : String} {l : Server.Location}
    (h : (Server.locate fs root path).1 = some l) :
    l.file = Server.under root path ∨
      (∃ suffix ∈ Server.suffixes, l.file = Path.join root (Text.withoutLeading "/" path ++ suffix)) ∨
      (Server.locatePackage fs root path).1 = some l := by
  unfold Server.locate at h
  generalize Server.under root path = exact at h ⊢
  generalize Server.locatePackage fs root path = located at h ⊢
  by_cases hexact : fs.isFile exact = true
  · rw [if_pos hexact] at h
    have hfile := congrArg Server.Location.file (Option.some.inj h)
    exact .inl hfile.symm
  · rw [if_neg hexact] at h
    split at h
    · rename_i suffix hfind
      refine .inr (.inl ⟨suffix, List.mem_of_find?_eq_some hfind, ?_⟩)
      generalize Path.join root (Text.withoutLeading "/" path ++ suffix) = file at h ⊢
      exact (congrArg Server.Location.file (Option.some.inj h)).symm
    · obtain ⟨found, notices⟩ := located
      cases found with
      | some found => exact .inr (.inr h)
      | none =>
          dsimp only [Option.orElse] at h
          obtain ⟨-, hl⟩ := Option.ite_none_right_eq_some.mp h
          have hfile := congrArg Server.Location.file (Option.some.inj hl)
          exact .inl hfile.symm

theorem within_located {path : String} {l : Server.Location}
    (hpath : Stays (Text.withoutLeading "/" path))
    (h : ∀ specifier, Text.afterPrefix? Server.packagesPath path = some specifier →
      NameStays fs root specifier)
    (hl : (Server.locate fs root path).1 = some l) : Within root l.file := by
  rcases locate_cases hl with hfile | ⟨suffix, hsuffix, hfile⟩ | hpackage
  · rw [hfile]
    exact within_under hpath
  · rw [hfile]
    exact within_suffixed hpath hsuffix
  · exact within_locatedPackage h hpackage

/-- Nothing that a request leads to names a path outside of the root: not the request itself, not
the manifest of a package, and not a specifier of the module that is asked for. -/
structure Contained (s : Server) (fs : FileSystem) (q : Query) : Prop where
  request : ∀ specifier, Text.afterPrefix? Server.packagesPath q.path = some specifier →
    Path.isAbsolute specifier = false ∧
      EntryStays fs s.root (Text.withoutTrailing '/' specifier)
  source : ∀ l text m, (Server.locate fs s.root q.path).1 = some l →
    fs.readText l.file = .ok text → readSource l.path text = .ok m →
      ∀ x ∈ specifiers m.items, IsBare x →
        Stays ("node_modules/" ++ Text.withoutTrailing '/' x) ∧
          EntryStays fs s.root (Text.withoutTrailing '/' x)

variable {s : Server} {q : Query}

theorem readText_eq_of_readFile {path : String} {f : File} (h : fs.readFile path = .ok f)
    (h' : fs'.readFile path = .ok f) : fs.readText path = fs'.readText path := by
  rw [readText_eq, readText_eq, h, h']

theorem body_congr (q : Query) {path source : String}
    (h : SpecifiersStay fs root path source) (hagree : AgreeWithin root fs fs') :
    Server.body fs root q path source = Server.body fs' root q path source := by
  unfold Server.body
  rw [ofSource_congr h hagree]

theorem content_congr {l : Server.Location} {modified : Instant}
    (hread : fs.readText l.file = fs'.readText l.file)
    (h : ∀ text, fs.readText l.file = .ok text → SpecifiersStay fs s.root l.path text)
    (hagree : AgreeWithin s.root fs fs') :
    s.content fs q l modified = s.content fs' q l modified := by
  unfold Server.content
  rw [← hread]
  cases htext : fs.readText l.file with
  | error fault => rfl
  | ok text =>
      dsimp only
      rw [body_congr q (h text htext) hagree]

theorem nameStays_request (hup : ".." ∉ Path.segments q.path) (hcontained : Contained s fs q)
    {specifier : String} (h : Text.afterPrefix? Server.packagesPath q.path = some specifier) :
    NameStays fs s.root specifier := by
  obtain ⟨habs, hentry⟩ := hcontained.request specifier h
  refine ⟨isAbsolute_withoutTrailing habs '/', ?_, hentry⟩
  have hpath : Stay (plainNames q.path) :=
    stay_of_not_mem fun hmem => hup (List.mem_of_mem_filter hmem)
  have hnames : plainNames q.path = "node_modules" :: plainNames specifier := by
    rw [afterPrefix?_eq_some.mp h]
    exact plainNames_append_slash "/node_modules" specifier
  rw [stays_package, plainNames_withoutTrailing, ← hnames]
  exact hpath

theorem specifiersStay_located (hcontained : Contained s fs q) {l : Server.Location}
    (hl : (Server.locate fs s.root q.path).1 = some l) {text : String}
    (htext : fs.readText l.file = .ok text) : SpecifiersStay fs s.root l.path text := by
  intro m hm x hx hbare
  refine ⟨isAbsolute_withoutTrailing ?_ '/', hcontained.source l text m hl htext hm x hx hbare⟩
  have hloadable := hbare.2
  rw [isLoadable, Bool.or_eq_false_iff, Bool.or_eq_false_iff] at hloadable
  exact hloadable.1.2

/-- The answer to a request that leads to nothing outside of the root depends on nothing there. -/
theorem load_eq_of_agreeWithin (hcontained : Contained s fs q)
    (hagree : AgreeWithin s.root fs fs') : s.load fs q = s.load fs' q := by
  unfold Server.load
  by_cases hup : (Path.segments q.path).contains ".."
  · rw [if_pos hup, if_pos hup]
  · rw [if_neg hup, if_neg hup]
    rw [List.contains_iff_mem] at hup
    have hpath := stays_withoutLeading hup
    have hname : ∀ specifier, Text.afterPrefix? Server.packagesPath q.path = some specifier →
        NameStays fs s.root specifier := fun _ => nameStays_request hup hcontained
    have hwithin : ∀ l, (Server.locate fs s.root q.path).1 = some l → Within s.root l.file :=
      fun _ => within_located hpath hname
    have hsource : ∀ l, (Server.locate fs s.root q.path).1 = some l → ∀ text,
        fs.readText l.file = .ok text → SpecifiersStay fs s.root l.path text :=
      fun _ hl _ => specifiersStay_located hcontained hl
    rw [← locate_congr hpath hname hagree]
    generalize Server.locate fs s.root q.path = located at hwithin hsource
    obtain ⟨found, notices⟩ := located
    cases found with
    | none => rfl
    | some l =>
        dsimp only
        rcases toOption_cases (readFile_congr (hagree _ (hwithin l rfl))) with
          ⟨e, e', h, h'⟩ | ⟨f, h, h'⟩
        · rw [h, h']
        · rw [h, h']
          dsimp only
          rw [content_congr (readText_eq_of_readFile h h') (hsource l rfl) hagree]

def textFile (text : String) : Node := .file ⟨text.toUTF8, ⟨0, 0⟩⟩

def project (main : String) (beside : List (String × Node)) : FileSystem :=
  let manifest := "\x7b\"main\": \"" ++ main ++ "\"\x7d"
  let package := .dir [("package.json", textFile manifest),
    ("index.js", textFile "export * from 'pkg';\n")]
  let sources := .dir [("a.js", textFile "import 'pkg/../../../secret.js';\n")]
  ⟨.dir (("app", .dir [("node_modules", .dir [("pkg", package)]), ("src", sources)]) :: beside)⟩

def secret : List (String × Node) := [("secret.js", textFile "export default 1;\n")]

theorem project_agrees (main : String) (beside beside' : List (String × Node)) :
    AgreeWithin "/app" (project main beside) (project main beside') :=
  agreeWithin_of_stat rfl rfl

theorem load_eq_of_agreeWithin_package :
    let s : Server := ⟨"/app", {}, []⟩
    let q : Query := ⟨"/node_modules/pkg", none, none⟩
    let fs := project "index.js" secret
    let fs' := project "index.js" []
    Contained s fs q ∧ AgreeWithin s.root fs fs' ∧ s.load fs q = s.load fs' q := by
  intro s q fs fs'
  have hentry : EntryStays fs "/app" "pkg" := by
    intro text m htext hread
    have hmanifest : fs.readText (manifestPath "/app" "pkg") =
        .ok "\x7b\"main\": \"index.js\"\x7d" := by decide +kernel
    obtain rfl := Except.ok.inj (hmanifest.symm.trans htext)
    have hmain : Manifest.read "\x7b\"main\": \"index.js\"\x7d" = .ok ⟨none, some "index.js"⟩ := by
      decide +kernel
    obtain rfl := Except.ok.inj (hmain.symm.trans hread)
    decide +kernel
  have hcontained : Contained s fs q := by
    constructor
    · intro specifier h
      obtain rfl : "pkg" = specifier := by
        have hpkg : Text.afterPrefix? Server.packagesPath q.path = some "pkg" := by decide +kernel
        exact Option.some.inj (hpkg.symm.trans h)
      exact ⟨by decide +kernel, hentry⟩
    · intro l text m hl htext hm x hx hbare
      have hlocated : (Server.locate fs s.root q.path).1 =
          some ⟨"/app/node_modules/pkg/index.js", "/node_modules/pkg/index.js"⟩ := by decide +kernel
      obtain rfl := Option.some.inj (hlocated.symm.trans hl)
      have hsource : fs.readText "/app/node_modules/pkg/index.js" = .ok "export * from 'pkg';\n" := by
        decide +kernel
      obtain rfl := Except.ok.inj (hsource.symm.trans htext)
      have hnames : (readSource "/node_modules/pkg/index.js" "export * from 'pkg';\n").map
          (fun m => specifiers m.items) = .ok ["pkg"] := by decide +kernel
      rw [hm] at hnames
      have hitems : specifiers m.items = ["pkg"] := Except.ok.inj hnames
      rw [hitems] at hx
      obtain rfl := List.mem_singleton.mp hx
      exact ⟨by decide +kernel, hentry⟩
  have hagree : AgreeWithin s.root fs fs' := project_agrees "index.js" secret []
  exact ⟨hcontained, hagree, load_eq_of_agreeWithin hcontained hagree⟩

/-- A file outside of the root makes a difference if the manifest of a package leads to it, if it
is requested by its absolute path, or if a module imports it through a package. -/
theorem load_depends_on_outside :
    let s : Server := ⟨"/app", {}, []⟩
    ∀ c ∈ [("../../../secret.js", "/node_modules/pkg"), ("index.js", "/node_modules//secret.js"),
        ("index.js", "/src/a.js")],
      AgreeWithin s.root (project c.1 secret) (project c.1 []) ∧
        s.load (project c.1 secret) ⟨c.2, none, none⟩ ≠ s.load (project c.1 []) ⟨c.2, none, none⟩ := by
  intro s c hc
  refine ⟨project_agrees c.1 secret [], ?_⟩
  revert c
  decide +kernel

end Unbundled.Proofs.Confinement
