import Unbundled.Proofs.Answers
import Unbundled.Proofs.Confinement

namespace Unbundled.Proofs.ServedPackages

open Files Affixes Paths Confinement Answers Resolved

variable {fs : FileSystem} {root : String}

/-! ## Names -/

theorem isName_nodeModules : IsName "node_modules" := by decide

theorem withoutLeading_packagesPath (name : String) :
    Text.withoutLeading "/" (Server.packagesPath ++ name) = "node_modules/" ++ name := by
  have habs : Path.isAbsolute ("node_modules" ++ ("/" ++ name)) = false :=
    isName_nodeModules.isAbsolute_append (by decide) _
  have hpath : Server.packagesPath ++ name = "/" ++ ("node_modules" ++ ("/" ++ name)) := by
    rw [← String.append_assoc, ← String.append_assoc]
    rfl
  rw [hpath, withoutLeading_slash habs, ← String.append_assoc]
  rfl

theorem packageDir_eq (root : String) {name : String} (h : Path.isAbsolute name = false) :
    packageDir root name = Server.under root (Server.packagesPath ++ name) := by
  rw [Server.under, withoutLeading_packagesPath, packageDir, Resolver.nodeModules,
    join_join root isName_nodeModules (by decide) h]
  rfl

theorem join_suffixed (root : String) {name suffix : String} (h : Path.isAbsolute name = false)
    (hsuffix : suffix ∈ Server.suffixes) :
    Path.join root (Text.withoutLeading "/" (Server.packagesPath ++ name) ++ suffix) =
      packageDir root (name ++ suffix) := by
  have habs : ∀ suffix ∈ Server.suffixes, Path.isAbsolute suffix = false := by decide
  rw [packageDir_eq root (isAbsolute_append h (habs suffix hsuffix)), Server.under,
    withoutLeading_packagesPath, withoutLeading_packagesPath, String.append_assoc]

/-! ## Requests for packages -/

def endings : List String := "" :: Server.suffixes

def ending? (fs : FileSystem) (root name : String) : Option String :=
  endings.find? fun ending => fs.isFile (packageDir root (name ++ ending))

theorem locatePackage_fst (fs : FileSystem) (root name : String) :
    (Server.locatePackage fs root (Server.packagesPath ++ name)).1 =
      match Resolver.resolve fs root name with
      | .resolved url => some ⟨Server.under root url, url⟩
      | .unresolved _ => none := by
  have hname : Text.afterPrefix? Server.packagesPath (Server.packagesPath ++ name) = some name :=
    afterPrefix?_eq_some.mpr rfl
  rw [Server.locatePackage, hname]
  dsimp only
  cases Resolver.resolve fs root name with
  | resolved url => rfl
  | unresolved reason => rfl

/-- What is behind the path of a package: a file of that name, up to an ending, else what the name is
resolved to, else a directory. -/
theorem locate_package (fs : FileSystem) (root : String) {name : String}
    (h : Path.isAbsolute name = false) :
    (Server.locate fs root (Server.packagesPath ++ name)).1 =
      match ending? fs root name with
      | some ending =>
        some ⟨packageDir root (name ++ ending), Server.packagesPath ++ (name ++ ending)⟩
      | none =>
        match Resolver.resolve fs root name with
        | .resolved url => some ⟨Server.under root url, url⟩
        | .unresolved _ =>
          if fs.exists (packageDir root name) then
            some ⟨packageDir root name, Server.packagesPath ++ name⟩
          else none := by
  have hexact := packageDir_eq root h
  have hempty : packageDir root (name ++ "") = packageDir root name := by rw [String.append_empty]
  have hfind : (Server.suffixes.find? fun suffix => fs.isFile
        (Path.join root (Text.withoutLeading "/" (Server.packagesPath ++ name) ++ suffix))) =
      Server.suffixes.find? fun suffix => fs.isFile (packageDir root (name ++ suffix)) :=
    List.find?_congr fun suffix hsuffix => by rw [join_suffixed root h hsuffix]
  unfold Server.locate ending? endings
  rw [← hexact, List.find?_cons, hempty]
  by_cases hfile : fs.isFile (packageDir root name) = true
  · rw [if_pos hfile, hfile]
    dsimp only
    rw [hempty, String.append_empty]
  · rw [if_neg hfile, hfind, Bool.eq_false_iff.mpr hfile]
    cases hending : Server.suffixes.find? fun suffix =>
        fs.isFile (packageDir root (name ++ suffix)) with
    | some suffix =>
        dsimp only
        rw [join_suffixed root h (List.mem_of_find?_eq_some hending), String.append_assoc]
    | none =>
        have hpackage := locatePackage_fst fs root name
        generalize Server.locatePackage fs root (Server.packagesPath ++ name) = located at hpackage
        generalize Resolver.resolve fs root name = resolution at hpackage ⊢
        obtain ⟨found, notices⟩ := located
        obtain rfl := hpackage
        cases resolution with
        | resolved url => rfl
        | unresolved reason => rfl

theorem resolve_of_ending {name ending : String} (h : IsName name) (hslash : '/' ∈ name.toList)
    (hending : ending? fs root name = some ending) :
    Resolver.resolve fs root name = .resolved (Server.packagesPath ++ (name ++ ending)) := by
  have hprobe : Resolver.probe fs root name = some (name ++ ending) := by
    have hsuffixes : Resolver.suffixes = endings ++ [".json"] := rfl
    have hfind : endings.find? ((fun candidate => fs.isFile (Path.join (Resolver.nodeModules root)
        candidate)) ∘ (name ++ ·)) = some ending := hending
    rw [Resolver.probe, List.find?_map, hsuffixes, List.find?_append, hfind]
    rfl
  rw [Resolver.resolve, withoutTrailing_eq_self h, if_pos (List.contains_iff_mem.mpr hslash), hprobe]
  rfl

theorem isFile_of_ending? {name ending : String} (h : ending? fs root name = some ending) :
    ending ∈ endings ∧ fs.isFile (packageDir root (name ++ ending)) = true := by
  have hfile := List.find?_some h
  exact ⟨List.mem_of_find?_eq_some h, hfile⟩

theorem resolve_eq_of_ending? {name ending : String} (hname : IsName name)
    (hfiles : '/' ∉ name.toList →
      ∀ ending ∈ endings, fs.isFile (packageDir root (name ++ ending)) = false)
    (h : ending? fs root name = some ending) :
    Resolver.resolve fs root name = .resolved (Server.packagesPath ++ (name ++ ending)) := by
  obtain ⟨hmem, hfile⟩ := isFile_of_ending? h
  have hslash : '/' ∈ name.toList := by
    refine Decidable.not_not.mp fun hslash => ?_
    rw [hfiles hslash ending hmem] at hfile
    cases hfile
  exact resolve_of_ending hname hslash h

theorem segments_packagesPath (name : String) :
    Path.segments (Server.packagesPath ++ name) = ["", "node_modules"] ++ Path.segments name :=
  segments_append_slash "/node_modules" name

/-- What the name of a package is resolved to is what a request for it finds, and if it is not
resolved to anything, there is no module to answer with. -/
theorem locate_agrees_with_resolve {name : String} (hname : IsName name)
    (habs : Path.isAbsolute name = false) (hup : ".." ∉ Path.segments name)
    (hfiles : '/' ∉ name.toList →
      ∀ ending ∈ endings, fs.isFile (packageDir root (name ++ ending)) = false) :
    (∀ url, Resolver.resolve fs root name = .resolved url →
      (Server.locate fs root (Server.packagesPath ++ name)).1 = some ⟨Server.under root url, url⟩) ∧
    ∀ reason, Resolver.resolve fs root name = .unresolved reason →
      ∀ (s : Server) (q : Query), s.root = root → q.path = Server.packagesPath ++ name →
        (s.load fs q).1 = .ok .other ∨ (s.load fs q).1 = .ok .notFound := by
  have hlocate := locate_package fs root habs
  constructor
  · intro url hurl
    rw [hlocate]
    cases hending : ending? fs root name with
    | some ending =>
        obtain ⟨hmem, -⟩ := isFile_of_ending? hending
        have hending' : ∀ ending ∈ endings, Path.isAbsolute ending = false := by decide
        rw [resolve_eq_of_ending? hname hfiles hending] at hurl
        obtain rfl := Resolution.resolved.inj hurl
        dsimp only
        rw [packageDir_eq root (isAbsolute_append habs (hending' ending hmem))]
    | none =>
        dsimp only
        rw [hurl]
  · -- neither a file nor an entry: what is left to be found is a directory
    intro reason hreason s q hroot hpath
    have hinside : ".." ∉ Path.segments q.path := by
      rw [hpath, segments_packagesPath]
      simpa using hup
    have hnone : ending? fs root name = none := by
      refine Option.eq_none_iff_forall_ne_some.mpr fun ending hending => ?_
      rw [resolve_eq_of_ending? hname hfiles hending] at hreason
      cases hreason
    have hfile : fs.isFile (packageDir root name) = false := by
      have hexact := List.find?_eq_none.mp hnone "" List.mem_cons_self
      rw [String.append_empty] at hexact
      exact Bool.eq_false_iff.mpr hexact
    rw [load_inside hinside, hroot, hpath, hlocate, hnone, hreason]
    dsimp only
    split
    · exact .inl (answerAt_of_not_file hfile)
    · exact .inr rfl

theorem locate_agrees_with_resolve_package :
    let fs := project "index.js" []
    let s : Server := ⟨"/app", {}, []⟩
    Resolver.resolve fs "/app" "pkg" = .resolved "/node_modules/pkg/index.js" ∧
      (Server.locate fs "/app" "/node_modules/pkg").1 =
        some ⟨"/app/node_modules/pkg/index.js", "/node_modules/pkg/index.js"⟩ ∧
      Resolver.resolve fs "/app" "pkg/gone" = .unresolved .notFound ∧
      ((s.load fs ⟨"/node_modules/pkg/gone", none, none⟩).1 = .ok .other ∨
        (s.load fs ⟨"/node_modules/pkg/gone", none, none⟩).1 = .ok .notFound) := by
  intro fs s
  have hresolved : Resolver.resolve fs "/app" "pkg" = .resolved "/node_modules/pkg/index.js" := by
    decide +kernel
  have hgone : Resolver.resolve fs "/app" "pkg/gone" = .unresolved .notFound := by decide +kernel
  have hfound : (Server.locate fs "/app" (Server.packagesPath ++ "pkg")).1 =
      some ⟨"/app/node_modules/pkg/index.js", "/node_modules/pkg/index.js"⟩ :=
    (locate_agrees_with_resolve (by decide) (by decide) (by decide)
      fun _ => by decide +kernel).1 _ hresolved
  have hanswer := (locate_agrees_with_resolve (by decide) (by decide) (by decide)
    fun h => absurd h (by decide)).2 _ hgone s ⟨"/node_modules/pkg/gone", none, none⟩ rfl rfl
  exact ⟨hresolved, hfound, hgone, hanswer⟩

/-! ## Requests for what names are resolved to -/

/-- The entry that the manifest of a package names goes on from the package. -/
def EntryGoesOn (fs : FileSystem) (root name : String) : Prop :=
  ∀ text m, fs.readText (manifestPath root name) = .ok text → Manifest.read text = .ok m →
    Path.isAbsolute m.entry = false

theorem packageDir_entry (root : String) {name entry : String} (hname : IsName name)
    (habs : Path.isAbsolute name = false) (hentry : Path.isAbsolute entry = false) :
    Path.join (packageDir root name) entry = packageDir root (name ++ "/" ++ entry) :=
  join_join _ hname habs hentry

theorem eq_under_of_endsAt {name file url : String} (h : EndsAt fs root name file url)
    (hname : IsName name) (habs : Path.isAbsolute name = false)
    (hentry : EntryGoesOn fs root name) : file = Server.under root url := by
  cases h with
  | file suffix hsuffix => exact packageDir_eq root (hname.isAbsolute_append habs suffix)
  | entry text m htext hread =>
      have hjoin := packageDir_entry root hname habs (hentry text m htext hread)
      rw [String.append_assoc, packageDir_eq root (hname.isAbsolute_append habs _)] at hjoin
      simp only [String.append_assoc]
      exact hjoin

theorem foldlM_step_blank {before behind : List String} (h : behind ≠ []) (s : Node × List Node) :
    (before ++ "" :: behind).foldlM Agreement.step s =
      (before ++ behind).foldlM Agreement.step s := by
  rw [List.foldlM_append, List.foldlM_append]
  refine bind_congr_ok fun s' _ => ?_
  obtain ⟨here, up⟩ := s'
  rw [List.foldlM_cons]
  cases here with
  | dir entries => rw [Agreement.step_blank (.inl rfl)]; rfl
  | file f =>
      -- a file stops the next name, too
      obtain ⟨name, names, rfl⟩ := List.exists_cons_of_ne_nil h
      rfl

theorem stat_doubled (fs : FileSystem) {a b : String}
    (h : (a ++ "/" ++ ("/" ++ b)).utf8ByteSize < maxPath) :
    fs.stat (a ++ "/" ++ ("/" ++ b)) = fs.stat (a ++ "/" ++ b) := by
  have hnul : (a ++ "/" ++ ("/" ++ b)).toList.contains '\x00' =
      (a ++ "/" ++ b).toList.contains '\x00' := by
    simp
  have hsize : (a ++ "/" ++ b).utf8ByteSize < maxPath := by
    simp only [String.utf8ByteSize_append] at h ⊢
    omega
  have hempty : ∀ c d : String, (c ++ "/" ++ d).isEmpty = false := by
    intro c d
    simp
  refine Agreement.stat_congr fs hnul ((hempty _ _).trans (hempty _ _).symm) h hsize ?_
  rw [segments_append_slash, segments_append_slash, segments_slash,
    foldlM_step_blank (segments_ne_nil b)]

theorem stat_eq_of_endsAt {file url : String} (h : EndsAt fs root "" file url)
    (hentry : EntryGoesOn fs root "") (hlong : (Server.under root url).utf8ByteSize < maxPath) :
    fs.stat (Server.under root url) = fs.stat file := by
  cases h with
  | file suffix hsuffix =>
      have habs : ∀ suffix ∈ Resolver.suffixes, Path.isAbsolute ("" ++ suffix) = false := by decide
      exact congrArg fs.stat (packageDir_eq root (habs suffix hsuffix)).symm
  | entry text m htext hread =>
      have hentry : Path.isAbsolute m.entry = false := hentry text m htext hread
      obtain ⟨start, hstart⟩ := exists_join root
      have hdir : packageDir root "" = start ++ "node_modules" ++ "/" := by
        rw [packageDir, Resolver.nodeModules, join_join root isName_nodeModules (by decide) (by decide),
          hstart _ (by decide), String.append_empty, String.append_assoc]
      have hfile : Path.join (packageDir root "") m.entry =
          start ++ "node_modules" ++ "/" ++ m.entry := by
        rw [hdir]
        exact join_of_slash (by rw [String.toList_append]; exact List.getLast?_concat) hentry
      have hunder : Server.under root (Server.packagesPath ++ ("/" ++ m.entry)) =
          start ++ "node_modules" ++ "/" ++ ("/" ++ m.entry) := by
        have habs : Path.isAbsolute ("node_modules" ++ ("/" ++ ("/" ++ m.entry))) = false :=
          isName_nodeModules.isAbsolute_append (by decide) _
        have hslash : "node_modules/" = "node_modules" ++ "/" := rfl
        rw [Server.under, withoutLeading_packagesPath, hslash, String.append_assoc, hstart _ habs]
        simp only [String.append_assoc]
      have hurl : "/node_modules/" ++ "" ++ "/" ++ m.entry =
          Server.packagesPath ++ ("/" ++ m.entry) := String.append_assoc ..
      rw [hurl, hunder] at hlong ⊢
      exact (stat_doubled fs hlong).trans (congrArg fs.stat hfile.symm)

theorem stat_under_of_endsAt {specifier file url : String} (habs : Path.isAbsolute specifier = false)
    (h : EndsAt fs root (Text.withoutTrailing '/' specifier) file url)
    (hentry : EntryGoesOn fs root (Text.withoutTrailing '/' specifier))
    (hlong : specifier = "" → (Server.under root url).utf8ByteSize < maxPath) :
    fs.stat (Server.under root url) = fs.stat file := by
  by_cases hempty : specifier = ""
  · subst hempty
    exact stat_eq_of_endsAt h hentry (hlong rfl)
  · have hname := isName_withoutTrailing habs hempty
    have habs' := isAbsolute_withoutTrailing habs '/'
    exact congrArg fs.stat (eq_under_of_endsAt h hname habs' hentry).symm

theorem locate_file {path : String} (h : fs.isFile (Server.under root path) = true) :
    Server.locate fs root path = (some ⟨Server.under root path, path⟩, []) := by
  rw [Server.locate, if_pos h]

/-- What a specifier is resolved to is the path of the file that was found for it, and a request for
that path finds the file, unless a name in the path is that of a parent: such a path is refused. -/
theorem resolved_is_served {specifier url : String} (habs : Path.isAbsolute specifier = false)
    (hentry : EntryGoesOn fs root (Text.withoutTrailing '/' specifier))
    (hlong : specifier = "" → (Server.under root url).utf8ByteSize < maxPath)
    (h : Resolver.resolve fs root specifier = .resolved url) :
    (∃ file, EndsAt fs root (Text.withoutTrailing '/' specifier) file url ∧ fs.isFile file = true ∧
      fs.stat (Server.under root url) = fs.stat file) ∧
    Server.locate fs root url = (some ⟨Server.under root url, url⟩, []) ∧
    ∀ (s : Server) (q : Query), s.root = root → q.path = url →
      ((s.load fs q).1 = .ok .notFound ↔ ".." ∈ Path.segments url) := by
  obtain ⟨file, hends, hfile⟩ := endsAt_of_resolve h
  have hstat := stat_under_of_endsAt habs hends hentry hlong
  have hunder : fs.isFile (Server.under root url) = true := by
    rw [← hfile, FileSystem.isFile, FileSystem.isFile, hstat]
  have hlocate := locate_file hunder
  refine ⟨⟨file, hends, hfile, hstat⟩, hlocate, fun s q hroot hpath => ?_⟩
  subst hroot hpath
  refine ⟨fun hload => Decidable.not_not.mp fun hinside => ?_, load_outside⟩
  rw [load_inside hinside, hlocate] at hload
  dsimp only [Option.elim_some] at hload
  exact answerAt_ne_notFound _ _ _ _ hload

theorem resolve_project : Resolver.resolve (project "./index.js" []) "/app" "pkg" =
    .resolved "/node_modules/pkg/index.js" := by
  decide +kernel

theorem resolved_is_served_package :
    let fs := project "./index.js" []
    let s : Server := ⟨"/app", {}, []⟩
    let url := "/node_modules/pkg/index.js"
    Resolver.resolve fs "/app" "pkg" = .resolved url ∧ EntryGoesOn fs "/app" "pkg" ∧
      Server.locate fs "/app" url = (some ⟨Server.under "/app" url, url⟩, []) ∧
      (s.load fs ⟨url, none, none⟩).1 ≠ .ok .notFound := by
  intro fs s url
  have hresolved : Resolver.resolve fs "/app" "pkg" = .resolved url := resolve_project
  have hname : Text.withoutTrailing '/' "pkg" = "pkg" := by decide
  have hentry : EntryGoesOn fs "/app" "pkg" := by
    intro text m htext hread
    have hmanifest : fs.readText (manifestPath "/app" "pkg") =
        .ok "\x7b\"main\": \"./index.js\"\x7d" := by decide +kernel
    obtain rfl := Except.ok.inj (hmanifest.symm.trans htext)
    have hmain : Manifest.read "\x7b\"main\": \"./index.js\"\x7d" = .ok ⟨none, some "./index.js"⟩ := by
      decide +kernel
    obtain rfl := Except.ok.inj (hmain.symm.trans hread)
    decide +kernel
  have habs : Path.isAbsolute "pkg" = false := by decide
  have hinside : ".." ∉ Path.segments url := by decide
  have hnonempty : ¬"pkg" = "" := by decide
  obtain ⟨-, hlocate, hload⟩ := resolved_is_served habs (hname.symm ▸ hentry)
    (fun h => absurd h hnonempty) hresolved
  have hanswer := hload s ⟨url, none, none⟩ rfl rfl
  exact ⟨hresolved, hentry, hlocate, mt hanswer.mp hinside⟩

/-- A path with the name of a parent is refused, whether that comes from the specifier or from the
manifest, and of an entry that is absolute without its leading `./` another path is served. -/
theorem resolved_is_refused :
    let s : Server := ⟨"/app", {}, []⟩
    ∀ c ∈ [("index.js", "pkg/../pkg/index.js", "/node_modules/pkg/../pkg/index.js"),
        ("../pkg/index.js", "pkg", "/node_modules/pkg/../pkg/index.js"),
        (".//secret.js", "pkg", "/node_modules/pkg//secret.js")],
      Resolver.resolve (project c.1 secret) "/app" c.2.1 = .resolved c.2.2 ∧
        (s.load (project c.1 secret) ⟨c.2.2, none, none⟩).1 = .ok .notFound := by
  decide +kernel

/-! ## Paths that names are resolved to, behind the root as texts -/

theorem stat_slash (fs : FileSystem) {path : String} (hne : path ≠ "")
    (h : ("/" ++ path).utf8ByteSize < maxPath) : fs.stat ("/" ++ path) = fs.stat path := by
  have hnul : ("/" ++ path).toList.contains '\x00' = path.toList.contains '\x00' := by simp
  have hsize : path.utf8ByteSize < maxPath := by
    rw [String.utf8ByteSize_append] at h
    omega
  have hslash : ("/" ++ path).isEmpty = false := by simp
  have hempty : path.isEmpty = false := by simpa using hne
  have hblank : ("" :: Path.segments path).foldlM Agreement.step (fs.top, []) =
      (Path.segments path).foldlM Agreement.step (fs.top, []) :=
    @foldlM_step_blank [] _ (segments_ne_nil path) _
  refine Agreement.stat_congr fs hnul (hslash.trans hempty.symm) h hsize ?_
  rw [segments_slash, hblank]

theorem stat_append_slash (fs : FileSystem) {path : String} (hne : path ≠ "")
    (habs : Path.isAbsolute path = false)
    (h : IsName root ∨ (root ++ ("/" ++ path)).utf8ByteSize < maxPath) :
    fs.stat (root ++ ("/" ++ path)) = fs.stat (Path.join root path) := by
  by_cases hroot : root = ""
  · subst hroot
    have hlong : ("/" ++ path).utf8ByteSize < maxPath := by
      rw [String.empty_append] at h
      exact h.resolve_left fun hname => hname.1 rfl
    have hjoin : Path.join "" path = path := by
      rw [Path.join, habs, if_neg Bool.false_ne_true, if_pos (.inl rfl), String.empty_append]
    rw [String.empty_append, hjoin, stat_slash fs hne hlong]
  · by_cases hslash : root.toList.getLast? = some '/'
    · obtain ⟨cs, hcs⟩ := List.getLast?_eq_some_iff.mp hslash
      have hroot : root = String.ofList cs ++ "/" := String.toList_inj.mp (by simpa using hcs)
      have hlong := h.resolve_left fun hname => hname.2 hslash
      rw [join_of_slash hslash habs, hroot]
      rw [hroot] at hlong
      exact stat_doubled fs hlong
    · have hend : ¬(root.isEmpty ∨ root.toList.getLast? = some '/') := by simp [hroot, hslash]
      rw [Path.join, habs, if_neg Bool.false_ne_true, if_neg hend, String.append_assoc]

theorem size_under_le {path : String} (habs : Path.isAbsolute path = false) :
    (Path.join root path).utf8ByteSize ≤ (root ++ ("/" ++ path)).utf8ByteSize := by
  rw [Path.join, habs, if_neg Bool.false_ne_true]
  split <;> simp only [String.utf8ByteSize_append] <;> omega

theorem isAbsolute_node_modules (rest : String) : Path.isAbsolute ("node_modules/" ++ rest) = false :=
  isName_nodeModules.isAbsolute_append (by decide) ("/" ++ rest)

theorem packagesPath_append (rest : String) :
    Server.packagesPath ++ rest = "/" ++ ("node_modules/" ++ rest) := by
  rw [← String.append_assoc]
  rfl

theorem stat_append_packagesPath (fs : FileSystem) {rest : String}
    (h : IsName root ∨ (root ++ (Server.packagesPath ++ rest)).utf8ByteSize < maxPath) :
    fs.stat (root ++ (Server.packagesPath ++ rest)) =
      fs.stat (Server.under root (Server.packagesPath ++ rest)) := by
  rw [Server.under, withoutLeading_packagesPath]
  rw [packagesPath_append] at h ⊢
  exact stat_append_slash fs (by simp) (isAbsolute_node_modules rest) h

theorem size_under_packagesPath_le (root rest : String) :
    (Server.under root (Server.packagesPath ++ rest)).utf8ByteSize ≤
      (root ++ (Server.packagesPath ++ rest)).utf8ByteSize := by
  rw [Server.under, withoutLeading_packagesPath, packagesPath_append]
  exact size_under_le (isAbsolute_node_modules rest)

theorem isAbsolute_of_not_entryGoesOn {name text : String} {m : Manifest}
    (h : ¬EntryGoesOn fs root name) (htext : fs.readText (manifestPath root name) = .ok text)
    (hread : Manifest.read text = .ok m) : Path.isAbsolute m.entry = true := by
  refine Bool.of_not_eq_false fun hgoes => h fun text' m' htext' hread' => ?_
  obtain rfl := Except.ok.inj (htext.symm.trans htext')
  obtain rfl := Except.ok.inj (hread.symm.trans hread')
  exact hgoes

/-- A name that is resolved is resolved to a path among the packages, which is that of a file if it
is appended to the root, unless the entry of the manifest is an absolute path: then it is the entry
that is a file. A path with one slash more than that of the file may be too long for one. -/
theorem isFile_of_resolve {specifier url : String} (habs : Path.isAbsolute specifier = false)
    (h : Resolver.resolve fs root specifier = .resolved url) :
    (∃ rest, url = "/node_modules/" ++ rest) ∧
      (fs.isFile (root ++ url) = true ∨
        (∃ text m, fs.readText (manifestPath root (Text.withoutTrailing '/' specifier)) = .ok text ∧
          Manifest.read text = .ok m ∧ Path.isAbsolute m.entry = true ∧ fs.isFile m.entry = true ∧
          url = "/node_modules/" ++ Text.withoutTrailing '/' specifier ++ "/" ++ m.entry) ∨
        ¬(IsName root ∧ specifier ≠ "") ∧ maxPath ≤ (root ++ url).utf8ByteSize) := by
  obtain ⟨file, hends, hfile⟩ := endsAt_of_resolve h
  obtain ⟨rest, hurl⟩ := hends.exists_url
  have hpath : url = Server.packagesPath ++ rest := hurl
  refine ⟨⟨rest, hurl⟩, ?_⟩
  by_cases hlong : (IsName root ∧ specifier ≠ "") ∨ (root ++ url).utf8ByteSize < maxPath
  · have hfound : fs.stat (Server.under root url) = fs.stat file → fs.isFile (root ++ url) = true := by
      intro hstat
      rw [hpath] at hlong hstat ⊢
      rw [← stat_append_packagesPath fs (hlong.imp_left And.left)] at hstat
      rw [← hfile, FileSystem.isFile, FileSystem.isFile, hstat]
    by_cases hentry : EntryGoesOn fs root (Text.withoutTrailing '/' specifier)
    · refine .inl (hfound (stat_under_of_endsAt habs hends hentry fun hempty => ?_))
      have hsize := hlong.resolve_left fun hnames => hnames.2 hempty
      rw [hpath] at hsize ⊢
      exact (size_under_packagesPath_le root rest).trans_lt hsize
    · cases hends with
      | file suffix hsuffix =>
          have hsuffixes : ∀ suffix ∈ Resolver.suffixes, Path.isAbsolute suffix = false := by decide
          have habs' := isAbsolute_append (isAbsolute_withoutTrailing habs '/')
            (hsuffixes suffix hsuffix)
          exact .inl (hfound (congrArg fs.stat (packageDir_eq root habs').symm))
      | entry text m htext hread =>
          have habs' := isAbsolute_of_not_entryGoesOn hentry htext hread
          rw [Path.join, if_pos habs'] at hfile
          exact .inr (.inl ⟨text, m, htext, hread, habs', hfile, rfl⟩)
  · rw [not_or, Nat.not_lt] at hlong
    exact .inr (.inr hlong)

theorem isFile_of_resolve_package :
    let fs := project "./index.js" []
    let url := "/node_modules/pkg/index.js"
    Path.isAbsolute "pkg" = false ∧ Resolver.resolve fs "/app" "pkg" = .resolved url ∧
      fs.isFile ("/app" ++ url) = true := by
  intro fs url
  have habs : Path.isAbsolute "pkg" = false := by decide
  have hresolved : Resolver.resolve fs "/app" "pkg" = .resolved url := resolve_project
  have hname : Text.withoutTrailing '/' "pkg" = "pkg" := by decide
  obtain ⟨-, hfile | ⟨text, m, -, -, hentry, -, hurl⟩ | ⟨hnames, -⟩⟩ :=
    isFile_of_resolve habs hresolved
  · exact ⟨habs, hresolved, hfile⟩
  · rw [hname] at hurl
    have hindex : url = "/node_modules/" ++ "pkg" ++ "/" ++ "index.js" := by decide
    have hmain : "index.js" = m.entry := (String.append_right_inj _).mp (hindex.symm.trans hurl)
    rw [← hmain] at hentry
    exact absurd hentry (by decide)
  · exact absurd (by decide) hnames

example :
    let fs := project ".//secret.js" secret
    let url := "/node_modules/pkg//secret.js"
    Resolver.resolve fs "/app" "pkg" = .resolved url ∧ fs.isFile "/secret.js" = true ∧
      fs.isFile ("/app" ++ url) = false := by
  decide +kernel

end Unbundled.Proofs.ServedPackages
