import Unbundled.Proofs.Confinement
import Unbundled.Proofs.Revalidation

namespace Unbundled.Proofs.NewerFiles

open Files Paths Agreement Confinement Answers Resolved Revalidation

/-! ## A file written anew -/

/-- The node after the file that some names lead to, if there is one, has been written anew. -/
def revise (f : File) : List String → Node → Node
  | [], .file _ => .file f
  | name :: names, .dir entries =>
    match entries.lookup name with
    | some node => .dir (setEntry name (revise f names node) entries)
    | none => .dir entries
  | _, node => node

def rewritten (fs : FileSystem) (path : String) (f : File) : FileSystem :=
  ⟨revise f (place path).reverse fs.top⟩

theorem lookup_setEntry (name : String) (node : Node) (entries : List (String × Node))
    (other : String) :
    (setEntry name node entries).lookup other =
      if other = name then some node else entries.lookup other := by
  induction entries with
  | nil =>
      rw [setEntry, List.lookup_cons, List.lookup_nil]
      cases h : other == name <;> simpa using h
  | cons entry entries ih =>
      obtain ⟨n, old⟩ := entry
      rw [setEntry]
      by_cases hn : n = name
      · subst hn
        rw [if_pos rfl, List.lookup_cons, List.lookup_cons]
        cases h : other == n <;> simp_all
      · rw [if_neg hn, List.lookup_cons, List.lookup_cons, ih]
        cases h : other == n <;> simp_all

section

variable (f : File) (target : List String)

/-- The names that are left on the way to the target from a place that is on it. -/
def remaining : List String → Option (List String)
  | [] => some target
  | name :: place =>
    match remaining place with
    | some (next :: names) => if name = next then some names else none
    | _ => none

theorem remaining_eq_some {place names : List String} :
    remaining target place = some names ↔ place.reverse ++ names = target := by
  induction place generalizing names with
  | nil =>
      rw [remaining, List.reverse_nil, List.nil_append]
      exact ⟨fun h => (Option.some.inj h).symm, fun h => congrArg some h.symm⟩
  | cons name place ih =>
      rw [List.reverse_cons, List.append_assoc, List.singleton_append, ← ih, remaining]
      constructor
      · intro h
        split at h
        · rename_i next names' hplace
          obtain ⟨rfl, hnames⟩ := Option.ite_none_right_eq_some.mp h
          rw [hplace, Option.some.inj hnames]
        · cases h
      · intro h
        rw [h]
        exact if_pos rfl

theorem remaining_cons {name : String} {place names : List String} :
    remaining target (name :: place) = some names ↔ remaining target place = some (name :: names) := by
  rw [remaining_eq_some, remaining_eq_some, List.reverse_cons, List.append_assoc,
    List.singleton_append]

def revised (place : List String) (node : Node) : Node :=
  (remaining target place).elim node (revise f · node)

theorem revised_on_way {place names : List String} (h : remaining target place = some names)
    (node : Node) : revised f target place node = revise f names node := by rw [revised, h]; rfl

theorem revised_off_way {place : List String} (h : remaining target place = none) :
    revised f target place = id := by
  funext node
  rw [revised, h]
  rfl

theorem revised_file (place : List String) (g : File) :
    revised f target place (.file g) = .file (if place.reverse = target then f else g) := by
  have hplace := @remaining_eq_some target place []
  rw [List.append_nil] at hplace
  cases hrest : remaining target place with
  | none =>
      rw [revised_off_way f target hrest, if_neg (mt hplace.mpr (by simp [hrest]))]
      rfl
  | some names =>
      rw [revised_on_way f target hrest]
      cases names with
      | nil =>
          rw [if_pos (hplace.mp hrest)]
          rfl
      | cons name names =>
          rw [if_neg (mt hplace.mpr (by simp [hrest]))]
          rfl

theorem exists_revised_dir (place : List String) (entries : List (String × Node)) :
    ∃ entries', revised f target place (.dir entries) = .dir entries' ∧
      ∀ name, entries'.lookup name = (entries.lookup name).map (revised f target (name :: place)) := by
  -- an entry off the way to the target stays as it is
  have hoff : ∀ name, (∀ names, remaining target place ≠ some (name :: names)) →
      (entries.lookup name).map (revised f target (name :: place)) = entries.lookup name := by
    intro name hname
    have hnone : remaining target (name :: place) = none :=
      Option.eq_none_iff_forall_ne_some.mpr fun names h =>
        hname names ((remaining_cons target).mp h)
    rw [revised_off_way f target hnone, Option.map_id, id]
  cases hrest : remaining target place with
  | none =>
      refine ⟨entries, by rw [revised_off_way f target hrest, id], fun name => ?_⟩
      exact (hoff name (by simp [hrest])).symm
  | some names =>
      rw [revised_on_way f target hrest]
      cases names with
      | nil => exact ⟨entries, rfl, fun name => (hoff name (by simp [hrest])).symm⟩
      | cons next names =>
          have hoff' : ∀ name, name ≠ next →
              (entries.lookup name).map (revised f target (name :: place)) = entries.lookup name :=
            fun name hname => hoff name (by simp [hrest, Ne.symm hname])
          rw [revise]
          cases hlookup : entries.lookup next with
          | none =>
              refine ⟨entries, rfl, fun name => ?_⟩
              by_cases hname : name = next
              · rw [hname, hlookup]
                rfl
              · exact (hoff' name hname).symm
          | some node =>
              refine ⟨_, rfl, fun name => ?_⟩
              rw [lookup_setEntry]
              by_cases hname : name = next
              · have hnext : remaining target (next :: place) = some names :=
                  (remaining_cons target).mpr hrest
                rw [if_pos hname, hname, hlookup, Option.map_some, revised_on_way f target hnext]
              · rw [if_neg hname]
                exact (hoff' name hname).symm

def revisedUp : List String → List Node → List Node
  | _, [] => []
  | place, node :: up => revised f target (place.drop 1) node :: revisedUp (place.drop 1) up

def revisedState (place : List String) (s : Node × List Node) : Node × List Node :=
  (revised f target place s.1, revisedUp f target place s.2)

def goOn (place : List String) (name : String) : List String :=
  if name = "" ∨ name = "." then place else descend place name

theorem step_revisedState {place : List String} {s : Node × List Node}
    (h : s.2.length = place.length) (name : String) :
    step (revisedState f target place s) name =
        (step s name).map (revisedState f target (goOn place name)) ∧
      ∀ s', step s name = .ok s' → s'.2.length = (goOn place name).length := by
  obtain ⟨here, up⟩ := s
  cases here with
  | file g =>
      rw [revisedState, revised_file]
      exact ⟨rfl, fun _ hs' => by cases hs'⟩
  | dir entries =>
      obtain ⟨entries', hentries, hlookup⟩ := exists_revised_dir f target place entries
      have hstate : revisedState f target place (.dir entries, up) =
          (.dir entries', revisedUp f target place up) := by rw [revisedState, hentries]
      rw [hstate, step_dir, step_dir, goOn]
      by_cases hblank : name = "" ∨ name = "."
      · rw [if_pos hblank, if_pos hblank, if_pos hblank]
        refine ⟨congrArg Except.ok hstate.symm, fun s' hs' => ?_⟩
        obtain rfl := Except.ok.inj hs'
        exact h
      · rw [if_neg hblank, if_neg hblank, if_neg hblank, descend]
        by_cases hup : name = ".."
        · rw [if_pos hup, if_pos hup, if_pos hup]
          cases up with
          | nil =>
              -- the parent of the top is the top
              obtain rfl : place = [] := List.eq_nil_of_length_eq_zero h.symm
              refine ⟨congrArg Except.ok hstate.symm, fun s' hs' => ?_⟩
              obtain rfl := Except.ok.inj hs'
              rfl
          | cons parent up =>
              refine ⟨rfl, fun s' hs' => ?_⟩
              obtain rfl := Except.ok.inj hs'
              rw [List.length_drop, ← h]
              rfl
        · rw [if_neg hup, if_neg hup, if_neg hup]
          by_cases hlong : name.utf8ByteSize > maxName
          · rw [if_pos hlong, if_pos hlong]
            exact ⟨rfl, fun _ hs' => by cases hs'⟩
          · rw [if_neg hlong, if_neg hlong, hlookup]
            cases entries.lookup name with
            | none => exact ⟨rfl, fun _ hs' => by cases hs'⟩
            | some node =>
                refine ⟨?_, fun s' hs' => ?_⟩
                · rw [← hentries]
                  rfl
                · obtain rfl := Except.ok.inj hs'
                  exact congrArg (· + 1) h

theorem foldlM_revisedState {place : List String} {s : Node × List Node}
    (h : s.2.length = place.length) (names : List String) :
    names.foldlM step (revisedState f target place s) =
      (names.foldlM step s).map (revisedState f target (names.foldl goOn place)) := by
  induction names generalizing place s with
  | nil => rfl
  | cons name names ih =>
      obtain ⟨hstep, hdepth⟩ := step_revisedState f target h name
      rw [List.foldlM_cons, List.foldlM_cons, List.foldl_cons, hstep]
      cases hs : step s name with
      | error e => rfl
      | ok s' => exact ih (hdepth s' hs)

end

variable {fs : FileSystem} {root : String}

theorem place_eq (path : String) : place path = (Path.segments path).foldl goOn [] := by
  rw [place, plainNames, List.foldl_filter]
  refine congrArg (fun step => (Path.segments path).foldl step []) ?_
  funext names name
  by_cases hblank : name = "" ∨ name = "."
  · simp [goOn, not_or.symm, hblank]
  · simp [goOn, not_or.mp hblank]

theorem stat_rewritten (fs : FileSystem) (path : String) (f : File) (other : String) :
    (rewritten fs path f).stat other =
      (fs.stat other).map (revised f (place path).reverse (place other)) := by
  obtain ⟨e, hfault⟩ | hfollowed := stat_cases other
  · rw [hfault, hfault]
    rfl
  · have htop : ((rewritten fs path f).top, []) =
        revisedState f (place path).reverse [] (fs.top, []) := rfl
    rw [stat_of_isFollowed _ hfollowed, stat_of_isFollowed _ hfollowed, htop,
      foldlM_revisedState f _ rfl, ← place_eq]
    cases (Path.segments other).foldlM step (fs.top, []) <;> rfl

/-- What has been written anew is found where the old file was, and nothing else has changed. -/
theorem readFile_rewritten (fs : FileSystem) (path : String) (f : File) (other : String) :
    (rewritten fs path f).readFile other =
      (fs.readFile other).map fun g => if place other = place path then f else g := by
  unfold FileSystem.readFile
  rw [stat_rewritten]
  cases fs.stat other with
  | error e => rfl
  | ok node =>
      cases node with
      | file g => simp [Except.map, revised_file]
      | dir entries =>
          obtain ⟨entries', hentries, -⟩ :=
            exists_revised_dir f (place path).reverse (place other) entries
          simp [Except.map, hentries]

example : (rewritten sources "/app/src/app.js" ⟨"2;\n".toUTF8, ⟨1600000001, 0⟩⟩).readText
    "/app/./src//app.js" = .ok "2;\n" := by
  decide +kernel

theorem isFile_rewritten (fs : FileSystem) (path : String) (f : File) (other : String) :
    (rewritten fs path f).isFile other = fs.isFile other := by
  rw [isFile_eq, isFile_eq, ← readFile_eq, ← readFile_eq, readFile_rewritten]
  cases fs.readFile other <;> rfl

theorem exists_rewritten (fs : FileSystem) (path : String) (f : File) (other : String) :
    (rewritten fs path f).exists other = fs.exists other := by
  unfold FileSystem.exists
  rw [stat_rewritten]
  cases fs.stat other <;> rfl

theorem readFile_rewritten_of_ne {path other : String} (f : File) (h : place other ≠ place path) :
    (rewritten fs path f).readFile other = fs.readFile other := by
  rw [readFile_rewritten]
  simp only [if_neg h]
  cases fs.readFile other <;> rfl

theorem eq_of_readFile_rewritten {path other : String} {f g : File} (h : place other = place path)
    (hread : (rewritten fs path f).readFile other = .ok g) : g = f := by
  rw [readFile_rewritten] at hread
  simp only [if_pos h] at hread
  cases hold : fs.readFile other with
  | error e =>
      rw [hold] at hread
      cases hread
  | ok old =>
      rw [hold] at hread
      exact (Except.ok.inj hread).symm

theorem readText_rewritten {path other : String} (f : File)
    (h : ¬(fs.isFile other = true ∧ place other = place path)) :
    (rewritten fs path f).readText other = fs.readText other := by
  have hread : (rewritten fs path f).readFile other = fs.readFile other := by
    by_cases hplace : place other = place path
    · have hfile : fs.isFile other = false := Bool.of_not_eq_true fun hfile => h ⟨hfile, hplace⟩
      rw [readFile_rewritten]
      rw [isFile_eq, ← readFile_eq] at hfile
      cases hread : fs.readFile other with
      | error e => rfl
      | ok g =>
          rw [hread] at hfile
          cases hfile
    · exact readFile_rewritten_of_ne f hplace
  rw [readText_eq, readText_eq, hread]

/-! ## What requests lead to -/

/-- The file at a path is the manifest of the package that a name is that of. -/
def IsManifest (fs : FileSystem) (root name path : String) : Prop :=
  let manifest := manifestPath root (Text.withoutTrailing '/' name)
  fs.isFile manifest = true ∧ place manifest = place path

theorem resolve_rewritten {name path : String} (f : File) (h : ¬IsManifest fs root name path) :
    Resolver.resolve (rewritten fs path f) root name = Resolver.resolve fs root name := by
  refine LooksAlike.resolve_congr ⟨fun _ _ => ?_, ?_, ?_, fun _ _ _ _ => ?_⟩
  · exact isFile_rewritten ..
  · exact isFile_rewritten ..
  · exact congrArg Except.toOption (readText_rewritten f h)
  · exact isFile_rewritten ..

/-- A request leads to the same location after a file has been written anew, unless that is the
manifest of the package the request is for. -/
theorem locate_rewritten {path file : String} (f : File)
    (h : ∀ name, path = Server.packagesPath ++ name → ¬IsManifest fs root name file) :
    Server.locate (rewritten fs file f) root path = Server.locate fs root path := by
  have hpackage : Server.locatePackage (rewritten fs file f) root path =
      Server.locatePackage fs root path :=
    locatePackage_congr fun name hname =>
      resolve_rewritten f (h name (Affixes.afterPrefix?_eq_some.mp hname))
  simp only [Server.locate, isFile_rewritten, exists_rewritten, hpackage]

/-! ## Requests with the date of the last answer -/

variable {s : Server} {q : Query} {l : Server.Location} {f : File}

/-- With the date of a module that has been sent, the answer is that it has not been modified. After
its file has been written anew, at least a second later, that is the answer only if the file is the
manifest of the package that the request is for and has come to lead the request to another file,
one that was there before and is not newer than the file that was sent. -/
theorem notModified_until_newer {c : Content} {date : String} (hserved : IsServed s fs q l f)
    (h : (s.load fs q).1 = .ok (.content c)) (hdate : c.lastModified = some date)
    (hyear : 0 ≤ (Date.ofNumber (f.modified.seconds / HttpDate.daySeconds)).year ∧
      (Date.ofNumber (f.modified.seconds / HttpDate.daySeconds)).year ≤ 9999) :
    (s.load fs { q with ifModifiedSince := some date }).1 = .ok .notModified ∧
      ∀ f' : File, f.modified.seconds + 1 ≤ f'.modified.seconds →
        (s.load (rewritten fs l.file f') { q with ifModifiedSince := some date }).1 =
          .ok .notModified →
        (∃ name, q.path = Server.packagesPath ++ name ∧ IsManifest fs s.root name l.file) ∧
          ∃ l' g, IsServed s (rewritten fs l.file f') q l' g ∧ place l'.file ≠ place l.file ∧
            fs.readFile l'.file = .ok g ∧ g.modified.seconds ≤ f.modified.seconds := by
  have htext : HttpDate.text? f.modified = some date := (lastModified_eq hserved h).symm.trans hdate
  constructor
  · have hparse : HttpDate.parse? date =
        some ⟨f.modified.seconds, f.modified.nanos / 1000000000 * 1000000000⟩ :=
      (HttpDates.parse?_text? htext).trans (if_pos hyear)
    refine load_eq_notModified_iff.mpr ⟨l, f, hserved.of_path rfl, ?_⟩
    rw [Server.isFresh, Option.bind_some, hparse]
    exact decide_eq_true (le_refl f.modified.seconds)
  · intro f' hlater hload
    obtain ⟨l', g, hserved', hfresh⟩ := load_eq_notModified_iff.mp hload
    rw [← htext] at hfresh
    have hle := seconds_le_of_isFresh hfresh
    -- the file that has been written anew is newer than the date
    have hplace : place l'.file ≠ place l.file := by
      intro hplace
      obtain rfl := eq_of_readFile_rewritten hplace hserved'.read
      omega
    refine ⟨?_, l', g, hserved'.of_path rfl, hplace, ?_, hle⟩
    · by_contra hmanifest
      have hlocate : Server.locate (rewritten fs l.file f') s.root q.path =
          Server.locate fs s.root q.path :=
        locate_rewritten f' fun name hname hm => hmanifest ⟨name, hname, hm⟩
      have hlocated := hserved'.located
      rw [hlocate, hserved.located] at hlocated
      exact hplace (congrArg (place ∘ Server.Location.file) (Option.some.inj hlocated)).symm
    · exact (readFile_rewritten_of_ne f' hplace).symm.trans hserved'.read

theorem notModified_until_newer_script :
    let s : Server := ⟨"/app", {}, []⟩
    let q : Query := ⟨"/src/app", none, none⟩
    let file := "/app/src/app.js"
    let f' : File := ⟨"export default 2;\n".toUTF8, ⟨1600000001, 0⟩⟩
    let date := "Sun, 13 Sep 2020 12:26:40 GMT"
    (∃ c, (s.load sources q).1 = .ok (.content c) ∧ c.lastModified = some date) ∧
      (s.load sources { q with ifModifiedSince := some date }).1 = .ok .notModified ∧
      (s.load (rewritten sources file f') { q with ifModifiedSince := some date }).1 ≠
        .ok .notModified := by
  intro s q file f' date
  have hload : (s.load sources q).1 =
      .ok (.content (sent "var a = \x7b\x7d;\nexport default a;\n" "/src/app.js")) := by
    decide +kernel
  have hlocate : (Server.locate sources "/app" "/src/app").1 = some ⟨file, "/src/app.js"⟩ := by
    decide +kernel
  have hmodified : (sources.readFile file).map (·.modified) = .ok ⟨1600000000, 0⟩ := by
    decide +kernel
  obtain ⟨l, f, hserved, -, -⟩ := load_eq_content_iff.mp hload
  obtain rfl := Option.some.inj (hserved.located.symm.trans hlocate)
  rw [hserved.read] at hmodified
  have hf : f.modified = ⟨1600000000, 0⟩ := Except.ok.inj hmodified
  have hyear : 0 ≤ (Date.ofNumber (f.modified.seconds / HttpDate.daySeconds)).year ∧
      (Date.ofNumber (f.modified.seconds / HttpDate.daySeconds)).year ≤ 9999 := by
    rw [hf]
    decide +kernel
  obtain ⟨hsame, hnewer⟩ := notModified_until_newer hserved hload rfl hyear
  refine ⟨⟨_, hload, rfl⟩, hsame, fun hload' => ?_⟩
  obtain ⟨⟨name, hname, -⟩, -⟩ := hnewer f' (by rw [hf]; decide) hload'
  have hpath : Text.afterPrefix? Server.packagesPath "/src/app" = none := by decide +kernel
  rw [Affixes.afterPrefix?_eq_some.mpr hname] at hpath
  cases hpath

def selfDescribed : FileSystem :=
  (FileSystem.put ⟨.dir []⟩ "/app/node_modules/pkg/package.json"
    (written "\x7b\"main\": \"package.json\"\x7d" 1600000000)).put
    "/app/node_modules/pkg/old.js" (written "export default 1;\n" 1500000000)

/-- The manifest of a package has been sent, and has then been written anew, a second later, to name an
older file: the answer is that the package has not been modified, though what is sent for it has. -/
theorem notModified_of_newer_manifest :
    let s : Server := ⟨"/app", {}, []⟩
    let q : Query := ⟨"/node_modules/pkg", none, none⟩
    let file := "/app/node_modules/pkg/package.json"
    let fs' := rewritten selfDescribed file
      ⟨"\x7b\"main\": \"old.js\"\x7d".toUTF8, ⟨1600000001, 0⟩⟩
    let date := "Sun, 13 Sep 2020 12:26:40 GMT"
    (Server.locate selfDescribed "/app" q.path).1 = some ⟨file, "/node_modules/pkg/package.json"⟩ ∧
      (selfDescribed.readFile file).map (·.modified) = .ok ⟨1600000000, 0⟩ ∧
      (s.load selfDescribed q).1 = .ok (.content ⟨"\x7b\"main\": \"package.json\"\x7d", .json,
        "max-age=100000", some date, "/node_modules/pkg/package.json"⟩) ∧
      (s.load fs' { q with ifModifiedSince := some date }).1 = .ok .notModified ∧
      (s.load fs' q).1 = .ok (.content ⟨"export default 1;\n", .script,
        "max-age=100000", some "Fri, 14 Jul 2017 02:40:00 GMT", "/node_modules/pkg/old.js"⟩) := by
  decide +kernel

end Unbundled.Proofs.NewerFiles
