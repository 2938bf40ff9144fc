import Mathlib.Data.List.Find
import Unbundled.Proofs.Answers
import Unbundled.Proofs.HttpDates
import Unbundled.Proofs.Treatments

namespace Unbundled.Proofs.Revalidation

open Files Linking Script Specifiers Answers Treatments

variable {s : Server} {fs fs' : FileSystem} {root path source : String} {q : Query}
  {l l' : Server.Location}

def IsScript (path : String) : Prop :=
  Server.extension path = "js" ∨ Server.extension path = "ts"

theorem body_script (fs : FileSystem) (root : String) (q : Query) (source : String)
    (h : IsScript path) :
    (Server.body fs root q path source).1 =
      match (Loadable.ofSource fs root path source).map (·.code) with
      | .ok code => .ok (code, .script)
      | .error fault => .error (.source fault) := by
  unfold Server.body
  rcases h with h | h
  · rw [h]
    cases Loadable.ofSource fs root path source <;> rfl
  · rw [h]
    cases Loadable.ofSource fs root path source <;> rfl

theorem body_of_not_script (fs fs' : FileSystem) (root : String) (q : Query) (source : String)
    (h : ¬IsScript path) :
    Server.body fs' root q path source = Server.body fs root q path source := by
  unfold Server.body
  split
  · exact absurd (.inl ‹_›) h
  · exact absurd (.inr ‹_›) h
  · rfl
  · rfl

/-- The specifiers in the script at a location are treated alike before and after. -/
def SameTreatments (fs fs' : FileSystem) (root : String) (l : Server.Location) : Prop :=
  IsScript l.path → ∀ source m, fs.readText l.file = .ok source → readSource l.path source = .ok m →
    ∀ x ∈ specifiers m.items, Alike (classify fs root x) (classify fs' root x)

theorem SameTreatments.body_eq (h : SameTreatments fs fs' root l) (q : Query)
    (hread : fs.readText l.file = .ok source) :
    (Server.body fs' root q l.path source).1 = (Server.body fs root q l.path source).1 := by
  by_cases hscript : IsScript l.path
  · rw [body_script fs root q source hscript, body_script fs' root q source hscript,
      ofSource_code_eq l.path source fun m hm => h hscript source m hread hm]
  · rw [body_of_not_script fs fs' root q source hscript]

theorem exists_of_content {c : Content} {modified : Instant}
    (h : (s.content fs q l modified).1 = .ok (.content c)) :
    ∃ source made, fs.readText l.file = .ok source ∧
      (Server.body fs s.root q l.path source).1 = .ok made ∧
      c = ⟨Plugin.applyAll s.plugins s.root l.path made.1, made.2, Server.cacheControl l.path,
        HttpDate.text? modified, l.path⟩ := by
  rw [content_fst] at h
  cases hread : fs.readText l.file with
  | error fault =>
      rw [hread] at h
      cases h
  | ok source =>
      rw [hread] at h
      dsimp only at h
      cases hbody : (Server.body fs s.root q l.path source).1 with
      | error fault =>
          rw [hbody] at h
          cases h
      | ok made =>
          rw [hbody] at h
          exact ⟨source, made, rfl, hbody, (Outcome.content.inj (Except.ok.inj h)).symm⟩

theorem lastModified_eq {c : Content} (hserved : IsServed s fs q l f)
    (h : (s.load fs q).1 = .ok (.content c)) : c.lastModified = HttpDate.text? f.modified := by
  obtain ⟨l₁, f₁, hserved₁, -, hcontent⟩ := load_eq_content_iff.mp h
  obtain rfl := Option.some.inj (hserved.located.symm.trans hserved₁.located)
  obtain rfl := Except.ok.inj (hserved.read.symm.trans hserved₁.read)
  obtain ⟨source, made, -, -, rfl⟩ := exists_of_content hcontent
  rfl

theorem SameTreatments.content_eq {c : Content} {modified : Instant}
    (h : SameTreatments fs fs' s.root l) (modified' : Instant) (hpath : l'.path = l.path)
    (htext : fs'.readText l'.file = fs.readText l.file)
    (hcontent : (s.content fs q l modified).1 = .ok (.content c)) :
    (s.content fs' q l' modified').1 =
      .ok (.content { c with lastModified := HttpDate.text? modified' }) := by
  obtain ⟨source, made, hread, hbody, rfl⟩ := exists_of_content hcontent
  rw [content_fst, htext, hread, hpath]
  dsimp only
  rw [h.body_eq q hread, hbody]
  rfl

theorem content_ifModifiedSince (s : Server) (fs : FileSystem) (q : Query) (l : Server.Location)
    (modified : Instant) (since : Option String) :
    s.content fs { q with ifModifiedSince := since } l modified = s.content fs q l modified := by
  have hscript : ({ q with ifModifiedSince := since } : Query).isForScript = q.isForScript := rfl
  unfold Server.content Server.body
  rw [hscript]

theorem seconds_le_of_isFresh {sent now : Instant}
    (h : Server.isFresh { q with ifModifiedSince := HttpDate.text? sent } now = true) :
    now.seconds ≤ sent.seconds := by
  obtain ⟨since, hsince, hle⟩ := (Option.any_eq_true _ _).mp h
  obtain ⟨v, hv, hparse⟩ := Option.bind_eq_some_iff.mp hsince
  rw [← HttpDates.seconds_of_parse? hv hparse]
  exact of_decide_eq_true hle

/-- If a request has been answered with a module and later, whatever has become of the files, is
answered that it has not been modified since, the path still leads to a module, and its file is not
newer, to the second, than the one that was sent. If it is served under the same path, has the same
text and its specifiers are treated as they were then, it would be sent as the same content, up to
the date. -/
theorem notModified_is_current {c : Content} (h : (s.load fs q).1 = .ok (.content c))
    (h' : (s.load fs' { q with ifModifiedSince := c.lastModified }).1 = .ok .notModified) :
    ∃ l f l' f', IsServed s fs q l f ∧ IsServed s fs' q l' f' ∧
      f'.modified.seconds ≤ f.modified.seconds ∧
      (l'.path = l.path → fs'.readText l'.file = fs.readText l.file →
        SameTreatments fs fs' s.root l →
        (s.load fs' { q with ifModifiedSince := none }).1 =
          .ok (.content { c with lastModified := HttpDate.text? f'.modified })) := by
  obtain ⟨l, f, hserved, -, hcontent⟩ := load_eq_content_iff.mp h
  obtain ⟨l', f', hserved', hfresh⟩ := load_eq_notModified_iff.mp h'
  refine ⟨l, f, l', f', hserved, hserved'.of_path rfl, ?_, fun hpath htext hsame => ?_⟩
  · rw [lastModified_eq hserved h] at hfresh
    exact seconds_le_of_isFresh hfresh
  · refine load_eq_content_iff.mpr ⟨l', f', hserved'.of_path rfl, rfl, ?_⟩
    rw [content_ifModifiedSince]
    exact hsame.content_eq f'.modified hpath htext hcontent

def written (text : String) (second : Int) : Node := .file ⟨text.toUTF8, ⟨second, 0⟩⟩

def sources : FileSystem :=
  FileSystem.put ⟨.dir []⟩ "/app/src/app.js"
    (written "import a from 'pkg';\nexport default a;\n" 1600000000)

def installed (main : String) : FileSystem :=
  let manifest := "\x7b\"main\": \"" ++ main ++ "\"\x7d"
  (sources.put "/app/node_modules/pkg/package.json" (written manifest 1600000001)).put
    "/app/node_modules/pkg/index.js" (written "export default 1;\n" 1600000001)

def sent (body path : String) : Content :=
  ⟨body, .script, "no-cache, no-store, must-revalidate, max-age=0",
    some "Sun, 13 Sep 2020 12:26:40 GMT", path⟩

/-- A dependency has been written anew, which leads to the same file. -/
theorem notModified_is_current_installed :
    let s : Server := ⟨"/app", {}, []⟩
    let q : Query := ⟨"/src/app", none, none⟩
    let c := sent "import a from \"/node_modules/pkg/index.js\";\nexport default a;\n" "/src/app.js"
    let fs := installed "index.js"
    let fs' := installed "./index.js"
    (s.load fs q).1 = .ok (.content c) ∧
      (s.load fs' { q with ifModifiedSince := c.lastModified }).1 = .ok .notModified ∧
      SameTreatments fs fs' "/app" ⟨"/app/src/app.js", "/src/app.js"⟩ ∧
      ∃ date, (s.load fs' { q with ifModifiedSince := none }).1 =
        .ok (.content { c with lastModified := date }) := by
  intro s q c fs fs'
  have hload : (s.load fs q).1 = .ok (.content c) := by decide +kernel
  have hload' : (s.load fs' { q with ifModifiedSince := c.lastModified }).1 = .ok .notModified := by
    decide +kernel
  have hsame : SameTreatments fs fs' "/app" ⟨"/app/src/app.js", "/src/app.js"⟩ := by
    intro _ source m hread hm x hx
    have htext : fs.readText "/app/src/app.js" = .ok "import a from 'pkg';\nexport default a;\n" := by
      decide +kernel
    obtain rfl := Except.ok.inj (htext.symm.trans hread)
    have hnames : (readSource "/src/app.js" "import a from 'pkg';\nexport default a;\n").toOption.map
        (fun m => specifiers m.items) = some ["pkg"] := by decide +kernel
    rw [hm] at hnames
    have hitems : specifiers m.items = ["pkg"] := Option.some.inj hnames
    rw [hitems, List.mem_singleton] at hx
    have htreat : classify fs "/app" "pkg" = classify fs' "/app" "pkg" := by decide +kernel
    rw [hx, htreat]
    exact .refl _
  obtain ⟨l, f, l', f', hserved, hserved', -, hcurrent⟩ := notModified_is_current hload hload'
  have hlocate : (Server.locate fs "/app" "/src/app").1 =
      some ⟨"/app/src/app.js", "/src/app.js"⟩ := by decide +kernel
  have hlocate' : (Server.locate fs' "/app" "/src/app").1 =
      some ⟨"/app/src/app.js", "/src/app.js"⟩ := by decide +kernel
  have htext : fs'.readText "/app/src/app.js" = fs.readText "/app/src/app.js" := by decide +kernel
  obtain rfl := Option.some.inj (hserved.located.symm.trans hlocate)
  obtain rfl := Option.some.inj (hserved'.located.symm.trans hlocate')
  exact ⟨hload, hload', hsame, _, hcurrent rfl htext hsame⟩

/-- The body can be another one though the file is not newer: if a dependency has been installed, if
another file is found under the path, and if the file has been written again within the second. -/
theorem notModified_of_changes :
    let s : Server := ⟨"/app", {}, []⟩
    let q : Query := ⟨"/src/app", none, none⟩
    let c := sent "var a = \x7b\x7d;\nexport default a;\n" "/src/app.js"
    let found := sources.put "/app/src/app.ts" (written "export default 2;\n" 1500000000)
    let again := sources.put "/app/src/app.js"
      (.file ⟨"export default 3;\n".toUTF8, ⟨1600000000, 1⟩⟩)
    (s.load sources q).1 = .ok (.content c) ∧
      ∀ now ∈ [(installed "index.js",
            sent "import a from \"/node_modules/pkg/index.js\";\nexport default a;\n" "/src/app.js"),
          (found, { sent "export default 2;\n" "/src/app.ts" with
            lastModified := some "Fri, 14 Jul 2017 02:40:00 GMT" }),
          (again, sent "export default 3;\n" "/src/app.js")],
        (s.load now.1 { q with ifModifiedSince := c.lastModified }).1 = .ok .notModified ∧
          (s.load now.1 { q with ifModifiedSince := none }).1 = .ok (.content now.2) ∧
          now.2.body ≠ c.body := by
  decide +kernel

end Unbundled.Proofs.Revalidation
