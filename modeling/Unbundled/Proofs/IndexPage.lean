import Unbundled.Proofs.Agreement
import Unbundled.Proofs.FileRequests

namespace Unbundled.Proofs.IndexPage

open Files Http Paths Agreement FileRequests

variable {s : Server} {fs : FileSystem} {r : Request} {root : String}

theorem stat_of_isDir {path : String} (h : fs.isDir path = true) :
    ∃ entries, fs.stat path = .ok (.dir entries) := by
  unfold FileSystem.isDir at h
  split at h
  · rename_i entries hstat
    exact ⟨entries, hstat⟩
  · cases h

theorem stat_of_long {path : String} (h : maxPath ≤ path.utf8ByteSize) :
    ∃ fault, fs.stat path = .error fault := by
  cases hstat : fs.stat path with
  | error fault => exact ⟨fault, rfl⟩
  | ok node => exact absurd (isFollowed_of_stat hstat).2.2 (Nat.not_lt.mpr h)

theorem stat_of_plainNames {path other : String} {entries : List (String × Node)}
    (h : fs.stat path = .ok (.dir entries)) (hnames : plainNames other = plainNames path)
    (hfollowed : IsFollowed other) : fs.stat other = .ok (.dir entries) := by
  obtain ⟨up, hup⟩ := stat_dir h
  rw [← hnames] at hup
  rw [stat_of_isFollowed fs hfollowed, foldlM_step_plain.mpr hup]
  rfl

theorem join_empty (root : String) : Path.join root "" = root ∨ Path.join root "" = root ++ "/" := by
  have habs : Path.isAbsolute "" = false := rfl
  rw [Path.join, habs, if_neg Bool.false_ne_true]
  split
  · exact .inl String.append_empty
  · exact .inr String.append_empty

theorem stat_join_empty {entries : List (String × Node)} (h : fs.stat root = .ok (.dir entries))
    (hsize : (Path.join root "").utf8ByteSize < maxPath) :
    fs.stat (Path.join root "") = .ok (.dir entries) := by
  obtain ⟨hnul, hempty, -⟩ := isFollowed_of_stat h
  have hnames : plainNames (Path.join root "") = plainNames root := by
    have hnone : plainNames "" = [] := rfl
    rw [plainNames_join root rfl, hnone, List.append_nil]
  refine stat_of_plainNames h hnames ⟨?_, ?_, hsize⟩
  · rcases join_empty root with he | he
    · rwa [he]
    · rw [he]
      simpa using hnul
  · rcases join_empty root with he | he
    · rwa [he]
    · rw [he]
      simp

theorem size_join_le (root : String) {rest : String} (h : Path.isAbsolute rest = false) :
    (Path.join root "").utf8ByteSize ≤ (Path.join root rest).utf8ByteSize := by
  obtain ⟨start, hstart⟩ := exists_join root
  rw [hstart "" rfl, hstart rest h, String.utf8ByteSize_append, String.utf8ByteSize_append]
  exact Nat.add_le_add_left (Nat.zero_le _) _

theorem under_rootPath (root : String) : Server.under root "/" = Path.join root "" := rfl

theorem isFile_false_of_stat {path : String} {fault : Fault} (h : fs.stat path = .error fault) :
    fs.isFile path = false := by
  rw [FileSystem.isFile, h]

theorem locate_rootPath (h : fs.isDir root = true)
    (hsize : (Path.join root "").utf8ByteSize < maxPath) :
    ∃ l, Server.locate fs root "/" = (some l, []) ∧
      (fs.isFile l.file = false ∨ Server.extension l.path = "") := by
  obtain ⟨entries, hstat⟩ := stat_of_isDir h
  have hdir := stat_join_empty hstat hsize
  have hfile : fs.isFile (Server.under root "/") = false := by
    rw [under_rootPath, FileSystem.isFile, hdir]
  have hexists : fs.exists (Server.under root "/") = true := by
    rw [under_rootPath, FileSystem.exists, hdir]
    rfl
  rw [Server.locate, if_neg (by simp [hfile])]
  cases hfound : Server.suffixes.find? fun suffix =>
      fs.isFile (Path.join root (Text.withoutLeading "/" "/" ++ suffix)) with
  | some suffix =>
      refine ⟨_, rfl, .inr ?_⟩
      have hsuffix := List.mem_of_find?_eq_some hfound
      have hnone : ∀ suffix ∈ Server.suffixes, Server.extension ("/" ++ suffix) = "" := by
        decide +kernel
      exact hnone suffix hsuffix
  | none =>
      have hpackage : Server.locatePackage fs root "/" = (none, []) := rfl
      rw [hpackage, hexists]
      exact ⟨_, rfl, .inl hfile⟩

theorem locate_rootPath_of_long (hsize : maxPath ≤ (Path.join root "").utf8ByteSize) :
    Server.locate fs root "/" = (none, []) := by
  have hnone : ∀ rest, Path.isAbsolute rest = false →
      ∃ fault, fs.stat (Path.join root rest) = .error fault :=
    fun rest habs => stat_of_long (hsize.trans (size_join_le root habs))
  have hfile : fs.isFile (Server.under root "/") = false := by
    obtain ⟨fault, hstat⟩ := hnone "" rfl
    exact isFile_false_of_stat hstat
  have hexists : fs.exists (Server.under root "/") = false := by
    obtain ⟨fault, hstat⟩ := hnone "" rfl
    rw [under_rootPath, FileSystem.exists, hstat]
    rfl
  have hsuffixes : Server.suffixes.find? (fun suffix =>
      fs.isFile (Path.join root (Text.withoutLeading "/" "/" ++ suffix))) = none := by
    refine List.find?_eq_none.mpr fun suffix hsuffix => ?_
    have habs : ∀ suffix ∈ Server.suffixes,
        Path.isAbsolute (Text.withoutLeading "/" "/" ++ suffix) = false := by
      decide +kernel
    obtain ⟨fault, hstat⟩ := hnone _ (habs suffix hsuffix)
    simp [isFile_false_of_stat hstat]
  have hpackage : Server.locatePackage fs root "/" = (none, []) := rfl
  rw [Server.locate, if_neg (by simp [hfile]), hsuffixes]
  dsimp only
  rw [hpackage, hexists]
  rfl

/-- No file in the root is the module behind the root path. -/
theorem load_rootPath {q : Query} (hpath : q.path = "/") (h : fs.isDir s.root = true) :
    s.load fs q =
      if (Path.join s.root "").utf8ByteSize < maxPath then (.ok .other, [])
      else (.ok .notFound, [.notFound "/"]) := by
  have hinside : (Path.segments "/").contains ".." = false := by decide
  rw [Server.load, hpath, hinside, if_neg Bool.false_ne_true]
  by_cases hsize : (Path.join s.root "").utf8ByteSize < maxPath
  · obtain ⟨l, hlocated, hother⟩ := locate_rootPath h hsize
    rw [hlocated, if_pos hsize]
    dsimp only
    cases hread : fs.readFile l.file with
    | error fault => rfl
    | ok f =>
        have hextension : Server.extension l.path = "" :=
          hother.resolve_left (by simp [isFile_iff.mpr ⟨f, hread⟩])
        have hnone : Server.moduleExtensions.contains "" = false := by decide
        dsimp only
        rw [hextension, hnone]
        rfl
  · rw [locate_rootPath_of_long (Nat.not_lt.mp hsize), if_neg hsize]
    rfl

theorem exists_withoutLeading_slash (text : String) :
    ∃ k, text.toList = List.replicate k '/' ++ (Text.withoutLeading "/" text).toList := by
  have hdropped : ∀ fuel (cs : List Char),
      ∃ k, cs = List.replicate k '/' ++ Text.dropRepeated ['/'] fuel cs := by
    intro fuel
    induction fuel with
    | zero => exact fun cs => ⟨0, rfl⟩
    | succ fuel ih =>
        intro cs
        rw [Text.dropRepeated]
        split
        · rename_i rest hrest
          obtain rfl := Affixes.dropPrefix?_eq_some.mp hrest
          obtain ⟨k, hk⟩ := ih rest
          exact ⟨k + 1, congrArg ('/' :: ·) hk⟩
        · exact ⟨0, rfl⟩
  obtain ⟨k, hk⟩ := hdropped text.length text.toList
  exact ⟨k, by rw [Text.withoutLeading, String.toList_ofList]; exact hk⟩

theorem complete_redirect (location : String) :
    complete (redirect location) =
      ⟨307, ("location", location) :: sharing ++ [("content-length", "0")], ByteArray.empty⟩ := by
  have hnone : (redirect location).headers ++ sharing =
      ("location", location) :: sharing := rfl
  have hlookup : (("location", location) :: sharing).lookup "content-length" = none := by
    have hshared : sharing.lookup "content-length" = none := by decide +kernel
    rw [List.lookup_cons, hshared]
    rfl
  have hempty : toString ByteArray.empty.size = "0" := by decide +kernel
  rw [complete, Response.withLength, Response.withDefault, Response.header?, hnone, hlookup,
    Option.isSome_none, if_neg Bool.false_ne_true]
  exact congrArg
    (fun length => (⟨307, ("location", location) :: sharing ++ [("content-length", length)],
      ByteArray.empty⟩ : Response)) hempty

theorem status_of_notFound (hreads : Reads r) (hload : (s.load fs (queryOf r)).1 = .ok .notFound) :
    (answer s fs r).1.status = 404 := by
  rw [answer_of_reads hreads, respond_of_reads hreads, hload, status_complete]
  rfl

/-- A request for the root path leads to the page that the index names without the slashes it starts
with. The root has to have a path to which a slash can be added; otherwise nothing is found. -/
theorem answer_rootPath (hroot : fs.isDir s.root = true) (hreads : Reads r)
    (hpath : (Target.ofText r.target).path = "/") :
    let page := Text.withoutLeading "/" s.options.index
    (∃ k, s.options.index.toList = List.replicate k '/' ++ page.toList) ∧
      Text.startsWith "/" page = false ∧ Text.startsWith "//" ("/" ++ page) = false ∧
      ((Path.join s.root "").utf8ByteSize < maxPath →
        s.load fs (queryOf r) = (.ok .other, []) ∧
        (answer s fs r).1 =
          ⟨307, ("location", "/" ++ page) :: sharing ++ [("content-length", "0")], ByteArray.empty⟩) ∧
      (maxPath ≤ (Path.join s.root "").utf8ByteSize →
        s.load fs (queryOf r) = (.ok .notFound, [.notFound "/"]) ∧ (answer s fs r).1.status = 404) := by
  intro page
  have hpage : Text.startsWith "/" page = false := isAbsolute_withoutLeading s.options.index
  have hsite : Text.startsWith "//" ("/" ++ page) = false := by
    refine Bool.eq_false_iff.mpr fun h => Bool.eq_false_iff.mp hpage ?_
    obtain ⟨rest, hrest⟩ := Affixes.startsWith_iff.mp h
    refine Affixes.startsWith_iff.mpr ⟨rest, (String.append_right_inj "/").mp ?_⟩
    rw [hrest, ← String.append_assoc]
    rfl
  have hload := load_rootPath (q := queryOf r) hpath hroot
  refine ⟨exists_withoutLeading_slash s.options.index, hpage, hsite, fun hsize => ?_, fun hsize => ?_⟩
  · rw [if_pos hsize] at hload
    refine ⟨hload, ?_⟩
    have hother : sendOther s fs r = redirect ("/" ++ page) := by
      rw [sendOther, if_pos hpath]
      exact if_pos hreads
    rw [answer_of_reads hreads, respond_of_reads hreads, hload, hother]
    exact complete_redirect _
  · rw [if_neg (Nat.not_lt.mpr hsize)] at hload
    exact ⟨hload, status_of_notFound hreads (congrArg Prod.fst hload)⟩

def suffixFiles : FileSystem :=
  let script : Node := .file ⟨"export default 1;\n".toUTF8, ⟨1600000000, 0⟩⟩
  (FileSystem.put ⟨.dir []⟩ "/app/.ts" script).put "/app/.js" script

theorem answer_rootPath_slashes :
    let s : Server := ⟨"/app", ⟨3000, "h", "//elsewhere/a.html"⟩, []⟩
    let r : Request := ⟨"HEAD", "/?v=1", [("if-modified-since", "Fri, 01 Jan 2100 00:00:00 GMT")]⟩
    suffixFiles.isDir "/app" = true ∧ suffixFiles.isFile "/app/.ts" = true ∧
      s.load suffixFiles (queryOf r) = (.ok .other, []) ∧
      (answer s suffixFiles r).1 =
        ⟨307, ("location", "/elsewhere/a.html") :: sharing ++ [("content-length", "0")],
          ByteArray.empty⟩ := by
  intro s r
  have hroot : suffixFiles.isDir "/app" = true := by decide +kernel
  have hpath : (Target.ofText r.target).path = "/" := by decide +kernel
  have hsize : (Path.join "/app" "").utf8ByteSize < maxPath := by decide +kernel
  have hpage : Text.withoutLeading "/" "//elsewhere/a.html" = "elsewhere/a.html" := by decide +kernel
  obtain ⟨-, -, -, hshort, -⟩ := @answer_rootPath s suffixFiles r hroot (.inr rfl) hpath
  obtain ⟨hload, hanswer⟩ := hshort hsize
  rw [hpage] at hanswer
  exact ⟨hroot, by decide +kernel, hload, hanswer⟩

/-- A path of `2 * n` bytes that leads nowhere. -/
def dots : Nat → String
  | 0 => ""
  | n + 1 => dots n ++ "/" ++ "."

theorem dots_laws (n : Nat) : plainNames (dots n) = [] ∧ (dots n).toList.contains '\x00' = false ∧
    (dots n).utf8ByteSize = 2 * n := by
  induction n with
  | zero => exact ⟨rfl, rfl, rfl⟩
  | succ n ih =>
      obtain ⟨hnames, hnul, hsize⟩ := ih
      refine ⟨?_, ?_, ?_⟩
      · rw [dots, plainNames_append_slash, hnames]
        rfl
      · rw [dots]
        simpa using hnul
      · rw [dots, String.utf8ByteSize_append, String.utf8ByteSize_append, hsize]
        rfl

theorem join_dots (n : Nat) : Path.join ("/" ++ dots (n + 1)) "" = "/" ++ dots (n + 1) ++ "/" := by
  refine (join_empty _).resolve_left fun h => ?_
  have hend : ¬(("/" ++ dots (n + 1)).isEmpty ∨ ("/" ++ dots (n + 1)).toList.getLast? = some '/') := by
    simp [dots, List.getLast?_cons, List.getLast?_append]
  have habs : Path.isAbsolute "" = false := rfl
  rw [Path.join, habs, if_neg Bool.false_ne_true, if_neg hend] at h
  simpa using congrArg String.utf8ByteSize h

theorem isDir_dots {n : Nat} {entries : List (String × Node)} (h : 2 * n + 1 < maxPath) :
    (⟨.dir entries⟩ : FileSystem).isDir ("/" ++ dots n) = true := by
  obtain ⟨hnames, hnul, hsize⟩ := dots_laws n
  have htop : (⟨.dir entries⟩ : FileSystem).stat "/" = .ok (.dir entries) := rfl
  have hplain : plainNames ("/" ++ dots n) = plainNames "/" := by
    have hslash : "/" ++ dots n = "" ++ "/" ++ dots n := by simp
    rw [hslash, plainNames_append_slash, hnames]
    rfl
  have hlength : ("/" ++ dots n).utf8ByteSize < maxPath := by
    rw [String.utf8ByteSize_append, hsize, Nat.add_comm]
    exact h
  rw [FileSystem.isDir, stat_of_plainNames htop hplain ⟨by simpa using hnul, by simp, hlength⟩]

/-- The top directory by the longest path that a file may have is a root behind whose root path
nothing is found. -/
theorem answer_rootPath_longest :
    let root := "/" ++ dots 2047
    let fs : FileSystem := ⟨.dir []⟩
    root.utf8ByteSize = 4095 ∧ fs.isDir root = true ∧
      (answer ⟨root, {}, []⟩ fs ⟨"GET", "/", []⟩).1.status = 404 := by
  intro root fs
  have hlength : root.utf8ByteSize = 4095 := by
    rw [String.utf8ByteSize_append, (dots_laws 2047).2.2]
    rfl
  have hroot : fs.isDir root = true := isDir_dots (by decide)
  have hlong : maxPath ≤ (Path.join root "").utf8ByteSize := by
    rw [join_dots 2046, String.utf8ByteSize_append, hlength]
    decide
  have hload := @load_rootPath ⟨root, {}, []⟩ fs (queryOf ⟨"GET", "/", []⟩) rfl hroot
  rw [if_neg (Nat.not_lt.mpr hlong)] at hload
  exact ⟨hlength, hroot, status_of_notFound (.inl rfl) (congrArg Prod.fst hload)⟩

end Unbundled.Proofs.IndexPage
