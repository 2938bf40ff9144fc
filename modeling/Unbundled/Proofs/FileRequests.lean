import Unbundled.Http.Site
import Unbundled.Proofs.Answers
import Unbundled.Proofs.PercentEncoding

namespace Unbundled.Proofs.FileRequests

open Files Http Paths Answers PercentEncoding

/-! ## Paths of files -/

/-- Every name of the path leads on to an entry of a directory. -/
def LeadsDown (path : String) : Prop :=
  ∀ name ∈ Path.segments path, name ≠ "" ∧ name ≠ "." ∧ name ≠ ".."

instance (path : String) : Decidable (LeadsDown path) := inferInstanceAs (Decidable (∀ _ ∈ _, _))

theorem splitList_eq_cons {sep : Char} {cs p : List Char} {ps : List (List Char)}
    (h : Text.splitList sep cs = p :: ps) :
    sep ∉ p ∧ (cs = p ∧ ps = [] ∨ ∃ rest, cs = p ++ sep :: rest ∧ Text.splitList sep rest = ps) := by
  induction cs generalizing p with
  | nil =>
      obtain ⟨rfl, rfl⟩ := List.cons.inj h
      exact ⟨List.not_mem_nil, .inl ⟨rfl, rfl⟩⟩
  | cons c cs ih =>
      rw [Text.splitList] at h
      by_cases hc : c = sep
      · subst hc
        rw [if_pos rfl] at h
        obtain ⟨rfl, rfl⟩ := List.cons.inj h
        exact ⟨List.not_mem_nil, .inr ⟨cs, rfl, rfl⟩⟩
      · obtain ⟨q, qs, hq⟩ := List.exists_cons_of_ne_nil (splitList_ne_nil sep cs)
        rw [if_neg hc, hq] at h
        obtain ⟨rfl, rfl⟩ := List.cons.inj h
        obtain ⟨hmem, hrest⟩ := ih hq
        refine ⟨fun hsep => ?_, ?_⟩
        · rcases List.mem_cons.mp hsep with rfl | hsep
          · exact hc rfl
          · exact hmem hsep
        · rcases hrest with ⟨rfl, rfl⟩ | ⟨rest, rfl, hrest⟩
          · exact .inl ⟨rfl, rfl⟩
          · exact .inr ⟨rest, rfl, hrest⟩

theorem segments_eq_cons {path name : String} {names : List String}
    (h : Path.segments path = name :: names) :
    '/' ∉ name.toList ∧
      (path = name ∧ names = [] ∨ ∃ rest, path = name ++ "/" ++ rest ∧ Path.segments rest = names) := by
  obtain ⟨p, ps, hsplit, rfl, rfl⟩ := List.map_eq_cons_iff.mp h
  obtain ⟨hmem, hrest⟩ := splitList_eq_cons hsplit
  rw [String.toList_ofList]
  refine ⟨hmem, ?_⟩
  rcases hrest with ⟨hpath, rfl⟩ | ⟨rest, hpath, hrest⟩
  · exact .inl ⟨by rw [← hpath, String.ofList_toList], rfl⟩
  · refine .inr ⟨String.ofList rest, String.toList_inj.mp ?_, ?_⟩
    · simpa using hpath
    · rw [Path.segments, Text.split, String.toList_ofList, hrest]

theorem isName_of_not_mem {name : String} (h : '/' ∉ name.toList) (hne : name ≠ "") :
    IsName name ∧ Path.isAbsolute name = false := by
  refine ⟨⟨hne, fun hlast => h (List.mem_of_getLast? hlast)⟩, Bool.eq_false_iff.mpr fun habs => ?_⟩
  obtain ⟨cs, hcs⟩ := isAbsolute_iff.mp habs
  exact h (hcs ▸ List.mem_cons_self)

theorem blank_mem_of_isAbsolute {path : String} (h : Path.isAbsolute path = true) :
    "" ∈ Path.segments path := by
  obtain ⟨cs, hcs⟩ := isAbsolute_iff.mp h
  have hpath : path = "/" ++ String.ofList cs := String.toList_inj.mp (by simpa using hcs)
  rw [hpath, segments_slash]
  exact List.mem_cons_self

theorem LeadsDown.not_isAbsolute {path : String} (h : LeadsDown path) :
    Path.isAbsolute path = false :=
  Bool.eq_false_iff.mpr fun habs => (h "" (blank_mem_of_isAbsolute habs)).1 rfl

theorem LeadsDown.foldl_join {path : String} (h : LeadsDown path) (root : String) :
    (Path.segments path).foldl Path.join root = Path.join root path := by
  -- The root takes up the first name of the path at each turn.
  generalize hnames : Path.segments path = names
  induction names generalizing path root with
  | nil => exact absurd hnames (segments_ne_nil path)
  | cons name names ih =>
      obtain ⟨hslash, hrest⟩ := segments_eq_cons hnames
      rcases hrest with ⟨rfl, rfl⟩ | ⟨rest, rfl, rfl⟩
      · rfl
      · have hmem : name ∈ Path.segments (name ++ "/" ++ rest) := hnames ▸ List.mem_cons_self
        obtain ⟨hname, habs⟩ := isName_of_not_mem hslash (h name hmem).1
        have hdown : LeadsDown rest := fun n hn => h n (hnames ▸ List.mem_cons_of_mem name hn)
        rw [List.foldl_cons, ih hdown _ rfl]
        exact join_join root hname habs hdown.not_isAbsolute

theorem cut_append {c : Char} {cs : List Char} (h : c ∉ cs) (ds : List Char) :
    (cut c (cs ++ ds)).1 = cs ++ (cut c ds).1 :=
  List.takeWhile_append_of_pos fun _ hd => decide_eq_true fun he => h (he ▸ hd)

section

variable {keep : Char → Bool} (hkeep : MayKeep keep) {path : String} (h : LeadsDown path)
include hkeep h

theorem encoded_names {name : String} (hname : name ∈ Path.segments (encoded keep path)) :
    name ≠ "" ∧ name ≠ ".." := by
  rw [segments_encoded hkeep] at hname
  obtain ⟨plain, hplain, rfl⟩ := List.mem_map.mp hname
  obtain ⟨hblank, -, hup⟩ := h plain hplain
  have hdots : percentDecoded "..".toUTF8.toList = "..".toUTF8.toList := by
    have hbytes : "..".toUTF8.toList = [46, 46] := by
      rw [toList_toUTF8]
      decide
    rw [hbytes, percentDecoded_cons (by decide), percentDecoded_cons (by decide), percentDecoded_nil]
  have hnothing : percentDecoded "".toUTF8.toList = "".toUTF8.toList := by
    have hbytes : "".toUTF8.toList = [] := by
      rw [toList_toUTF8]
      rfl
    rw [hbytes, percentDecoded_nil]
  exact ⟨fun he => hblank (eq_of_encoded_eq hkeep he hnothing),
    fun he => hup (eq_of_encoded_eq hkeep he hdots)⟩

theorem not_isAbsolute_encoded : Path.isAbsolute (encoded keep path) = false :=
  Bool.eq_false_iff.mpr fun habs =>
    (encoded_names hkeep h (blank_mem_of_isAbsolute habs)).1 rfl

theorem inside_encoded : ".." ∉ Path.segments ("/" ++ encoded keep path) := by
  rw [segments_slash, List.mem_cons, not_or]
  exact ⟨by decide, fun hup => (encoded_names hkeep h hup).2 rfl⟩

theorem slash_encoded_ne : "/" ++ encoded keep path ≠ "/" := by
  intro hroot
  have hempty : encoded keep path = "" := (String.append_right_inj "/").mp hroot
  have hblank : "" ∈ Path.segments (encoded keep path) := by
    rw [hempty]
    exact List.mem_cons_self
  exact (encoded_names hkeep h hblank).1 rfl

theorem fileOf?_encoded (root : String) :
    fileOf? root ("/" ++ encoded keep path) = some (Path.join root path) := by
  have hfilter : (Path.segments path).filter (fun s => s ≠ "" ∧ s ≠ ".") = Path.segments path := by
    refine List.filter_eq_self.mpr fun name hname => ?_
    obtain ⟨hblank, hdot, -⟩ := h name hname
    exact decide_eq_true ⟨hblank, hdot⟩
  have hup : (Path.segments path).contains ".." = false := by
    refine Bool.eq_false_iff.mpr fun hup => ?_
    exact (h ".." (List.contains_iff_mem.mp hup)).2.2 rfl
  have hallowed : ¬(Path.isAbsolute path = true ∨ (Path.segments path).contains ".." = true) := by
    rw [h.not_isAbsolute, hup]
    simp
  rw [fileOf?, withoutLeading_slash (not_isAbsolute_encoded hkeep h), percentDecoded_encoded hkeep,
    fromUTF8?_toUTF8]
  simp only [Option.bind_eq_bind, Option.bind_some, hfilter]
  rw [if_neg hallowed, h.foldl_join]

omit h

theorem path_ofText_encoded (path : String) (query : Option String) :
    (Target.ofText (Target.text ⟨"", "/" ++ encoded keep path, query⟩)).path =
      "/" ++ encoded keep path := by
  have hnone : ∀ c ∈ ['?', '#'], c ∉ ("/" ++ encoded keep path).toList := by
    intro c hc hmem
    have hend : c ∈ ['/', '?', '#'] := List.mem_cons_of_mem _ hc
    have hchars : (encoded keep path).toList = path.toList.flatMap (encodedChar keep) :=
      String.toList_ofList
    rw [String.toList_append, List.mem_append, hchars] at hmem
    rcases hmem with hmem | hmem
    · obtain rfl : c = '/' := by simpa using hmem
      exact absurd hc (by decide)
    · obtain ⟨d, -, hd⟩ := List.mem_flatMap.mp hmem
      obtain rfl := (mem_encodedChar hkeep hend hd).1
      exact absurd hc (by decide)
  have htext : (Target.text ⟨"", "/" ++ encoded keep path, query⟩).toList =
      ("/" ++ encoded keep path).toList ++ (query.elim "" ("?" ++ ·)).toList := by
    rw [Target.text, String.empty_append, String.toList_append]
  have hquery : (cut '?' (cut '#' (query.elim "" ("?" ++ ·)).toList).1).1 = [] := by
    cases query with
    | none => rfl
    | some query =>
        rw [Option.elim_some, String.toList_append]
        rfl
  have hplace : (cut '?' (cut '#' (Target.text ⟨"", "/" ++ encoded keep path, query⟩).toList).1).1 =
      ("/" ++ encoded keep path).toList := by
    rw [htext, cut_append (hnone '#' (by decide)), cut_append (hnone '?' (by decide)), hquery,
      List.append_nil]
  have hhead : ("/" ++ encoded keep path).toList.head? = some '/' := by
    rw [String.toList_append]
    rfl
  rw [Target.ofText]
  dsimp only
  rw [hplace, if_pos hhead, String.ofList_toList]

end

/-! ## Answers -/

variable {s : Server} {fs : FileSystem} {r : Request}

def asItIs (r : Request) (path : String) (f : File) : Response :=
  (precondition? r f.modified).elim (sendFile r path f) (⟨·, [], ByteArray.empty⟩)

/-- The answer to what loading a module has come to, where `static` is the one to a request for
something else. -/
def reply (static : Response) : Except Failure Outcome → Response
  | .ok (.content c) => sendContent c
  | .ok .notModified => ⟨304, [], ByteArray.empty⟩
  | .ok .notFound => notFound
  | .ok .other => static
  | .error fault => failed fault.text

def complete (response : Response) : Response :=
  { response with headers := response.headers ++ sharing }.withLength

theorem status_asItIs (r : Request) (path : String) (f : File) : (asItIs r path f).status ≠ 404 := by
  unfold asItIs
  cases hstatus : precondition? r f.modified with
  | none =>
      rw [Option.elim_none]
      unfold sendFile
      extract_lets
      split
      · nofun
      · split <;> nofun
  | some status =>
      rw [Option.elim_some]
      unfold precondition? at hstatus
      extract_lets date? at hstatus
      split at hstatus
      · obtain rfl := Option.some.inj hstatus
        nofun
      · split at hstatus
        · obtain rfl := Option.some.inj hstatus
          nofun
        · cases hstatus

theorem isFile_iff {file : String} : fs.isFile file = true ↔ ∃ f, fs.readFile file = .ok f := by
  unfold FileSystem.readFile FileSystem.isFile
  cases fs.stat file with
  | error fault => exact ⟨nofun, nofun⟩
  | ok node =>
      cases node with
      | file f => exact ⟨fun _ => ⟨f, rfl⟩, fun _ => rfl⟩
      | dir entries => exact ⟨nofun, nofun⟩

theorem isDir_of_readFile {file : String} {f : File} (h : fs.readFile file = .ok f) :
    fs.isDir file = false := by
  unfold FileSystem.readFile at h
  unfold FileSystem.isDir
  cases hstat : fs.stat file with
  | error fault => rfl
  | ok node =>
      cases node with
      | file g => rfl
      | dir entries =>
          rw [hstat] at h
          cases h

theorem sendStatic_eq {file : String} {f : File} (hmethod : r.method = "GET")
    (hpath : fileOf? s.root (Target.ofText r.target).path = some file)
    (hread : fs.readFile file = .ok f) : sendStatic fs s.root r = asItIs r file f := by
  rw [sendStatic, if_neg (by simp [hmethod])]
  dsimp only
  rw [hpath]
  dsimp only
  rw [isDir_of_readFile hread, if_neg (by simp), if_neg (by simp), hread]
  dsimp only
  rw [asItIs]
  cases precondition? r f.modified <;> rfl

def Reads (r : Request) : Prop := r.method = "GET" ∨ r.method = "HEAD"

instance (r : Request) : Decidable (Reads r) := inferInstanceAs (Decidable (_ ∨ _))

theorem respond_of_reads (h : Reads r) :
    (respond s fs r).1 = reply (sendOther s fs r) (s.load fs (queryOf r)).1 := by
  rw [respond, if_neg (by simpa only [Reads, ne_eq, not_and_or, not_not] using h)]
  dsimp only
  generalize s.load fs (queryOf r) = loaded
  obtain ⟨outcome, notices⟩ := loaded
  cases outcome with
  | error fault => rfl
  | ok outcome => cases outcome <;> rfl

theorem answer_of_reads (h : Reads r) : (answer s fs r).1 = complete (respond s fs r).1 := by
  have hmethod : r.method ≠ "OPTIONS" := by
    rcases h with h | h <;> simp [h]
  have hallowed : ¬((Target.ofText r.target).path = "/" ∧ r.method ≠ "GET" ∧ r.method ≠ "HEAD") :=
    fun hroot => h.elim hroot.2.1 hroot.2.2
  rw [answer, if_neg hmethod]
  dsimp only
  rw [withAllowed, if_neg hallowed]
  rfl

theorem respond_fst (hmethod : r.method = "GET") :
    (respond s fs r).1 = reply (sendOther s fs r) (s.load fs (queryOf r)).1 :=
  respond_of_reads (.inl hmethod)

theorem answer_fst (hmethod : r.method = "GET") :
    (answer s fs r).1 = complete (respond s fs r).1 :=
  answer_of_reads (.inl hmethod)

theorem status_complete (response : Response) : (complete response).status = response.status := by
  unfold complete Response.withLength Response.withDefault
  split <;> rfl

theorem body_complete (response : Response) : (complete response).body = response.body := by
  unfold complete Response.withLength Response.withDefault
  split <;> rfl

theorem status_reply {static : Response} {l : Server.Location} (h : static.status ≠ 404) (q : Query) :
    (reply static (answerAt s fs q l)).status ≠ 404 := by
  have hfound := answerAt_ne_notFound s fs q l
  cases houtcome : answerAt s fs q l with
  | error fault => nofun
  | ok outcome =>
      cases outcome with
      | content c => nofun
      | notModified => nofun
      | notFound => exact absurd houtcome hfound
      | other => exact h

theorem sendOther_to_file {keep : Char → Bool} (hkeep : MayKeep keep) {path : String}
    (hpath : LeadsDown path) {f : File} (hread : fs.readFile (Path.join s.root path) = .ok f)
    (hmethod : r.method = "GET")
    (htarget : (Target.ofText r.target).path = "/" ++ encoded keep path) :
    sendOther s fs r = asItIs r (Path.join s.root path) f := by
  rw [sendOther, htarget, if_neg (slash_encoded_ne hkeep hpath)]
  refine sendStatic_eq hmethod ?_ hread
  rw [htarget]
  exact fileOf?_encoded hkeep hpath s.root

theorem locate_to_file {root path : String} (hpath : LeadsDown path) {f : File}
    (hread : fs.readFile (Path.join root path) = .ok f) :
    (Server.locate fs root ("/" ++ path)).1 = some ⟨Path.join root path, "/" ++ path⟩ := by
  have hunder : Server.under root ("/" ++ path) = Path.join root path := by
    rw [Server.under, withoutLeading_slash hpath.not_isAbsolute]
  rw [Server.locate, hunder, if_pos (isFile_iff.mpr ⟨f, hread⟩)]

/-- A request for a file by its encoded path is answered with what is behind the path as it stands in
the request, if that is a module, and else with the file as it is; but if nothing is behind the path
as it stands, the answer is that there is nothing. A path that is encoded as it is is that of the
file. -/
theorem answer_to_file {keep : Char → Bool} (hkeep : MayKeep keep) {path : String}
    (hpath : LeadsDown path) {f : File} (hread : fs.readFile (Path.join s.root path) = .ok f)
    (hmethod : r.method = "GET")
    (htarget : (Target.ofText r.target).path = "/" ++ encoded keep path) :
    (answer s fs r).1 =
        complete ((Server.locate fs s.root ("/" ++ encoded keep path)).1.elim notFound fun l =>
          reply (asItIs r (Path.join s.root path) f) (answerAt s fs (queryOf r) l)) ∧
      ((answer s fs r).1.status = 404 ↔
        (Server.locate fs s.root ("/" ++ encoded keep path)).1 = none) ∧
      (encoded keep path = path →
        (Server.locate fs s.root ("/" ++ encoded keep path)).1 =
          some ⟨Path.join s.root path, "/" ++ path⟩) := by
  have hquery : (queryOf r).path = "/" ++ encoded keep path := htarget
  have hload : (s.load fs (queryOf r)).1 =
      (Server.locate fs s.root ("/" ++ encoded keep path)).1.elim (.ok .notFound)
        (answerAt s fs (queryOf r)) := by
    have hinside : ".." ∉ Path.segments (queryOf r).path := hquery ▸ inside_encoded hkeep hpath
    rw [load_inside hinside, hquery]
  have hanswer : (answer s fs r).1 =
      complete ((Server.locate fs s.root ("/" ++ encoded keep path)).1.elim notFound fun l =>
        reply (asItIs r (Path.join s.root path) f) (answerAt s fs (queryOf r) l)) := by
    rw [answer_fst hmethod, respond_fst hmethod,
      sendOther_to_file hkeep hpath hread hmethod htarget, hload]
    cases (Server.locate fs s.root ("/" ++ encoded keep path)).1 <;> rfl
  refine ⟨hanswer, ?_, fun hplain => ?_⟩
  · rw [hanswer, status_complete]
    cases (Server.locate fs s.root ("/" ++ encoded keep path)).1 with
    | none => exact ⟨fun _ => rfl, fun _ => rfl⟩
    | some l =>
        refine ⟨fun hstatus => ?_, nofun⟩
        exact absurd hstatus (status_reply (status_asItIs r _ f) _)
  · rw [hplain]
    exact locate_to_file hpath hread

def unreserved : List Char :=
  "ABCDEFGHIJKLMNOPQRSTUVWXYZabcdefghijklmnopqrstuvwxyz0123456789-._~".toList

theorem mayKeep_unreserved : MayKeep (unreserved.contains ·) := by
  have hall : (unreserved.all fun c => c.toNat < 128 ∧ c ≠ '%' ∧ c ≠ '?' ∧ c ≠ '#') = true := by
    decide
  exact fun c hc => of_decide_eq_true (List.all_eq_true.mp hall c (List.contains_iff_mem.mp hc))

example : encoded (unreserved.contains ·) "src/a b.js" = "src/a%20b.js" := by decide +kernel

def twoFiles : FileSystem :=
  let script : Node := .file ⟨"export default 1;\n".toUTF8, ⟨1600000000, 0⟩⟩
  (FileSystem.put ⟨.dir []⟩ "/app/src/a.js" script).put "/app/src/a b.js" script

theorem answer_to_file_blank :
    let s : Server := ⟨"/app", {}, []⟩
    let plain : Request := ⟨"GET", "/src/a.js?v=1", []⟩
    let blank : Request := ⟨"GET", "/src/a%20b.js", []⟩
    LeadsDown "src/a.js" ∧ LeadsDown "src/a b.js" ∧ twoFiles.isFile "/app/src/a b.js" = true ∧
      (answer s twoFiles plain).1.status ≠ 404 ∧ (answer s twoFiles blank).1.status = 404 := by
  intro s plain blank
  have hdown : LeadsDown "src/a.js" := by decide +kernel
  have hdown' : LeadsDown "src/a b.js" := by decide +kernel
  have hplain : "/src/a.js?v=1" =
      Target.text ⟨"", "/" ++ encoded (unreserved.contains ·) "src/a.js", some "v=1"⟩ := by
    decide +kernel
  have hblank : "/src/a%20b.js" =
      Target.text ⟨"", "/" ++ encoded (unreserved.contains ·) "src/a b.js", none⟩ := by
    decide +kernel
  have htarget : (Target.ofText "/src/a.js?v=1").path =
      "/" ++ encoded (unreserved.contains ·) "src/a.js" :=
    hplain ▸ path_ofText_encoded mayKeep_unreserved "src/a.js" (some "v=1")
  have htarget' : (Target.ofText "/src/a%20b.js").path =
      "/" ++ encoded (unreserved.contains ·) "src/a b.js" :=
    hblank ▸ path_ofText_encoded mayKeep_unreserved "src/a b.js" none
  have hfile : twoFiles.isFile (Path.join "/app" "src/a.js") = true := by decide +kernel
  have hfile' : twoFiles.isFile (Path.join "/app" "src/a b.js") = true := by decide +kernel
  have hsame : encoded (unreserved.contains ·) "src/a.js" = "src/a.js" := by decide +kernel
  have hnone : (Server.locate twoFiles "/app"
      ("/" ++ encoded (unreserved.contains ·) "src/a b.js")).1 = none := by
    decide +kernel
  obtain ⟨f, hread⟩ := isFile_iff.mp hfile
  obtain ⟨f', hread'⟩ := isFile_iff.mp hfile'
  obtain ⟨-, hstatus, hlocated⟩ :=
    @answer_to_file s twoFiles plain _ mayKeep_unreserved _ hdown _ hread rfl htarget
  obtain ⟨-, hstatus', -⟩ :=
    @answer_to_file s twoFiles blank _ mayKeep_unreserved _ hdown' _ hread' rfl htarget'
  refine ⟨hdown, hdown', by decide +kernel, fun hnotFound => ?_, hstatus'.mpr hnone⟩
  have hfound := hstatus.mp hnotFound
  rw [hlocated hsame] at hfound
  cases hfound

end Unbundled.Proofs.FileRequests
