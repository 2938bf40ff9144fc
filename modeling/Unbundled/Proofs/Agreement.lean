import Unbundled.Proofs.Paths

namespace Unbundled.Proofs.Agreement

open Files Paths

variable {fs fs' : FileSystem} {root : String}

/-- What there is to see at a path: nothing, a directory, or a file with what it holds. -/
def seen (fs : FileSystem) (path : String) : Option (Option File) :=
  (fs.stat path).toOption.map fun
    | .file f => some f
    | .dir _ => none

/-- The file systems look the same at all paths within the root. -/
def AgreeWithin (root : String) (fs fs' : FileSystem) : Prop :=
  ∀ path, Within root path → seen fs path = seen fs' path

theorem exists_eq (fs : FileSystem) (path : String) : fs.exists path = (seen fs path).isSome := by
  simp [FileSystem.exists, seen]

theorem readFile_eq (fs : FileSystem) (path : String) :
    (fs.readFile path).toOption = (seen fs path).join := by
  unfold FileSystem.readFile seen
  cases fs.stat path with
  | error e => rfl
  | ok node => cases node <;> rfl

theorem isFile_eq (fs : FileSystem) (path : String) :
    fs.isFile path = (seen fs path).join.isSome := by
  unfold FileSystem.isFile seen
  cases fs.stat path with
  | error e => rfl
  | ok node => cases node <;> rfl

theorem readText_eq (fs : FileSystem) (path : String) :
    fs.readText path = (fs.readFile path).bind fun f =>
      match String.fromUTF8? f.bytes with
      | some s => .ok s
      | none => .error .notText := rfl

theorem toOption_cases {ε α : Type} {a b : Except ε α} (h : a.toOption = b.toOption) :
    (∃ e e', a = .error e ∧ b = .error e') ∨ ∃ x, a = .ok x ∧ b = .ok x := by
  cases a with
  | error e =>
      cases b with
      | error e' => exact .inl ⟨e, e', rfl, rfl⟩
      | ok y => cases h
  | ok x =>
      cases b with
      | error e' => cases h
      | ok y =>
          cases h
          exact .inr ⟨x, rfl, rfl⟩

section

variable {path : String} (h : seen fs path = seen fs' path)
include h

theorem isFile_congr : fs.isFile path = fs'.isFile path := by rw [isFile_eq, isFile_eq, h]

theorem exists_congr : fs.exists path = fs'.exists path := by rw [exists_eq, exists_eq, h]

theorem readFile_congr : (fs.readFile path).toOption = (fs'.readFile path).toOption := by
  rw [readFile_eq, readFile_eq, h]

theorem readText_congr : (fs.readText path).toOption = (fs'.readText path).toOption := by
  rw [readText_eq, readText_eq]
  rcases toOption_cases (readFile_congr h) with ⟨e, e', he, he'⟩ | ⟨f, hf, hf'⟩
  · rw [he, he']
    rfl
  · rw [hf, hf']

end

def step : Node × List Node → String → Except Fault (Node × List Node)
  | (.file _, _), _ => .error .notDirectory
  | (.dir entries, up), name =>
    if name = "" ∨ name = "." then .ok (.dir entries, up)
    else if name = ".." then
      match up with
      | [] => .ok (.dir entries, [])
      | parent :: up => .ok (parent, up)
    else if name.utf8ByteSize > maxName then .error .nameTooLong
    else
      match entries.lookup name with
      | none => .error .notFound
      | some node => .ok (node, .dir entries :: up)

theorem step_dir (entries : List (String × Node)) (up : List Node) (name : String) :
    step (.dir entries, up) name =
      if name = "" ∨ name = "." then .ok (.dir entries, up)
      else if name = ".." then
        match up with
        | [] => .ok (.dir entries, [])
        | parent :: up => .ok (parent, up)
      else if name.utf8ByteSize > maxName then .error .nameTooLong
      else
        match entries.lookup name with
        | none => .error .notFound
        | some node => .ok (node, .dir entries :: up) := rfl

theorem follow_eq (here : Node) (up : List Node) (names : List String) :
    follow here up names = (names.foldlM step (here, up)).map (·.1) := by
  induction names generalizing here up with
  | nil => rfl
  | cons name names ih =>
      rw [List.foldlM_cons]
      cases here with
      | file f => rfl
      | dir entries =>
          simp only [follow]
          rw [step_dir]
          by_cases hblank : name = "" ∨ name = "."
          · rw [if_pos hblank, if_pos hblank]
            exact ih ..
          · rw [if_neg hblank, if_neg hblank]
            by_cases hup : name = ".."
            · rw [if_pos hup, if_pos hup]
              cases up with
              | nil => exact ih ..
              | cons parent up => exact ih ..
            · rw [if_neg hup, if_neg hup]
              split
              · rfl
              · cases entries.lookup name with
                | none => rfl
                | some node => exact ih ..

theorem step_blank {name : String} (h : name = "" ∨ name = ".") (entries : List (String × Node))
    (up : List Node) : step (.dir entries, up) name = .ok (.dir entries, up) := if_pos h

theorem foldlM_step_plain {names : List String} {s : Node × List Node}
    {entries : List (String × Node)} {up : List Node} :
    names.foldlM step s = .ok (.dir entries, up) ↔
      (names.filter fun n => n ≠ "" ∧ n ≠ ".").foldlM step s = .ok (.dir entries, up) := by
  induction names generalizing s with
  | nil => rfl
  | cons name names ih =>
      by_cases hblank : name = "" ∨ name = "."
      · rw [List.filter_cons_of_neg (by simpa [or_iff_not_imp_left] using hblank), List.foldlM_cons]
        obtain ⟨here, up'⟩ := s
        cases here with
        | file f =>
            refine ⟨nofun, fun h => ?_⟩
            cases hplain : names.filter fun n => n ≠ "" ∧ n ≠ "." with
            | nil =>
                rw [hplain] at h
                cases h
            | cons n ns =>
                rw [hplain] at h
                cases h
        | dir es =>
            rw [step_blank hblank]
            exact ih
      · rw [List.filter_cons_of_pos (by simpa [not_or] using hblank), List.foldlM_cons,
          List.foldlM_cons]
        cases step s name with
        | error e => exact ⟨nofun, nofun⟩
        | ok s' => exact ih

theorem foldlM_step_stay (below : List Node) {names : List String} {depth : Nat}
    (h : (names.filter fun n => n ≠ "" ∧ n ≠ ".").foldlM deeper? below.length = some depth)
    (here : Node) (up up' : List Node) :
    (names.foldlM step (here, below ++ up)).map (·.1) =
      (names.foldlM step (here, below ++ up')).map (·.1) := by
  -- `below` is what has been passed since the node: it never runs out, so `up` is never looked at.
  induction names generalizing below here with
  | nil => rfl
  | cons name names ih =>
      rw [List.foldlM_cons, List.foldlM_cons]
      cases here with
      | file f => rfl
      | dir entries =>
          by_cases hblank : name = "" ∨ name = "."
          · rw [List.filter_cons_of_neg (by simpa [or_iff_not_imp_left] using hblank)] at h
            rw [step_blank hblank, step_blank hblank]
            exact ih below h _
          · rw [List.filter_cons_of_pos (by simpa [not_or] using hblank)] at h
            obtain ⟨d, hd, hrest⟩ := Option.bind_eq_some_iff.mp h
            rw [step_dir, step_dir, if_neg hblank, if_neg hblank]
            unfold deeper? at hd
            by_cases hup : name = ".."
            · rw [if_pos hup] at hd
              rw [if_pos hup, if_pos hup]
              cases below with
              | nil => cases hd
              | cons parent below =>
                  obtain rfl := Option.some.inj hd
                  exact ih below hrest parent
            · rw [if_neg hup] at hd
              obtain rfl := Option.some.inj hd
              rw [if_neg hup, if_neg hup]
              split
              · rfl
              · cases entries.lookup name with
                | none => rfl
                | some node => exact ih (.dir entries :: below) hrest node

def IsFollowed (path : String) : Prop :=
  path.toList.contains '\x00' = false ∧ path.isEmpty = false ∧ path.utf8ByteSize < maxPath

theorem stat_of_isFollowed (fs : FileSystem) {path : String} (h : IsFollowed path) :
    fs.stat path = ((Path.segments path).foldlM step (fs.top, [])).map (·.1) := by
  obtain ⟨hnul, hempty, hsize⟩ := h
  rw [FileSystem.stat, hnul, hempty, if_neg Bool.false_ne_true, if_neg Bool.false_ne_true,
    if_neg (Nat.not_le.mpr hsize), follow_eq]

theorem stat_cases (path : String) :
    (∃ e, ∀ fs : FileSystem, fs.stat path = .error e) ∨ IsFollowed path := by
  by_cases hnul : path.toList.contains '\x00' = true
  · exact .inl ⟨.nulInName, fun fs => if_pos hnul⟩
  · by_cases hempty : path.isEmpty = true
    · refine .inl ⟨.notFound, fun fs => ?_⟩
      rw [FileSystem.stat, if_neg hnul, if_pos hempty]
    · by_cases hlong : path.utf8ByteSize ≥ maxPath
      · refine .inl ⟨.nameTooLong, fun fs => ?_⟩
        rw [FileSystem.stat, if_neg hnul, if_neg hempty, if_pos hlong]
      · exact .inr ⟨Bool.eq_false_iff.mpr hnul, Bool.eq_false_iff.mpr hempty, Nat.not_le.mp hlong⟩

theorem isFollowed_of_stat {path : String} {node : Node} (h : fs.stat path = .ok node) :
    IsFollowed path := by
  obtain ⟨e, hfault⟩ | hfollowed := stat_cases path
  · rw [hfault fs] at h
    cases h
  · exact hfollowed

theorem stat_congr (fs : FileSystem) {path path' : String}
    (hnul : path.toList.contains '\x00' = path'.toList.contains '\x00')
    (hempty : path.isEmpty = path'.isEmpty) (hsize : path.utf8ByteSize < maxPath)
    (hsize' : path'.utf8ByteSize < maxPath)
    (hnames : (Path.segments path).foldlM step (fs.top, []) =
      (Path.segments path').foldlM step (fs.top, [])) : fs.stat path = fs.stat path' := by
  rw [FileSystem.stat, FileSystem.stat, hnul, hempty, if_neg (Nat.not_le.mpr hsize),
    if_neg (Nat.not_le.mpr hsize'), follow_eq, follow_eq, hnames]

theorem stat_dir {path : String} {entries : List (String × Node)} (h : fs.stat path = .ok (.dir entries)) :
    ∃ up, (plainNames path).foldlM step (fs.top, []) = .ok (.dir entries, up) := by
  rw [stat_of_isFollowed fs (isFollowed_of_stat h)] at h
  cases hfold : (Path.segments path).foldlM step (fs.top, []) with
  | error e =>
      rw [hfold] at h
      cases h
  | ok s =>
      rw [hfold] at h
      obtain ⟨here, up⟩ := s
      obtain rfl : here = .dir entries := by simpa [Except.map] using h
      exact ⟨up, foldlM_step_plain.mp hfold⟩

/-- File systems with the same directory at the root look the same within it. -/
theorem agreeWithin_of_stat {entries : List (String × Node)} (h : fs.stat root = .ok (.dir entries))
    (h' : fs'.stat root = .ok (.dir entries)) : AgreeWithin root fs fs' := by
  rintro path ⟨names, hnames, hstay⟩
  obtain ⟨depth, hdepth⟩ := Option.isSome_iff_exists.mp hstay
  obtain ⟨before, behind, hsegments, hbefore, hbehind⟩ := List.filter_eq_append_iff.mp hnames
  obtain ⟨up, hup⟩ := stat_dir h
  obtain ⟨up', hup'⟩ := stat_dir h'
  rw [← hbefore] at hup hup'
  have hfollow : ((Path.segments path).foldlM step (fs.top, [])).map (·.1) =
      ((Path.segments path).foldlM step (fs'.top, [])).map (·.1) := by
    rw [hsegments, List.foldlM_append, List.foldlM_append, foldlM_step_plain.mpr hup,
      foldlM_step_plain.mpr hup']
    rw [← hbehind] at hdepth
    exact foldlM_step_stay [] hdepth (.dir entries) up up'
  obtain ⟨e, hfault⟩ | hfollowed := stat_cases path
  · rw [seen, seen, hfault, hfault]
  · rw [seen, seen, stat_of_isFollowed fs hfollowed, stat_of_isFollowed fs' hfollowed, hfollow]

end Unbundled.Proofs.Agreement
