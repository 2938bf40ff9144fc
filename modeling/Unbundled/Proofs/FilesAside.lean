import Unbundled.Proofs.NewerFiles

namespace Unbundled.Proofs.FilesAside

open Files Paths Agreement NewerFiles

def MayBeFile (entry : Option Node) : Prop := ∀ entries, entry ≠ some (.dir entries)

section

variable (aside : List String → Prop)

mutual

/-- The nodes at a place are the same but for what is at the places left aside, where either one has a
file or nothing. -/
inductive SameBut : List String → Node → Node → Prop
  | file (place f) : SameBut place (.file f) (.file f)
  | dir {place entries entries'}
      (h : ∀ name, SameEntry (name :: place) (entries.lookup name) (entries'.lookup name)) :
      SameBut place (.dir entries) (.dir entries')

inductive SameEntry : List String → Option Node → Option Node → Prop
  | missing (place) : SameEntry place none none
  | same {place node node'} (h : SameBut place node node') : SameEntry place (some node) (some node')
  | aside {place entry entry'} (hplace : aside place) (h : MayBeFile entry) (h' : MayBeFile entry') :
      SameEntry place entry entry'

end

inductive SameUp : List String → List Node → List Node → Prop
  | nil : SameUp [] [] []
  | cons {name place node node' up up'} (h : SameBut aside place node node')
      (hs : SameUp place up up') : SameUp (name :: place) (node :: up) (node' :: up')

structure SameState (place : List String) (s s' : Node × List Node) : Prop where
  here : SameBut aside place s.1 s'.1
  up : SameUp aside place s.2 s'.2

def LeadsThrough (path : String) : Prop :=
  ∃ before after, Path.segments path = before ++ after ∧ aside (before.foldl goOn [])

end

def Blocked {α : Type} (r : Except Fault α) : Prop := r = .error .notFound ∨ r = .error .notDirectory

theorem Blocked.bind {α β : Type} {r : Except Fault α} (h : Blocked r) (f : α → Except Fault β) :
    Blocked (r.bind f) := by
  obtain rfl | rfl := h
  · exact .inl rfl
  · exact .inr rfl

def Stops (after : List String) (r : Except Fault (Node × List Node)) : Prop :=
  Blocked r ∨ after = [] ∧ ∃ f up, r = .ok (.file f, up)

/-- What comes of names that start at the same place in both file systems. -/
inductive Outcome (aside : List String → Prop) (place names : List String) :
    Except Fault (Node × List Node) → Except Fault (Node × List Node) → Prop
  | fault (e) : Outcome aside place names (.error e) (.error e)
  | same {s s'} (h : SameState aside (names.foldl goOn place) s s') :
      Outcome aside place names (.ok s) (.ok s')
  | aside {before after r r'} (hnames : names = before ++ after)
      (hplace : aside (before.foldl goOn place)) (h : Stops after r) (h' : Stops after r') :
      Outcome aside place names r r'

variable {aside : List String → Prop} {base : List String} {s s' : Node × List Node}

theorem stops_lookup (entry : Option Node) (up : List Node) : MayBeFile entry →
    Stops [] (match entry with
      | none => .error .notFound
      | some node => .ok (node, up)) := by
  intro h
  cases entry with
  | none => exact .inl (.inl rfl)
  | some node =>
      cases node with
      | file f => exact .inr ⟨rfl, f, up, rfl⟩
      | dir entries => exact absurd rfl (h entries)

theorem Stops.blocked {after : List String} {r : Except Fault (Node × List Node)} (h : Stops after r)
    (hafter : after ≠ []) : Blocked r := h.resolve_right fun h => hafter h.1

theorem Stops.append {after : List String} {r : Except Fault (Node × List Node)} (h : Stops after r)
    (names : List String) : Stops (after ++ names) (r.bind fun s => names.foldlM step s) := by
  obtain h | ⟨rfl, f, up, rfl⟩ := h
  · exact .inl (h.bind _)
  · cases names with
    | nil => exact .inr ⟨rfl, f, up, rfl⟩
    | cons name names => exact .inl (.inr rfl)

theorem Outcome.cons {name : String} {names : List String} {r r' : Except Fault (Node × List Node)}
    (h : Outcome aside (goOn base name) names r r') : Outcome aside base (name :: names) r r' := by
  cases h with
  | fault e => exact .fault e
  | same h => exact .same h
  | @aside before after _ _ hnames hplace h h' =>
      exact @Outcome.aside _ _ _ (name :: before) after _ _ (congrArg _ hnames) hplace h h'

theorem outcome_step (h : SameState aside base s s') (name : String) :
    Outcome aside base [name] (step s name) (step s' name) := by
  obtain ⟨here, up⟩ := s
  obtain ⟨here', up'⟩ := s'
  obtain ⟨hhere, hup⟩ := h
  dsimp only at hhere hup
  cases hhere with
  | file base f => exact .fault _
  | @dir base entries entries' hentries =>
      rw [step_dir, step_dir]
      by_cases hblank : name = "" ∨ name = "."
      · rw [if_pos hblank, if_pos hblank]
        refine .same ?_
        rw [List.foldl_cons, List.foldl_nil, goOn, if_pos hblank]
        exact ⟨.dir hentries, hup⟩
      · rw [if_neg hblank, if_neg hblank]
        by_cases hparent : name = ".."
        · have hplace : [name].foldl goOn base = base.drop 1 :=
            (if_neg hblank).trans (if_pos hparent)
          rw [if_pos hparent, if_pos hparent]
          cases hup with
          | nil =>
            refine .same ?_
            rw [hplace]
            exact ⟨.dir hentries, .nil⟩
          | cons h hs =>
            refine .same ?_
            rw [hplace]
            exact ⟨h, hs⟩
        · have hplace : [name].foldl goOn base = name :: base :=
            (if_neg hblank).trans (if_neg hparent)
          rw [if_neg hparent, if_neg hparent]
          split
          · exact .fault _
          · have hentry := hentries name
            generalize entries.lookup name = entry at *
            generalize entries'.lookup name = entry' at *
            cases hentry with
            | missing => exact .fault _
            | same h =>
              refine .same ?_
              rw [hplace]
              exact ⟨h, .cons (.dir hentries) hup⟩
            | aside haside h h' =>
              -- from here on the two file systems need not have anything in common
              refine .aside (List.append_nil _).symm ?_ (stops_lookup _ _ h) (stops_lookup _ _ h')
              rwa [hplace]

theorem outcome_foldlM (h : SameState aside base s s') (names : List String) :
    Outcome aside base names (names.foldlM step s) (names.foldlM step s') := by
  -- The states stay the same but for what is aside, until one of the names leads there.
  induction names generalizing base s s' with
  | nil => exact .same h
  | cons name names ih =>
      have hstep := outcome_step h name
      rw [List.foldlM_cons, List.foldlM_cons]
      generalize step s name = r at *
      generalize step s' name = r' at *
      cases hstep with
      | fault e => exact .fault e
      | same h => exact (ih h).cons
      | @aside before after _ _ hnames hplace h h' =>
          refine .aside ?_ hplace (h.append names) (h'.append names)
          rw [← List.append_assoc, ← hnames]
          rfl

variable {fs fs' : FileSystem}

theorem outcome_top (h : SameBut aside [] fs.top fs'.top) (path : String) :
    Outcome aside [] (Path.segments path) ((Path.segments path).foldlM step (fs.top, []))
      ((Path.segments path).foldlM step (fs'.top, [])) :=
  outcome_foldlM ⟨h, .nil⟩ _

theorem Blocked.readFile {path : String} (h : Blocked (fs.stat path)) : Blocked (fs.readFile path) := by
  unfold FileSystem.readFile
  obtain hstat | hstat := h
  · rw [hstat]
    exact .inl rfl
  · rw [hstat]
    exact .inr rfl

/-- The same file is read in both file systems, or the same fault met, at a path that does not lead to one
of the places left aside. If it leads on from one, then there is nothing at its end in either. -/
theorem readFile_same (h : SameBut aside [] fs.top fs'.top) {path : String}
    (hpath : ¬aside (place path)) :
    fs.readFile path = fs'.readFile path ∨
      LeadsThrough aside path ∧ Blocked (fs.readFile path) ∧ Blocked (fs'.readFile path) := by
  obtain ⟨e, hfault⟩ | hfollowed := stat_cases path
  · rw [FileSystem.readFile, FileSystem.readFile, hfault, hfault]
    exact .inl rfl
  · have houtcome := outcome_top h path
    have hfs := stat_of_isFollowed fs hfollowed
    have hfs' := stat_of_isFollowed fs' hfollowed
    generalize List.foldlM step (fs.top, []) (Path.segments path) = r at houtcome hfs
    generalize List.foldlM step (fs'.top, []) (Path.segments path) = r' at houtcome hfs'
    cases houtcome with
    | fault e =>
        rw [FileSystem.readFile, FileSystem.readFile, hfs, hfs']
        exact .inl rfl
    | @same s s' h =>
        obtain ⟨here, up⟩ := s
        obtain ⟨here', up'⟩ := s'
        obtain ⟨h, -⟩ := h
        rw [FileSystem.readFile, FileSystem.readFile, hfs, hfs']
        dsimp only at h
        cases h with
        | file => exact .inl rfl
        | dir => exact .inl rfl
    | @aside before after _ _ hnames hplace h h' =>
        have hafter : after ≠ [] := by
          rintro rfl
          rw [List.append_nil] at hnames
          rw [place_eq, hnames] at hpath
          exact hpath hplace
        have hblocked : Blocked (fs.stat path) := hfs ▸ (h.blocked hafter).bind _
        have hblocked' : Blocked (fs'.stat path) := hfs' ▸ (h'.blocked hafter).bind _
        exact .inr ⟨⟨before, after, hnames, hplace⟩, hblocked.readFile, hblocked'.readFile⟩

theorem Blocked.isFile {path : String} (h : Blocked (fs.readFile path)) : fs.isFile path = false := by
  rw [isFile_eq, ← readFile_eq]
  obtain hr | hr := h <;> rw [hr] <;> rfl

theorem isFile_same (h : SameBut aside [] fs.top fs'.top) {path : String}
    (hpath : ¬aside (place path)) : fs.isFile path = fs'.isFile path := by
  obtain hsame | ⟨-, hblocked, hblocked'⟩ := readFile_same h hpath
  · rw [isFile_eq, isFile_eq, ← readFile_eq, ← readFile_eq, hsame]
  · rw [hblocked.isFile, hblocked'.isFile]

theorem readText_same (h : SameBut aside [] fs.top fs'.top) {path : String}
    (hpath : ¬aside (place path)) :
    fs.readText path = fs'.readText path ∨
      LeadsThrough aside path ∧ Blocked (fs.readText path) ∧ Blocked (fs'.readText path) := by
  rw [readText_eq, readText_eq]
  obtain hsame | ⟨hleads, hblocked, hblocked'⟩ := readFile_same h hpath
  · rw [hsame]
    exact .inl rfl
  · exact .inr ⟨hleads, hblocked.bind _, hblocked'.bind _⟩

end Unbundled.Proofs.FilesAside
