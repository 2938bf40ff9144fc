import Unbundled.Server

namespace Unbundled.Proofs.Answers

open Files

variable {s : Server} {fs : FileSystem} {q : Query} {l : Server.Location} {f : File}

def answerAt (s : Server) (fs : FileSystem) (q : Query) (l : Server.Location) :
    Except Failure Outcome :=
  match fs.readFile l.file with
  | .error _ => .ok .other
  | .ok file =>
    if !Server.moduleExtensions.contains (Server.extension l.path) then .ok .other
    else if Server.isFresh q file.modified then .ok .notModified
    else (s.content fs q l file.modified).1

theorem load_outside (h : ".." ∈ Path.segments q.path) : (s.load fs q).1 = .ok .notFound := by
  rw [Server.load, if_pos (List.contains_iff_mem.mpr h)]

theorem load_inside (h : ".." ∉ Path.segments q.path) :
    (s.load fs q).1 = (Server.locate fs s.root q.path).1.elim (.ok .notFound) (answerAt s fs q) := by
  rw [Server.load, if_neg (mt List.contains_iff_mem.mp h)]
  generalize Server.locate fs s.root q.path = located
  obtain ⟨found, notices⟩ := located
  cases found with
  | none => rfl
  | some l =>
      dsimp only [Option.elim, answerAt]
      cases fs.readFile l.file with
      | error fault => rfl
      | ok file =>
          dsimp only
          split
          · rfl
          · split <;> rfl

theorem content_fst (s : Server) (fs : FileSystem) (q : Query) (l : Server.Location)
    (modified : Instant) :
    (s.content fs q l modified).1 =
      match fs.readText l.file with
      | .error fault => .error (.io fault.message)
      | .ok source =>
        (Server.body fs s.root q l.path source).1.map fun made => .content
          ⟨Plugin.applyAll s.plugins s.root l.path made.1, made.2, Server.cacheControl l.path,
            HttpDate.text? modified, l.path⟩ := by
  unfold Server.content
  cases fs.readText l.file with
  | error fault => rfl
  | ok source => dsimp only

theorem answerAt_of_not_file (h : fs.isFile l.file = false) : answerAt s fs q l = .ok .other := by
  unfold FileSystem.isFile at h
  unfold answerAt FileSystem.readFile
  cases hstat : fs.stat l.file with
  | error fault => rfl
  | ok node =>
      cases node with
      | file f =>
          rw [hstat] at h
          cases h
      | dir entries => rfl

theorem content_cases (s : Server) (fs : FileSystem) (q : Query) (l : Server.Location)
    (modified : Instant) :
    (∃ fault, (s.content fs q l modified).1 = .error fault) ∨
      ∃ c, (s.content fs q l modified).1 = .ok (.content c) := by
  rw [content_fst]
  cases fs.readText l.file with
  | error fault => exact .inl ⟨_, rfl⟩
  | ok source =>
      dsimp only
      cases (Server.body fs s.root q l.path source).1 with
      | error fault => exact .inl ⟨_, rfl⟩
      | ok made => exact .inr ⟨_, rfl⟩

theorem answerAt_ne_notFound (s : Server) (fs : FileSystem) (q : Query) (l : Server.Location) :
    answerAt s fs q l ≠ .ok .notFound := by
  unfold answerAt
  cases fs.readFile l.file with
  | error fault => nofun
  | ok file =>
      dsimp only
      split
      · nofun
      · split
        · nofun
        · obtain ⟨fault, h⟩ | ⟨c, h⟩ := content_cases s fs q l file.modified
          · rw [h]
            nofun
          · rw [h]
            nofun

/-- The file of a module that a request is for. -/
structure IsServed (s : Server) (fs : FileSystem) (q : Query) (l : Server.Location) (f : File) :
    Prop where
  inside : ".." ∉ Path.segments q.path
  located : (Server.locate fs s.root q.path).1 = some l
  read : fs.readFile l.file = .ok f
  isModule : Server.moduleExtensions.contains (Server.extension l.path) = true

theorem IsServed.load (h : IsServed s fs q l f) :
    (s.load fs q).1 =
      if Server.isFresh q f.modified then .ok .notModified else (s.content fs q l f.modified).1 := by
  rw [load_inside h.inside, h.located, Option.elim_some, answerAt, h.read]
  dsimp only
  rw [h.isModule]
  rfl

theorem exists_isServed {o : Outcome} (h : (s.load fs q).1 = .ok o) (hfound : o ≠ .notFound)
    (hmodule : o ≠ .other) : ∃ l f, IsServed s fs q l f := by
  have hinside : ".." ∉ Path.segments q.path := by
    intro houtside
    rw [load_outside houtside] at h
    exact hfound (Except.ok.inj h).symm
  rw [load_inside hinside] at h
  cases hlocated : (Server.locate fs s.root q.path).1 with
  | none =>
      rw [hlocated] at h
      exact absurd (Except.ok.inj h).symm hfound
  | some l =>
      rw [hlocated, Option.elim_some, answerAt] at h
      cases hread : fs.readFile l.file with
      | error fault =>
          rw [hread] at h
          exact absurd (Except.ok.inj h).symm hmodule
      | ok f =>
          rw [hread] at h
          cases hextension : Server.moduleExtensions.contains (Server.extension l.path) with
          | false =>
              simp only [hextension] at h
              exact absurd (Except.ok.inj h).symm hmodule
          | true => exact ⟨l, f, hinside, hlocated, hread, hextension⟩

theorem content_ne_notModified (s : Server) (fs : FileSystem) (q : Query) (l : Server.Location)
    (modified : Instant) : (s.content fs q l modified).1 ≠ .ok .notModified := by
  obtain ⟨fault, h⟩ | ⟨c, h⟩ := content_cases s fs q l modified
  · rw [h]
    nofun
  · rw [h]
    nofun

theorem load_eq_notModified_iff :
    (s.load fs q).1 = .ok .notModified ↔
      ∃ l f, IsServed s fs q l f ∧ Server.isFresh q f.modified = true := by
  constructor
  · intro h
    obtain ⟨l, f, hserved⟩ := exists_isServed h nofun nofun
    refine ⟨l, f, hserved, Decidable.not_not.mp fun hfresh => ?_⟩
    rw [hserved.load, if_neg hfresh] at h
    exact content_ne_notModified s fs q l f.modified h
  · rintro ⟨l, f, hserved, hfresh⟩
    rw [hserved.load, if_pos hfresh]

theorem load_eq_content_iff {c : Content} :
    (s.load fs q).1 = .ok (.content c) ↔
      ∃ l f, IsServed s fs q l f ∧ Server.isFresh q f.modified = false ∧
        (s.content fs q l f.modified).1 = .ok (.content c) := by
  constructor
  · intro h
    obtain ⟨l, f, hserved⟩ := exists_isServed h nofun nofun
    rw [hserved.load] at h
    cases hfresh : Server.isFresh q f.modified with
    | true =>
        rw [hfresh] at h
        cases h
    | false =>
        rw [hfresh] at h
        exact ⟨l, f, hserved, hfresh, h⟩
  · rintro ⟨l, f, hserved, hfresh, hcontent⟩
    rw [hserved.load, hfresh]
    exact hcontent

theorem IsServed.of_path {q' : Query} (h : IsServed s fs q l f) (hpath : q'.path = q.path) :
    IsServed s fs q' l f :=
  ⟨hpath ▸ h.inside, hpath ▸ h.located, h.read, h.isModule⟩

end Unbundled.Proofs.Answers
