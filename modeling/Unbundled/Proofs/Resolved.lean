import Unbundled.Resolver

namespace Unbundled.Proofs.Resolved

open Files

variable {fs : FileSystem} {root : String}

def packageDir (root name : String) : String := Path.join (Resolver.nodeModules root) name

def manifestPath (root name : String) : String := Path.join (packageDir root name) "package.json"

inductive PackageEnds (fs : FileSystem) (root name : String) : Resolution → Prop
  | unread {fault} (htext : fs.readText (manifestPath root name) = .error fault) :
      PackageEnds fs root name (.unresolved .manifestNotFound)
  | undescribed {text fault} (htext : fs.readText (manifestPath root name) = .ok text)
      (hread : Manifest.read text = .error fault) :
      PackageEnds fs root name
        (.unresolved (.manifestInvalid (manifestPath root name) (fault.message text)))
  | noEntry {text m} (htext : fs.readText (manifestPath root name) = .ok text)
      (hread : Manifest.read text = .ok m)
      (hfile : fs.isFile (Path.join (packageDir root name) m.entry) = false) :
      PackageEnds fs root name (.unresolved .entryNotFound)
  | entry {text m} (htext : fs.readText (manifestPath root name) = .ok text)
      (hread : Manifest.read text = .ok m)
      (hfile : fs.isFile (Path.join (packageDir root name) m.entry) = true) :
      PackageEnds fs root name (.resolved ("/node_modules/" ++ name ++ "/" ++ m.entry))

theorem packageEnds_resolvePackage {name : String} :
    PackageEnds fs root name (Resolver.resolvePackage fs root name) := by
  unfold Resolver.resolvePackage
  extract_lets dir manifest
  split
  · rename_i fault htext
    exact .unread htext
  · rename_i text htext
    split
    · rename_i fault hread
      exact .undescribed htext hread
    · rename_i m hread
      split
      · rename_i hfile
        exact .entry htext hread hfile
      · rename_i hfile
        exact .noEntry htext hread (Bool.eq_false_iff.mpr hfile)

/-- The file that resolving a name ends at, and the path that stands for it: the file of that name,
up to a suffix, or the entry of the package of that name. -/
inductive EndsAt (fs : FileSystem) (root name : String) : String → String → Prop
  | file (suffix : String) (hsuffix : suffix ∈ Resolver.suffixes) :
      EndsAt fs root name (packageDir root (name ++ suffix))
        ("/node_modules/" ++ (name ++ suffix))
  | entry (text : String) (m : Manifest)
      (htext : fs.readText (manifestPath root name) = .ok text) (hread : Manifest.read text = .ok m) :
      EndsAt fs root name (Path.join (packageDir root name) m.entry)
        ("/node_modules/" ++ name ++ "/" ++ m.entry)

theorem endsAt_of_resolvePackage {name url : String}
    (h : Resolver.resolvePackage fs root name = .resolved url) :
    ∃ file, EndsAt fs root name file url ∧ fs.isFile file = true := by
  have hends : PackageEnds fs root name _ := packageEnds_resolvePackage
  rw [h] at hends
  cases hends with
  | entry htext hread hfile => exact ⟨_, .entry _ _ htext hread, hfile⟩

theorem endsAt_of_resolve {specifier url : String}
    (h : Resolver.resolve fs root specifier = .resolved url) :
    ∃ file, EndsAt fs root (Text.withoutTrailing '/' specifier) file url ∧ fs.isFile file = true := by
  unfold Resolver.resolve at h
  extract_lets name at h
  split at h
  · split at h
    · rename_i candidate hcandidate
      obtain ⟨suffix, hsuffix, rfl⟩ := List.mem_map.mp (List.mem_of_find?_eq_some hcandidate)
      have hfile := List.find?_some hcandidate
      cases h
      exact ⟨_, .file suffix hsuffix, hfile⟩
    · split at h
      · exact endsAt_of_resolvePackage h
      · cases h
  · exact endsAt_of_resolvePackage h

theorem EndsAt.exists_url {name file url : String} (h : EndsAt fs root name file url) :
    ∃ rest, url = "/node_modules/" ++ rest := by
  cases h with
  | file suffix hsuffix => exact ⟨name ++ suffix, rfl⟩
  | entry text m htext hread => exact ⟨name ++ ("/" ++ m.entry), by simp only [String.append_assoc]⟩

end Unbundled.Proofs.Resolved
