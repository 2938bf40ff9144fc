import Unbundled.Loadable
import Unbundled.Proofs.Specifiers

namespace Unbundled.Proofs.Treatments

open Files Linking Script Specifiers

/-- The same treatment, whatever the reason why there is nothing to load. -/
inductive Alike : Treatment → Treatment → Prop where
  | keep : Alike .keep .keep
  | replace (url : String) : Alike (.replace url) (.replace url)
  | unresolved (reason reason' : Reason) : Alike (.unresolved reason) (.unresolved reason')

theorem Alike.refl (t : Treatment) : Alike t t := by
  cases t with
  | keep => exact .keep
  | replace url => exact .replace url
  | unresolved reason => exact .unresolved reason reason

def SameItems (l l' : Linked) : Prop := l.items = l'.items ∧ l.taken = l'.taken

variable {treat treat' : String → Treatment}

theorem linkImport_sameItems {source : StringLit}
    (h : Alike (treat source.value) (treat' source.value))
    (s : Span) (specifiers : List ImportSpecifier) (attrs : Option Expr) :
    SameItems (linkImport treat s specifiers source attrs)
      (linkImport treat' s specifiers source attrs) := by
  unfold linkImport
  generalize treat source.value = t at h
  generalize treat' source.value = t' at h
  cases h <;> exact ⟨rfl, rfl⟩

theorem linkExportSource_eq {source : StringLit}
    (h : Alike (treat source.value) (treat' source.value)) :
    linkExportSource treat source = linkExportSource treat' source := by
  unfold linkExportSource
  generalize treat source.value = t at h
  generalize treat' source.value = t' at h
  cases h <;> rfl

theorem linkRequire_sameItems {specifier : String} (h : Alike (treat specifier) (treat' specifier))
    (taken : List String) (s : Span) (kind : VarKind) (d : Declarator) :
    SameItems (linkRequire treat taken s kind d specifier)
      (linkRequire treat' taken s kind d specifier) := by
  unfold linkRequire
  generalize treat specifier = t at h
  generalize treat' specifier = t' at h
  cases h <;> exact ⟨rfl, rfl⟩

theorem linkItem_sameItems {item : Stmt}
    (h : ∀ x ∈ itemSpecifiers item, Alike (treat x) (treat' x)) (taken : List String) :
    SameItems (linkItem treat taken item) (linkItem treat' taken item) := by
  unfold linkItem
  split
  · exact linkImport_sameItems (h _ (List.mem_singleton_self _)) ..
  · rw [linkExportSource_eq (h _ (List.mem_singleton_self _))]
    exact ⟨rfl, rfl⟩
  · rw [linkExportSource_eq (h _ (List.mem_singleton_self _))]
    exact ⟨rfl, rfl⟩
  · split
    · rename_i d specifier hd
      exact linkRequire_sameItems (h specifier (by simp [itemSpecifiers, hd])) ..
    · exact ⟨rfl, rfl⟩
  · exact ⟨rfl, rfl⟩

theorem linkItems_alike {items : List Stmt}
    (h : ∀ x ∈ specifiers items, Alike (treat x) (treat' x)) (taken : List String) :
    (linkItems treat taken items).1 = (linkItems treat' taken items).1 := by
  induction items generalizing taken with
  | nil => rfl
  | cons item rest ih =>
      obtain ⟨hitems, htaken⟩ :=
        linkItem_sameItems (fun x hx => h x (List.mem_append_left _ hx)) taken
      have hrest := ih (fun x hx => h x (List.mem_append_right _ hx))
      simp only [linkItems, hitems, htaken, hrest]

variable {fs fs' : FileSystem} {root root' : String}

theorem link_alike {items : List Stmt}
    (h : ∀ x ∈ specifiers items, Alike (classify fs root x) (classify fs' root' x)) :
    (link fs root items).items = (link fs' root' items).items := linkItems_alike h []

theorem ofSource_of_fault (fs : FileSystem) (root : String) {path source : String}
    {fault : SourceFault} (h : readSource path source = .error fault) :
    Loadable.ofSource fs root path source = .error fault := by
  rw [Loadable.ofSource, h]
  rfl

theorem ofSource_of_read (fs : FileSystem) (root : String) {path source : String} {m : Module}
    (h : readSource path source = .ok m) :
    ∃ l, Loadable.ofSource fs root path source = .ok l ∧ l.exports = m.items.any exportsValue := by
  unfold Loadable.ofSource
  rw [h]
  exact ⟨_, rfl, rfl⟩

theorem code_alike {path source : String} {m : Module} {l l' : Loadable}
    (hm : readSource path source = .ok m)
    (h : ∀ x ∈ specifiers m.items, Alike (classify fs root x) (classify fs' root' x))
    (hl : Loadable.ofSource fs root path source = .ok l)
    (hl' : Loadable.ofSource fs' root' path source = .ok l') : l'.code = l.code := by
  unfold Loadable.ofSource at hl hl'
  rw [hm] at hl hl'
  obtain rfl := Except.ok.inj hl
  obtain rfl := Except.ok.inj hl'
  dsimp only
  rw [link_alike h]
  rfl

theorem ofSource_code_eq (path source : String)
    (h : ∀ m, readSource path source = .ok m →
      ∀ x ∈ specifiers m.items, Alike (classify fs root x) (classify fs' root' x)) :
    (Loadable.ofSource fs' root' path source).map (·.code) =
      (Loadable.ofSource fs root path source).map (·.code) := by
  cases hm : readSource path source with
  | error fault => rw [ofSource_of_fault fs root hm, ofSource_of_fault fs' root' hm]
  | ok m =>
      obtain ⟨l, hl, -⟩ := ofSource_of_read fs root hm
      obtain ⟨l', hl', -⟩ := ofSource_of_read fs' root' hm
      rw [hl, hl', Except.map, Except.map, code_alike hm (h m hm) hl hl']

/-- Under two roots, each with files of its own, a source fails with the same fault, or becomes a
module both times, with the same exports. The code is the same if the specifiers of the module are
treated alike. -/
theorem ofSource_two_roots (fs fs' : FileSystem) (root root' path source : String) :
    (∃ fault, Loadable.ofSource fs root path source = .error fault ∧
        Loadable.ofSource fs' root' path source = .error fault) ∨
      ∃ m l l', readSource path source = .ok m ∧
        Loadable.ofSource fs root path source = .ok l ∧
        Loadable.ofSource fs' root' path source = .ok l' ∧ l'.exports = l.exports ∧
        ((∀ x ∈ specifiers m.items, Alike (classify fs root x) (classify fs' root' x)) →
          l'.code = l.code) := by
  cases hm : readSource path source with
  | error fault => exact .inl ⟨fault, ofSource_of_fault fs root hm, ofSource_of_fault fs' root' hm⟩
  | ok m =>
      obtain ⟨l, hl, hexports⟩ := ofSource_of_read fs root hm
      obtain ⟨l', hl', hexports'⟩ := ofSource_of_read fs' root' hm
      exact .inr ⟨m, l, l', rfl, hl, hl', hexports'.trans hexports.symm,
        fun h => code_alike hm h hl hl'⟩

def packages (root manifest manifest' : String) : FileSystem :=
  let text (s : String) : Node := .file ⟨s.toUTF8, ⟨0, 0⟩⟩
  let one := .dir [("package.json", text manifest), ("index.js", text "export default 1;\n")]
  let two := .dir [("package.json", text manifest')]
  ⟨.dir [(root, .dir [("node_modules", .dir [("one", one), ("two", two)])])]⟩

theorem ofSource_two_roots_packages :
    let source := "import a from 'one';\nimport b from 'two';\nexport default a(b);\n"
    let fs := packages "here" "\x7b\x7d" "\x7b"
    let fs' := packages "there" "\x7b\"main\": \"./index.js\"\x7d" "\x7b\x7d"
    ∃ m l l', readSource "/a.js" source = .ok m ∧ Loadable.ofSource fs "/here" "/a.js" source = .ok l ∧
      Loadable.ofSource fs' "/there" "/a.js" source = .ok l' ∧ l'.exports = l.exports ∧
      (∀ x ∈ specifiers m.items, Alike (classify fs "/here" x) (classify fs' "/there" x)) ∧
      l'.code = l.code ∧ l.notices ≠ l'.notices := by
  intro source fs fs'
  have hmade : (Loadable.ofSource fs "/here" "/a.js" source).toOption.isSome = true := by
    decide +kernel
  have hnotices : (Loadable.ofSource fs "/here" "/a.js" source).toOption.map (·.notices) ≠
      (Loadable.ofSource fs' "/there" "/a.js" source).toOption.map (·.notices) := by decide +kernel
  have hnames : (readSource "/a.js" source).toOption.map (fun m => specifiers m.items) =
      some ["one", "two"] := by decide +kernel
  rcases ofSource_two_roots fs fs' "/here" "/there" "/a.js" source with
    ⟨fault, hl, -⟩ | ⟨m, l, l', hm, hl, hl', hexports, hcode⟩
  · rw [hl] at hmade
    cases hmade
  · have hitems : specifiers m.items = ["one", "two"] := by
      rw [hm] at hnames
      exact Option.some.inj hnames
    have hone : classify fs "/here" "one" = classify fs' "/there" "one" := by decide +kernel
    have htwo : classify fs "/here" "two" = .unresolved (.manifestInvalid
          "/here/node_modules/two/package.json" "EOF while parsing an object at line 1 column 1") ∧
        classify fs' "/there" "two" = .unresolved .entryNotFound := by decide +kernel
    have halike : ∀ x ∈ specifiers m.items,
        Alike (classify fs "/here" x) (classify fs' "/there" x) := by
      intro x hx
      rw [hitems, List.mem_cons, List.mem_singleton] at hx
      rcases hx with rfl | rfl
      · rw [hone]
        exact .refl _
      · rw [htwo.1, htwo.2]
        exact .unresolved _ _
    rw [hl, hl'] at hnotices
    exact ⟨m, l, l', hm, hl, hl', hexports, halike, hcode halike, fun he => hnotices (congrArg some he)⟩

end Unbundled.Proofs.Treatments
