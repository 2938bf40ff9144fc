import Mathlib.Data.List.Nodup
import Mathlib.Data.List.ReduceOption
import Unbundled.Proofs.JsonGrammar
import Unbundled.Resolver

namespace Unbundled.Proofs.ManifestTexts

open Json Json.Reader JsonReaders JsonGrammar

/-! ## Texts of manifests -/

inductive FieldText : Option String → List Char → List Char → Prop
  | null {rest} : FieldText none ('n' :: 'u' :: 'l' :: 'l' :: rest) rest
  | string {t cs rest} (h : Spells t cs rest) :
      FieldText (some (String.ofList t)) ('"' :: cs) rest

def Item (field : Option String) (cs rest : List Char) : Prop := FieldText field (trimmed cs) rest

def fieldNames : List String := ["module", "main"]

/-- The value of a member of the given name, and the field that it is, if it is one. -/
inductive Content (name : String) : Option (String × Option String) → List Char → List Char → Prop
  | field {value cs rest} (hname : name ∈ fieldNames) (h : Item value cs rest) :
      Content name (some (name, value)) cs rest
  | other {cs rest} (hname : name ∉ fieldNames) (h : Value (trimmed cs) rest) :
      Content name none cs rest

inductive Member (field : Option (String × Option String)) : List Char → List Char → Prop
  | mk {cs s name t v rest} (hquote : trimmed cs = '"' :: s) (hname : Spells name s t)
      (hcolon : trimmed t = ':' :: v) (h : Content (String.ofList name) field v rest) :
      Member field cs rest

/-- Entries with commas between them, up to what closes them. Before the first one is no comma. -/
inductive Entries {α : Type} (entry : α → List Char → List Char → Prop) (closing : Char) :
    Bool → List α → List Char → List Char → Prop
  | close {first cs rest} (h : trimmed cs = closing :: rest) : Entries entry closing first [] cs rest
  | entry {first a as cs t u rest} (hsep : Separated first cs t) (h : entry a t u)
      (hs : Entries entry closing false as u rest) : Entries entry closing first (a :: as) cs rest

def manifestOf (fields : List (String × Option String)) : Manifest :=
  ⟨(fields.lookup "module").join, (fields.lookup "main").join⟩

/-- A text that describes a manifest: an object that has no field twice, or a list of at most the two
fields in order. -/
inductive Describes (text : List Char) : Manifest → Prop
  | object {members t rest} (hopen : trimmed text = '\x7b' :: t)
      (h : Entries Member '\x7d' true members t rest) (hend : trimmed rest = [])
      (hdistinct : (members.reduceOption.map Prod.fst).Nodup) :
      Describes text (manifestOf members.reduceOption)
  | list {items t rest} (hopen : trimmed text = '[' :: t) (h : Entries Item ']' true items t rest)
      (hend : trimmed rest = []) (hlength : items.length ≤ 2) :
      Describes text ⟨items[0]?.join, items[1]?.join⟩

/-! ## Fields -/

variable {α : Type} {cs t rest : List Char} {o : Nat}

theorem FieldText.value {field : Option String} (h : FieldText field cs rest) : Value cs rest := by
  cases h with
  | null => exact .null
  | string h => exact .string h.characters

theorem not_yields_unexpected {a : α} {expected : String} :
    ¬Yields (unexpected expected) ⟨cs, o⟩ a rest := by
  unfold unexpected
  rw [yields_peekToken_bind fun o => iff_false_intro ?_]
  · exact not_false
  · split
    · exact yields_fail
    · exact not_yields_bind_of_right fun _ _ _ => not_yields_bind_of_right fun _ _ _ => yields_fail
    · exact not_yields_bind_of_right fun _ _ _ => not_yields_bind_of_right fun _ _ _ => yields_fail
    · exact not_yields_bind_of_right fun _ _ _ => not_yields_bind_of_right fun _ _ _ => yields_fail
    · exact not_yields_bind_of_right fun _ _ _ => not_yields_bind_of_right fun _ _ _ => yields_fail
    · exact yields_fail
    · exact yields_fail
    · split
      · split
        · refine not_yields_bind_of_right fun _ _ _ => not_yields_bind_of_right fun n _ _ => ?_
          cases n <;> exact yields_fail
        · refine not_yields_bind_of_right fun n _ _ => ?_
          cases n <;> exact yields_fail
      · exact yields_failNext

theorem yields_presentField {field : Field} :
    Yields (presentField .text) ⟨cs, o⟩ field rest ↔
      ∃ t, trimmed cs = '"' :: t ∧ ∃ u, Spells u t rest ∧ field = .text (String.ofList u) := by
  unfold presentField
  refine yields_peekToken_bind fun o => ?_
  cases h : trimmed cs with
  | nil => simp
  | cons c t =>
      by_cases hquote : c = '"'
      · subst hquote
        simp only [List.head?_cons, yields_skip_bind]
        rw [yields_bind (Q := fun a u => field = .text a ∧ u = rest) fun a u o _ => yields_pure]
        simp only [yields_string]
        grind
      · simp [hquote, not_yields_unexpected]

theorem fieldText_iff {value : Option String} : FieldText value cs rest ↔
    (value = none ∧ cs = 'n' :: (['u', 'l', 'l'] ++ rest)) ∨
      ∃ t, cs = '"' :: t ∧ ∃ u, Spells u t rest ∧ value = some (String.ofList u) := by
  constructor
  · rintro (_ | h)
    · exact .inl ⟨rfl, rfl⟩
    · exact .inr ⟨_, rfl, _, h, rfl⟩
  · rintro (⟨rfl, rfl⟩ | ⟨t, rfl, u, h, rfl⟩)
    · exact .null
    · exact .string h

theorem yields_field {field : Option Field} :
    Yields (Reader.field Manifest.shape .text) ⟨cs, o⟩ field rest ↔
      ∃ value, Item value cs rest ∧ field = value.map .text := by
  have hpresent {o : Nat} : Yields (do return some (← presentField .text)) ⟨trimmed cs, o⟩ field rest ↔
      ∃ t, trimmed cs = '"' :: t ∧ ∃ u, Spells u t rest ∧ field = some (.text (String.ofList u)) := by
    rw [yields_bind (Q := fun a u => field = some a ∧ u = rest) fun a u o _ => yields_pure]
    simp only [yields_presentField, trimmed_trimmed]
    grind
  unfold Reader.field Item
  refine yields_peekToken_bind fun o => ?_
  simp only [fieldText_iff]
  cases h : trimmed cs with
  | nil =>
      rw [h] at hpresent
      rw [if_neg (by simp), hpresent]
      simp
  | cons c t =>
      rw [h] at hpresent
      by_cases hnull : c = 'n'
      · subst hnull
        rw [if_pos ⟨rfl, rfl⟩, yields_skip_bind,
          yields_then (Q := fun u => field = none ∧ u = rest) fun u o _ => yields_pure]
        simp only [yields_word]
        grind
      · rw [if_neg (by simpa [Manifest.shape] using hnull), hpresent]
        grind

/-! ## Members -/

def recordOf (fields : List (String × Option String)) : Record :=
  Manifest.shape.fields.map fun f => (fields.lookup f.1).join.map .text

theorem mem_fieldNames {name : String} : name ∈ fieldNames ↔ name = "module" ∨ name = "main" := by
  simp [fieldNames]

theorem index?_eq_some {name : String} {i : Nat} : Manifest.shape.index? name = some i ↔
    (name = "module" ∧ i = 0) ∨ (name = "main" ∧ i = 1) := by
  have hindex : Manifest.shape.index? name =
      if "module" = name then some 0 else if "main" = name then some 1 else none := by
    simp [Shape.index?, Manifest.shape, List.findIdx?_cons]
  rw [hindex]
  split <;> grind

theorem index?_eq_none {name : String} : Manifest.shape.index? name = none ↔ name ∉ fieldNames := by
  rw [Option.eq_none_iff_forall_ne_some, mem_fieldNames]
  simp only [ne_eq, index?_eq_some]
  grind

theorem recordOf_set {fields : List (String × Option String)} {name : String}
    {value : Option String} {i : Nat} (hi : Manifest.shape.index? name = some i)
    (hnew : name ∉ fields.map Prod.fst) :
    (recordOf fields).set i (value.map .text) = recordOf (fields ++ [(name, value)]) := by
  have hlookup : fields.lookup name = none := by
    rw [List.lookup_eq_none_iff]
    intro p hp
    rw [bne_iff_ne]
    rintro rfl
    exact hnew (List.mem_map_of_mem hp)
  obtain ⟨rfl, rfl⟩ | ⟨rfl, rfl⟩ := index?_eq_some.mp hi
  · simp [recordOf, Manifest.shape, List.lookup_append, List.lookup_cons, hlookup]
  · simp [recordOf, Manifest.shape, List.lookup_append, List.lookup_cons, hlookup]

variable {fields : List (String × Option String)} {seen : List Nat} {record : Record} {fuel : Nat}

def Sees (seen : List Nat) (fields : List (String × Option String)) : Prop :=
  ∀ name i, Manifest.shape.index? name = some i → (i ∈ seen ↔ name ∈ fields.map Prod.fst)

def EndsWith (fields : List (String × Option String)) (record : Record)
    (members : List (Option (String × Option String))) : Prop :=
  ((fields ++ members.reduceOption).map Prod.fst).Nodup ∧
    record = recordOf (fields ++ members.reduceOption)

theorem endsWith_nil (hdistinct : (fields.map Prod.fst).Nodup) :
    EndsWith fields record [] ↔ record = recordOf fields := by
  simp only [EndsWith, List.reduceOption_nil, List.append_nil, hdistinct, true_and]

theorem endsWith_some {f : String × Option String}
    {members : List (Option (String × Option String))} :
    EndsWith fields record (some f :: members) ↔ EndsWith (fields ++ [f]) record members := by
  simp [EndsWith]

theorem Sees.cons {name : String} {value : Option String} {i : Nat} (h : Sees seen fields)
    (hi : Manifest.shape.index? name = some i) : Sees (i :: seen) (fields ++ [(name, value)]) := by
  intro name' i' hi'
  have hsame : i' = i ↔ name' = name := by
    rw [index?_eq_some] at hi hi'
    grind
  simp [h name' i' hi', hsame, or_comm]

theorem nodup_append_singleton {name : String} {value : Option String}
    (h : (fields.map Prod.fst).Nodup) (hnew : name ∉ fields.map Prod.fst) :
    ((fields ++ [(name, value)]).map Prod.fst).Nodup := by
  rw [List.map_append]
  exact h.append (List.nodup_singleton _) (List.disjoint_singleton.mpr hnew)

theorem map_text_injective {value value' : Option String}
    (h : value.map Field.text = value'.map .text) : value = value' :=
  Option.map_injective (fun _ _ => Field.text.inj) h

def afterName (shape : Shape) (fuel : Nat) (seen : List Nat) (r : Record) (name : String) :
    Reader Record :=
  match shape.index? name with
  | none => do
    colon
    ignored
    namedFields shape fuel false seen r
  | some i => do
    if seen.contains i then duplicateField name
    colon
    let kind := ((shape.fields[i]?).map (·.2)).getD .text
    let f ← Reader.field shape kind
    namedFields shape fuel false (i :: seen) (r.set i f)

theorem namedFields_succ (shape : Shape) (fuel : Nat) (first : Bool) (seen : List Nat) (r : Record) :
    namedFields shape (fuel + 1) first seen r = (do
      if ← moreMembers first then
        skip
        let name ← string
        afterName shape fuel seen r name
      else
        endObject
        return r) := rfl

theorem content_of_not_mem {name : String} {m : Option (String × Option String)}
    (hname : name ∉ fieldNames) : Content name m cs t ↔ m = none ∧ Value (trimmed cs) t := by
  constructor
  · rintro (⟨h, -⟩ | ⟨-, h⟩)
    · exact absurd h hname
    · exact ⟨rfl, h⟩
  · rintro ⟨rfl, h⟩
    exact .other hname h

theorem content_of_mem {name : String} {m : Option (String × Option String)}
    (hname : name ∈ fieldNames) :
    Content name m cs t ↔ ∃ value, m = some (name, value) ∧ Item value cs t := by
  constructor
  · rintro (⟨-, h⟩ | ⟨h, -⟩)
    · exact ⟨_, rfl, h⟩
    · exact absurd hname h
  · rintro ⟨value, rfl, h⟩
    exact .field hname h

theorem FieldText.length_lt {value : Option String} (h : FieldText value cs rest) :
    rest.length < cs.length := h.value.length_lt

theorem not_yields_duplicateField {a : α} {name : String} :
    ¬Yields (duplicateField name) ⟨cs, o⟩ a rest := by
  unfold duplicateField
  rw [yields_peekToken_bind fun o => iff_false_intro ?_]
  · exact not_false
  · split
    · exact not_yields_bind_of_right fun _ _ _ => yields_fail
    · exact yields_fail

def Continues (fields : List (String × Option String)) (record : Record) (name : String)
    (cs rest : List Char) : Prop :=
  ∃ v, trimmed cs = ':' :: v ∧ ∃ m t, Content name m v t ∧ ∃ members,
    Entries Member '\x7d' false members t rest ∧ EndsWith fields record (m :: members)

def ReadsMembers (fuel : Nat) (record : Record) (rest : List Char) : Prop :=
  ∀ {cs o fields seen}, cs.length < fuel → Sees seen fields → (fields.map Prod.fst).Nodup →
    (Yields (namedFields Manifest.shape fuel false seen (recordOf fields)) ⟨cs, o⟩ record rest ↔
      ∃ members, Entries Member '\x7d' false members cs rest ∧ EndsWith fields record members)

theorem not_endsWith_of_mem {name : String} {value : Option String}
    {members : List (Option (String × Option String))} (h : name ∈ fields.map Prod.fst) :
    ¬EndsWith fields record (some (name, value) :: members) := by
  rintro ⟨hnodup, -⟩
  simp only [List.reduceOption_cons_of_some, List.map_append, List.map_cons] at hnodup
  exact (List.nodup_append.mp hnodup).2.2 name h name List.mem_cons_self rfl

theorem yields_otherMember (hlength : cs.length < fuel) (hseen : Sees seen fields)
    (hdistinct : (fields.map Prod.fst).Nodup) (ih : ReadsMembers fuel record rest) :
    Yields (do ignored; namedFields Manifest.shape fuel false seen (recordOf fields))
        ⟨cs, o⟩ record rest ↔
      ∃ t, Value (trimmed cs) t ∧ ∃ members, Entries Member '\x7d' false members t rest ∧
        EndsWith fields record members := by
  simp only [← yields_ignored (o := o)]
  refine yields_then fun t o ht => ih ?_ hseen hdistinct
  exact (yields_ignored.mp ht).length_lt.trans_le ((length_trimmed_le cs).trans hlength.le)

theorem yields_newField {name : String} {i : Nat} (hlength : cs.length < fuel)
    (hseen : Sees seen fields) (hdistinct : (fields.map Prod.fst).Nodup)
    (ih : ReadsMembers fuel record rest) (hi : Manifest.shape.index? name = some i)
    (hnew : name ∉ fields.map Prod.fst) :
    Yields (do
        let f ← Reader.field Manifest.shape .text
        namedFields Manifest.shape fuel false (i :: seen) ((recordOf fields).set i f))
      ⟨cs, o⟩ record rest ↔
    ∃ value t, Item value cs t ∧ ∃ members, Entries Member '\x7d' false members t rest ∧
      EndsWith fields record (some (name, value) :: members) := by
  rw [yields_bind (Q := fun f t => ∃ value, f = value.map .text ∧
    ∃ members, Entries Member '\x7d' false members t rest ∧
      EndsWith fields record (some (name, value) :: members)) fun f t o hf => ?_]
  · simp only [yields_field]
    constructor
    · rintro ⟨f, t, ⟨value, hitem, rfl⟩, value', hsame, hrest⟩
      obtain rfl := map_text_injective hsame
      exact ⟨_, t, hitem, hrest⟩
    · rintro ⟨value, t, hitem, hrest⟩
      exact ⟨_, t, ⟨value, hitem, rfl⟩, value, rfl, hrest⟩
  · obtain ⟨value, hitem, rfl⟩ := yields_field.mp hf
    have hlength := hitem.length_lt.trans_le ((length_trimmed_le cs).trans hlength.le)
    rw [recordOf_set hi hnew, ih hlength (hseen.cons hi) (nodup_append_singleton hdistinct hnew)]
    constructor
    · rintro ⟨members, h, hends⟩
      exact ⟨value, rfl, members, h, endsWith_some.mpr hends⟩
    · rintro ⟨value', hsame, members, h, hends⟩
      obtain rfl := map_text_injective hsame
      exact ⟨members, h, endsWith_some.mp hends⟩

theorem yields_afterName {name : String} (hlength : cs.length ≤ fuel)
    (hseen : Sees seen fields) (hdistinct : (fields.map Prod.fst).Nodup)
    (ih : ReadsMembers fuel record rest) :
    Yields (afterName Manifest.shape fuel seen (recordOf fields) name) ⟨cs, o⟩ record rest ↔
      Continues fields record name cs rest := by
  have hshort {v : List Char} (hv : Yields colon ⟨cs, o⟩ () v) : v.length < fuel :=
    (length_lt_of_trimmed (yields_colon.mp hv)).trans_le hlength
  unfold afterName Continues
  split
  · rename_i hi
    rw [index?_eq_none] at hi
    simp only [content_of_not_mem hi]
    rw [yields_then fun v o hv => yields_otherMember (hshort hv) hseen hdistinct ih]
    simp only [yields_colon]
    simp [EndsWith]
  · rename_i i hi
    have hname : name ∈ fieldNames := by
      by_contra hname
      simp [index?_eq_none.mpr hname] at hi
    simp only [content_of_mem hname]
    by_cases hnew : name ∈ fields.map Prod.fst
    · rw [if_pos (by simpa using (hseen name i hi).mpr hnew)]
      refine iff_of_false (not_yields_bind_of_left fun _ _ => not_yields_duplicateField) ?_
      rintro ⟨v, -, m, t, ⟨value, rfl, -⟩, members, -, hends⟩
      exact not_endsWith_of_mem hnew hends
    · rw [if_neg (by simpa using fun h => hnew ((hseen name i hi).mp h))]
      have hkind : ((Manifest.shape.fields[i]?).map (·.2)).getD .text = .text := by
        obtain ⟨-, rfl⟩ | ⟨-, rfl⟩ := index?_eq_some.mp hi <;> rfl
      simp only [hkind]
      rw [yields_then fun v o hv => yields_newField (hshort hv) hseen hdistinct ih hi hnew]
      simp only [yields_colon]
      grind

theorem entries_iff {α : Type} {entry : α → List Char → List Char → Prop} {closing : Char}
    {first : Bool} {P : List α → Prop} :
    (∃ as, Entries entry closing first as cs rest ∧ P as) ↔
      (trimmed cs = closing :: rest ∧ P []) ∨
        ∃ t, Separated first cs t ∧ ∃ a u, entry a t u ∧
          ∃ as, Entries entry closing false as u rest ∧ P (a :: as) := by
  constructor
  · rintro ⟨_, h | ⟨hsep, h, hs⟩, hP⟩
    · exact .inl ⟨h, hP⟩
    · exact .inr ⟨_, hsep, _, _, h, _, hs, hP⟩
  · rintro (⟨h, hP⟩ | ⟨t, hsep, a, u, h, as, hs, hP⟩)
    · exact ⟨[], .close h, hP⟩
    · exact ⟨a :: as, .entry hsep h hs, hP⟩

/-- Reading the members of an object finds the fields among them, each of which may be there once. -/
theorem yields_namedFields {first : Bool} (hfuel : cs.length < fuel)
    (hseen : Sees seen fields) (hdistinct : (fields.map Prod.fst).Nodup) :
    Yields (namedFields Manifest.shape fuel first seen (recordOf fields)) ⟨cs, o⟩ record rest ↔
      ∃ members, Entries Member '\x7d' first members cs rest ∧ EndsWith fields record members := by
  induction fuel generalizing first cs o fields seen with
  | zero => exact absurd hfuel (Nat.not_lt_zero _)
  | succ fuel ih =>
      have hdone (t : List Char) (o : Nat) :
          Yields (do endObject; return recordOf fields) ⟨'\x7d' :: t, o⟩ record rest ↔
            t = rest ∧ record = recordOf fields := by
        rw [yields_then (Q := fun u => record = recordOf fields ∧ u = rest) fun u o _ => yields_pure]
        simp only [yields_endObject, trimmed_cons (show isBlank '\x7d' = false from rfl)]
        grind
      have hmore (u : List Char) (o : Nat) (hu : u.length < cs.length) :
          Yields (do skip; let name ← string; afterName Manifest.shape fuel seen (recordOf fields) name)
            ⟨'"' :: u, o⟩ record rest ↔
          ∃ name t, Spells name u t ∧ Continues fields record (String.ofList name) t rest := by
        rw [yields_skip_bind, yields_bind (Q := fun name t => Continues fields record name t rest)
          fun name t o hname => ?_]
        · simp only [yields_string]
          grind
        · obtain ⟨name, hspells, rfl⟩ := yields_string.mp hname
          have hlength := hspells.characters.length_lt
          exact yields_afterName (by omega) hseen hdistinct ih
      rw [namedFields_succ, entries_iff, yields_if_moreMembers hmore hdone, endsWith_nil hdistinct]
      refine or_congr ?_ (exists_congr fun t => and_congr_right fun _ => ?_)
      · grind
      · constructor
        · rintro ⟨u, hquote, name, w, hname, v, hcolon, m, x, h, hrest⟩
          exact ⟨m, x, ⟨hquote, hname, hcolon, h⟩, hrest⟩
        · rintro ⟨m, x, ⟨hquote, hname, hcolon, h⟩, hrest⟩
          exact ⟨_, hquote, _, _, hname, _, hcolon, m, x, h, hrest⟩

/-! ## Lists -/

def recordOfItems (n : Nat) (items : List (Option String)) : Record :=
  (List.range n).map fun i => items[i]?.join.map .text

theorem recordOfItems_nil (n : Nat) : recordOfItems (n + 1) [] = none :: List.replicate n none := by
  simp [recordOfItems, List.range_succ_eq_map, Function.comp_def]

theorem recordOfItems_cons (n : Nat) (item : Option String) (items : List (Option String)) :
    recordOfItems (n + 1) (item :: items) = item.map .text :: recordOfItems n items := by
  simp [recordOfItems, List.range_succ_eq_map, Function.comp_def]

theorem Item.ne_closing {item : Option String} (h : Item item cs rest) :
    ∃ c t, trimmed cs = c :: t ∧ c ≠ ']' := by
  unfold Item at h
  obtain ⟨-, h⟩ | ⟨t, h, -⟩ := fieldText_iff.mp h
  · exact ⟨_, _, h, by decide⟩
  · exact ⟨_, _, h, by decide⟩

theorem item_trimmed {item : Option String} : Item item (trimmed cs) rest ↔ Item item cs rest := by
  simp only [Item, trimmed_trimmed]

/-- How a list may go on where an item starts, if at most `n` may follow it. -/
def ListContinues (n : Nat) (record : Record) (cs rest : List Char) : Prop :=
  ∃ item t, Item item cs t ∧ ∃ items, Entries Item ']' false items t rest ∧ items.length ≤ n ∧
    record = recordOfItems (n + 1) (item :: items)

def ReadsItems (n : Nat) (kinds : List (String × FieldKind)) (rest : List Char) : Prop :=
  ∀ {cs o record},
    Yields (listedFields Manifest.shape n kinds) ⟨cs, o⟩ record rest ↔
      ∃ items, Entries Item ']' (n = 0) items cs rest ∧ items.length ≤ kinds.length ∧
        record = recordOfItems kinds.length items

theorem yields_nextItem {n : Nat} {kinds : List (String × FieldKind)}
    (ih : ReadsItems (n + 1) kinds rest) :
    Yields (do
        let f ← Reader.field Manifest.shape .text
        return f :: (← listedFields Manifest.shape (n + 1) kinds)) ⟨cs, o⟩ record rest ↔
      ListContinues kinds.length record cs rest := by
  have hitems (f : Option Field) (t : List Char) (o : Nat) :
      Yields (do return f :: (← listedFields Manifest.shape (n + 1) kinds)) ⟨t, o⟩ record rest ↔
        ∃ items, Entries Item ']' false items t rest ∧ items.length ≤ kinds.length ∧
          record = f :: recordOfItems kinds.length items := by
    rw [yields_bind (Q := fun r u => record = f :: r ∧ u = rest) fun r u o _ => yields_pure]
    constructor
    · rintro ⟨r, _, h, rfl, rfl⟩
      obtain ⟨items, hitems, hlength, rfl⟩ := ih.mp h
      exact ⟨items, hitems, hlength, rfl⟩
    · rintro ⟨items, h, hlength, rfl⟩
      exact ⟨_, rest, ih.mpr ⟨items, h, hlength, rfl⟩, rfl, rfl⟩
  rw [yields_bind fun f t o _ => hitems f t o]
  simp only [yields_field, ListContinues, recordOfItems_cons]
  grind

theorem yields_endOfItems {n : Nat} {kinds : List (String × FieldKind)} {t : List Char} :
    Yields (do
        endList
        if Manifest.shape.partialList then return none :: kinds.map fun _ => none
        else fail (Manifest.shape.tooShort n)) ⟨']' :: t, o⟩ record rest ↔
      t = rest ∧ record = recordOfItems (kinds.length + 1) [] := by
  rw [yields_then (Q := fun u => record = none :: kinds.map (fun _ => none) ∧ u = rest)
    fun u o _ => yields_pure]
  simp only [yields_endList, trimmed_cons (show isBlank ']' = false from rfl), recordOfItems_nil,
    List.map_const']
  grind

theorem yields_listedFields {n : Nat} {kinds : List (String × FieldKind)}
    (hkinds : ∀ f ∈ kinds, f.2 = .text) : ReadsItems n kinds rest := by
  intro cs o record
  induction kinds generalizing n cs o record with
  | nil =>
      rw [listedFields, yields_then (Q := fun t => record = [] ∧ t = rest) fun t o _ => yields_pure,
        entries_iff]
      simp only [yields_endList, List.length_cons, List.length_nil]
      constructor
      · rintro ⟨t, h, rfl, rfl⟩
        exact .inl ⟨h, Nat.le_refl _, rfl⟩
      · rintro (⟨h, -, rfl⟩ | ⟨t, -, item, u, -, items, -, hlength, -⟩)
        · exact ⟨rest, h, rfl, rfl⟩
        · exact absurd hlength (Nat.not_succ_le_zero _)
  | cons f kinds ih =>
      obtain ⟨name, kind⟩ := f
      obtain rfl : kind = .text := hkinds _ List.mem_cons_self
      have ih : ReadsItems (n + 1) kinds rest :=
        ih fun f hf => hkinds f (List.mem_cons_of_mem _ hf)
      rw [listedFields, entries_iff,
        yields_if_moreItems (P := fun t => ListContinues kinds.length record t rest)
          (fun c u o _ _ => yields_nextItem ih) fun t o => yields_endOfItems]
      refine or_congr ?_ (exists_congr fun t => and_congr_right fun _ => ?_)
      · simp
      · constructor
        · rintro ⟨c, u, ht, -, item, v, hitem, items, h, hlength, hrecord⟩
          rw [← ht, item_trimmed] at hitem
          exact ⟨item, v, hitem, items, h, Nat.succ_le_succ hlength, hrecord⟩
        · rintro ⟨item, v, hitem, items, h, hlength, hrecord⟩
          -- an item does not start like the end of the list, so the reader takes it for one
          obtain ⟨c, u, ht, hc⟩ := hitem.ne_closing
          rw [← item_trimmed, ht] at hitem
          exact ⟨c, u, ht, hc, item, v, hitem, items, h, Nat.le_of_succ_le_succ hlength, hrecord⟩

/-! ## Manifests -/

theorem yields_record : Yields (Reader.record Manifest.shape) ⟨cs, o⟩ record rest ↔
    (∃ t, trimmed cs = '[' :: t ∧ ∃ items, Entries Item ']' true items t rest ∧ items.length ≤ 2 ∧
      record = recordOfItems 2 items) ∨
    ∃ t, trimmed cs = '\x7b' :: t ∧ ∃ members, Entries Member '\x7d' true members t rest ∧
      EndsWith [] record members := by
  unfold Reader.record
  refine yields_peekToken_bind fun o => ?_
  cases h : trimmed cs with
  | nil => simp
  | cons c t =>
      by_cases hlist : c = '['
      · subst hlist
        have hread (o : Nat) :
            Yields (listedFields Manifest.shape 0 Manifest.shape.fields) ⟨t, o⟩ record rest ↔
              ∃ items, Entries Item ']' true items t rest ∧ items.length ≤ 2 ∧
                record = recordOfItems 2 items :=
          yields_listedFields (by decide)
        simp only [List.head?_cons, yields_skip_bind, hread]
        simp
      · by_cases hobject : c = '\x7b'
        · subst hobject
          have hseen : Sees [] [] := fun _ _ _ => by simp
          have hstart : (Manifest.shape.fields.map fun _ => none) = recordOf [] := rfl
          have hread (o : Nat) : Yields (namedFields Manifest.shape (t.length + 1) true [] (recordOf []))
              ⟨t, o⟩ record rest ↔
              ∃ members, Entries Member '\x7d' true members t rest ∧ EndsWith [] record members :=
            yields_namedFields (Nat.lt_succ_self _) hseen List.nodup_nil
          simp only [List.head?_cons, yields_skip_bind, yields_turns_bind, hstart, hread]
          simp
        · simp [hlist, hobject, not_yields_unexpected]

theorem text_eq (i : Nat) (value : Option String) (h : record[i]? = some (value.map .text)) :
    record.text i = value := by
  rw [Record.text, h]
  cases value <;> rfl

theorem manifest_recordOf (fields : List (String × Option String)) :
    (⟨(recordOf fields).text 0, (recordOf fields).text 1⟩ : Manifest) = manifestOf fields := by
  rw [text_eq 0 (fields.lookup "module").join rfl, text_eq 1 (fields.lookup "main").join rfl,
    manifestOf]

theorem manifest_recordOfItems (items : List (Option String)) :
    (⟨(recordOfItems 2 items).text 0, (recordOfItems 2 items).text 1⟩ : Manifest) =
      ⟨items[0]?.join, items[1]?.join⟩ := by
  rw [text_eq 0 items[0]?.join rfl, text_eq 1 items[1]?.join rfl]

theorem read_eq_ok_iff {text : String} {m : Manifest} :
    Manifest.read text = .ok m ↔ ∃ r, Manifest.shape.read text = .ok r ∧ ⟨r.text 0, r.text 1⟩ = m := by
  unfold Manifest.read
  cases Manifest.shape.read text with
  | ok r => simp [bind, Except.bind, pure, Except.pure]
  | error fault => simp [bind, Except.bind]

/-- A text is read as a manifest just if it describes it. -/
theorem read_eq_ok {text : String} {m : Manifest} :
    Manifest.read text = .ok m ↔ Describes text.toList m := by
  rw [read_eq_ok_iff]
  constructor
  · rintro ⟨r, hread, rfl⟩
    obtain ⟨rest, hrecord, hend⟩ := run_eq_ok.mp hread
    obtain ⟨t, hopen, items, h, hlength, rfl⟩ | ⟨t, hopen, members, h, hdistinct, rfl⟩ :=
      yields_record.mp hrecord
    · rw [manifest_recordOfItems]
      exact .list hopen h hend hlength
    · rw [manifest_recordOf]
      exact .object hopen h hend hdistinct
  · rintro (⟨hopen, h, hend, hdistinct⟩ | ⟨hopen, h, hend, hlength⟩)
    · refine ⟨_, run_eq_ok.mpr ⟨_, yields_record.mpr ?_, hend⟩, manifest_recordOf _⟩
      exact .inr ⟨_, hopen, _, h, hdistinct, rfl⟩
    · refine ⟨_, run_eq_ok.mpr ⟨_, yields_record.mpr ?_, hend⟩, manifest_recordOfItems _⟩
      exact .inl ⟨_, hopen, _, h, hlength, rfl⟩

instance (text : List Char) : DecidablePred (Describes text) := fun m =>
  decidable_of_iff (Manifest.read (String.ofList text) = .ok m) (by rw [read_eq_ok, String.toList_ofList])

theorem Item.entry {item : Option String} (h : Item item cs rest) : Entry .list cs rest :=
  .mk .item (FieldText.value h)

theorem Member.entry {m : Option (String × Option String)} (h : Member m cs rest) :
    Entry .object cs rest := by
  obtain ⟨hquote, hname, hcolon, ⟨-, h⟩ | ⟨-, h⟩⟩ := h
  · exact .mk (.member hquote hname.characters hcolon) (FieldText.value h)
  · exact .mk (.member hquote hname.characters hcolon) h

theorem Entries.after {entry : α → List Char → List Char → Prop} {frame : Frame} {as : List α}
    (hentry : ∀ {a cs rest}, entry a cs rest → Entry frame cs rest)
    (h : Entries entry frame.closing false as cs rest) : After frame cs rest := by
  generalize hfirst : false = first at h
  induction h with
  | close h => exact .close h
  | entry hsep h hs ih =>
      subst hfirst
      exact .comma (separated_false.mp hsep) (hentry h) (ih rfl)

theorem Entries.value {entry : α → List Char → List Char → Prop} (frame : Frame) {as : List α}
    (hentry : ∀ {a cs rest}, entry a cs rest → Entry frame cs rest)
    (h : Entries entry frame.closing true as cs rest) : Value (opening frame :: cs) rest := by
  cases h with
  | close h => exact .empty h
  | entry hsep h hs =>
      obtain rfl := separated_true.mp hsep
      exact .filled (hentry h) (hs.after hentry)

theorem Describes.isJson {text : List Char} {m : Manifest} (h : Describes text m) : IsJson text := by
  cases h with
  | object hopen h hend hdistinct =>
      exact ⟨_, hopen ▸ h.value .object Member.entry, hend⟩
  | list hopen h hend hlength => exact ⟨_, hopen ▸ h.value .list Item.entry, hend⟩

end Unbundled.Proofs.ManifestTexts
