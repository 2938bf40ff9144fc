import Mathlib.Data.List.DropRight
import Mathlib.Data.List.Infix
import Unbundled.Files.Tree
import Unbundled.Proofs.Affixes

namespace Unbundled.Proofs.Paths

open Files Affixes

/-! ## Names -/

theorem splitList_ne_nil (sep : Char) (cs : List Char) : Text.splitList sep cs ≠ [] := by
  cases cs with
  | nil => simp [Text.splitList]
  | cons c cs =>
      rw [Text.splitList]
      split
      · simp
      · split <;> simp

theorem splitList_append_sep (sep : Char) (a b : List Char) :
    Text.splitList sep (a ++ sep :: b) = Text.splitList sep a ++ Text.splitList sep b := by
  induction a with
  | nil => simp [Text.splitList]
  | cons c a ih =>
      obtain ⟨p, ps, hps⟩ := List.exists_cons_of_ne_nil (splitList_ne_nil sep a)
      rw [List.cons_append, Text.splitList, Text.splitList, ih, hps]
      split <;> rfl

theorem exists_splitList_append {sep : Char} {b : List Char} (hb : sep ∉ b) (a : List Char) :
    ∃ init last, Text.splitList sep a = init ++ [last] ∧
      Text.splitList sep (a ++ b) = init ++ [last ++ b] := by
  induction a with
  | nil =>
      refine ⟨[], [], rfl, ?_⟩
      induction b with
      | nil => rfl
      | cons c b ih =>
          rw [List.mem_cons, not_or] at hb
          have hrest : Text.splitList sep b = [b] := ih hb.2
          simp [Text.splitList, Ne.symm hb.1, hrest]
  | cons c a ih =>
      obtain ⟨init, last, ha, hab⟩ := ih
      rw [List.cons_append, Text.splitList, Text.splitList, ha, hab]
      by_cases hc : c = sep
      · exact ⟨[] :: init, last, by simp [hc], by simp [hc]⟩
      · cases init with
        | nil => exact ⟨[], c :: last, by simp [hc], by simp [hc]⟩
        | cons p ps => exact ⟨(c :: p) :: ps, last, by simp [hc], by simp [hc]⟩

theorem segments_ne_nil (path : String) : Path.segments path ≠ [] := by
  simp [Path.segments, Text.split, splitList_ne_nil]

theorem segments_append_slash (a b : String) :
    Path.segments (a ++ "/" ++ b) = Path.segments a ++ Path.segments b := by
  have hlist : (a ++ "/" ++ b).toList = a.toList ++ '/' :: b.toList := by
    simp only [String.toList_append, List.append_assoc]
    rfl
  simp only [Path.segments, Text.split, hlist, splitList_append_sep, List.map_append]

theorem segments_slash (path : String) : Path.segments ("/" ++ path) = "" :: Path.segments path := by
  have hempty : Path.segments "" = [""] := rfl
  rw [← String.empty_append (s := "/"), segments_append_slash, hempty, List.singleton_append]

theorem exists_segments_append {b : String} (hb : '/' ∉ b.toList) (a : String) :
    ∃ init last, Path.segments a = init ++ [last] ∧ Path.segments (a ++ b) = init ++ [last ++ b] := by
  obtain ⟨init, last, ha, hab⟩ := exists_splitList_append hb a.toList
  refine ⟨init.map String.ofList, String.ofList last, ?_, ?_⟩
  · simp only [Path.segments, Text.split, ha, List.map_append, List.map_cons, List.map_nil]
  · simp only [Path.segments, Text.split, String.toList_append, hab, List.map_append, List.map_cons,
      List.map_nil, String.ofList_append, String.ofList_toList]

theorem plainNames_append_slash (a b : String) :
    plainNames (a ++ "/" ++ b) = plainNames a ++ plainNames b := by
  simp only [plainNames, segments_append_slash, List.filter_append]

theorem isAbsolute_iff {path : String} :
    Path.isAbsolute path = true ↔ ∃ cs, path.toList = '/' :: cs := by
  rw [Path.isAbsolute, Text.startsWith, Option.isSome_iff_exists]
  exact exists_congr fun cs => dropPrefix?_eq_some

theorem isAbsolute_append {a b : String} (ha : Path.isAbsolute a = false)
    (hb : Path.isAbsolute b = false) : Path.isAbsolute (a ++ b) = false := by
  refine Bool.eq_false_iff.mpr fun h => ?_
  obtain ⟨cs, hcs⟩ := isAbsolute_iff.mp h
  rw [String.toList_append] at hcs
  cases hlist : a.toList with
  | nil =>
      rw [hlist, List.nil_append] at hcs
      exact Bool.eq_false_iff.mp hb (isAbsolute_iff.mpr ⟨cs, hcs⟩)
  | cons c as =>
      rw [hlist] at hcs
      obtain ⟨rfl, -⟩ := List.cons.inj hcs
      exact Bool.eq_false_iff.mp ha (isAbsolute_iff.mpr ⟨as, hlist⟩)

theorem plainNames_join (base : String) {rest : String} (h : Path.isAbsolute rest = false) :
    plainNames (Path.join base rest) = plainNames base ++ plainNames rest := by
  rw [Path.join, if_neg (by simp [h])]
  split
  · rename_i hend
    rcases hend with hempty | hslash
    · obtain rfl : base = "" := by simpa using hempty
      rw [String.empty_append]
      rfl
    · obtain ⟨cs, hcs⟩ := List.getLast?_eq_some_iff.mp hslash
      obtain rfl : base = String.ofList cs ++ "/" ++ "" := by
        refine String.toList_inj.mp ?_
        simpa using hcs
      have hassoc : String.ofList cs ++ "/" ++ "" ++ rest = String.ofList cs ++ "/" ++ rest := by
        simp
      have hempty : plainNames "" = [] := rfl
      rw [hassoc, plainNames_append_slash, plainNames_append_slash, hempty, List.append_nil]
  · exact plainNames_append_slash base rest

/-! ## Paths that do not lead out -/

/-- How many names below the start of a path one is behind a name, unless that is above it. -/
def deeper? (depth : Nat) (name : String) : Option Nat :=
  if name = ".." then
    match depth with
    | 0 => none
    | depth + 1 => some depth
  else some (depth + 1)

/-- Names that nowhere lead out of the directory they start at. -/
def Stay (names : List String) : Prop := (names.foldlM deeper? 0).isSome

/-- A path that goes on from where it is seen from, and nowhere leads out of that. -/
def Stays (path : String) : Prop := Path.isAbsolute path = false ∧ Stay (plainNames path)

/-- A path that goes on from the root with names that stay. -/
def Within (root path : String) : Prop :=
  ∃ names, plainNames path = plainNames root ++ names ∧ Stay names

instance (names : List String) : Decidable (Stay names) := inferInstanceAs (Decidable (_ = true))

instance (path : String) : Decidable (Stays path) := inferInstanceAs (Decidable (_ ∧ _))

theorem deeper?_add {depth depth' : Nat} {name : String} (h : deeper? depth name = some depth')
    (k : Nat) : deeper? (depth + k) name = some (depth' + k) := by
  unfold deeper? at h ⊢
  split at h
  · rename_i hup
    rw [if_pos hup]
    cases depth with
    | zero => cases h
    | succ depth =>
        obtain rfl := Option.some.inj h
        rw [Nat.succ_add]
  · rename_i hup
    obtain rfl := Option.some.inj h
    rw [if_neg hup, Nat.add_right_comm]

theorem foldlM_deeper?_add {names : List String} {depth depth' : Nat}
    (h : names.foldlM deeper? depth = some depth') (k : Nat) :
    names.foldlM deeper? (depth + k) = some (depth' + k) := by
  induction names generalizing depth with
  | nil =>
      obtain rfl := Option.some.inj h
      rfl
  | cons name names ih =>
      obtain ⟨d, hd, hrest⟩ := Option.bind_eq_some_iff.mp h
      rw [List.foldlM_cons, deeper?_add hd]
      exact ih hrest

theorem Stay.append {a b : List String} (ha : Stay a) (hb : Stay b) : Stay (a ++ b) := by
  obtain ⟨depth, hdepth⟩ := Option.isSome_iff_exists.mp ha
  obtain ⟨depth', hdepth'⟩ := Option.isSome_iff_exists.mp hb
  have hrest := foldlM_deeper?_add hdepth' depth
  rw [Nat.zero_add] at hrest
  rw [Stay, List.foldlM_append, hdepth]
  exact Option.isSome_iff_exists.mpr ⟨_, hrest⟩

theorem deeper?_of_ne {name : String} (h : name ≠ "..") (depth : Nat) :
    deeper? depth name = some (depth + 1) := if_neg h

theorem stay_of_not_mem {names : List String} (h : ".." ∉ names) : Stay names := by
  induction names with
  | nil => rfl
  | cons name names ih =>
      rw [List.mem_cons, not_or] at h
      have hname : Stay [name] := by
        rw [Stay, List.foldlM_cons, deeper?_of_ne (Ne.symm h.1)]
        rfl
      exact hname.append (ih h.2)

theorem Within.refl (root : String) : Within root root := ⟨[], (List.append_nil _).symm, rfl⟩

theorem Within.join {root base rest : String} (hbase : Within root base) (h : Stays rest) :
    Within root (Path.join base rest) := by
  obtain ⟨names, hnames, hstay⟩ := hbase
  refine ⟨names ++ plainNames rest, ?_, hstay.append h.2⟩
  rw [plainNames_join base h.1, hnames, List.append_assoc]

theorem Stays.append {a b : String} (h : Stays a) (hslash : '/' ∉ b.toList)
    (hlong : 2 < b.toList.length) : Stays (a ++ b) := by
  obtain ⟨init, last, ha, hab⟩ := exists_segments_append hslash a
  have hb : Path.isAbsolute b = false := by
    refine Bool.eq_false_iff.mpr fun hb => ?_
    obtain ⟨cs, hcs⟩ := isAbsolute_iff.mp hb
    exact hslash (hcs ▸ List.mem_cons_self)
  have hlast : ∀ special : String, special.toList.length ≤ 2 → last ++ b ≠ special := by
    rintro special hshort rfl
    rw [String.toList_append, List.length_append] at hshort
    omega
  have hplain : plainNames (a ++ b) = init.filter (fun s => s ≠ "" ∧ s ≠ ".") ++ [last ++ b] := by
    rw [plainNames, hab, List.filter_append,
      List.filter_cons_of_pos (by simp [hlast "" (by decide), hlast "." (by decide)])]
    rfl
  have hinit : Stay (init.filter fun s => s ≠ "" ∧ s ≠ ".") := by
    have hstay := h.2
    rw [plainNames, ha, List.filter_append, Stay, List.foldlM_append, Option.bind_eq_bind,
      Option.isSome_bind, Option.any_eq_true] at hstay
    obtain ⟨depth, hdepth, -⟩ := hstay
    exact Option.isSome_iff_exists.mpr ⟨depth, hdepth⟩
  refine ⟨isAbsolute_append h.1 hb, ?_⟩
  rw [hplain]
  exact hinit.append (stay_of_not_mem (by simpa using Ne.symm (hlast ".." (by decide))))

/-! ## Paths of requests -/

theorem dropRepeated_slash (fuel : Nat) (cs : List Char) (h : cs.length ≤ fuel) :
    (∃ k, Text.splitList '/' cs =
        List.replicate k [] ++ Text.splitList '/' (Text.dropRepeated ['/'] fuel cs)) ∧
      ∀ rest, Text.dropRepeated ['/'] fuel cs ≠ '/' :: rest := by
  induction fuel generalizing cs with
  | zero =>
      obtain rfl : cs = [] := List.eq_nil_of_length_eq_zero (Nat.le_zero.mp h)
      exact ⟨⟨0, rfl⟩, fun rest => nofun⟩
  | succ fuel ih =>
      rw [Text.dropRepeated]
      split
      · rename_i rest hrest
        obtain rfl := dropPrefix?_eq_some.mp hrest
        obtain ⟨⟨k, hk⟩, hnot⟩ := ih rest (by simpa using h)
        refine ⟨⟨k + 1, ?_⟩, hnot⟩
        rw [List.singleton_append, Text.splitList, if_pos rfl, hk]
        rfl
      · rename_i hnone
        refine ⟨⟨0, rfl⟩, fun rest he => ?_⟩
        rw [dropPrefix?_eq_some.mpr he] at hnone
        cases hnone

theorem isAbsolute_withoutLeading (path : String) :
    Path.isAbsolute (Text.withoutLeading "/" path) = false := by
  obtain ⟨-, hnot⟩ := dropRepeated_slash path.length path.toList (Nat.le_of_eq String.length_toList)
  refine Bool.eq_false_iff.mpr fun h => ?_
  obtain ⟨rest, hrest⟩ := isAbsolute_iff.mp h
  rw [Text.withoutLeading, String.toList_ofList] at hrest
  exact hnot rest hrest

theorem plainNames_withoutLeading (path : String) :
    plainNames (Text.withoutLeading "/" path) = plainNames path := by
  obtain ⟨⟨k, hk⟩, -⟩ := dropRepeated_slash path.length path.toList (Nat.le_of_eq String.length_toList)
  have hsegments : Path.segments path =
      List.replicate k "" ++ Path.segments (Text.withoutLeading "/" path) := by
    simp only [Path.segments, Text.split, Text.withoutLeading, String.toList_ofList]
    rw [hk, List.map_append, List.map_replicate]
    rfl
  rw [plainNames, plainNames, hsegments, List.filter_append, List.filter_replicate_of_neg (by simp),
    List.nil_append]

theorem exists_withoutTrailing (c : Char) (s : String) :
    ∃ k, s.toList = (Text.withoutTrailing c s).toList ++ List.replicate k c := by
  have hdropped : s.toList.rtakeWhile (· = c) =
      List.replicate (s.toList.rtakeWhile (· = c)).length c :=
    List.eq_replicate_of_mem fun d hd => by simpa using List.mem_rtakeWhile_imp hd
  have hkept : (Text.withoutTrailing c s).toList = s.toList.rdropWhile (· = c) :=
    String.toList_ofList
  refine ⟨(s.toList.rtakeWhile (· = c)).length, ?_⟩
  rw [← hdropped, hkept, List.rdropWhile_append_rtakeWhile]

theorem plainNames_withoutTrailing (path : String) :
    plainNames (Text.withoutTrailing '/' path) = plainNames path := by
  obtain ⟨k, hk⟩ := exists_withoutTrailing '/' path
  have hslashes : ∀ k, plainNames (String.ofList
      ((Text.withoutTrailing '/' path).toList ++ List.replicate k '/')) =
        plainNames (Text.withoutTrailing '/' path) := by
    intro k
    induction k with
    | zero => rw [List.replicate_zero, List.append_nil, String.ofList_toList]
    | succ k ih =>
        have hlast := plainNames_append_slash (String.ofList
          ((Text.withoutTrailing '/' path).toList ++ List.replicate k '/')) ""
        rw [ih, String.append_empty] at hlast
        rw [List.replicate_succ', ← List.append_assoc, String.ofList_append]
        exact hlast.trans (List.append_nil _)
  rw [← hslashes k, ← hk, String.ofList_toList]

theorem isAbsolute_withoutTrailing {path : String} (h : Path.isAbsolute path = false) (c : Char) :
    Path.isAbsolute (Text.withoutTrailing c path) = false := by
  obtain ⟨k, hk⟩ := exists_withoutTrailing c path
  refine Bool.eq_false_iff.mpr fun habs => ?_
  obtain ⟨cs, hcs⟩ := isAbsolute_iff.mp habs
  rw [hcs] at hk
  exact Bool.eq_false_iff.mp h (isAbsolute_iff.mpr ⟨_, hk⟩)

theorem stays_withoutLeading {path : String} (h : ".." ∉ Path.segments path) :
    Stays (Text.withoutLeading "/" path) := by
  refine ⟨isAbsolute_withoutLeading path, ?_⟩
  rw [plainNames_withoutLeading]
  exact stay_of_not_mem fun hmem => h (List.mem_of_mem_filter hmem)

/-! ## Names that paths go on with -/

theorem exists_join (base : String) :
    ∃ start, ∀ rest, Path.isAbsolute rest = false → Path.join base rest = start ++ rest := by
  by_cases hbase : base.isEmpty ∨ base.toList.getLast? = some '/'
  · refine ⟨base, fun rest hrest => ?_⟩
    rw [Path.join, hrest, if_neg Bool.false_ne_true, if_pos hbase]
  · refine ⟨base ++ "/", fun rest hrest => ?_⟩
    rw [Path.join, hrest, if_neg Bool.false_ne_true, if_neg hbase]

def IsName (name : String) : Prop := name ≠ "" ∧ name.toList.getLast? ≠ some '/'

instance (name : String) : Decidable (IsName name) := inferInstanceAs (Decidable (_ ∧ _))

theorem IsName.exists_last {name : String} (h : IsName name) :
    ∃ init last, name.toList = init ++ [last] ∧ last ≠ '/' := by
  obtain ⟨hne, hlast⟩ := h
  rcases List.eq_nil_or_concat' name.toList with hnil | ⟨init, last, hname⟩
  · exact absurd (String.toList_inj.mp hnil) hne
  · refine ⟨init, last, hname, fun hslash => hlast ?_⟩
    rw [hname, hslash, List.getLast?_concat]

theorem IsName.isAbsolute_append {name : String} (h : IsName name)
    (habs : Path.isAbsolute name = false) (rest : String) :
    Path.isAbsolute (name ++ rest) = false := by
  obtain ⟨init, last, hname, -⟩ := h.exists_last
  refine Bool.eq_false_iff.mpr fun happ => ?_
  obtain ⟨cs, hcs⟩ := isAbsolute_iff.mp happ
  cases hlist : name.toList with
  | nil => simp [hlist] at hname
  | cons c ds =>
      rw [String.toList_append, hlist] at hcs
      obtain ⟨rfl, -⟩ := List.cons.inj hcs
      exact Bool.eq_false_iff.mp habs (isAbsolute_iff.mpr ⟨ds, hlist⟩)

theorem join_join (base : String) {name rest : String} (hname : IsName name)
    (habs : Path.isAbsolute name = false) (hrest : Path.isAbsolute rest = false) :
    Path.join (Path.join base name) rest = Path.join base (name ++ "/" ++ rest) := by
  obtain ⟨start, hstart⟩ := exists_join base
  rw [hstart name habs, String.append_assoc,
    hstart _ (hname.isAbsolute_append habs _), Path.join, hrest, if_neg Bool.false_ne_true]
  obtain ⟨init, last, hlist, hlast⟩ := hname.exists_last
  have hend : ¬((start ++ name).isEmpty ∨ (start ++ name).toList.getLast? = some '/') := by
    rw [String.isEmpty_iff, ← String.toList_inj, String.toList_append, hlist, ← List.append_assoc,
      List.getLast?_concat]
    simp [hlast]
  rw [if_neg hend]
  simp only [String.append_assoc]

theorem join_of_slash {base rest : String} (hbase : base.toList.getLast? = some '/')
    (hrest : Path.isAbsolute rest = false) : Path.join base rest = base ++ rest := by
  rw [Path.join, hrest, if_neg Bool.false_ne_true, if_pos (.inr hbase)]

theorem withoutLeading_slash {path : String} (h : Path.isAbsolute path = false) :
    Text.withoutLeading "/" ("/" ++ path) = path := by
  have hlist : ("/" ++ path).toList = '/' :: path.toList := by
    rw [String.toList_append]
    rfl
  have hlength : ("/" ++ path).length = path.length + 1 := by
    rw [← String.length_toList, hlist, List.length_cons, String.length_toList]
  have hkept : ∀ fuel, Text.dropRepeated ['/'] fuel path.toList = path.toList := by
    intro fuel
    cases fuel with
    | zero => rfl
    | succ fuel =>
        have hnone : Text.dropPrefix? ['/'] path.toList = none := by
          rw [Path.isAbsolute, Text.startsWith, Option.isSome_eq_false_iff,
            Option.isNone_iff_eq_none] at h
          exact h
        rw [Text.dropRepeated, hnone]
  rw [Text.withoutLeading, hlength, hlist]
  change String.ofList (Text.dropRepeated ['/'] path.length path.toList) = path
  rw [hkept, String.ofList_toList]

theorem isName_withoutTrailing {specifier : String} (h : Path.isAbsolute specifier = false)
    (hne : specifier ≠ "") : IsName (Text.withoutTrailing '/' specifier) := by
  obtain ⟨k, hk⟩ := exists_withoutTrailing '/' specifier
  have hlist : (Text.withoutTrailing '/' specifier).toList =
      (specifier.toList.reverse.dropWhile (· = '/')).reverse := String.toList_ofList
  cases hkept : specifier.toList.reverse.dropWhile (· = '/') with
  | nil =>
      rw [hlist, hkept] at hk
      cases k with
      | zero => exact absurd (String.toList_inj.mp hk) hne
      | succ k => exact absurd (isAbsolute_iff.mpr ⟨_, hk⟩) (by simp [h])
  | cons c cs =>
      rw [hkept, List.reverse_cons] at hlist
      have hhead := List.head?_dropWhile_not (· = '/') specifier.toList.reverse
      rw [hkept] at hhead
      refine ⟨fun hempty => ?_, ?_⟩
      · rw [hempty] at hlist
        exact List.append_ne_nil_of_right_ne_nil _ (List.cons_ne_nil _ _) hlist.symm
      · rw [hlist, List.getLast?_concat]
        simpa using hhead

theorem withoutTrailing_eq_self {name : String} (h : IsName name) :
    Text.withoutTrailing '/' name = name := by
  obtain ⟨init, last, hname, hlast⟩ := h.exists_last
  rw [Text.withoutTrailing, hname, List.reverse_append, List.reverse_singleton, List.singleton_append,
    List.dropWhile_cons, if_neg (by simpa using hlast), List.reverse_cons, List.reverse_reverse,
    ← hname, String.ofList_toList]

/-! ## Direct forms -/

/-- The place that a name leads to from a place. A place is given by the names on the way to it,
the last one first. -/
def descend (place : List String) (name : String) : List String :=
  if name = ".." then place.drop 1 else name :: place

/-- The place of a path, if every name on the way is that of a directory. -/
def place (path : String) : List String := (plainNames path).foldl descend []

end Unbundled.Proofs.Paths
