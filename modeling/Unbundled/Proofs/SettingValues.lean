import Unbundled.Proofs.JsonTexts
import Unbundled.Proofs.ScriptSettings

namespace Unbundled.Proofs.SettingValues

open Config Json JsonReaders JsonTexts ScriptSettings

/-! ## What a value sets -/

inductive IsPort : Json → Nat → Prop
  | int {n : Nat} (h : n < 65536) : IsPort (.num (.int n)) n

inductive IsText : Json → String → Prop
  | str (s) : IsText (.str s) s

/-- What there is for a key, and what it sets: nothing, if the key is missing or `null`. -/
inductive SetBy {α : Type} (Is : Json → α → Prop) : Option Json → Option α → Prop
  | missing : SetBy Is none none
  | null : SetBy Is (some .null) none
  | value {v a} (h : Is v a) : SetBy Is (some v) (some a)

/-- The settings that a value holds: an object by the names of its members, and a list of three by their
order. -/
inductive Holds : Json → Settings → Prop
  | obj {ms port host index} (hport : SetBy IsPort (ms.lookup "port") port)
      (hhost : SetBy IsText (ms.lookup "host") host) (hindex : SetBy IsText (ms.lookup "index") index) :
      Holds (.obj ms) ⟨port, host, index⟩
  | arr {u v w port host index} (hport : SetBy IsPort (some u) port) (hhost : SetBy IsText (some v) host)
      (hindex : SetBy IsText (some w) index) : Holds (.arr [u, v, w]) ⟨port, host, index⟩

/-! ## Fields -/

def portOf (f : Option Field) : Option Nat := Record.port [f] 0

def textOf (f : Option Field) : Option String := Record.text [f] 0

theorem setBy_port {v : Json} {port : Option Nat} :
    SetBy IsPort (some v) port ↔ ∃ f, Settings.shape.fieldOf .port v = .ok f ∧ portOf f = port := by
  constructor
  · intro h
    cases h with
    | null => exact ⟨none, rfl, rfl⟩
    | @value _ n h =>
        cases h with
        | int h =>
            refine ⟨some (.port n), ?_, rfl⟩
            have hrange : (0 : Int) ≤ n ∧ (n : Int) < 65536 := by omega
            simp only [Shape.fieldOf, FieldKind.ofJson, FieldKind.ofNumber, if_pos hrange]
            rfl
  · rintro ⟨f, hf, rfl⟩
    cases v with
    | null =>
        cases hf
        exact .null
    | num n =>
        cases n with
        | int i =>
            simp only [Shape.fieldOf, FieldKind.ofJson, FieldKind.ofNumber] at hf
            split at hf
            · rename_i hrange
              cases hf
              obtain ⟨n, rfl⟩ := Int.eq_ofNat_of_zero_le hrange.1
              exact .value (.int (by omega))
            · cases hf
        | float d => cases hf
    | _ => cases hf

theorem setBy_text {v : Json} {text : Option String} :
    SetBy IsText (some v) text ↔ ∃ f, Settings.shape.fieldOf .text v = .ok f ∧ textOf f = text := by
  constructor
  · intro h
    cases h with
    | null => exact ⟨none, rfl, rfl⟩
    | @value _ s h =>
        cases h with
        | str => exact ⟨some (.text s), rfl, rfl⟩
  · rintro ⟨f, hf, rfl⟩
    cases v with
    | null =>
        cases hf
        exact .null
    | str s =>
        cases hf
        exact .value (.str s)
    | num n => cases n <;> cases hf
    | _ => cases hf

/-! ## Records -/

theorem bind_eq_ok {ε α β : Type} {x : Except ε α} {f : α → Except ε β} {b : β} :
    (x >>= f) = .ok b ↔ ∃ a, x = .ok a ∧ f a = .ok b := by
  cases x with
  | error e => exact ⟨nofun, nofun⟩
  | ok a => exact ⟨fun h => ⟨a, rfl, h⟩, fun ⟨_, ha, h⟩ => Except.ok.inj ha ▸ h⟩

/-- A field of a record behind the members of an object: what its member gives, or what it was before. -/
def Filled (ms : List (String × Json)) (name : String) (kind : FieldKind) (old new : Option Field) :
    Prop :=
  match ms.lookup name with
  | none => new = old
  | some v => Settings.shape.fieldOf kind v = .ok new

variable {ms : List (String × Json)} {name : String} {v : Json} {old new : Option Field}

theorem filled_skip {other : String} {kind : FieldKind} (h : other ≠ name) :
    Filled ((name, v) :: ms) other kind old new ↔ Filled ms other kind old new := by
  unfold Filled
  rw [List.lookup_cons, beq_false_of_ne h]

theorem filled_cons {kind : FieldKind} (hnew : name ∉ ms.map Prod.fst) :
    Filled ((name, v) :: ms) name kind old new ↔
      ∃ f, Settings.shape.fieldOf kind v = .ok f ∧ Filled ms name kind f new := by
  have hnone : ms.lookup name = none := by
    refine List.lookup_eq_none_iff.mpr fun m hm => ?_
    exact bne_iff_ne.mpr fun he => hnew (List.mem_map.mpr ⟨m, hm, he.symm⟩)
  unfold Filled
  rw [List.lookup_cons_self, hnone]
  exact ⟨fun h => ⟨new, h, rfl⟩, fun ⟨f, hf, h⟩ => h ▸ hf⟩

section

variable {shape : Shape} {r r' : Record}

theorem ofMembers_skip (h : shape.index? name = none) :
    shape.ofMembers ((name, v) :: ms) r = shape.ofMembers ms r := by
  rw [Shape.ofMembers, h]

theorem ofMembers_cons (i : Nat) (kind : FieldKind) (h : shape.index? name = some i)
    (hkind : shape.fields[i]? = some (name, kind)) :
    shape.ofMembers ((name, v) :: ms) r = .ok r' ↔
      ∃ f, shape.fieldOf kind v = .ok f ∧ shape.ofMembers ms (r.set i f) = .ok r' := by
  rw [Shape.ofMembers, h]
  dsimp only
  rw [hkind, Option.map_some, Option.getD_some, bind_eq_ok]

end

theorem ofMembers_eq_ok (hdistinct : (ms.map Prod.fst).Nodup) {a b c : Option Field} {r : Record} :
    Settings.shape.ofMembers ms [a, b, c] = .ok r ↔
      ∃ a' b' c', r = [a', b', c'] ∧ Filled ms "port" .port a a' ∧ Filled ms "host" .text b b' ∧
        Filled ms "index" .text c c' := by
  induction ms generalizing a b c with
  | nil =>
    constructor
    · intro h
      cases h
      exact ⟨a, b, c, rfl, rfl, rfl, rfl⟩
    · rintro ⟨a', b', c', rfl, rfl, rfl, rfl⟩
      rfl
  | cons m ms ih =>
      obtain ⟨name, v⟩ := m
      obtain ⟨hnew, hrest⟩ := List.nodup_cons.mp hdistinct
      by_cases hport : name = "port"
      · have hhost : "host" ≠ name := by simp [hport]
        have hindex : "index" ≠ name := by simp [hport]
        rw [ofMembers_cons 0 .port (by rw [hport]; rfl) (by rw [hport]; rfl)]
        simp only [List.set_cons_zero, ih hrest, ← hport, filled_cons hnew, filled_skip hhost,
          filled_skip hindex]
        grind
      · by_cases hhost : name = "host"
        · have hindex : "index" ≠ name := by simp [hhost]
          rw [ofMembers_cons 1 .text (by rw [hhost]; rfl) (by rw [hhost]; rfl)]
          simp only [List.set_cons_zero, List.set_cons_succ, ih hrest, ← hhost, filled_cons hnew,
            filled_skip (Ne.symm hport), filled_skip hindex]
          grind
        · by_cases hindex : name = "index"
          · rw [ofMembers_cons 2 .text (by rw [hindex]; rfl) (by rw [hindex]; rfl)]
            simp only [List.set_cons_zero, List.set_cons_succ, ih hrest, ← hindex, filled_cons hnew,
              filled_skip (Ne.symm hport), filled_skip (Ne.symm hhost)]
            grind
          · have hnone : Settings.shape.index? name = none := by
              simp [Shape.index?, Settings.shape, Options.fieldKinds, Ne.symm hport, Ne.symm hhost,
                Ne.symm hindex]
            rw [ofMembers_skip hnone, ih hrest]
            simp only [filled_skip (Ne.symm hport), filled_skip (Ne.symm hhost),
              filled_skip (Ne.symm hindex)]

theorem setBy_lookup_iff {α : Type} {Is : Json → α → Prop} {kind : FieldKind}
    {of : Option Field → Option α} (hnone : of none = none)
    (h : ∀ {v a}, SetBy Is (some v) a ↔ ∃ f, Settings.shape.fieldOf kind v = .ok f ∧ of f = a)
    {a : Option α} : SetBy Is (ms.lookup name) a ↔ ∃ f, Filled ms name kind none f ∧ of f = a := by
  unfold Filled
  cases ms.lookup name with
  | none =>
      constructor
      · intro h
        cases h
        exact ⟨none, rfl, hnone⟩
      · rintro ⟨f, rfl, rfl⟩
        exact hnone ▸ .missing
  | some v => exact h

section

variable {shape : Shape} {total n : Nat} {js : List Json} {r : Record}

theorem ofItems_nil_eq_ok : shape.ofItems total n [] js = .ok r ↔ js = [] ∧ r = [] := by
  cases js with
  | nil => exact ⟨fun h => ⟨rfl, (Except.ok.inj h).symm⟩, fun h => h.2 ▸ rfl⟩
  | cons j js => exact ⟨nofun, nofun⟩

theorem ofItems_cons_eq_ok {kind : FieldKind} {fields : List (String × FieldKind)}
    (hwhole : shape.partialList = false) :
    shape.ofItems total n ((name, kind) :: fields) js = .ok r ↔
      ∃ j js' f r', js = j :: js' ∧ shape.fieldOf kind j = .ok f ∧
        shape.ofItems total (n + 1) fields js' = .ok r' ∧ r = f :: r' := by
  cases js with
  | nil =>
      rw [Shape.ofItems, hwhole]
      exact ⟨nofun, nofun⟩
  | cons j js =>
      rw [Shape.ofItems, bind_eq_ok]
      simp only [bind_eq_ok]
      constructor
      · rintro ⟨f, hf, r', hr, h⟩
        exact ⟨j, js, f, r', rfl, hf, hr, (Except.ok.inj h).symm⟩
      · rintro ⟨_, _, f, r', hj, hf, hr, rfl⟩
        obtain ⟨rfl, rfl⟩ := List.cons.inj hj
        exact ⟨f, hf, r', hr, rfl⟩

end

theorem ofJson_eq_ok {v : Json} {s : Settings} :
    Settings.ofJson v = .ok s ↔ ∃ r, Settings.shape.ofJson v = .ok r ∧ Settings.ofRecord r = s := by
  unfold Settings.ofJson
  cases Settings.shape.ofJson v with
  | error cause => exact ⟨nofun, nofun⟩
  | ok r => exact ⟨fun h => ⟨r, rfl, Except.ok.inj h⟩, fun ⟨_, hr, h⟩ => Except.ok.inj hr ▸ h ▸ rfl⟩

theorem ofJson_obj (hdistinct : (ms.map Prod.fst).Nodup) {s : Settings} :
    Settings.ofJson (.obj ms) = .ok s ↔ Holds (.obj ms) s := by
  rw [ofJson_eq_ok]
  constructor
  · rintro ⟨r, hr, rfl⟩
    obtain ⟨a, b, c, rfl, ha, hb, hc⟩ := (ofMembers_eq_ok hdistinct).mp hr
    exact .obj ((setBy_lookup_iff rfl setBy_port).mpr ⟨a, ha, rfl⟩)
      ((setBy_lookup_iff rfl setBy_text).mpr ⟨b, hb, rfl⟩)
      ((setBy_lookup_iff rfl setBy_text).mpr ⟨c, hc, rfl⟩)
  · intro h
    cases h with
    | obj hport hhost hindex =>
        obtain ⟨a, ha, rfl⟩ := (setBy_lookup_iff rfl setBy_port).mp hport
        obtain ⟨b, hb, rfl⟩ := (setBy_lookup_iff rfl setBy_text).mp hhost
        obtain ⟨c, hc, rfl⟩ := (setBy_lookup_iff rfl setBy_text).mp hindex
        exact ⟨_, (ofMembers_eq_ok hdistinct).mpr ⟨a, b, c, rfl, ha, hb, hc⟩, rfl⟩

theorem ofJson_arr {js : List Json} {s : Settings} :
    Settings.ofJson (.arr js) = .ok s ↔ Holds (.arr js) s := by
  rw [ofJson_eq_ok]
  constructor
  · rintro ⟨r, hr, rfl⟩
    obtain ⟨u, us, a, as, rfl, ha, hus, rfl⟩ := (ofItems_cons_eq_ok rfl).mp hr
    obtain ⟨v, vs, b, bs, rfl, hb, hvs, rfl⟩ := (ofItems_cons_eq_ok rfl).mp hus
    obtain ⟨w, ws, c, cs, rfl, hc, hws, rfl⟩ := (ofItems_cons_eq_ok rfl).mp hvs
    obtain ⟨rfl, rfl⟩ := ofItems_nil_eq_ok.mp hws
    exact .arr (setBy_port.mpr ⟨a, ha, rfl⟩) (setBy_text.mpr ⟨b, hb, rfl⟩)
      (setBy_text.mpr ⟨c, hc, rfl⟩)
  · intro h
    cases h with
    | arr hport hhost hindex =>
        obtain ⟨a, ha, rfl⟩ := setBy_port.mp hport
        obtain ⟨b, hb, rfl⟩ := setBy_text.mp hhost
        obtain ⟨c, hc, rfl⟩ := setBy_text.mp hindex
        refine ⟨[a, b, c], ?_, rfl⟩
        exact (ofItems_cons_eq_ok rfl).mpr ⟨_, _, _, _, rfl, ha, (ofItems_cons_eq_ok rfl).mpr
          ⟨_, _, _, _, rfl, hb, (ofItems_cons_eq_ok rfl).mpr
            ⟨_, _, _, _, rfl, hc, ofItems_nil_eq_ok.mpr ⟨rfl, rfl⟩, rfl⟩, rfl⟩, rfl⟩

/-! ## Names of members -/

def Distinct : Json → Prop
  | .obj ms => (ms.map Prod.fst).Nodup
  | _ => True

theorem map_fst_put {v : Json} (hnames : Ascending ms) (h : name ∈ ms.map Prod.fst) :
    (put name v ms).map Prod.fst = ms.map Prod.fst := by
  induction ms with
  | nil => cases h
  | cons m ms ih =>
      obtain ⟨n, w⟩ := m
      obtain ⟨hfirst, hrest⟩ := List.pairwise_cons.mp hnames
      rw [put]
      by_cases hn : name = n
      · rw [if_pos hn]
        rfl
      · have hmem : name ∈ ms.map Prod.fst := (List.mem_cons.mp h).resolve_left hn
        rw [if_neg hn, if_neg (not_lt_of_gt (hfirst name hmem))]
        exact congrArg (n :: ·) (ih hrest hmem)

theorem ascending_nil : Ascending [] := List.Pairwise.nil

theorem put_ascending {v : Json} (h : Ascending ms) : Ascending (put name v ms) := by
  by_cases hnew : name ∈ ms.map Prod.fst
  · unfold Ascending
    rwa [map_fst_put h hnew]
  · exact h.put hnew

theorem ascending_membersFrom {item : Reader Json} {fuel : Nat} {first : Bool}
    {ms' : List (String × Json)} {s s' : Input} (hms : Ascending ms)
    (h : Reader.membersFrom item fuel first ms s = .ok ms' s') : Ascending ms' := by
  induction fuel generalizing first ms s with
  | zero =>
      cases h
      exact hms
  | succ fuel ih =>
      obtain ⟨more, t, -, h⟩ := ok_of_bind h
      split at h
      · obtain ⟨-, t, -, h⟩ := ok_of_bind h
        obtain ⟨name, t, -, h⟩ := ok_of_bind h
        obtain ⟨-, t, -, h⟩ := ok_of_bind h
        obtain ⟨v, t, -, h⟩ := ok_of_bind h
        exact ih (put_ascending hms) h
      · cases h
        exact hms

theorem distinct_valueOf {inner : Option (Reader Json)} {v : Json} {s s' : Input}
    (h : Reader.valueOf inner s = .ok v s') : Distinct v := by
  obtain ⟨next, t, -, h⟩ := ok_of_bind h
  -- by the character that comes next: there is none in case 1, a list or an object opens in cases 7
  -- and 8, and in case 9 it may be a digit
  split at h
  case h_1 => cases h
  case h_7 =>
    cases inner with
    | none => cases h
    | some item =>
        obtain ⟨-, t, -, h⟩ := ok_of_bind h
        obtain ⟨n, t, -, h⟩ := ok_of_bind h
        obtain ⟨js, t, -, h⟩ := ok_of_bind h
        obtain ⟨-, t, -, h⟩ := ok_of_bind h
        cases h
        trivial
  case h_8 =>
    cases inner with
    | none => cases h
    | some item =>
        obtain ⟨-, t, -, h⟩ := ok_of_bind h
        obtain ⟨n, t, -, h⟩ := ok_of_bind h
        obtain ⟨ms, t, hms, h⟩ := ok_of_bind h
        obtain ⟨-, t, -, h⟩ := ok_of_bind h
        cases h
        exact (ascending_membersFrom ascending_nil hms).imp fun h => h.ne
  case h_9 =>
    split at h
    · obtain ⟨n, t, -, h⟩ := ok_of_bind h
      cases h
      trivial
    · cases h
  all_goals
    obtain ⟨-, t, -, h⟩ := ok_of_bind h
    obtain ⟨_, t, -, h⟩ := ok_of_bind h
    cases h
    trivial

theorem distinct_read {text : String} {v : Json} (h : Json.read text = .ok v) : Distinct v := by
  obtain ⟨rest, ⟨o, h⟩, -⟩ := run_eq_ok.mp h
  generalize Reader.maxDepth = depth at h
  cases depth with
  | zero => exact distinct_valueOf h
  | succ depth => exact distinct_valueOf h

theorem ascending_members (place : String) (ps : List Script.Property) (h : Ascending ms) :
    Ascending (members place ms ps).1 := by
  induction ps generalizing ms with
  | nil => exact h
  | cons p ps ih =>
      rw [members_cons]
      refine ih ?_
      cases p with
      | keyed key e =>
          rw [member_keyed]
          cases memberName? key with
          | none => exact h
          | some name =>
              rw [Option.elim_some]
              cases (literal (placeOf place name) e).1 with
              | none => exact h
              | some v => exact put_ascending h
      | _ => exact h

theorem distinct_ofScript {path source : String} {v : Json} (h : (ofScript path source).1 = .ok v) :
    Distinct v := by
  unfold ofScript at h
  split at h
  · cases h
  · split at h
    · cases h
    · split at h
      · rename_i s ps _
        cases h
        exact (ascending_members "" ps ascending_nil).imp fun h => h.ne
      · cases h

theorem distinct_value {path source : String} {v : Json} (h : (value path source).1 = .ok v) :
    Distinct v := by
  unfold value at h
  split at h
  · cases hread : Json.read source with
    | error fault =>
        rw [hread] at h
        cases h
    | ok w =>
        rw [hread] at h
        cases h
        exact distinct_read hread
  · exact distinct_ofScript h

theorem ofJson_iff {v : Json} (hdistinct : Distinct v) {s : Settings} :
    Settings.ofJson v = .ok s ↔ Holds v s := by
  cases v with
  | obj ms => exact ofJson_obj hdistinct
  | arr js => exact ofJson_arr
  | _ => exact ⟨nofun, nofun⟩

/-- A configuration is read if it has a value, and one that holds settings. -/
theorem parse_eq_ok {path source : String} {s : Settings} :
    (parse path source).1 = .ok s ↔ ∃ v, (value path source).1 = .ok v ∧ Holds v s := by
  rw [parse_eq]
  dsimp only
  cases hvalue : (value path source).1 with
  | error fault => exact ⟨nofun, nofun⟩
  | ok v =>
      have hsettings : (settingsOf (.ok v)).mapError (Failure.configInvalid path) = .ok s ↔
          Settings.ofJson v = .ok s := by
        unfold settingsOf
        dsimp only [Except.bind]
        cases Settings.ofJson v with
        | error cause => exact ⟨nofun, nofun⟩
        | ok t => exact ⟨fun h => congrArg _ (Except.ok.inj h), fun h => congrArg _ (Except.ok.inj h)⟩
      rw [hsettings, ofJson_iff (distinct_value hvalue)]
      exact ⟨fun h => ⟨v, rfl, h⟩, fun ⟨_, hv, h⟩ => Except.ok.inj hv ▸ h⟩

end Unbundled.Proofs.SettingValues
