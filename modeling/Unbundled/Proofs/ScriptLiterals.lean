import Unbundled.Proofs.Assertions
import Unbundled.Proofs.JsonTexts

namespace Unbundled.Proofs.ScriptLiterals

open Config Script Number ScriptSettings Assertions JsonTexts

inductive Names (name : String) : Key → Prop
  | word (span) : Names name (.word ⟨name, span⟩)
  | str (raw span) : Names name (.str ⟨name, raw, span⟩)

mutual

/-- An expression that writes a value as literals, a negative number as one with a minus in front. The
members of an object may stand in any order. -/
inductive Writes : Json → Expr → Prop
  | null (s) : Writes .null (.null s)
  | bool (s b) : Writes (.bool b) (.bool s b)
  | str (value raw span) : Writes (.str value) (.str ⟨value, raw, span⟩)
  | nat (s raw) (n : Nat) : Writes (.num (.int n)) (.num s (.ofNat n) raw)
  | negative (s t raw) {n : Nat} (h : 0 < n) :
      Writes (.num (.int (-n))) (.unary s .minus (.num t (.ofNat n) raw))
  | arr (s) {vs es} (h : WritesEach vs es) : Writes (.arr vs) (.array s es)
  | obj (s) {ms ms' ps} (horder : ms'.Perm ms) (h : WritesMembers ms' ps) :
      Writes (.obj ms) (.object s ps)

inductive WritesEach : List Json → List Expr → Prop
  | nil : WritesEach [] []
  | cons {v e vs es} (h : Writes v e) (hs : WritesEach vs es) : WritesEach (v :: vs) (e :: es)

inductive WritesMembers : List (String × Json) → List Property → Prop
  | nil : WritesMembers [] []
  | cons {name v key e ms ps} (hkey : Names name key) (h : Writes v e) (hs : WritesMembers ms ps) :
      WritesMembers ((name, v) :: ms) (.keyed key e :: ps)

end

variable {v : Json} {vs : List Json} {ms : List (String × Json)} {e : Expr}

theorem exists_writesEach (h : ∀ v ∈ vs, ∃ e, Writes v e) : ∃ es, WritesEach vs es := by
  induction vs with
  | nil => exact ⟨_, .nil⟩
  | cons v vs ih =>
      obtain ⟨e, he⟩ := h v List.mem_cons_self
      obtain ⟨es, hes⟩ := ih fun w hw => h w (List.mem_cons_of_mem _ hw)
      exact ⟨_, .cons he hes⟩

theorem exists_writesMembers (h : ∀ m ∈ ms, ∃ e, Writes m.2 e) : ∃ ps, WritesMembers ms ps := by
  induction ms with
  | nil => exact ⟨_, .nil⟩
  | cons m ms ih =>
      obtain ⟨e, he⟩ := h m List.mem_cons_self
      obtain ⟨ps, hps⟩ := ih fun n hn => h n (List.mem_cons_of_mem _ hn)
      exact ⟨_, .cons (.str none default) he hps⟩

theorem exists_writes (h : IsPlain v) : ∃ e, Writes v e := by
  induction h with
  | null => exact ⟨_, .null default⟩
  | bool b => exact ⟨_, .bool default b⟩
  | @int i h =>
      obtain ⟨n, rfl | rfl⟩ := i.eq_nat_or_neg
      · exact ⟨_, .nat default none n⟩
      · cases n with
        | zero => exact ⟨_, .nat default none 0⟩
        | succ n => exact ⟨_, .negative default default none n.succ_pos⟩
  | str s => exact ⟨_, .str s none default⟩
  | arr h ih =>
      obtain ⟨es, hes⟩ := exists_writesEach ih
      exact ⟨_, .arr default hes⟩
  | obj hnames h ih =>
      obtain ⟨ps, hps⟩ := exists_writesMembers ih
      exact ⟨_, .obj default (.refl _) hps⟩

theorem ofNat_eq {n : Nat} (h : n < 2 ^ 53) : Double.ofNat n = .finite false n 0 := by
  unfold Double.ofNat Double.ofRatio
  split
  · rename_i hzero
    rw [hzero]
  · rw [if_pos ⟨rfl, h⟩]

theorem numberValue_ofNat {n : Nat} (h : n < 2 ^ 53) : numberValue (.ofNat n) = .num (.int n) := by
  have hint : (Double.finite false n 0).toInt? = some n := by
    simp [Double.toInt?, Double.signedMantissa, pow2]
  rw [ofNat_eq h, numberValue, hint]
  exact if_pos h

theorem numberValue_neg_ofNat {n : Nat} (h : n < 2 ^ 53) :
    numberValue (Double.neg (.ofNat n)) = .num (.int (-n)) := by
  have hint : (Double.finite true n 0).toInt? = some (-n : Int) := by
    simp [Double.toInt?, Double.signedMantissa, pow2]
  rw [ofNat_eq h, Double.neg, Bool.not_false, numberValue, hint]
  exact if_pos (by rwa [Int.natAbs_neg, Int.natAbs_natCast])

theorem Names.memberName? {name : String} {key : Key} (h : Names name key) :
    memberName? key = some name := by
  cases h <;> rfl

theorem Writes.not_isGap (h : Writes v e) : isGap e = false := by
  cases h <;> rfl

mutual

theorem Writes.literal_eq : ∀ {v : Json} {e : Expr}, Writes v e → IsPlain v → ∀ place : String,
    literal place e = (some v, [])
  | _, _, .null _, _, _ => rfl
  | _, _, .bool _ _, _, _ => rfl
  | _, _, .str _ _ _, _, _ => rfl
  | _, _, .nat s raw n, hplain, place => by
    cases hplain with
    | int h => exact congrArg (fun v => (some v, [])) (numberValue_ofNat h)
  | _, _, .negative s t raw hpos, hplain, place => by
    cases hplain with
    | int h =>
        rw [Int.natAbs_neg, Int.natAbs_natCast] at h
        exact congrArg (fun v => (some v, [])) (numberValue_neg_ofNat h)
  | _, _, .arr s h, hplain, place => by
    cases hplain with
    | arr hplain =>
        have hitems := h.literals_eq hplain place
        simp only [literal, hitems]
  | _, _, .obj s horder h, hplain, place => by
    cases hplain with
    | obj hnames hplain =>
        have hmembers := h.members_eq (fun m hm => hplain m (horder.mem_iff.mp hm)) place []
        rw [putAll_of_perm horder hnames] at hmembers
        simp only [literal, hmembers]

theorem WritesEach.literals_eq : ∀ {vs : List Json} {es : List Expr}, WritesEach vs es →
    (∀ v ∈ vs, IsPlain v) → ∀ place : String, literals place es = (vs, [])
  | _, _, .nil, _, _ => rfl
  | _, _, .cons h hs, hplain, place => by
    have hfirst := h.literal_eq (hplain _ List.mem_cons_self) place
    have hrest := hs.literals_eq (fun v hv => hplain v (List.mem_cons_of_mem _ hv)) place
    rw [literals_cons h.not_isGap, hfirst, hrest]
    rfl

theorem WritesMembers.members_eq : ∀ {ms : List (String × Json)} {ps : List Property},
    WritesMembers ms ps → (∀ m ∈ ms, IsPlain m.2) → ∀ (place : String) (acc : List (String × Json)),
    members place acc ps = (putAll acc ms, [])
  | _, _, .nil, _, _, _ => rfl
  | _, _, @WritesMembers.cons name _ _ _ _ _ hkey h hs, hplain, place, acc => by
    have hvalue := h.literal_eq (hplain _ List.mem_cons_self) (placeOf place name)
    have hrest (acc : List (String × Json)) :=
      hs.members_eq (fun m hm => hplain m (List.mem_cons_of_mem _ hm)) place acc
    rw [members_cons, member_keyed, hkey.memberName?, Option.elim_some, hvalue, hrest]
    rfl

end

inductive Holds (e : Expr) : Expr → Prop
  | itself : Holds e e
  | call (s callee ts) : Holds e (.call s callee ts [e])

theorem objectValue_settingsExpr_of_writes {e' : Expr} (h : Writes (.obj ms) e)
    (hplain : IsPlain (.obj ms)) (he' : Holds e e') :
    objectValue (settingsExpr e') = (.ok (.obj ms), []) := by
  have hvalue := h.literal_eq hplain ""
  cases h with
  | @obj s _ ms' ps horder h =>
      have hsettings : settingsExpr e' = .object s ps := by
        cases he' with
        | itself => rfl
        | call s callee ts => exact settingsExpr_call rfl s callee ts []
      have hobject : objectValue (.object s ps) = (.ok (.obj (members "" [] ps).1), (members "" [] ps).2) :=
        rfl
      have hliteral : literal "" (.object s ps) =
          (some (.obj (members "" [] ps).1), (members "" [] ps).2) := rfl
      rw [hliteral, Prod.mk.injEq, Option.some.injEq] at hvalue
      rw [hsettings, hobject, hvalue.1, hvalue.2]

theorem value_json {path text : String} (hjson : isJson path = true) (hread : Json.read text = .ok v) :
    value path text = (.ok v, []) := by
  rw [value, if_pos hjson, hread]

/-- Every value with no other numbers than integers can be written as literals, and however that is done
they are read as the value without a notice. An object, which JSON reads from its text, gives the same
settings or the same fault in a script that exports it as in a JSON file. -/
theorem parse_literals (hplain : IsPlain v) :
    (∃ e, Writes v e) ∧ (∀ e place, Writes v e → literal place e = (some v, [])) ∧
    ∀ ms, v = .obj ms → Within Json.Reader.maxDepth v →
      Json.read (String.ofList (compact v)) = .ok v ∧
      ∀ script source m e e' path text, isJson script = false → isJson path = true →
        readSource script source = .ok m → Writes v e → Holds e e' → Exports m e' →
        Json.read text = .ok v →
        ∃ settings : Except String Settings,
          parse script source = (settings.mapError (.configInvalid script), []) ∧
          parse path text = (settings.mapError (.configInvalid path), []) := by
  refine ⟨exists_writes hplain, fun e place he => he.literal_eq hplain place, ?_⟩
  rintro ms rfl hdepth
  refine ⟨read_compact hdepth hplain, ?_⟩
  intro script source m e e' path text hscript hjson hm he he' hexports hread
  refine ⟨settingsOf (.ok (.obj ms)), ?_, ?_⟩
  · rw [parse_eq, value_script hscript hm hexports, objectValue_settingsExpr_of_writes he hplain he']
  · rw [parse_eq, value_json hjson hread]

def portAndList : Json :=
  .obj [("list", .arr [.null, .num (.int (-5))]), ("port", .num (.int 80))]

theorem isPlain_portAndList : IsPlain portAndList := by
  have hlist : IsPlain (.arr [.null, .num (.int (-5))]) :=
    .arr (List.forall_mem_cons.mpr ⟨.null, List.forall_mem_singleton.mpr (.int (by decide))⟩)
  have hnames : "list" < "port" := by decide +kernel
  exact .obj (List.pairwise_pair.mpr hnames)
    (List.forall_mem_cons.mpr ⟨hlist, List.forall_mem_singleton.mpr (.int (by decide))⟩)

theorem within_portAndList (n : Nat) : Within (n + 2) portAndList := by
  have hlist : Within (n + 1) (.arr [.null, .num (.int (-5))]) :=
    .arr (List.forall_mem_cons.mpr ⟨.null n, List.forall_mem_singleton.mpr (.num n _)⟩)
  exact .obj (List.forall_mem_cons.mpr ⟨hlist, List.forall_mem_singleton.mpr (.num (n + 1) _)⟩)

def isPortAndList : Expr → Bool
  | .call _ _ _ [.object _ [.keyed (.word a) (.num _ d _),
      .keyed (.str b) (.array _ [.null _, .unary _ .minus (.num _ d' _)])]] =>
    a.name = "port" ∧ b.value = "list" ∧ d = .ofNat 80 ∧ d' = .ofNat 5
  | _ => false

theorem writes_of_isPortAndList {e' : Expr} (h : isPortAndList e' = true) :
    ∃ e, Writes portAndList e ∧ Holds e e' := by
  unfold isPortAndList at h
  split at h
  · obtain ⟨ha, hb, rfl, rfl⟩ := of_decide_eq_true h
    refine ⟨_, .obj _ (.swap ..) (.cons ?_ (.nat _ _ 80) (.cons ?_ (.arr _ ?_) .nil)), .call _ _ _⟩
    · exact ha ▸ .word _
    · exact hb ▸ .str _ _
    · exact .cons (.null _) (.cons (@Writes.negative _ _ _ 5 (by decide)) .nil)
  · cases h

theorem parse_portAndList :
    let source := "export default f(\x7b port: 80, \"list\": [null, -5] \x7d);\n"
    let text := "\x7b\"list\":[null,-5],\"port\":80\x7d"
    ∃ m e e', IsPlain portAndList ∧ readSource "/c.ts" source = .ok m ∧ Writes portAndList e ∧
      Holds e e' ∧ Exports m e' ∧ literal "" e = (some portAndList, []) ∧
      Json.read text = .ok portAndList ∧ ∃ settings : Except String Settings,
        parse "/c.ts" source = (settings.mapError (.configInvalid "/c.ts"), []) ∧
        parse "/c.json" text = (settings.mapError (.configInvalid "/c.json"), []) := by
  intro source text
  have hexport : (onlyExport? "/c.ts" source).any isPortAndList = true := by decide +kernel
  obtain ⟨m, e', hm, he', h⟩ := exports_of_any_onlyExport? hexport
  obtain ⟨e, he, hholds⟩ := writes_of_isPortAndList h
  obtain ⟨-, hliteral, hsettings⟩ := parse_literals isPlain_portAndList
  obtain ⟨hread, hsettings⟩ := hsettings _ rfl (within_portAndList 125)
  have htext : String.ofList (JsonTexts.compact portAndList) = text := by decide +kernel
  rw [htext] at hread
  refine ⟨m, e, e', isPlain_portAndList, hm, he, hholds, he', hliteral e "" he, hread, ?_⟩
  exact hsettings _ _ m e e' _ text (by decide +kernel) (by decide +kernel) hm he hholds he' hread

end Unbundled.Proofs.ScriptLiterals
