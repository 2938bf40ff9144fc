import Unbundled.Proofs.Assertions
import Unbundled.Proofs.JsonTexts

namespace Unbundled.Proofs.SkippedValues

open Config Script ScriptSettings Assertions JsonTexts

def isValue (e : Expr) : Bool :=
  match unwrapped e with
  | .str _ | .bool .. | .null _ | .num .. | .unary _ .minus (.num ..) | .array .. | .object .. => true
  | .template _ quasis [] => (quasis.head?.bind (·.cooked)).isSome
  | _ => false

def isUncooked (e : Expr) : Bool :=
  match unwrapped e with
  | .template _ quasis [] => (quasis.head?.bind (·.cooked)).isNone
  | _ => false

inductive Part where
  | element (e : Expr)
  | member (p : Property)

namespace Part

/-- A member is a value if its name is written out and what it is set to is one. -/
def isKept : Part → Bool
  | .element e => isValue e
  | .member (.keyed key e) => (memberName? key).isSome && isValue e
  | .member _ => false

/-- Parts that nothing is told of when they are left out. A script that is read holds no template without
a text, other than a tagged one. -/
def isSilent : Part → Bool
  | .element e => isGap e || isUncooked e
  | .member (.keyed key e) => (memberName? key).isSome && isUncooked e
  | .member _ => false

def placeIn (place : String) : Part → String
  | .member (.keyed key _) => (memberName? key).elim place (placeOf place)
  | _ => place

def notices (place : String) (p : Part) : List Notice :=
  if p.isSilent then [] else [.skippedValue (p.placeIn place)]

end Part

mutual

/-- `Says place e v lost`: the expression `e`, which stands at `place`, says `v`. The parts of `e`, at any
depth, that are in no part of `v` are `lost`, each one with the place of the array or object it is in.
Of two members with one name both are kept, and the last one counts. -/
inductive Says : String → Expr → Json → List (String × Part) → Prop
  | wrapped {place e x v lost} (hx : inner? e = some x) (h : Says place x v lost) : Says place e v lost
  | str (place lit) : Says place (.str lit) (.str lit.value) []
  | bool (place s b) : Says place (.bool s b) (.bool b) []
  | null (place s) : Says place (.null s) .null []
  | num (place s d raw) : Says place (.num s d raw) (numberValue d) []
  | negative (place s t d raw) : Says place (.unary s .minus (.num t d raw)) (numberValue d.neg) []
  | template (place s qs) {q : Quasi} {text} (h : q.cooked = some text) :
      Says place (.template s (q :: qs) []) (.str text) []
  | array (s) {place es vs lost} (h : SaysEach place es vs lost) :
      Says place (.array s es) (.arr vs) lost
  | object (s) {place ps ms lost} (h : SaysMembers place ps ms lost) :
      Says place (.object s ps) (.obj (putAll [] ms)) lost

inductive SaysEach : String → List Expr → List Json → List (String × Part) → Prop
  | nil (place) : SaysEach place [] [] []
  | kept {place e es v vs lost more} (h : Says place e v lost) (hs : SaysEach place es vs more) :
      SaysEach place (e :: es) (v :: vs) (lost ++ more)
  | lost {place e es vs more} (h : (Part.element e).isKept = false) (hs : SaysEach place es vs more) :
      SaysEach place (e :: es) vs ((place, .element e) :: more)

inductive SaysMembers : String → List Property → List (String × Json) → List (String × Part) → Prop
  | nil (place) : SaysMembers place [] [] []
  | kept {place key name e ps v ms lost more} (hkey : memberName? key = some name)
      (h : Says (placeOf place name) e v lost) (hs : SaysMembers place ps ms more) :
      SaysMembers place (.keyed key e :: ps) ((name, v) :: ms) (lost ++ more)
  | lost {place p ps ms more} (h : (Part.member p).isKept = false) (hs : SaysMembers place ps ms more) :
      SaysMembers place (p :: ps) ms ((place, .member p) :: more)

end

def notices (lost : List (String × Part)) : List Notice := lost.flatMap fun l => l.2.notices l.1

theorem notices_append (lost more : List (String × Part)) :
    notices (lost ++ more) = notices lost ++ notices more := List.flatMap_append

theorem literal_unwrapped (place : String) (e : Expr) :
    literal place (unwrapped e) = literal place e := by
  fun_induction unwrapped e with
  | case6 e => rfl
  | _ => assumption

theorem inner?_unwrapped (e : Expr) : inner? (unwrapped e) = none := by
  fun_induction unwrapped e with
  | case6 e hparen hasType hsatisfies hasConst hconst => cases e <;> first | rfl | simp_all
  | _ => assumption

theorem literal_of_not_isValue {e : Expr} (h : isValue e = false) (place : String) :
    literal place e = (none, if isUncooked e then [] else [.skippedValue place]) := by
  have hinner := inner?_unwrapped e
  rw [← literal_unwrapped]
  unfold isValue at h
  unfold isUncooked
  generalize unwrapped e = x at *
  cases x with
  | template s quasis exprs =>
    cases exprs with
    | nil =>
      have hnone : quasis.head?.bind (·.cooked) = none := by simpa using h
      simp only [literal, hnone]
      rfl
    | cons => rfl
  | unary s op arg =>
    cases op with
    | minus => cases arg <;> first | rfl | cases h
    | _ => rfl
  | paren | asType | satisfies | asConst | constAssertion => cases hinner
  | _ => first | rfl | cases h

theorem isValue_of_literal_eq {place : String} {e : Expr} {v : Json} {ns : List Notice}
    (h : literal place e = (some v, ns)) : isValue e = true := by
  cases hvalue : isValue e with
  | true => rfl
  | false =>
    rw [literal_of_not_isValue hvalue] at h
    cases h

theorem literals_lost {e : Expr} (h : isValue e = false) (place : String) (es : List Expr) :
    literals place (e :: es) =
      ((literals place es).1, (Part.element e).notices place ++ (literals place es).2) := by
  cases hgap : isGap e with
  | true =>
    rw [literals_gap hgap, Part.notices, if_pos (by simp [Part.isSilent, hgap])]
    rfl
  | false =>
    rw [literals_cons hgap, literal_of_not_isValue h, Part.notices, Part.isSilent, hgap, Bool.false_or]
    rfl

theorem literals_kept {e : Expr} (h : isValue e = true) (place : String) (es : List Expr) :
    literals place (e :: es) =
      ((literal place e).1.toList ++ (literals place es).1,
        (literal place e).2 ++ (literals place es).2) := by
  refine literals_cons ?_ place es
  cases e <;> first | rfl | cases h

theorem member_lost {p : Property} (h : (Part.member p).isKept = false) (place : String)
    (ms : List (String × Json)) : member place ms p = (ms, (Part.member p).notices place) := by
  cases p with
  | keyed key e =>
    rw [member_keyed, Part.notices, Part.isSilent, Part.placeIn]
    cases hkey : memberName? key with
    | none => rfl
    | some name =>
      have hvalue : isValue e = false := by simpa [Part.isKept, hkey] using h
      simp only [Option.elim_some, literal_of_not_isValue hvalue, Option.isSome_some, Bool.true_and,
        Option.elim_none]
  | _ => rfl

mutual

theorem Says.literal_eq : ∀ {place : String} {e : Expr} {v : Json} {lost : List (String × Part)},
    Says place e v lost → literal place e = (some v, notices lost)
  | _, _, _, _, .wrapped hx h => (literal_of_inner? hx _).trans h.literal_eq
  | _, _, _, _, .str .. => rfl
  | _, _, _, _, .bool .. => rfl
  | _, _, _, _, .null .. => rfl
  | _, _, _, _, .num .. => rfl
  | _, _, _, _, .negative .. => rfl
  | _, _, _, _, .template place s qs h => by
    simp only [literal, List.head?_cons, Option.bind_some, h]
    rfl
  | _, _, _, _, .array s h => by
    have hitems := h.literals_eq
    simp only [literal, hitems]
  | _, _, _, _, .object s h => by
    have hmembers := h.members_eq []
    simp only [literal, hmembers]

theorem SaysEach.literals_eq : ∀ {place : String} {es : List Expr} {vs : List Json}
    {lost : List (String × Part)}, SaysEach place es vs lost → literals place es = (vs, notices lost)
  | _, _, _, _, .nil _ => rfl
  | _, _, _, _, .kept h hs => by
    have hfirst := h.literal_eq
    have hrest := hs.literals_eq
    rw [literals_kept (isValue_of_literal_eq hfirst), hfirst, hrest, notices_append]
    rfl
  | _, _, _, _, .lost h hs => by
    have hrest := hs.literals_eq
    rw [literals_lost h, hrest]
    rfl

theorem SaysMembers.members_eq : ∀ {place : String} {ps : List Property} {ms : List (String × Json)}
    {lost : List (String × Part)}, SaysMembers place ps ms lost →
    ∀ acc, members place acc ps = (putAll acc ms, notices lost)
  | _, _, _, _, .nil _, _ => rfl
  | _, _, _, _, .kept hkey h hs, acc => by
    have hvalue := h.literal_eq
    have hrest := hs.members_eq
    simp only [members_cons, member_keyed, hkey, Option.elim_some, hvalue, hrest, notices_append]
    rfl
  | _, _, _, _, .lost h hs, acc => by
    have hrest := hs.members_eq acc
    simp only [members_cons, member_lost h, hrest]
    rfl

end

mutual

theorem exists_says_of_isValue (e : Expr) (place : String) (h : isValue e = true) :
    ∃ v lost, Says place e v lost := by
  cases e with
  | paren _ x | asType _ x _ | satisfies _ x _ | asConst _ x | constAssertion _ x =>
    obtain ⟨v, lost, hx⟩ := exists_says_of_isValue x place h
    exact ⟨v, lost, .wrapped rfl hx⟩
  | str lit => exact ⟨_, _, .str place lit⟩
  | bool s b => exact ⟨_, _, .bool place s b⟩
  | null s => exact ⟨_, _, .null place s⟩
  | num s d raw => exact ⟨_, _, .num place s d raw⟩
  | unary s op arg =>
    cases op with
    | minus =>
      cases arg with
      | num t d raw => exact ⟨_, _, .negative place s t d raw⟩
      | _ => cases h
    | _ => cases h
  | template s quasis exprs =>
    cases exprs with
    | nil =>
      cases quasis with
      | nil => cases h
      | cons q qs =>
        obtain ⟨text, htext⟩ := Option.isSome_iff_exists.mp h
        exact ⟨_, _, .template place s qs htext⟩
    | cons => cases h
  | array s es =>
    obtain ⟨vs, lost, hes⟩ := exists_saysEach es place
    exact ⟨_, lost, .array s hes⟩
  | object s ps =>
    obtain ⟨ms, lost, hps⟩ := exists_saysMembers ps place
    exact ⟨_, lost, .object s hps⟩
  | _ => cases h
termination_by structural e

theorem exists_saysEach (es : List Expr) (place : String) : ∃ vs lost, SaysEach place es vs lost := by
  cases es with
  | nil => exact ⟨_, _, .nil place⟩
  | cons e es =>
    obtain ⟨vs, more, hs⟩ := exists_saysEach es place
    cases h : isValue e with
    | true =>
      obtain ⟨v, lost, he⟩ := exists_says_of_isValue e place h
      exact ⟨_, _, .kept he hs⟩
    | false => exact ⟨_, _, .lost h hs⟩
termination_by structural es

theorem exists_saysMembers (ps : List Property) (place : String) :
    ∃ ms lost, SaysMembers place ps ms lost := by
  cases ps with
  | nil => exact ⟨_, _, .nil place⟩
  | cons p ps =>
    obtain ⟨ms, more, hs⟩ := exists_saysMembers ps place
    cases hkept : (Part.member p).isKept with
    | false => exact ⟨_, _, .lost hkept hs⟩
    | true =>
      cases p with
      | keyed key e =>
        obtain ⟨hname, he⟩ := Bool.and_eq_true_iff.mp hkept
        obtain ⟨name, hname⟩ := Option.isSome_iff_exists.mp hname
        obtain ⟨v, lost, he⟩ := exists_says_of_isValue e (placeOf place name) he
        exact ⟨_, _, .kept hname he hs⟩
      | _ => cases hkept
termination_by structural ps

end

/-- Every value says something, and whatever is left out of that, at any depth, is told of once and in
order: all parts that are no values, except for missing and spread elements and templates without a
text. Nothing is told of a part that is kept. What is no value says nothing. -/
theorem literal_notices (place : String) (e : Expr) :
    (isValue e = true ↔ ∃ v lost, Says place e v lost) ∧
    (∀ v lost, Says place e v lost → literal place e = (some v, notices lost)) ∧
    (isValue e = false →
      literal place e = (none, if isUncooked e then [] else [.skippedValue place])) := by
  refine ⟨⟨exists_says_of_isValue e place, ?_⟩, fun v lost h => h.literal_eq, ?_⟩
  · rintro ⟨v, lost, h⟩
    exact isValue_of_literal_eq h.literal_eq
  · exact fun h => literal_of_not_isValue h place

theorem literal_notices_list :
    let list : Expr := .array default [.hole, .ident default, .null default]
    let e : Expr := .object default [.keyed (.word ⟨"list", default⟩) list]
    let v : Json := .obj [("list", .arr [.null])]
    Says "" e v [("list", .element .hole), ("list", .element (.ident default))] ∧
      literal "" e = (some v, [.skippedValue "list"]) := by
  intro list e v
  have hlist : Says "list" list (.arr [.null])
      [("list", .element .hole), ("list", .element (.ident default))] :=
    .array _ (.lost rfl (.lost rfl (.kept (.null _ _) (.nil _))))
  have hplace : placeOf "" "list" = "list" := by decide +kernel
  rw [← hplace] at hlist
  have hobject : Says "" e v [("list", .element .hole), ("list", .element (.ident default))] :=
    hplace ▸ .object _ (.kept rfl hlist (.nil _))
  exact ⟨hobject, (literal_notices "" e).2.1 _ _ hobject⟩

/-- Nothing is told of the elements that are missing or spread out. -/
theorem parse_gaps :
    parse "/c.ts" "export default \x7b port: 1, list: [, ...xs, y], ...z, f() \x7b\x7d \x7d;\n" =
      (.ok ⟨some 1, none, none⟩, [.skippedValue "list", .skippedValue "", .skippedValue ""]) := by
  decide +kernel

end Unbundled.Proofs.SkippedValues
