import Mathlib.Data.List.Basic
import Unbundled.Proofs.ScriptSettings

namespace Unbundled.Proofs.Assertions

open Config Script ScriptSettings

/-- What is in parentheses or has an assertion around it, except for types in angle brackets. -/
def inner? : Expr → Option Expr
  | .paren _ e | .asType _ e _ | .satisfies _ e _ | .asConst _ e | .constAssertion _ e => some e
  | _ => none

/-- Literals that say the same, wherever they stand and however they are spelled. -/
inductive SameLiteral : Expr → Expr → Prop
  | str {lit lit' : StringLit} (h : lit.value = lit'.value) : SameLiteral (.str lit) (.str lit')
  | bool (s s' b) : SameLiteral (.bool s b) (.bool s' b)
  | null (s s') : SameLiteral (.null s) (.null s')
  | num (s s' d raw raw') : SameLiteral (.num s d raw) (.num s' d raw')
  | negative (s s' t t' d raw raw') :
      SameLiteral (.unary s .minus (.num t d raw)) (.unary s' .minus (.num t' d raw'))
  | template (s s' qs qs') {q q' : Quasi} (h : q.cooked = q'.cooked) :
      SameLiteral (.template s (q :: qs) []) (.template s' (q' :: qs') [])

def mayBeValue : Expr → Bool
  | .paren .. | .asType .. | .satisfies .. | .asConst .. | .constAssertion .. | .str _ | .bool ..
  | .null _ | .num .. | .unary _ .minus (.num ..) | .template _ _ [] | .array .. | .object .. => true
  | _ => false

def isGap : Expr → Bool
  | .hole | .spread .. => true
  | _ => false

def isKeyed : Property → Bool
  | .keyed .. => true
  | _ => false

mutual

/-- Expressions that are the same up to the wrappers around them and around the values in them, up to
where they stand and up to what is no value. -/
inductive Rewraps : Expr → Expr → Prop
  | left {e x e'} (hx : inner? e = some x) (h : Rewraps x e') : Rewraps e e'
  | right {e e' x'} (hx : inner? e' = some x') (h : Rewraps e x') : Rewraps e e'
  | literal {e e'} (h : SameLiteral e e') : Rewraps e e'
  | array (s s') {es es'} (h : RewrapsEach es es') : Rewraps (.array s es) (.array s' es')
  | object (s s') {ps ps'} (h : RewrapsMembers ps ps') : Rewraps (.object s ps) (.object s' ps')
  | other {e e'} (h : mayBeValue e = false) (h' : mayBeValue e' = false) : Rewraps e e'

inductive RewrapsEach : List Expr → List Expr → Prop
  | nil : RewrapsEach [] []
  | gap {e e' es es'} (h : isGap e = true) (h' : isGap e' = true) (hs : RewrapsEach es es') :
      RewrapsEach (e :: es) (e' :: es')
  | cons {e e' es es'} (h : isGap e = false) (h' : isGap e' = false) (he : Rewraps e e')
      (hs : RewrapsEach es es') : RewrapsEach (e :: es) (e' :: es')

inductive RewrapsMembers : List Property → List Property → Prop
  | nil : RewrapsMembers [] []
  | keyed {key key' v v' ps ps'} (h : memberName? key = memberName? key') (hv : Rewraps v v')
      (hs : RewrapsMembers ps ps') : RewrapsMembers (.keyed key v :: ps) (.keyed key' v' :: ps')
  | other {p p' ps ps'} (h : isKeyed p = false) (h' : isKeyed p' = false)
      (hs : RewrapsMembers ps ps') : RewrapsMembers (p :: ps) (p' :: ps')

end

theorem literal_of_inner? {e x : Expr} (h : inner? e = some x) (place : String) :
    literal place e = literal place x := by
  unfold inner? at h
  split at h
  all_goals
    cases h
  all_goals rfl

theorem literal_of_not_value {e : Expr} (h : mayBeValue e = false) (place : String) :
    literal place e = skipped place := by
  unfold literal
  split
  all_goals first | rfl | simp [mayBeValue] at h

theorem SameLiteral.literal_eq {e e' : Expr} (h : SameLiteral e e') (place : String) :
    literal place e = literal place e' := by
  cases h with
  | str h => simp only [literal, h]
  | bool | null | num | negative => rfl
  | template s s' qs qs' h => simp only [literal, List.head?_cons, Option.bind_some, h]

theorem literals_gap {e : Expr} (h : isGap e = true) (place : String) (es : List Expr) :
    literals place (e :: es) = literals place es := by
  unfold isGap at h
  split at h
  all_goals first | rfl | cases h

theorem literals_cons {e : Expr} (h : isGap e = false) (place : String) (es : List Expr) :
    literals place (e :: es) =
      ((literal place e).1.toList ++ (literals place es).1,
        (literal place e).2 ++ (literals place es).2) := by
  cases e <;> first | rfl | cases h

theorem member_of_not_keyed {p : Property} (h : isKeyed p = false) (place : String)
    (ms : List (String × Json)) : member place ms p = (ms, [.skippedValue place]) := by
  cases p <;> first | rfl | cases h

mutual

theorem Rewraps.literal_eq : ∀ {e e' : Expr}, Rewraps e e' → ∀ place : String,
    literal place e = literal place e'
  | _, _, .left hx h, place => (literal_of_inner? hx place).trans (h.literal_eq place)
  | _, _, .right hx h, place => (h.literal_eq place).trans (literal_of_inner? hx place).symm
  | _, _, .literal h, place => h.literal_eq place
  | _, _, .array s s' h, place => by
    have hitems := h.literals_eq place
    simp only [literal, hitems]
  | _, _, .object s s' h, place => by
    have hmembers := h.members_eq place []
    simp only [literal, hmembers]
  | _, _, .other h h', place =>
    (literal_of_not_value h place).trans (literal_of_not_value h' place).symm

theorem RewrapsEach.literals_eq : ∀ {es es' : List Expr}, RewrapsEach es es' → ∀ place : String,
    literals place es = literals place es'
  | _, _, .nil, _ => rfl
  | _, _, .gap h h' hs, place => by
    have hrest := hs.literals_eq place
    rw [literals_gap h, literals_gap h', hrest]
  | _, _, .cons h h' he hs, place => by
    have hfirst := he.literal_eq place
    have hrest := hs.literals_eq place
    rw [literals_cons h, literals_cons h', hfirst, hrest]

theorem RewrapsMembers.members_eq : ∀ {ps ps' : List Property}, RewrapsMembers ps ps' →
    ∀ (place : String) (ms : List (String × Json)), members place ms ps = members place ms ps'
  | _, _, .nil, _, _ => rfl
  | _, _, .keyed hkey hv hs, place, ms => by
    have hvalue (name : String) := hv.literal_eq (placeOf place name)
    have hrest (ms : List (String × Json)) := hs.members_eq place ms
    simp only [members_cons, member_keyed, hkey, hvalue, hrest]
  | _, _, .other h h' hs, place, ms => by
    have hrest := hs.members_eq place ms
    simp only [members_cons, member_of_not_keyed h, member_of_not_keyed h', hrest]

end

theorem unwrapped_of_inner? {e x : Expr} (h : inner? e = some x) : unwrapped e = unwrapped x := by
  unfold inner? at h
  split at h
  all_goals
    cases h
  all_goals rfl

theorem objectValue_of_not_value {e e' : Expr} (h : mayBeValue e = false)
    (h' : mayBeValue e' = false) : objectValue (unwrapped e) = objectValue (unwrapped e') := by
  have hfault {e : Expr} (h : mayBeValue e = false) :
      objectValue (unwrapped e) = (.error "exported config is not an object literal", []) := by
    cases e <;> first | rfl | cases h
  rw [hfault h, hfault h']

theorem Rewraps.objectValue_eq : ∀ {e e' : Expr}, Rewraps e e' →
    objectValue (unwrapped e) = objectValue (unwrapped e')
  | _, _, .left hx h => by
    rw [unwrapped_of_inner? hx]
    exact h.objectValue_eq
  | _, _, .right hx h => by
    rw [unwrapped_of_inner? hx]
    exact h.objectValue_eq
  | _, _, .literal h => by cases h <;> rfl
  | _, _, .array s s' h => rfl
  | _, _, .object s s' h => by simp only [unwrapped, objectValue, h.members_eq]
  | _, _, .other h h' => objectValue_of_not_value h h'

/-- Settings that are the same up to wrappers: an object, or a call with one as its first argument. -/
inductive SameSettings : Expr → Expr → Prop
  | left {e x e'} (hx : inner? e = some x) (h : SameSettings x e') : SameSettings e e'
  | right {e e' x'} (hx : inner? e' = some x') (h : SameSettings e x') : SameSettings e e'
  | object (s s') {ps ps'} (h : RewrapsMembers ps ps') :
      SameSettings (.object s ps) (.object s' ps')
  | call (s s' callee callee' ts ts') {arg arg' args args'} (h : isGap arg = false)
      (h' : isGap arg' = false) (harg : Rewraps arg arg') :
      SameSettings (.call s callee ts (arg :: args)) (.call s' callee' ts' (arg' :: args'))

theorem settingsExpr_call {arg : Expr} (h : isGap arg = false) (s : Span) (callee : Expr)
    (ts : List Ty) (args : List Expr) :
    settingsExpr (.call s callee ts (arg :: args)) = unwrapped arg := by
  cases arg <;> first | rfl | cases h

theorem objectValue_settingsExpr {e x : Expr} (h : inner? e = some x) :
    objectValue (settingsExpr e) = objectValue (settingsExpr x) := by
  have hfault {e : Expr} {s callee ts args} (h : unwrapped e = .call s callee ts args) :
      objectValue e = (.error "exported config is not an object literal", []) := by
    cases e <;> first | rfl | cases h
  have heq := unwrapped_of_inner? h
  unfold settingsExpr
  rw [heq]
  split
  · rename_i hcall
    rw [hfault hcall, hfault (heq.trans hcall)]
  · rename_i hcall
    rw [hfault hcall, hfault (heq.trans hcall)]
  · rfl
  · rfl

theorem SameSettings.objectValue_eq {e e' : Expr} (h : SameSettings e e') :
    objectValue (settingsExpr e) = objectValue (settingsExpr e') := by
  induction h with
  | left hx h ih => rw [objectValue_settingsExpr hx, ih]
  | right hx h ih => rw [objectValue_settingsExpr hx, ih]
  | object s s' h => simp only [settingsExpr, unwrapped, objectValue, h.members_eq]
  | call s s' callee callee' ts ts' h h' harg =>
      rw [settingsExpr_call h, settingsExpr_call h', harg.objectValue_eq]

/-- Two scripts whose settings are the same up to wrappers are read alike, with the same notices and
the same fault if there is one. Settings behind a type in angle brackets are not found. -/
theorem parse_rewrapped {path source source' : String} {m m' : Module} {e e' : Expr}
    (hscript : isJson path = false) (hm : readSource path source = .ok m)
    (hm' : readSource path source' = .ok m') (he : Exports m e) (he' : Exports m' e') :
    (SameSettings e e' → parse path source = parse path source') ∧
      ∀ s ty x, settingsExpr e = .typeAssertion s ty x →
        parse path source =
          (.error (.configInvalid path "exported config is not an object literal"), []) := by
  have hvalue := value_script hscript hm he
  have hvalue' := value_script hscript hm' he'
  refine ⟨fun h => ?_, fun s ty x h => ?_⟩
  · rw [parse_eq, parse_eq, hvalue, hvalue', h.objectValue_eq]
  · rw [parse_eq, hvalue, h]
    rfl

def isWrapped : Expr → Bool
  | .call _ _ _ [.asConst _ (.object _ [.keyed (.word a) (.paren _ (.asType _ (.num _ d _) _)),
      .keyed (.word b) (.satisfies _ (.str lit) _)])] =>
    a.name = "port" ∧ b.name = "host" ∧ d = .ofNat 80 ∧ lit.value = "h"
  | _ => false

def isUnwrapped : Expr → Bool
  | .call _ _ _ [.object _ [.keyed (.word a) (.num _ d _), .keyed (.word b) (.str lit)]] =>
    a.name = "port" ∧ b.name = "host" ∧ d = .ofNat 80 ∧ lit.value = "h"
  | _ => false

theorem sameSettings_of_isWrapped {e e' : Expr} (h : isWrapped e = true)
    (h' : isUnwrapped e' = true) : SameSettings e e' := by
  unfold isWrapped at h
  unfold isUnwrapped at h'
  split at h
  · split at h'
    · obtain ⟨ha, hb, rfl, hlit⟩ := of_decide_eq_true h
      obtain ⟨ha', hb', rfl, hlit'⟩ := of_decide_eq_true h'
      have hport := congrArg some (ha.trans ha'.symm)
      have hhost := congrArg some (hb.trans hb'.symm)
      exact .call _ _ _ _ _ _ rfl rfl (.left rfl (.object _ _
        (.keyed hport (.left rfl (.left rfl (.literal (.num _ _ _ _ _))))
          (.keyed hhost (.left rfl (.literal (.str (hlit.trans hlit'.symm)))) .nil))))
    · cases h'
  · cases h

theorem parse_rewrapped_call :
    let source := "export default f(\x7b port: (80 as number), host: 'h' satisfies T \x7d as const);\n"
    let source' := "module.exports = f(\x7b port: 80, host: \"h\" \x7d);\n"
    ∃ m m' e e', readSource "/c.ts" source = .ok m ∧ readSource "/c.ts" source' = .ok m' ∧
      Exports m e ∧ Exports m' e' ∧ SameSettings e e' ∧
      parse "/c.ts" source = parse "/c.ts" source' := by
  intro source source'
  have hread : onlyExport? "/c.ts" source |>.any isWrapped := by decide +kernel
  have hread' : onlyExport? "/c.ts" source' |>.any isUnwrapped := by decide +kernel
  obtain ⟨m, e, hm, he, h⟩ := exports_of_any_onlyExport? hread
  obtain ⟨m', e', hm', he', h'⟩ := exports_of_any_onlyExport? hread'
  have hsame := sameSettings_of_isWrapped h h'
  exact ⟨m, m', e, e', hm, hm', he, he', hsame,
    (parse_rewrapped (by decide +kernel) hm hm' he he').1 hsame⟩

/-- A type in angle brackets hides the settings of a script, and one around a value hides the value. -/
theorem parse_angled :
    parse "/c.ts" "export default <Options>\x7b port: 8080 \x7d;\n" =
        (.error (.configInvalid "/c.ts" "exported config is not an object literal"), []) ∧
      parse "/c.ts" "export default \x7b port: 8080 \x7d;\n" = (.ok ⟨some 8080, none, none⟩, []) ∧
      parse "/c.ts" "export default \x7b port: <number>8080 \x7d;\n" =
        (.ok ⟨none, none, none⟩, [.skippedValue "port"]) := by
  decide +kernel

end Unbundled.Proofs.Assertions
