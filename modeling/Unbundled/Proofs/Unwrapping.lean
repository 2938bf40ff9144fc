import Unbundled.Proofs.Dependencies
import Unbundled.Script.Parens

namespace Unbundled.Proofs.Unwrapping

open Erasure Script Dependencies

/-! ## What stands in an expression -/

/-- The expressions one of which may be left of the one around them. -/
def inners : Expr → List Expr
  | .paren _ e | .asType _ e _ | .asConst _ e | .satisfies _ e _ | .typeAssertion _ _ e
  | .constAssertion _ e | .nonNull _ e | .instantiation _ e _ | .unary _ .void e => [e]
  | .seq _ es => es
  | _ => []

inductive Unwraps : Expr → Expr → Prop
  | refl (e) : Unwraps e e
  | inner {e x r} (hx : x ∈ inners e) (h : Unwraps x r) : Unwraps e r

theorem Unwraps.eq_of_inners {e r : Expr} (h : Unwraps e r) (he : inners e = []) : r = e := by
  cases h with
  | refl => rfl
  | inner hx => simp [he] at hx

theorem Unwraps.exists_inner {e r : Expr} (h : Unwraps e r) (he : inners e ≠ [])
    (hr : inners r = []) : ∃ x ∈ inners e, Unwraps x r := by
  cases h with
  | refl => exact absurd hr he
  | inner hx h => exact ⟨_, hx, h⟩

def nameOf? : Expr → Option String
  | .ident id => some id.name
  | _ => none

def textOf? : Expr → Option String
  | .str lit => some lit.value
  | _ => none

def callOf? : Expr → Option (Expr × Expr)
  | .call _ callee _ (arg :: _) => some (callee, arg)
  | _ => none

/-- An access to a member, which stands for a text if it is that of an enum. -/
def isMember : Expr → Bool
  | .member .. => true
  | _ => false

/-! ## Passes -/

/-- What the passes at hand make of an expression that stays as a whole: a name comes of the same
name, a text of what `Source` allows, and a call of a call. -/
structure Turned (Source Target : Expr → Prop) (R : Expr → Expr → Prop) (e r : Expr) : Prop where
  name {n} (h : nameOf? r = some n) : nameOf? e = some n
  text (h : Target r) : Source e
  call {callee arg} (h : callOf? r = some (callee, arg)) :
    ∃ callee' arg', callOf? e = some (callee', arg') ∧
      ∀ t, inners t = [] → (Unwraps callee t → R callee' t) ∧ (Unwraps arg t → R arg' t)

def Passes (Source Target : Expr → Prop) (R : Expr → Expr → Prop) : Prop :=
  ∀ e r, R e r → inners r = [] → (∃ x ∈ inners e, R x r) ∨ Turned Source Target R e r

theorem sizeOf_lt_of_mem_inners {e x : Expr} (h : x ∈ inners e) : sizeOf x < sizeOf e := by
  unfold inners at h
  split at h
  all_goals first
  | obtain rfl := List.mem_singleton.mp h
    simp
    try omega
  | have := List.sizeOf_lt_of_mem h
    simp
    omega
  | simp at h

theorem Passes.exists_turned {Source Target : Expr → Prop} {R : Expr → Expr → Prop}
    (h : Passes Source Target R) {e r : Expr} (hr : R e r) (hinners : inners r = []) :
    ∃ x, Unwraps e x ∧ Turned Source Target R x r := by
  rcases h e r hr hinners with ⟨x, hx, hxr⟩ | hturned
  · -- one layer less, and the layers are finite
    obtain ⟨y, hy, hturned⟩ := exists_turned h hxr hinners
    exact ⟨y, .inner hx hy, hturned⟩
  · exact ⟨e, .refl e, hturned⟩
termination_by sizeOf e
decreasing_by exact sizeOf_lt_of_mem_inners hx

/-- A call of a name with something that is a text, as `Text` has it, whatever is around the three. -/
def Calls (Text : Expr → Prop) (name : String) (e : Expr) : Prop :=
  ∃ r callee arg, Unwraps e r ∧ callOf? r = some (callee, arg) ∧
    (∃ c, Unwraps callee c ∧ nameOf? c = some name) ∧ ∃ a, Unwraps arg a ∧ Text a

def IsText (text : String) (e : Expr) : Prop := textOf? e = some text

def MayBeText (text : String) (e : Expr) : Prop := textOf? e = some text ∨ isMember e = true

theorem inners_of_callOf? {e : Expr} {c : Expr × Expr} (h : callOf? e = some c) : inners e = [] := by
  cases e <;> first | rfl | cases h

theorem inners_of_nameOf? {e : Expr} {name : String} (h : nameOf? e = some name) :
    inners e = [] := by
  cases e <;> first | rfl | cases h

theorem inners_of_mayBeText {e : Expr} {text : String} (h : MayBeText text e) : inners e = [] := by
  cases e <;> first | rfl | (rcases h with h | h <;> cases h)

theorem Passes.calls {Source Target : Expr → Prop} {R : Expr → Expr → Prop}
    (h : Passes Source Target R) (htarget : ∀ a, Target a → inners a = []) {e r : Expr}
    {name : String} (hr : ∀ t, inners t = [] → Unwraps r t → R e t) (hcalls : Calls Target name r) :
    Calls Source name e := by
  obtain ⟨t, callee, arg, ht, hcall, ⟨c, hc, hname⟩, a, ha, htext⟩ := hcalls
  have hinners := inners_of_callOf? hcall
  obtain ⟨x, hx, hturned⟩ := h.exists_turned (hr t hinners ht) hinners
  obtain ⟨callee', arg', hcall', hparts⟩ := hturned.call hcall
  have hname' := inners_of_nameOf? hname
  obtain ⟨y, hy, hturnedName⟩ := h.exists_turned ((hparts c hname').1 hc) hname'
  obtain ⟨z, hz, hturnedText⟩ :=
    h.exists_turned ((hparts a (htarget a htext)).2 ha) (htarget a htext)
  exact ⟨x, callee', arg', hx, hcall', ⟨y, hy, hturnedName.name hname⟩, z, hz,
    hturnedText.text htext⟩

/-! ## Visitors -/

/-- What computations of a monad may give, whatever they are run with. -/
structure Outcomes (m : Type → Type) [Monad m] where
  Gives : {α : Type} → m α → α → Prop
  pure {α : Type} {a b : α} (h : Gives (pure a) b) : b = a
  bind {α β : Type} {p : m α} {f : α → m β} {b : β} (h : Gives (p >>= f) b) :
    ∃ a, Gives p a ∧ Gives (f a) b

section
variable {m : Type → Type} [Monad m] (o : Outcomes m) (v : Visitor m)

theorem Outcomes.cons {α : Type} {p : m α} {ps : m (List α)} {as : List α}
    (h : o.Gives (do let a ← p; return a :: (← ps)) as) :
    ∃ a rest, as = a :: rest ∧ o.Gives p a ∧ o.Gives ps rest := by
  obtain ⟨a, ha, h⟩ := o.bind h
  obtain ⟨rest, hrest, h⟩ := o.bind h
  exact ⟨a, rest, o.pure h, ha, hrest⟩

theorem Outcomes.exists_of_mem {α : Type} {f : α → m α} {g : List α → m (List α)}
    (hnil : g [] = return [])
    (hcons : ∀ a as, g (a :: as) = do let b ← f a; return b :: (← g as))
    {as bs : List α} (h : o.Gives (g as) bs) {b : α} (hb : b ∈ bs) :
    ∃ a ∈ as, o.Gives (f a) b := by
  induction as generalizing bs with
  | nil =>
      obtain rfl := o.pure (hnil ▸ h)
      exact absurd hb List.not_mem_nil
  | cons a as ih =>
      obtain ⟨c, rest, rfl, hc, hrest⟩ := o.cons (hcons a as ▸ h)
      rcases List.mem_cons.mp hb with rfl | hb
      · exact ⟨a, List.mem_cons_self, hc⟩
      · obtain ⟨x, hx, hxb⟩ := ih hrest hb
        exact ⟨x, List.mem_cons_of_mem _ hx, hxb⟩

structure Rebuilt (e r : Expr) : Prop where
  inner : ∀ y ∈ inners r, ∃ x ∈ inners e, o.Gives (x.visit v) y
  name {n} (h : nameOf? r = some n) :
    ∃ id id', e = .ident id ∧ o.Gives (v.ref id) id' ∧ id'.name = n
  text : textOf? r = textOf? e
  member : isMember r = isMember e
  call {callee arg} (h : callOf? r = some (callee, arg)) :
    ∃ callee' arg', callOf? e = some (callee', arg') ∧ o.Gives (callee'.visit v) callee ∧
      o.Gives (arg'.visit v) arg

theorem visit_eq (e : Expr) :
    ∃ go, e.visit v = v.expr e go ∧ ∀ r, o.Gives go r → Rebuilt o v e r := by
  cases e with
  | paren | asType | asConst | satisfies | typeAssertion | constAssertion | nonNull
  | instantiation =>
      refine ⟨_, rfl, fun r h => ?_⟩
      obtain ⟨x, hx, h⟩ := o.bind h
      obtain rfl := o.pure h
      exact ⟨fun y hy => ⟨_, List.mem_singleton_self _, List.mem_singleton.mp hy ▸ hx⟩,
        nofun, rfl, rfl, nofun⟩
  | ident id =>
      refine ⟨_, rfl, fun r h => ?_⟩
      obtain ⟨id', hid, h⟩ := o.bind h
      obtain rfl := o.pure h
      refine ⟨nofun, ?_, rfl, rfl, nofun⟩
      rintro n hn
      exact ⟨id, id', rfl, hid, Option.some.inj hn⟩
  | seq s es =>
      refine ⟨_, rfl, fun r h => ?_⟩
      obtain ⟨es', hes, h⟩ := o.bind h
      obtain rfl := o.pure h
      exact ⟨fun y hy => o.exists_of_mem (g := Expr.visitList v) rfl (fun _ _ => rfl) hes hy, nofun, rfl, rfl, nofun⟩
  | unary s op arg =>
      refine ⟨_, rfl, fun r h => ?_⟩
      obtain ⟨x, hx, h⟩ := o.bind h
      obtain rfl := o.pure h
      refine ⟨fun y hy => ?_, nofun, rfl, rfl, nofun⟩
      cases op with
      | void => exact ⟨_, List.mem_singleton_self _, List.mem_singleton.mp hy ▸ hx⟩
      | _ => cases hy
  | call s callee ts args =>
      refine ⟨_, rfl, fun r h => ?_⟩
      obtain ⟨callee', hcallee, h⟩ := o.bind h
      obtain ⟨args', hargs, h⟩ := o.bind h
      obtain rfl := o.pure h
      refine ⟨nofun, nofun, rfl, rfl, ?_⟩
      rintro c a hcall
      cases args with
      | nil =>
          obtain rfl := o.pure hargs
          cases hcall
      | cons arg args =>
          obtain ⟨arg', args', rfl, harg, -⟩ := o.cons hargs
          cases hcall
          exact ⟨callee, arg, rfl, hcallee, harg⟩
  | _ =>
      refine ⟨_, rfl, fun r h => ?_⟩
      repeat obtain ⟨_, _, h⟩ := o.bind h
      obtain rfl := o.pure h
      exact ⟨nofun, nofun, rfl, rfl, nofun⟩

def LeftOf (e r : Expr) : Prop := ∃ e', o.Gives (e.visit v) e' ∧ Unwraps e' r

variable {o v}

theorem Rebuilt.turned {Source Target : Expr → Prop} {e r : Expr} (h : Rebuilt o v e r)
    (href : ∀ id id', o.Gives (v.ref id) id' → id'.name = id.name)
    (htext : Target r → Source e) : Turned Source Target (LeftOf o v) e r where
  name {n} hn := by
    obtain ⟨id, id', rfl, hid, rfl⟩ := h.name hn
    exact congrArg some (href id id' hid).symm
  text := htext
  call {callee arg} hcall := by
    obtain ⟨callee', arg', hcall', hcallee, harg⟩ := h.call hcall
    exact ⟨callee', arg', hcall', fun t _ =>
      ⟨fun ht => ⟨callee, hcallee, ht⟩, fun ht => ⟨arg, harg, ht⟩⟩⟩

structure Alike (e r : Expr) : Prop where
  inners : inners r = inners e
  name : nameOf? r = nameOf? e
  text : textOf? r = textOf? e
  member : isMember r = isMember e
  call : callOf? r = callOf? e

theorem Rebuilt.alike {e r r' : Expr} (h : Rebuilt o v e r) (halike : Alike r r') :
    Rebuilt o v e r' where
  inner y hy := h.inner y (halike.inners ▸ hy)
  name hn := h.name (halike.name ▸ hn)
  text := halike.text.trans h.text
  member := halike.member.trans h.member
  call hcall := h.call (halike.call ▸ hcall)

theorem Rebuilt.leftOf {Source Target : Expr → Prop} {e e' r : Expr} (h : Rebuilt o v e e')
    (hr : Unwraps e' r) (href : ∀ id id', o.Gives (v.ref id) id' → id'.name = id.name)
    (htext : Target e' → Source e) :
    (∃ x ∈ inners e, LeftOf o v x r) ∨ Turned Source Target (LeftOf o v) e r := by
  cases hr with
  | refl => exact .inr (h.turned href htext)
  | inner hy hr =>
      obtain ⟨x, hx, hxy⟩ := h.inner _ hy
      exact .inl ⟨x, hx, _, hxy, hr⟩

theorem Rebuilt.mayBeText {e r : Expr} (h : Rebuilt o v e r) {text : String}
    (htext : MayBeText text r) : MayBeText text e := by
  rwa [MayBeText, h.text, h.member] at htext

end

/-! ## Scopes -/

def scopedOutcomes : Outcomes Scoped where
  Gives p a := ∃ scopes, p.run scopes = a
  pure := by
    rintro α a b ⟨scopes, rfl⟩
    rfl
  bind := by
    rintro α β p f b ⟨scopes, rfl⟩
    exact ⟨p.run scopes, ⟨scopes, rfl⟩, scopes, rfl⟩

theorem passes_scopes (text : String) :
    Passes (MayBeText text) (MayBeText text) (LeftOf scopedOutcomes Scope.visitor) := by
  rintro e r ⟨e', he, hr⟩ hinners
  obtain ⟨go, hvisit, hgo⟩ := visit_eq scopedOutcomes Scope.visitor e
  have hrebuilt : Rebuilt scopedOutcomes Scope.visitor e e' := by
    rw [hvisit] at he
    obtain ⟨scopes, he⟩ := he
    refine hgo e' ?_
    change (Scope.expr e go).run scopes = e' at he
    unfold Scope.expr at he
    split at he
    · exact ⟨_, he⟩
    · exact ⟨_, he⟩
    · exact ⟨_, he⟩
    · exact ⟨_, he⟩
  refine hrebuilt.leftOf hr ?_ hrebuilt.mayBeText
  rintro id id' ⟨scopes, rfl⟩
  rfl

/-! ## Types -/

def plainOutcomes : Outcomes Id where
  Gives p a := Id.run p = a
  pure := by
    rintro α a b rfl
    rfl
  bind := by
    rintro α β p f b rfl
    exact ⟨Id.run p, rfl, rfl⟩

theorem untyped_expr (e go : Expr) :
    Id.run (Untyped.expr e go) ∈ inners go ∨ Alike go (Id.run (Untyped.expr e go)) := by
  unfold Untyped.expr
  split
  case h_9 s callee ts args => cases args <;> exact .inr ⟨rfl, rfl, rfl, rfl, rfl⟩
  all_goals first
  | exact .inl (List.mem_singleton_self _)
  | exact .inr ⟨rfl, rfl, rfl, rfl, rfl⟩

theorem passes_types (text : String) :
    Passes (MayBeText text) (MayBeText text) (LeftOf plainOutcomes Untyped.visitor) := by
  rintro e r ⟨e', he, hr⟩ hinners
  obtain ⟨go, hvisit, hgo⟩ := visit_eq plainOutcomes Untyped.visitor e
  rw [hvisit] at he
  have hrebuilt : Rebuilt plainOutcomes Untyped.visitor e go := hgo go rfl
  have he' : Id.run (Untyped.expr e go) = e' := he
  have hexpr := untyped_expr e go
  rw [he'] at hexpr
  rcases hexpr with hmem | halike
  · obtain ⟨x, hx, hxe⟩ := hrebuilt.inner e' hmem
    exact .inl ⟨x, hx, e', hxe, hr⟩
  · have hrebuilt' := hrebuilt.alike halike
    refine hrebuilt'.leftOf hr ?_ hrebuilt'.mayBeText
    rintro id id' rfl
    rfl

/-! ## Enums and namespaces -/

def loweringOutcomes : Outcomes Lowering where
  Gives p a := ∃ c s, ((p.run c).run s).1 = a
  pure := by
    rintro α a b ⟨c, s, rfl⟩
    rfl
  bind := by
    rintro α β p f b ⟨c, s, rfl⟩
    exact ⟨((p.run c).run s).1, ⟨c, s, rfl⟩, c, ((p.run c).run s).2, rfl⟩

theorem lowering_expr {e r : Expr} {go : Lowering Expr} {c : Surroundings} {s : Progress}
    (h : (((Lowering.expr e go).run c).run s).1 = r) :
    loweringOutcomes.Gives go r ∨ (∃ id, e = .ident id ∧ r = (c.access? id).getD e) ∨
      c.constant? e = some r := by
  cases e with
  | ident id => exact .inr (.inl ⟨id, rfl, h.symm⟩)
  | update => exact .inl ⟨_, _, h⟩
  | _ =>
      change (((Lowering.expr _ go).run c).run s).1 = r at h
      rw [LoweredItems.expr_run c s (by simp) (by simp)] at h
      split at h
      · exact .inl ⟨_, _, h⟩
      · cases hv : c.constant? _ with
        | some v =>
            rw [hv] at h
            exact .inr (.inr (congrArg some h))
        | none =>
            rw [hv] at h
            exact .inl ⟨_, _, h⟩

theorem passes_lowering (text : String) :
    Passes (MayBeText text) (IsText text) (LeftOf loweringOutcomes Lowering.visitor) := by
  rintro e r ⟨e', he, hr⟩ hinners
  obtain ⟨go, hvisit, hgo⟩ := visit_eq loweringOutcomes Lowering.visitor e
  rw [hvisit] at he
  obtain ⟨c, s, he⟩ := he
  have href (id id' : Ident) (h : loweringOutcomes.Gives (Lowering.visitor.ref id) id') :
      id'.name = id.name := by
    obtain ⟨c, s, rfl⟩ := h
    rfl
  rcases lowering_expr he with h | ⟨id, rfl, rfl⟩ | hconstant
  · exact (hgo e' h).leftOf hr href fun htext => (hgo e' h).mayBeText (.inl htext)
  · cases haccess : c.access? id with
    | none =>
        rw [haccess] at hr
        obtain rfl := hr.eq_of_inners rfl
        exact .inr ⟨fun hn => hn, nofun, nofun⟩
    | some e =>
        rw [haccess] at hr
        obtain ⟨_, _, _, rfl⟩ := access?_eq_some haccess
        obtain rfl := hr.eq_of_inners rfl
        exact .inr ⟨nofun, nofun, nofun⟩
  · obtain ⟨⟨_, _, _, rfl⟩, ⟨lit, rfl⟩ | ⟨_, _, _, rfl⟩⟩ := constant?_eq_some hconstant
    · obtain rfl := hr.eq_of_inners rfl
      exact .inr ⟨nofun, fun _ => .inr rfl, nofun⟩
    · obtain rfl := hr.eq_of_inners rfl
      exact .inr ⟨nofun, nofun, nofun⟩

/-! ## Parentheses -/

/-- What is left of `x` may be left of `e`. -/
def Leaves (e x : Expr) : Prop := ∀ r, inners r = [] → Unwraps x r → Unwraps e r

theorem Leaves.refl (e : Expr) : Leaves e e := fun _ _ h => h

theorem Leaves.inner {e x y : Expr} (hx : x ∈ inners e) (h : Leaves x y) : Leaves e y :=
  fun r hr hy => .inner hx (h r hr hy)

theorem wrapped_leaves (e : Expr) (ds : Dropped) : Leaves e (e.wrapped.run ds).1 := by
  intro r hr h
  have hparen : ∃ s, (e.wrapped.run ds).1 = .paren s e := by
    unfold Expr.wrapped
    have hget : (get : Trim Dropped).run ds = pure (ds, ds) := rfl
    rw [StateT.run_bind, hget, pure_bind]
    split
    · exact ⟨_, rfl⟩
    · exact ⟨_, rfl⟩
  obtain ⟨s, hs⟩ := hparen
  rw [hs] at h
  obtain ⟨x, hx, hxr⟩ := h.exists_inner (List.cons_ne_nil _ _) hr
  obtain rfl := List.mem_singleton.mp hx
  exact hxr

theorem wrappedIf_leaves (b : Bool) (e : Expr) (ds : Dropped) :
    Leaves e ((e.wrappedIf b).run ds).1 := by
  cases b with
  | false => exact .refl e
  | true => exact wrapped_leaves e ds

theorem leaves_seq {e : Expr} {s : Span} {es : List Expr} (hes : es ≠ [])
    (h : ∀ x ∈ es, Leaves e x) : Leaves e (.seq s es) := by
  intro r hr hseq
  obtain ⟨x, hx, hxr⟩ := hseq.exists_inner hes hr
  exact h x hx r hr hxr

theorem effect?_of_other {e x : Expr} {kept : Bool}
    (h : (if e.isInert then (if kept then none else some e, true) else (some e, kept)).1 = some x) :
    Leaves e x := by
  split at h
  · split at h
    · cases h
    · cases h
      exact .refl e
  · cases h
    exact .refl e

mutual

theorem effect?_leaves (e : Expr) (kept : Bool) {x : Expr} (h : (e.effect? kept).1 = some x) :
    Leaves e x := by
  cases e with
  | unary s op arg =>
      cases op with
      | void => exact (effect?_leaves arg kept h).inner (List.mem_singleton_self _)
      | _ => exact effect?_of_other h
  | seq s es =>
      have hall (y : Expr) (hy : y ∈ (Expr.effects kept es).1) : Leaves (.seq s es) y := by
        obtain ⟨z, hz, hzy⟩ := effects_leaves es kept hy
        exact hzy.inner hz
      rw [Expr.effect?] at h
      revert h hall
      generalize Expr.effects kept es = p
      obtain ⟨left, kept'⟩ := p
      intro h hall
      match left, h with
      | [y], h =>
          cases h
          exact hall _ (List.mem_singleton_self _)
      | y :: z :: rest, h =>
          cases h
          exact leaves_seq (List.cons_ne_nil _ _) hall
  | _ => exact effect?_of_other h

theorem effects_leaves (es : List Expr) (kept : Bool) {x : Expr} (h : x ∈ (Expr.effects kept es).1) :
    ∃ e ∈ es, Leaves e x := by
  match es with
  | [] => exact absurd h List.not_mem_nil
  | [e] =>
      obtain rfl := List.mem_singleton.mp h
      exact ⟨x, h, .refl x⟩
  | e :: e' :: es =>
      rw [Expr.effects] at h
      · rcases List.mem_append.mp h with h | h
        · exact ⟨e, List.mem_cons_self, effect?_leaves e kept (Option.mem_toList.mp h)⟩
        · obtain ⟨y, hy, hyx⟩ := effects_leaves (e' :: es) _ h
          exact ⟨y, List.mem_cons_of_mem _ hy, hyx⟩
      · nofun

end

theorem allEffects_leaves (es : List Expr) (kept : Bool) {x : Expr}
    (h : x ∈ (Expr.allEffects kept es).1) : ∃ e ∈ es, Leaves e x := by
  induction es generalizing kept with
  | nil => exact absurd h List.not_mem_nil
  | cons e es ih =>
      rcases List.mem_append.mp h with h | h
      · exact ⟨e, List.mem_cons_self, effect?_leaves e kept (Option.mem_toList.mp h)⟩
      · obtain ⟨y, hy, hyx⟩ := ih _ h
        exact ⟨y, List.mem_cons_of_mem _ hy, hyx⟩

theorem flatEffects_leaves (es : List Expr) (kept : Bool) {x : Expr}
    (h : x ∈ Expr.flatEffects kept es) : ∃ e ∈ es, Leaves e x := by
  fun_induction Expr.flatEffects kept es with
  | case1 => exact absurd h List.not_mem_nil
  | case2 kept s es =>
      obtain ⟨y, hy, hyx⟩ := effects_leaves es kept h
      exact ⟨_, List.mem_singleton_self _, hyx.inner hy⟩
  | case3 kept e =>
      obtain rfl := List.mem_singleton.mp h
      exact ⟨x, h, .refl x⟩
  | case4 kept s es rest _ first kept' hfirst ih =>
      rcases List.mem_append.mp h with h | h
      · obtain ⟨y, hy, hyx⟩ := allEffects_leaves es kept (by simpa [hfirst] using h)
        exact ⟨.seq s es, List.mem_cons_self, hyx.inner hy⟩
      · obtain ⟨y, hy, hyx⟩ := ih h
        exact ⟨y, List.mem_cons_of_mem _ hy, hyx⟩
  | case5 kept e rest _ _ _ first kept' hfirst ih =>
      rcases List.mem_append.mp h with h | h
      · refine ⟨e, List.mem_cons_self, effect?_leaves e kept ?_⟩
        simpa [hfirst] using h
      · obtain ⟨y, hy, hyx⟩ := ih h
        exact ⟨y, List.mem_cons_of_mem _ hy, hyx⟩

theorem mem_of_mem_withoutInert {es : List Expr} {x : Expr} (h : x ∈ Expr.withoutInert es) :
    x ∈ es := by
  unfold Expr.withoutInert at h
  split at h
  · rcases List.mem_append.mp h with h | h
    · exact List.dropLast_subset es (List.mem_of_mem_filter h)
    · exact List.mem_of_getLast? (Option.mem_toList.mp h)
  · exact h

theorem sequence_leaves {es : List Expr} (c : Setting) (s : Span) (r : Expr)
    (hr : inners r = []) (h : Unwraps (Expr.sequence c s es) r) :
    r = .seq s [] ∨ ∃ e ∈ es, Unwraps e r := by
  have hflat (x : Expr) (hx : x ∈ Expr.flatEffects false es) (hxr : Unwraps x r) :
      ∃ e ∈ es, Unwraps e r := by
    obtain ⟨e, he, hleaves⟩ := flatEffects_leaves es false hx
    exact ⟨e, he, hleaves r hr hxr⟩
  unfold Expr.sequence at h
  split at h
  · rename_i x hx
    exact .inr (hflat x (by simp [hx]) h)
  · have hseq : Unwraps (.seq s (Expr.withoutInert (Expr.flatEffects false es))) r := by
      dsimp only at h
      split at h
      · obtain ⟨x, hx, hxr⟩ := h.exists_inner (List.cons_ne_nil _ _) hr
        obtain rfl := List.mem_singleton.mp hx
        exact hxr
      · exact h
    cases hseq with
    | refl =>
        left
        exact congrArg (Expr.seq s) hr
    | inner hx hxr => exact .inr (hflat _ (mem_of_mem_withoutInert hx) hxr)

def Trims (e r : Expr) : Prop :=
  Unwraps e r ∨ ∃ c parens ds, Unwraps ((e.trim c parens).run ds).1 r

theorem exists_of_mem_trimList {c : Setting} {es : List Expr} {ds : Dropped} {y : Expr}
    (h : y ∈ ((Expr.trimList c es).run ds).1) : ∃ x ∈ es, ∃ ds, y = ((x.trim c []).run ds).1 := by
  induction es generalizing ds with
  | nil => exact absurd h List.not_mem_nil
  | cons e es ih =>
      rcases List.mem_cons.mp h with rfl | h
      · exact ⟨e, List.mem_cons_self, ds, rfl⟩
      · obtain ⟨x, hx, hxy⟩ := ih h
        exact ⟨x, List.mem_cons_of_mem _ hx, hxy⟩

theorem exists_of_mem_trimElements {c : Setting} {es : List Expr} {ds : Dropped} {y : Expr}
    (h : y ∈ ((Expr.trimElements c es).run ds).1) :
    ∃ x ∈ es, ∃ c ds, y = ((x.trim c []).run ds).1 := by
  cases es with
  | nil => exact absurd h List.not_mem_nil
  | cons e es =>
      rcases List.mem_cons.mp h with rfl | h
      · exact ⟨e, List.mem_cons_self, c, ds, rfl⟩
      · obtain ⟨x, hx, ds, hxy⟩ := exists_of_mem_trimList h
        exact ⟨x, List.mem_cons_of_mem _ hx, _, ds, hxy⟩

theorem settled_binary {c : Setting} {s : Span} {op : BinaryOp} {left right r : Expr}
    {ds : Dropped} (h : Unwraps ((Expr.settled c (.binary s op left right)).run ds).1 r)
    (hr : inners r = []) : ∃ left', r = .binary s op left' right := by
  unfold Expr.settled at h
  dsimp only at h
  split at h
  · exact ⟨left, (wrapped_leaves _ ds r hr h).eq_of_inners rfl⟩
  · exact ⟨_, h.eq_of_inners rfl⟩

theorem settled_cond {c : Setting} {s : Span} {test yes no r : Expr} {ds : Dropped}
    (h : Unwraps ((Expr.settled c (.cond s test yes no)).run ds).1 r) (hr : inners r = []) :
    ∃ test' yes' no', r = .cond s test' yes' no' :=
  ⟨_, _, _, (wrappedIf_leaves _ _ _ r hr h).eq_of_inners rfl⟩

theorem passes_trim (text : String) : Passes (IsText text) (IsText text) Trims := by
  rintro e r (h | ⟨c, parens, ds, h⟩) hr
  · cases h with
    | refl =>
        exact .inr ⟨id, id, fun hcall => ⟨_, _, hcall, fun t _ => ⟨.inl, .inl⟩⟩⟩
    | inner hx h => exact .inl ⟨_, hx, .inl h⟩
  · cases e with
    | paren s e => exact .inl ⟨e, List.mem_singleton_self e, .inr ⟨_, _, _, h⟩⟩
    | asType | asConst | satisfies | typeAssertion | constAssertion | nonNull | instantiation =>
        obtain ⟨x, hx, hxr⟩ := h.exists_inner (List.cons_ne_nil _ _) hr
        exact .inl ⟨x, hx, .inl hxr⟩
    | unary s op arg =>
        cases op with
        | void =>
            obtain ⟨x, hx, hxr⟩ := h.exists_inner (List.cons_ne_nil _ _) hr
            obtain rfl := List.mem_singleton.mp hx
            exact .inl ⟨arg, List.mem_singleton_self arg,
              .inr ⟨_, _, _, wrappedIf_leaves _ _ _ r hr hxr⟩⟩
        | _ =>
            obtain rfl := h.eq_of_inners rfl
            exact .inr ⟨nofun, nofun, nofun⟩
    | seq s es =>
        rcases sequence_leaves c s r hr h with rfl | ⟨x, hx, hxr⟩
        · exact .inr ⟨nofun, nofun, nofun⟩
        · obtain ⟨y, hy, c', ds', rfl⟩ := exists_of_mem_trimElements hx
          exact .inl ⟨y, hy, .inr ⟨_, _, _, hxr⟩⟩
    | binary s op left right =>
        obtain ⟨left', rfl⟩ := settled_binary h hr
        exact .inr ⟨nofun, nofun, nofun⟩
    | cond s test yes no =>
        obtain ⟨test', yes', no', rfl⟩ := settled_cond h hr
        exact .inr ⟨nofun, nofun, nofun⟩
    | call s callee ts args =>
        obtain rfl := h.eq_of_inners rfl
        refine .inr ⟨nofun, nofun, ?_⟩
        intro callee' arg' hcall
        cases args with
        | nil => cases hcall
        | cons arg args =>
            cases hcall
            exact ⟨callee, arg, rfl, fun t ht =>
              ⟨fun h => .inr ⟨_, _, _, wrappedIf_leaves _ _ _ t ht h⟩, fun h => .inr ⟨_, _, _, h⟩⟩⟩
    | _ =>
        obtain rfl := h.eq_of_inners rfl
        exact .inr ⟨id, id, nofun⟩

end Unbundled.Proofs.Unwrapping
