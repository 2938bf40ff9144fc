import Unbundled.Erasure.Lowering

namespace Unbundled.Proofs.LoweredItems

open Erasure Script

variable (c : Surroundings) (p : Progress)

theorem expr_run {e : Expr} (hident : ∀ id, e ≠ .ident id)
    (hupdate : ∀ s increment before arg, e ≠ .update s increment before arg) (go : Lowering Expr) :
    ((Lowering.expr e go).run c).run p =
      (if c.isTarget then none else c.constant? e).elim
        (((Lowering.withTarget (c.isTarget && Lowering.isParen e) go).run c).run p)
        fun v => (v, p) := by
  have hread : (read : Lowering Surroundings).run c = pure c := rfl
  rw [Lowering.expr, ReaderT.run_bind, hread, pure_bind]
  split
  · exact absurd rfl (hident _)
  · exact absurd rfl (hupdate _ _ _ _)
  · split
    · rename_i v hv
      rw [hv]
      rfl
    · rename_i hv
      rw [hv]
      rfl

def objectVar (id : Ident) (exported : Bool) : Stmt :=
  let kind := if id.scope = Scope.moduleNumber then .var else .let
  let decl := oneVar kind .absent (plainIdent id.name) none
  if exported && c.owner.isNone then .exportDecl .absent decl else decl

def objectVars (id : Ident) (exported : Bool) : List Stmt :=
  if p.declared.contains (keyOf id) then [] else [objectVar c id exported]

def noted (id : Ident) : Progress := { p with declared := keyOf id :: p.declared }

def opens? : Stmt → Option (Ident × Bool)
  | .enum _ id .. | .namespace _ id _ (some _) => some (id, false)
  | .exportDecl _ (.enum _ id ..) | .exportDecl _ (.namespace _ id _ (some _)) => some (id, true)
  | _ => none

inductive Opens : Stmt → Ident → Bool → Prop
  | enum (s id ambient isConst members) : Opens (.enum s id ambient isConst members) id false
  | namespace (s id ambient body) : Opens (.namespace s id ambient (some body)) id false
  | exportedEnum (s s' id ambient isConst members) :
      Opens (.exportDecl s (.enum s' id ambient isConst members)) id true
  | exportedNamespace (s s' id ambient body) :
      Opens (.exportDecl s (.namespace s' id ambient (some body))) id true

theorem opens?_eq_some {s : Stmt} {id : Ident} {exported : Bool} :
    opens? s = some (id, exported) ↔ Opens s id exported := by
  constructor
  · intro h
    unfold opens? at h
    split at h
    · cases h
      exact .enum ..
    · cases h
      exact .namespace ..
    · cases h
      exact .exportedEnum ..
    · cases h
      exact .exportedNamespace ..
    · cases h
  · intro h
    cases h with
    | enum | «namespace» | exportedEnum | exportedNamespace => rfl

def names? : Stmt → Option Ident
  | .func id .. | .cls id .. | .exportDecl _ (.func id ..) | .exportDecl _ (.cls id ..)
  | .exportDefaultDecl _ (.func (some id) _) | .exportDefaultDecl _ (.cls (some id) _) => some id
  | _ => none

/-- What lowering makes of an item, and the progress behind it. -/
inductive LowersTo : Stmt → List Stmt × Progress → Prop
  | object {s id exported} (fills : List (Span × Expr)) (h : opens? s = some (id, exported)) :
      LowersTo s (objectVars c p id exported ++ fills.map fun f => .expr f.1 f.2, noted p id)
  | named {s id} (h : opens? s = none) (hname : names? s = some id) :
      LowersTo s ([s], noted p id)
  | other {s} (h : opens? s = none) (hname : names? s = none) : LowersTo s ([s], p)

theorem declaration_run (id : Ident) (exported : Bool) :
    ((Lowering.declaration id exported).run c).run p =
      (objectVars c p id exported, noted p id) := by
  let decl := oneVar (if id.scope = Scope.moduleNumber then .var else .let) .absent
    (plainIdent id.name) none
  have hrun : ((Lowering.declaration id exported).run c).run p =
      ((if !p.declared.contains (keyOf id) then do
          return [if exported && (← read).owner.isNone then .exportDecl .absent decl else decl]
        else pure [] : Lowering (List Stmt)).run c).run (noted p id) := rfl
  rw [hrun, objectVars]
  cases p.declared.contains (keyOf id) <;> rfl

theorem lowerEnum_run (exported : Bool) (s : Span) (id : Ident) (isConst : Bool)
    (members : List Member) :
    ∃ fills : List (Span × Expr),
      ((Lowering.lowerEnum exported s id isConst members).run c).run p =
        (objectVars c p id exported ++ fills.map fun f => .expr f.1 f.2, noted p id) := by
  let lines := Lowering.memberLines c id
    (isConst && !exported && !c.exports.any (·.key = keyOf id)) members
  let decl := ((Lowering.declaration id exported).run c).run p
  have hdecl : decl = (objectVars c p id exported, noted p id) := declaration_run c p id exported
  have hrun : ((Lowering.lowerEnum exported s id isConst members).run c).run p =
      ((if lines.isEmpty && isConst then pure decl.1
        else pure (decl.1 ++ [fill s id.name ⟨.absent, lines⟩
          (filledObject (if exported then c.owner else none) id.name)]) :
        Lowering (List Stmt)).run c).run decl.2 := rfl
  rw [hrun, hdecl]
  split
  · exact ⟨[], by rw [List.map_nil, List.append_nil]; rfl⟩
  · exact ⟨[(_, _)], rfl⟩

theorem lowerNamespace_run (exported : Bool) (s : Span) (id : Ident) (body : Stmt) :
    ∃ fills : List (Span × Expr),
      ((Lowering.lowerNamespace exported s id body).run c).run p =
        (objectVars c p id exported ++ fills.map fun f => .expr f.1 f.2, noted p id) := by
  let decl := ((Lowering.declaration id exported).run c).run p
  have hdecl : decl = (objectVars c p id exported, noted p id) := declaration_run c p id exported
  have hrun : ((Lowering.lowerNamespace exported s id body).run c).run p =
      (decl.1 ++ [fill s id.name (Lowering.namespaceBody c id.name body)
        (filledObject (if exported then c.owner else none) id.name)], decl.2) := rfl
  rw [hrun, hdecl]
  exact ⟨[(_, _)], rfl⟩

theorem item_lowersTo (s : Stmt) : LowersTo c p s (((Lowering.item s).run c).run p) := by
  unfold Lowering.item
  split
  · rename_i s id ambient isConst members
    obtain ⟨fills, hfills⟩ := lowerEnum_run c p false s id isConst members
    rw [hfills]
    exact .object fills rfl
  · rename_i _ s id ambient isConst members
    obtain ⟨fills, hfills⟩ := lowerEnum_run c p true s id isConst members
    rw [hfills]
    exact .object fills rfl
  · rename_i s id ambient body
    obtain ⟨fills, hfills⟩ := lowerNamespace_run c p false s id body
    rw [hfills]
    exact .object fills rfl
  · rename_i _ s id ambient body
    obtain ⟨fills, hfills⟩ := lowerNamespace_run c p true s id body
    rw [hfills]
    exact .object fills rfl
  · exact .named rfl rfl
  · exact .named rfl rfl
  · exact .named rfl rfl
  · exact .named rfl rfl
  · exact .named rfl rfl
  · exact .named rfl rfl
  · refine .other ?_ ?_
    · unfold opens?
      split <;> grind
    · unfold names?
      split <;> grind

/-- What is made of an item that is there for an enum or a namespace in it. -/
inductive MadeFor (s : Stmt) : Stmt → Prop
  | object {id exported} (c : Surroundings) (h : opens? s = some (id, exported)) :
      MadeFor s (objectVar c id exported)
  | fill (span : Span) (e : Expr) : MadeFor s (.expr span e)

theorem mem_item {c : Surroundings} {p : Progress} {s x : Stmt}
    (h : x ∈ (((Lowering.item s).run c).run p).1) : x = s ∨ MadeFor s x := by
  have hlowers := item_lowersTo c p s
  generalize ((Lowering.item s).run c).run p = r at hlowers h
  cases hlowers with
  | @object id exported fills hopens =>
      rcases List.mem_append.mp h with h | h
      · unfold objectVars at h
        split at h
        · cases h
        · obtain rfl := List.mem_singleton.mp h
          exact .inr (.object c hopens)
      · obtain ⟨f, -, rfl⟩ := List.mem_map.mp h
        exact .inr (.fill f.1 f.2)
  | named | other => exact .inl (List.mem_singleton.mp h)

theorem exists_of_mem_itemList {c : Surroundings} {p : Progress} {ss : List Stmt} {x : Stmt}
    (h : x ∈ (((Lowering.itemList ss).run c).run p).1) : ∃ s ∈ ss, x = s ∨ MadeFor s x := by
  induction ss generalizing p with
  | nil => cases h
  | cons s ss ih =>
      rcases List.mem_append.mp h with h | h
      · exact ⟨s, List.mem_cons_self, mem_item h⟩
      · obtain ⟨s', hs', h⟩ := ih h
        exact ⟨s', List.mem_cons_of_mem _ hs', h⟩

def heldVars (held : List Ident) : List Stmt :=
  if held.isEmpty then []
  else [.var .absent .var false (held.map fun id => ⟨.absent, .ident id none, false, none⟩)]

theorem heldVars_eq (held : List Ident) :
    heldVars held = [] ∨ ∃ decls, heldVars held = [.var .absent .var false decls] ∧
      ∀ d ∈ decls, d.init = none := by
  unfold heldVars
  split
  · exact .inl rfl
  · refine .inr ⟨_, rfl, fun d hd => ?_⟩
    obtain ⟨id, -, rfl⟩ := List.mem_map.mp hd
    rfl

theorem run_lowering (items : List Stmt) :
    let visited := ((Stmt.visitList Lowering.visitor items).run c).run { p with held := [] }
    let all := ((Lowering.itemList visited.1).run c).run visited.2
    (((Lowering.visitor.run items).run c).run p).1 = heldVars all.2.held ++ all.1 := by
  intro visited all
  let decls := all.2.held.map fun id => (⟨.absent, .ident id none, false, none⟩ : Declarator)
  have hrun : ((Lowering.visitor.run items).run c).run p =
      ((if all.2.held.isEmpty then pure all.1
        else pure (.var .absent .var false decls :: all.1) :
        Lowering (List Stmt)).run c).run { all.2 with held := p.held } := rfl
  rw [hrun, heldVars]
  split <;> rfl

theorem exportAssignment?_eq_some {item s : Stmt} (h : exportAssignment? item = some s) :
    ∃ span e, s = .expr span e := by
  cases item with
  | exportAssign span e =>
      cases h
      exact ⟨_, _, rfl⟩
  | _ => cases h

theorem keepingModule_eq (before items : List Stmt) :
    keepingModule before items = items ∨
      ∃ span, keepingModule before items = items ++ [.exportNamed span false [] none none] := by
  unfold keepingModule
  split
  · exact .inl rfl
  · split
    · exact .inl rfl
    · exact .inr ⟨_, rfl⟩

end Unbundled.Proofs.LoweredItems
