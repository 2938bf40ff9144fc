import Unbundled.Config.File

namespace Unbundled.Proofs.ScriptSettings

open Config Script

/-- Of the items that export something as a whole, the last one exports `e`. -/
def Exports (m : Module) (e : Expr) : Prop :=
  ∃ before item after, m.items = before ++ item :: after ∧ exported? item = some e ∧
    ∀ s ∈ after, exported? s = none

theorem Exports.findSome? {m : Module} {e : Expr} (h : Exports m e) :
    m.items.reverse.findSome? exported? = some e := by
  obtain ⟨before, item, after, hitems, hitem, hafter⟩ := h
  have hnone : after.reverse.findSome? exported? = none :=
    List.findSome?_eq_none_iff.mpr fun s hs => hafter s (List.mem_reverse.mp hs)
  rw [hitems, List.reverse_append, List.reverse_cons, List.append_assoc, List.findSome?_append,
    hnone, Option.none_or, List.singleton_append, List.findSome?_cons_of_isSome (by rw [hitem]; rfl)]
  exact hitem

def onlyExport? (path source : String) : Option Expr := do
  let m ← (readSource path source).toOption
  let item ← m.items.head?
  if m.items.length = 1 then exported? item else none

theorem exports_of_any_onlyExport? {path source : String} {p : Expr → Bool}
    (h : (onlyExport? path source).any p = true) :
    ∃ m e, readSource path source = .ok m ∧ Exports m e ∧ p e = true := by
  obtain ⟨e, hexport, hp⟩ := (Option.any_eq_true _ _).mp h
  obtain ⟨m, hm, hexport⟩ := Option.bind_eq_some_iff.mp hexport
  obtain ⟨item, hitem, hexport⟩ := Option.bind_eq_some_iff.mp hexport
  split at hexport
  · rename_i hlength
    obtain ⟨item', hitems⟩ := List.length_eq_one_iff.mp hlength
    obtain rfl : item' = item := by simpa [hitems] using hitem
    have hread : readSource path source = .ok m := by
      cases hread : readSource path source with
      | error fault => simp [hread, Except.toOption] at hm
      | ok m' => simpa [hread, Except.toOption] using hm
    exact ⟨m, e, hread, ⟨[], item', [], hitems, hexport, by simp⟩, hp⟩
  · cases hexport

theorem members_cons (place : String) (ms : List (String × Json)) (p : Property) (ps : List Property) :
    members place ms (p :: ps) =
      ((members place (member place ms p).1 ps).1,
        (member place ms p).2 ++ (members place (member place ms p).1 ps).2) := rfl

theorem member_keyed (place : String) (ms : List (String × Json)) (key : Key) (e : Expr) :
    member place ms (.keyed key e) =
      (memberName? key).elim (ms, [.skippedValue place]) fun name =>
        ((literal (placeOf place name) e).1.elim ms (Json.put name · ms),
          (literal (placeOf place name) e).2) := by
  cases key <;> rfl

def objectValue : Expr → Noted (Except String Json)
  | .object _ props => let (ms, notices) := members "" [] props; (.ok (.obj ms), notices)
  | _ => (.error "exported config is not an object literal", [])

theorem ofScript_eq {path source : String} {m : Module} {e : Expr}
    (hm : readSource path source = .ok m) (he : Exports m e) :
    ofScript path source = objectValue (settingsExpr e) := by
  unfold ofScript
  rw [hm]
  dsimp only
  rw [he.findSome?]
  dsimp only
  cases settingsExpr e <;> rfl

def settingsOf (v : Except String Json) : Except String Settings :=
  v.bind fun v => (Settings.ofJson v).mapError Json.Cause.message

theorem parse_eq (path source : String) :
    parse path source =
      ((settingsOf (value path source).1).mapError (.configInvalid path), (value path source).2) := by
  unfold parse settingsOf
  obtain ⟨v, notices⟩ := value path source
  cases v with
  | error fault => rfl
  | ok v =>
      dsimp only [Except.bind]
      cases Settings.ofJson v <;> rfl

theorem value_script {path source : String} {m : Module} {e : Expr} (hscript : isJson path = false)
    (hm : readSource path source = .ok m) (he : Exports m e) :
    value path source = objectValue (settingsExpr e) := by
  rw [value, if_neg (by simp [hscript]), ofScript_eq hm he]

end Unbundled.Proofs.ScriptSettings
