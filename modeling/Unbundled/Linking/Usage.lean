import Unbundled.Script.Identifiers

namespace Unbundled.Linking

open Script

def usedNames (items : List Stmt) : List String :=
  (Stmt.identifiersOf items).map (·.name)

def usage (items : List Stmt) (name : String) : Nat := (usedNames items).count name

/-- An item without the imported names for which `used` does not hold. An import that has
lost all its names is gone, one that never had any stays. -/
def pruneItem (used : String → Bool) : Stmt → Option Stmt
  | .import s typeOnly specifiers source attrs =>
    let kept := specifiers.filter fun i => used i.local.name
    if kept.isEmpty ∧ !specifiers.isEmpty then none
    else some (.import s typeOnly kept source attrs)
  | item => some item

def pruneImports (items : List Stmt) : List Stmt :=
  let names := usedNames items
  items.filterMap (pruneItem names.contains)

end Unbundled.Linking
