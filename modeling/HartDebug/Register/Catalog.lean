import HartDebug.Error
import HartDebug.Register.NameMap

/-!
# Register catalogs

A catalog knows registers by canonical names and by aliases.  It is built from three lists: registers
with their numbers, aliases with the registers they stand for, and the widths of registers that are not
as wide as the hart.  Each entry of a list is put beside those before it or refused.

* `Catalog.build` — a catalog, or the first entry that does not fit those before it;
* `Catalog.resolve?` — a register by any of its names;
* `Catalog.canonicalName?`, `Catalog.aliasesOf` — aliases in both directions;
* `Catalog.registers` — every register, in the order of names.
-/

namespace HartDebug

/-- A hart register as abstract commands see it. -/
structure Register where
  /-- The canonical name. -/
  name : String
  number : RegisterNumber
  /-- The width of a register that is not as wide as the hart. -/
  widthOverride : Option Nat
  deriving DecidableEq, Repr

/-- Why lists of registers and aliases make no catalog. -/
inductive CatalogError where
  | duplicateCanonical (name : String)
  | danglingAlias (name target : String)
  | aliasCollision (name target : String)
  | ambiguousAlias (name first second : String)
  deriving DecidableEq, Repr

def CatalogError.message : CatalogError → String
  | .duplicateCanonical name => s!"Register '{name}' is defined more than once"
  | .danglingAlias name target =>
    s!"Alias '{name}' names a register that does not exist ('{target}')"
  | .aliasCollision name target =>
    s!"Alias '{name}' of '{target}' is the canonical name of another register"
  | .ambiguousAlias name first second =>
    s!"Alias '{name}' is claimed by both '{first}' and '{second}'"

/-- The registers under their names, and the aliases in both directions. -/
structure Catalog where
  /-- Each register under its canonical name. -/
  byName : NameMap Register
  /-- The canonical name that an alias stands for, under the alias. -/
  targets : NameMap String
  /-- The aliases of a register under its canonical name, in the order of their definition. -/
  aliasLists : NameMap (List String)
  deriving DecidableEq, Repr

namespace Catalog

/-- Put a register of the list among those before it, as wide as the hart. -/
def put (registers : NameMap Register) (listed : String × RegisterNumber) : NameMap Register :=
  registers.insert listed.1 ⟨listed.1, listed.2, none⟩

/-- Give a register another width.  A width for a name without a register is passed over. -/
def setWidth (registers : NameMap Register) (listed : String × Nat) : NameMap Register :=
  registers.modify listed.1 fun register => { register with widthOverride := some listed.2 }

/-- The catalog with one more alias, given after the name it stands for, in both directions. -/
def withAlias (c : Catalog) (listed : String × String) : Catalog :=
  let (target, name) := listed
  { c with
    targets := c.targets.insert name target
    aliasLists := c.aliasLists.insert target ((c.aliasLists.find? target).getD [] ++ [name]) }

/-- The catalog of the lists, whether or not they fit together. -/
def ofLists (registers : List (String × RegisterNumber)) (aliases : List (String × String))
    (widths : List (String × Nat)) : Catalog :=
  aliases.foldl withAlias ⟨widths.foldl setWidth (registers.foldl put .empty), .empty, .empty⟩

/-- Put a register among those before it, unless it is one of them. -/
def putNew (registers : NameMap Register) (listed : String × RegisterNumber) :
    Except CatalogError (NameMap Register) :=
  if registers.contains listed.1 then .error (.duplicateCanonical listed.1)
  else .ok (put registers listed)

/-- Put an alias among those before it, unless it does not fit them and the registers. -/
def addAlias (c : Catalog) (listed : String × String) : Except CatalogError Catalog :=
  let (target, name) := listed
  if ¬ c.byName.contains target then .error (.danglingAlias name target)
  else if c.byName.contains name ∧ name ≠ target then .error (.aliasCollision name target)
  else
    match c.targets.find? name with
    | some first => .error (.ambiguousAlias name first target)
    | none => .ok (c.withAlias listed)

/-- The catalog of lists that fit together: no register is named twice, and every alias stands for one
known register, is not the name of another, and is defined once. -/
def build (registers : List (String × RegisterNumber)) (aliases : List (String × String))
    (widths : List (String × Nat)) : Except CatalogError Catalog := do
  let named ← registers.foldlM putNew .empty
  aliases.foldlM addAlias ⟨widths.foldl setWidth named, .empty, .empty⟩

/-- Every register, in the order of names. -/
def registers (c : Catalog) : List Register :=
  c.byName.values

/-- Every alias after the canonical name it stands for, in the order of aliases. -/
def aliases (c : Catalog) : List (String × String) :=
  c.targets.entries.map Prod.swap

/-- The register with a canonical name. -/
def find? (c : Catalog) (name : String) : Option Register :=
  c.byName.find? name

/-- The canonical name that an alias stands for. -/
def canonicalName? (c : Catalog) (name : String) : Option String :=
  c.targets.find? name

/-- The register with a name; canonical names come before aliases. -/
def resolve? (c : Catalog) (name : String) : Option Register :=
  match c.find? name with
  | some r => some r
  | none => (c.canonicalName? name).bind c.find?

/-- The register with a name, or the error that there is none. -/
def resolve (c : Catalog) (name : String) : Except DebugError Register :=
  match c.resolve? name with
  | some r => .ok r
  | none => .error (.unknownRegister name)

/-- All aliases of a canonical name, in the order of their definition. -/
def aliasesOf (c : Catalog) (canonical : String) : List String :=
  (c.aliasLists.find? canonical).getD []

end Catalog

end HartDebug
