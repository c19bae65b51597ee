import HartDebug.Proofs.Register.Agreement
import HartDebug.Register.Standard

/-!
# Names in the standard catalog

The lists of the standard registers fit together, so the standard catalog answers as they say: a listed
register is found with its number, an alias as what it stands for, and nothing else is found.

* `Catalog.build_standard` — **the standard catalog can be built** of its lists;
* `Catalog.resolve_of_canonical`, `Catalog.resolve_of_alias` — names of either kind;
* `Catalog.resolve_of_mem_registers` — the registers of a group;
* `Catalog.Knows`, `Catalog.exists_resolve_standard` — **every name of the standard catalog has a register**;
* `Catalog.resolve_dcsr` — the register that a step writes.
-/

namespace HartDebug.Catalog

variable {name canonical : String} {number : RegisterNumber}

/-! ### The standard lists -/

theorem map_fst_registers (g : RegisterGroup) : g.registers.map (·.1) = g.members := by
  rw [RegisterGroup.registers, List.map_map]
  rfl

theorem mem_standard {g : RegisterGroup} (listed : (name, number) ∈ g.registers) :
    (name, number) ∈ Standard.registers := by
  rw [Standard.registers]
  cases g with
  | integer => exact List.mem_append_left _ (List.mem_append_right _ listed)
  | float => exact List.mem_append_right _ listed

theorem mem_standard_of_members {g : RegisterGroup} (listed : name ∈ g.members) :
    name ∈ Standard.registers.map (·.1) := by
  rw [← map_fst_registers g] at listed
  obtain ⟨⟨_, number⟩, mem, rfl⟩ := List.mem_map.1 listed
  exact List.mem_map.2 ⟨_, mem_standard mem, rfl⟩

/-- Every alias of the standard catalog stands for an integer or floating point register. -/
theorem target_mem_members (a : String × String) (h : a ∈ Standard.aliases) :
    ∃ g : RegisterGroup, a.1 ∈ g.members := by
  have indexed (g : RegisterGroup) (h : a ∈ g.indexNames) : a.1 ∈ g.members := by
    obtain ⟨i, mem, rfl⟩ := List.mem_map.1 h
    exact List.mem_map.2 ⟨i, mem, rfl⟩
  have calling : ∀ a ∈ Standard.callingNames,
      a.1 ∈ RegisterGroup.integer.members ∨ a.1 ∈ RegisterGroup.float.members := by decide +kernel
  rw [Standard.aliases] at h
  rcases List.mem_append.1 h with h | h
  · rcases List.mem_append.1 h with h | h
    · rcases calling a h with h | h
      · exact ⟨.integer, h⟩
      · exact ⟨.float, h⟩
    · exact ⟨.integer, indexed .integer h⟩
  · exact ⟨.float, indexed .float h⟩

/-- The number that the octets of a name spell.  Numbers are compared at once, which names are not. -/
def spelled (name : String) : Nat :=
  name.toByteArray.data.toList.foldl (fun n octet => 256 * n + octet.toNat) 0

theorem nodup_standard : (Standard.registers.map (·.1)).Nodup :=
  .of_map spelled (by decide +kernel)

theorem nodup_standard_aliases : (Standard.aliases.map (·.2)).Nodup :=
  .of_map spelled (by decide +kernel)

/-- Canonical names begin with a capital letter, and aliases do not. -/
theorem capital_of_mem_standard : (∀ name ∈ Standard.registers.map (·.1), name.front.isUpper = true) ∧
    ∀ a ∈ Standard.aliases, a.2.front.isUpper = false := by
  decide +kernel

/-- The standard lists fit together. -/
theorem fits_standard : Fits Standard.registers Standard.aliases where
  once := nodup_standard
  aliases :=
    { grounded := fun a mem => by
        obtain ⟨g, listed⟩ := target_mem_members a mem
        exact mem_standard_of_members listed
      apart := fun a mem shadows => by
        have capital := capital_of_mem_standard.1 _ shadows
        rw [capital_of_mem_standard.2 a mem] at capital
        cases capital
      once := nodup_standard_aliases }

/-- **The standard catalog can be built** of its lists. -/
theorem build_standard :
    build Standard.registers Standard.aliases Standard.widths = .ok standard := by
  obtain ⟨c, built, -⟩ := exists_build Standard.widths fits_standard
  rw [standard_eq, ← eq_ofLists_of_build built]
  exact built

theorem stands_standard : Stands standard Standard.registers Standard.aliases Standard.widths :=
  (stands_of_build build_standard).2

/-- A canonical name is found with its number. -/
theorem resolve_of_canonical (listed : (name, number) ∈ Standard.registers) :
    standard.resolve name = .ok ⟨name, number, lastWidth? Standard.widths name⟩ :=
  resolve_of_mem fits_standard.once stands_standard listed

/-- An alias is found as the register that it stands for. -/
theorem resolve_of_alias (defined : (canonical, name) ∈ Standard.aliases)
    (listed : (canonical, number) ∈ Standard.registers) :
    standard.resolve name = .ok ⟨canonical, number, lastWidth? Standard.widths canonical⟩ := by
  rw [resolve_alias fits_standard stands_standard defined]
  exact resolve_of_canonical listed

/-! ### Names that are known -/

/-- The catalog knows a name, as a canonical one or as an alias. -/
def Knows (c : Catalog) (name : String) : Prop :=
  (∃ r ∈ c.registers, r.name = name) ∨ ∃ canonical, (canonical, name) ∈ c.aliases

/-- The standard catalog knows what is listed. -/
theorem knows_standard_iff : standard.Knows name ↔
    name ∈ Standard.registers.map (·.1) ∨ name ∈ Standard.aliases.map (·.2) := by
  refine or_congr ?_ ?_
  · have listed : ∀ {r}, r ∈ standard.registers ↔
        r ∈ Standard.registers.map (entry Standard.widths) :=
      (perm_registers fits_standard.once stands_standard).symm.mem_iff
    simp only [listed, List.mem_map, exists_exists_and_eq_and]
    rfl
  · have defined : ∀ canonical, (canonical, name) ∈ standard.aliases ↔
        (canonical, name) ∈ Standard.aliases := fun canonical => by
      rw [aliases, ← Prod.swap_prod_mk, List.mem_map_swap]
      exact NameMap.mem_entries_iff.trans
        (canonicalName?_eq_some_iff fits_standard.aliases.once stands_standard)
    simp [defined]

/-- **Every name of the standard catalog has a register.** -/
theorem exists_resolve_standard (known : standard.Knows name) : ∃ r, standard.resolve name = .ok r :=
  (exists_resolve_iff fits_standard stands_standard).2 (knows_standard_iff.1 known)

/-- A name that has a register is known. -/
theorem knows_of_resolve {r : Register} (h : standard.resolve name = .ok r) : standard.Knows name :=
  knows_standard_iff.2 ((exists_resolve_iff fits_standard stands_standard).1 ⟨r, h⟩)

/-! ### Registers of a group -/

/-- **A register of a group** is found, and is as wide as the hart. -/
theorem resolve_of_mem_registers {g : RegisterGroup} (listed : (name, number) ∈ g.registers) :
    standard.resolve name = .ok ⟨name, number, none⟩ := by
  have plain : ∀ r ∈ g.registers, lastWidth? Standard.widths r.1 = none := by
    cases g <;> decide +kernel
  rw [resolve_of_canonical (mem_standard listed), plain (name, number) listed]

/-! ### The register of a step -/

/-- The number of the debug control and status register. -/
def dcsrNumber : RegisterNumber := 0x7b0

/-- The register that a step writes. -/
theorem resolve_dcsr : standard.resolve "DCSR" = .ok ⟨"DCSR", dcsrNumber, none⟩ :=
  resolve_of_canonical (by decide +kernel)

end HartDebug.Catalog
