import HartDebug.Proofs.Register.Building
import Mathlib.Data.List.ProdSigma

/-!
# Lookups in both directions

A catalog answers from three maps that were filled one after another.  Whatever lists they were filled from,
their answers agree with the lists and with each other.

* `Catalog.resolve_of_mem`, `Catalog.resolve_alias` — names of either kind;
* `Catalog.canonicalName?_eq_some_iff`, `Catalog.mem_aliasesOf_iff` — aliases in both directions;
* `Catalog.perm_registers`, `Catalog.ascending_registers` — all registers;
* `Catalog.Agrees`, `Catalog.lookups_agree` — **every answer, told from the lists**.
-/

namespace HartDebug.Catalog

variable {registers : List (String × RegisterNumber)} {aliases : List (String × String)}
  {widths : List (String × Nat)} {name target : String} {number : RegisterNumber} {c : Catalog}

/-- The register that a listed name makes. -/
def entry (widths : List (String × Nat)) (listed : String × RegisterNumber) : Register :=
  ⟨listed.1, listed.2, lastWidth? widths listed.1⟩

/-! ### Single registers -/

theorem find?_eq_some_iff (once : (registers.map (·.1)).Nodup)
    (stands : Stands c registers aliases widths) {r : Register} :
    c.find? name = some r ↔ ∃ number, (name, number) ∈ registers ∧ r = entry widths (name, number) := by
  rw [find?, stands.registers, Option.map_eq_some_iff]
  refine exists_congr fun number => ?_
  rw [NameMap.lookup_eq_some_iff once, eq_comm (b := r)]
  rfl

theorem find?_eq_none_iff (stands : Stands c registers aliases widths) :
    c.find? name = none ↔ name ∉ registers.map (·.1) := by
  rw [find?, stands.registers, Option.map_eq_none_iff, lookup_eq_none_iff]

/-- **A register name** is found with its own number and the width listed last for it. -/
theorem resolve_of_mem (once : (registers.map (·.1)).Nodup) (stands : Stands c registers aliases widths)
    (listed : (name, number) ∈ registers) : c.resolve name = .ok (entry widths (name, number)) := by
  rw [resolve, resolve?, (find?_eq_some_iff once stands).2 ⟨number, listed, rfl⟩]

/-! ### Aliases -/

theorem canonicalName?_eq_some_iff (once : (aliases.map (·.2)).Nodup)
    (stands : Stands c registers aliases widths) :
    c.canonicalName? name = some target ↔ (target, name) ∈ aliases := by
  rw [canonicalName?, stands.targets, NameMap.lookup_eq_some_iff (map_fst_swap aliases ▸ once),
    List.mem_map_swap]

theorem canonicalName?_eq_none_iff (stands : Stands c registers aliases widths) :
    c.canonicalName? name = none ↔ name ∉ aliases.map (·.2) := by
  rw [canonicalName?, stands.targets, lookup_eq_none_iff, map_fst_swap]

/-- **An alias** is found as what it stands for. -/
theorem resolve_alias (fits : Fits registers aliases) (stands : Stands c registers aliases widths)
    (listed : (target, name) ∈ aliases) : c.resolve name = c.resolve target := by
  by_cases shadows : name ∈ registers.map (·.1)
  · have same : name = target := fits.aliases.apart _ listed shadows
    rw [same]
  · obtain ⟨⟨_, number⟩, mem, rfl⟩ := List.mem_map.1 (fits.aliases.grounded _ listed)
    rw [resolve_of_mem fits.once stands mem, resolve, resolve?, (find?_eq_none_iff stands).2 shadows,
      (canonicalName?_eq_some_iff fits.aliases.once stands).2 listed, Option.bind_some,
      (find?_eq_some_iff fits.once stands).2 ⟨number, mem, rfl⟩]

/-- Other names are not found. -/
theorem resolve_of_not_mem (stands : Stands c registers aliases widths)
    (unlisted : name ∉ registers.map (·.1)) (undefined : name ∉ aliases.map (·.2)) :
    c.resolve name = .error (.unknownRegister name) := by
  rw [resolve, resolve?, (find?_eq_none_iff stands).2 unlisted,
    (canonicalName?_eq_none_iff stands).2 undefined]
  rfl

/-- **A name is found** exactly if it is listed, as a register or as an alias. -/
theorem exists_resolve_iff (fits : Fits registers aliases) (stands : Stands c registers aliases widths) :
    (∃ r, c.resolve name = .ok r) ↔ name ∈ registers.map (·.1) ∨ name ∈ aliases.map (·.2) := by
  have known : ∀ {name}, name ∈ registers.map (·.1) → ∃ r, c.resolve name = .ok r := by
    intro name listed
    obtain ⟨⟨_, number⟩, mem, rfl⟩ := List.mem_map.1 listed
    exact ⟨_, resolve_of_mem fits.once stands mem⟩
  refine ⟨fun ⟨r, found⟩ => ?_, fun listed => ?_⟩
  · refine Classical.or_iff_not_imp_left.2 fun unlisted => Classical.not_not.1 fun undefined => ?_
    rw [resolve_of_not_mem stands unlisted undefined] at found
    cases found
  · rcases listed with listed | listed
    · exact known listed
    · obtain ⟨⟨target, _⟩, mem, rfl⟩ := List.mem_map.1 listed
      rw [resolve_alias fits stands mem]
      exact known (fits.aliases.grounded _ mem)

theorem mem_aliasesOf_iff (once : (aliases.map (·.2)).Nodup)
    (stands : Stands c registers aliases widths) :
    name ∈ c.aliasesOf target ↔ c.canonicalName? name = some target := by
  rw [canonicalName?_eq_some_iff once stands, aliasesOf, stands.aliasLists]
  simp

theorem nodup_aliasesOf (once : (aliases.map (·.2)).Nodup) (stands : Stands c registers aliases widths)
    (target : String) : (c.aliasesOf target).Nodup := by
  rw [aliasesOf, stands.aliasLists]
  exact once.sublist (List.filter_sublist.map _)

/-! ### All registers -/

/-- Each register is listed under its own name. -/
theorem name_of_mem_entries (once : (registers.map (·.1)).Nodup)
    (stands : Stands c registers aliases widths) {r : Register} (mem : (name, r) ∈ c.byName.entries) :
    r.name = name := by
  obtain ⟨number, -, rfl⟩ := (find?_eq_some_iff once stands).1 (NameMap.mem_entries_iff.1 mem)
  rfl

/-- **The registers ascend** in the order of their names. -/
theorem ascending_registers (once : (registers.map (·.1)).Nodup)
    (stands : Stands c registers aliases widths) :
    c.registers.Pairwise fun r r' => NameMap.Before r.name r'.name := by
  refine List.pairwise_map.2 (c.byName.ascending.imp_of_mem fun {a b} mem mem' before => ?_)
  rw [name_of_mem_entries once stands mem, name_of_mem_entries once stands mem']
  exact before

/-- **Every listed register** is there, once, and no other. -/
theorem perm_registers (once : (registers.map (·.1)).Nodup)
    (stands : Stands c registers aliases widths) : (registers.map (entry widths)).Perm c.registers := by
  have distinct : (registers.map (entry widths)).Nodup :=
    List.Nodup.of_map (·.name) (by rw [List.map_map]; exact once)
  have distinct' : c.registers.Nodup :=
    (ascending_registers once stands).imp fun before same => before.ne (congrArg Register.name same)
  refine (List.perm_ext_iff_of_nodup distinct distinct').2 fun r => ?_
  rw [Catalog.registers, NameMap.values, List.mem_map, List.mem_map]
  constructor
  · rintro ⟨⟨name, number⟩, mem, rfl⟩
    exact ⟨(name, _), NameMap.mem_entries_iff.2 ((find?_eq_some_iff once stands).2 ⟨number, mem, rfl⟩), rfl⟩
  · rintro ⟨⟨name, r⟩, mem, rfl⟩
    obtain ⟨number, listed, made⟩ := (find?_eq_some_iff once stands).1 (NameMap.mem_entries_iff.1 mem)
    exact ⟨(name, number), listed, made.symm⟩

/-- What a catalog answers, told from the lists it was built of. -/
structure Agrees (c : Catalog) (registers : List (String × RegisterNumber))
    (aliases : List (String × String)) (widths : List (String × Nat)) : Prop where
  /-- A name is found exactly if it is a listed register or alias. -/
  known_iff : ∀ name, (∃ r, c.resolve name = .ok r) ↔
    name ∈ registers.map (·.1) ∨ name ∈ aliases.map (·.2)
  /-- A register is found with its own number and the width listed last for it, if any is. -/
  ofRegister : ∀ name number, (name, number) ∈ registers →
    c.resolve name = .ok ⟨name, number, lastWidth? widths name⟩
  /-- An alias is found as what it stands for. -/
  ofAlias : ∀ target name, (target, name) ∈ aliases → c.resolve name = c.resolve target
  /-- Any other name is not found. -/
  unknown : ∀ name, name ∉ registers.map (·.1) → name ∉ aliases.map (·.2) →
    c.resolve name = .error (.unknownRegister name)
  /-- An alias stands for the name that it is listed after. -/
  canonicalName?_iff : ∀ name target, c.canonicalName? name = some target ↔ (target, name) ∈ aliases
  /-- The aliases of a name are those listed after it, in the order of the list. -/
  aliasesOf_eq : ∀ target, c.aliasesOf target = (aliases.filter (·.1 == target)).map (·.2)
  /-- Both directions agree. -/
  mem_aliasesOf_iff : ∀ target name, name ∈ c.aliasesOf target ↔ c.canonicalName? name = some target
  nodup_aliasesOf : ∀ target, (c.aliasesOf target).Nodup
  /-- Every listed register is there, once, and no other. -/
  registers_perm : (registers.map (entry widths)).Perm c.registers
  /-- The registers ascend in the order of their names' octets. -/
  ascending : c.registers.Pairwise fun r r' => Utf8.bytes r.name < Utf8.bytes r'.name

/-- **Every lookup in a catalog agrees with the lists it was built of**, and with every other lookup. -/
theorem lookups_agree (built : build registers aliases widths = .ok c) :
    Agrees c registers aliases widths := by
  obtain ⟨fits, stands⟩ := stands_of_build built
  exact {
    known_iff := fun _ => exists_resolve_iff fits stands
    ofRegister := fun _ _ => resolve_of_mem fits.once stands
    ofAlias := fun _ _ => resolve_alias fits stands
    unknown := fun _ => resolve_of_not_mem stands
    canonicalName?_iff := fun _ _ => canonicalName?_eq_some_iff fits.aliases.once stands
    aliasesOf_eq := stands.aliasLists
    mem_aliasesOf_iff := fun _ _ => mem_aliasesOf_iff fits.aliases.once stands
    nodup_aliasesOf := nodup_aliasesOf fits.aliases.once stands
    registers_perm := perm_registers fits.once stands
    ascending := ascending_registers fits.once stands }

/-- A register that is aliased to its own name, one with several aliases and several widths, and a width for
a name without a register. -/
theorem lookups_agree_with_own_alias :
    ∃ c, build [("X2", 0x1002), ("X1", 0x1001)] [("X1", "ra"), ("X2", "X2"), ("X1", "x1")]
        [("X1", 8), ("TRAPM", 1), ("X1", 16)] = .ok c ∧
      c.resolve "x1" = .ok ⟨"X1", 0x1001, some 16⟩ ∧ c.resolve "X2" = .ok ⟨"X2", 0x1002, none⟩ ∧
      c.resolve "TRAPM" = .error (.unknownRegister "TRAPM") ∧ c.canonicalName? "X2" = some "X2" ∧
      c.aliasesOf "X1" = ["ra", "x1"] := by
  have fits : Fits [("X2", 0x1002), ("X1", 0x1001)] [("X1", "ra"), ("X2", "X2"), ("X1", "x1")] :=
    ⟨by decide, by decide, by decide, by decide⟩
  obtain ⟨c, built, -⟩ := exists_build [("X1", 8), ("TRAPM", 1), ("X1", 16)] fits
  have agrees := lookups_agree built
  refine ⟨c, built, ?_, agrees.ofRegister "X2" 0x1002 (by decide), ?_, ?_, agrees.aliasesOf_eq "X1"⟩
  · rw [agrees.ofAlias "X1" "x1" (by decide)]
    exact agrees.ofRegister "X1" 0x1001 (by decide)
  · exact agrees.unknown "TRAPM" (by decide) (by decide)
  · exact (agrees.canonicalName?_iff "X2" "X2").2 (by decide)

end HartDebug.Catalog
