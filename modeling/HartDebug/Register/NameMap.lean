import HartDebug.Text.Utf8

/-!
# Maps from names

Values under names.  Each name has one value at most, and the names are listed in the order of their octets,
which is part of what a map is.

* `NameMap.Before` — the order of names;
* `NameMap.find?`, `NameMap.insert`, `NameMap.modify`, `NameMap.values` — one value, one more value, another
  value, and all of them;
* `NameMap.find?_insert`, `NameMap.find?_modify` — what then stands under a name;
* `NameMap.mem_entries_iff` — what is listed is what is found.
-/

namespace HartDebug

/-- A name comes before another: in the order of their octets. -/
def NameMap.Before (name other : String) : Prop :=
  Utf8.bytes name < Utf8.bytes other

instance (name other : String) : Decidable (NameMap.Before name other) :=
  inferInstanceAs (Decidable (Utf8.bytes name < Utf8.bytes other))

/-- Values under names, in the order of the names. -/
structure NameMap (α : Type) where
  entries : List (String × α) := []
  ascending : entries.Pairwise (fun a b => NameMap.Before a.1 b.1) := by exact .nil
  deriving DecidableEq, Repr

namespace NameMap

variable {α : Type} {name other : String} {value : α}

theorem Before.trans {third : String} (h : Before name other) (h' : Before other third) :
    Before name third :=
  List.lt_trans h h'

theorem Before.ne (h : Before name other) : name ≠ other := by
  rintro rfl
  exact List.lt_irrefl _ h

/-- Of two names one comes first. -/
theorem before_of_not_before (different : name ≠ other) (h : ¬ Before name other) : Before other name := by
  rcases Std.lt_trichotomy (Utf8.bytes name) (Utf8.bytes other) with before | same | after
  · exact absurd before h
  · exact absurd (Utf8.bytes_inj.1 same) different
  · exact after

/-- List a value under a name, at its place in the order and in place of any other value. -/
def insertInto (name : String) (value : α) : List (String × α) → List (String × α)
  | [] => [(name, value)]
  | (other, held) :: rest =>
    if name = other then (name, value) :: rest
    else if Before name other then (name, value) :: (other, held) :: rest
    else (other, held) :: insertInto name value rest

theorem mem_insertInto {entries : List (String × α)} {entry : String × α}
    (mem : entry ∈ insertInto name value entries) : entry = (name, value) ∨ entry ∈ entries := by
  induction entries with
  | nil => exact .inl (List.mem_singleton.1 mem)
  | cons first rest ih =>
    obtain ⟨other, held⟩ := first
    rw [insertInto] at mem
    split at mem
    · exact (List.mem_cons.1 mem).imp_right (List.mem_cons_of_mem _)
    · split at mem
      · exact List.mem_cons.1 mem
      · rcases List.mem_cons.1 mem with rfl | mem
        · exact .inr List.mem_cons_self
        · exact (ih mem).imp_right (List.mem_cons_of_mem _)

/-- The order of the names is kept. -/
theorem ascending_insertInto {entries : List (String × α)}
    (ascending : entries.Pairwise fun a b => Before a.1 b.1) :
    (insertInto name value entries).Pairwise fun a b => Before a.1 b.1 := by
  induction entries with
  | nil => exact List.pairwise_singleton _ _
  | cons first rest ih =>
    obtain ⟨other, held⟩ := first
    obtain ⟨least, later⟩ := List.pairwise_cons.1 ascending
    rw [insertInto]
    split
    · next same =>
      subst same
      exact List.pairwise_cons.2 ⟨least, later⟩
    · next different =>
      split
      · next before =>
        refine List.pairwise_cons.2 ⟨fun entry mem => ?_, List.pairwise_cons.2 ⟨least, later⟩⟩
        rcases List.mem_cons.1 mem with rfl | mem
        · exact before
        · exact before.trans (least entry mem)
      · next after =>
        refine List.pairwise_cons.2 ⟨fun entry mem => ?_, ih later⟩
        rcases mem_insertInto mem with rfl | mem
        · exact before_of_not_before different after
        · exact least entry mem

/-- A name is looked for from the first entry on. -/
theorem lookup_cons (name listed : String) (held : α) (rest : List (String × α)) :
    ((listed, held) :: rest).lookup name = if name = listed then some held else rest.lookup name := by
  rw [List.lookup_cons]
  by_cases here : name = listed
  · rw [if_pos here, beq_iff_eq.2 here]
  · rw [if_neg here, beq_eq_false_iff_ne.2 here]

/-- The map without names. -/
def empty : NameMap α where

/-- Put a value under a name, in place of any other value. -/
def insert (m : NameMap α) (name : String) (value : α) : NameMap α where
  entries := insertInto name value m.entries
  ascending := ascending_insertInto m.ascending

/-- Change the value under a name, if there is one. -/
def modify (m : NameMap α) (name : String) (f : α → α) : NameMap α where
  entries := m.entries.map fun (listed, held) => (listed, if listed = name then f held else held)
  ascending := List.pairwise_map.2 m.ascending

/-- The value under a name. -/
def find? (m : NameMap α) (name : String) : Option α :=
  m.entries.lookup name

/-- Some value stands under a name. -/
def contains (m : NameMap α) (name : String) : Bool :=
  (m.find? name).isSome

/-- All values, in the order of their names. -/
def values (m : NameMap α) : List α :=
  m.entries.map (·.2)

@[simp] theorem find?_empty (name : String) : (empty : NameMap α).find? name = none := rfl

theorem lookup_insertInto (name other : String) (value : α) (entries : List (String × α)) :
    (insertInto name value entries).lookup other =
      if other = name then some value else entries.lookup other := by
  induction entries with
  | nil => exact lookup_cons _ _ _ _
  | cons first rest ih =>
    obtain ⟨listed, held⟩ := first
    rw [insertInto]
    split
    · next same =>
      subst same
      rw [lookup_cons, lookup_cons]
      split <;> rfl
    · next different =>
      split
      · exact lookup_cons _ _ _ _
      · rw [lookup_cons, lookup_cons, ih]
        split
        · next here => rw [if_neg (here ▸ Ne.symm different)]
        · rfl

/-- **What stands under a name** after a value was put under any name. -/
theorem find?_insert (m : NameMap α) (name other : String) (value : α) :
    (m.insert name value).find? other = if other = name then some value else m.find? other :=
  lookup_insertInto name other value m.entries

/-- **What stands under a name** after the value under any name was changed. -/
theorem find?_modify (m : NameMap α) (name other : String) (f : α → α) :
    (m.modify name f).find? other =
      if other = name then (m.find? other).map f else m.find? other := by
  show (m.entries.map _).lookup other = if other = name then (m.entries.lookup other).map f
    else m.entries.lookup other
  induction m.entries with
  | nil => split <;> rfl
  | cons first rest ih =>
    obtain ⟨listed, held⟩ := first
    rw [List.map_cons, lookup_cons, lookup_cons, ih]
    by_cases here : other = listed
    · rw [if_pos here, if_pos here, here]
      split <;> rfl
    · rw [if_neg here, if_neg here]

/-- What is listed is what is found, if no name is listed twice. -/
theorem lookup_eq_some_iff {entries : List (String × α)} (once : (entries.map (·.1)).Nodup) :
    entries.lookup name = some value ↔ (name, value) ∈ entries := by
  induction entries with
  | nil => simp
  | cons first rest ih =>
    obtain ⟨listed, held⟩ := first
    obtain ⟨new, once⟩ := List.nodup_cons.1 once
    rw [lookup_cons, List.mem_cons]
    split
    · next here =>
      subst here
      have absent : (name, value) ∉ rest := fun mem => new (List.mem_map.2 ⟨_, mem, rfl⟩)
      simp [absent, eq_comm]
    · next elsewhere => simp [ih once, elsewhere]

/-- What is listed is what is found. -/
theorem mem_entries_iff {m : NameMap α} : (name, value) ∈ m.entries ↔ m.find? name = some value := by
  refine (lookup_eq_some_iff ?_).symm
  exact List.pairwise_map.2 (m.ascending.imp Before.ne)

end NameMap

end HartDebug
