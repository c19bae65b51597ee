import HartDebug.Register.Catalog
import Mathlib.Data.List.Nodup

/-!
# Building a catalog

A catalog is built by putting one entry after another into its maps.  An entry is taken exactly if it fits
those before it, so the lists are taken as a whole exactly if they fit together, and otherwise the first
entry that does not fit is to blame.

* `Catalog.Fits` — lists that fit together;
* `Catalog.Blamed` — the error of the first entry that does not fit those before it;
* `Catalog.Stands` — **what the maps hold of the lists**;
* `Catalog.exists_build`, `Catalog.build_of_blamed` — lists that fit make a catalog, and others an error;
* `Catalog.eq_ofLists_of_build` — the catalog that was built is that of its lists;
* `Catalog.build_accepts_or_blames` — **which lists are accepted, and which error the others end in**.
-/

namespace HartDebug.Catalog

/-! ### Lists that fit together -/

/-- Aliases, each given after the name it stands for, that fit the known registers and each other. -/
structure AliasesFit (known : List String) (aliases : List (String × String)) : Prop where
  /-- Every alias stands for a known register. -/
  grounded : ∀ a ∈ aliases, a.1 ∈ known
  /-- No alias is the name of a register other than its own. -/
  apart : ∀ a ∈ aliases, a.2 ∈ known → a.2 = a.1
  /-- No alias is defined twice. -/
  once : (aliases.map (·.2)).Nodup

/-- Registers and aliases that fit together. -/
structure Fits (registers : List (String × RegisterNumber)) (aliases : List (String × String)) : Prop where
  /-- No register is named twice. -/
  once : (registers.map (·.1)).Nodup
  aliases : AliasesFit (registers.map (·.1)) aliases

/-- The error of an alias that does not fit the known registers and the aliases before it.  Of several rules
that it breaks the first one counts. -/
inductive Misfit (known : List String) (before : List (String × String)) :
    String × String → CatalogError → Prop where
  | dangling {target name : String} (unknown : target ∉ known) :
      Misfit known before (target, name) (.danglingAlias name target)
  | collision {target name : String} (grounded : target ∈ known) (shadows : name ∈ known)
      (other : name ≠ target) : Misfit known before (target, name) (.aliasCollision name target)
  | ambiguous {target name first : String} (grounded : target ∈ known)
      (apart : name ∈ known → name = target) (earlier : (first, name) ∈ before) :
      Misfit known before (target, name) (.ambiguousAlias name first target)

/-- The error of the first entry that does not fit those before it; registers come before aliases. -/
inductive Blamed (registers : List (String × RegisterNumber)) (aliases : List (String × String)) :
    CatalogError → Prop where
  | repeated {before after : List (String × RegisterNumber)} {name : String} {number : RegisterNumber}
      (split : registers = before ++ (name, number) :: after) (once : (before.map (·.1)).Nodup)
      (again : name ∈ before.map (·.1)) : Blamed registers aliases (.duplicateCanonical name)
  | misfit {before after : List (String × String)} {listed : String × String} {e : CatalogError}
      (once : (registers.map (·.1)).Nodup) (split : aliases = before ++ listed :: after)
      (fit : AliasesFit (registers.map (·.1)) before)
      (misfit : Misfit (registers.map (·.1)) before listed e) : Blamed registers aliases e

variable {registers : List (String × RegisterNumber)} {aliases before : List (String × String)}
  {widths : List (String × Nat)} {known : List String} {listed : String × String} {e : CatalogError}

theorem aliasesFit_nil : AliasesFit known [] :=
  ⟨nofun, nofun, .nil⟩

theorem AliasesFit.of_append {after : List (String × String)} (fit : AliasesFit known (before ++ after)) :
    AliasesFit known before where
  grounded a mem := fit.grounded a (List.mem_append_left _ mem)
  apart a mem := fit.apart a (List.mem_append_left _ mem)
  once := by
    have once := fit.once
    rw [List.map_append] at once
    exact (List.nodup_append.1 once).1

/-- One more alias fits if it stands for a known register, is not the name of another, and is new. -/
theorem AliasesFit.snoc (fit : AliasesFit known before) (grounded : listed.1 ∈ known)
    (apart : listed.2 ∈ known → listed.2 = listed.1) (new : listed.2 ∉ before.map (·.2)) :
    AliasesFit known (before ++ [listed]) where
  grounded a mem := by
    rcases List.mem_append.1 mem with mem | mem
    · exact fit.grounded a mem
    · exact List.mem_singleton.1 mem ▸ grounded
  apart a mem := by
    rcases List.mem_append.1 mem with mem | mem
    · exact fit.apart a mem
    · exact List.mem_singleton.1 mem ▸ apart
  once := by
    rw [List.map_append, List.map_singleton, ← List.concat_eq_append]
    exact fit.once.concat new

/-- An alias that does not fit has an error. -/
theorem exists_misfit (fit : AliasesFit known before) (broken : ¬ AliasesFit known (before ++ [listed])) :
    ∃ e, Misfit known before listed e := by
  obtain ⟨target, name⟩ := listed
  by_cases grounded : target ∈ known
  · by_cases apart : name ∈ known → name = target
    · by_cases new : name ∈ before.map (·.2)
      · obtain ⟨⟨first, same⟩, mem, rfl⟩ := List.mem_map.1 new
        exact ⟨_, .ambiguous grounded apart mem⟩
      · exact absurd (fit.snoc grounded apart new) broken
    · obtain ⟨shadows, other⟩ := Classical.not_imp.1 apart
      exact ⟨_, .collision grounded shadows other⟩
  · exact ⟨_, .dangling grounded⟩

/-- A property of lists that holds in the beginning is lost with some element first. -/
theorem exists_first_loss {α : Type} {P : List α → Prop} (begun : P []) {l : List α} (lost : ¬ P l) :
    ∃ before a after, l = before ++ a :: after ∧ P before ∧ ¬ P (before ++ [a]) := by
  suffices from_here : ∀ before, P before → ¬ P (before ++ l) →
      ∃ before' a after, before ++ l = before' ++ a :: after ∧ P before' ∧ ¬ P (before' ++ [a]) from
    from_here [] begun lost
  clear lost
  induction l with
  | nil => exact fun before held lost => absurd held (List.append_nil before ▸ lost)
  | cons a l ih =>
    intro before held lost
    by_cases next : P (before ++ [a])
    · have later := ih (before ++ [a]) next
      rw [List.append_assoc] at later
      exact later lost
    · exact ⟨before, a, l, rfl, held, next⟩

/-- **Lists that do not fit** have a first entry that does not fit those before it. -/
theorem exists_blamed (misfit : ¬ Fits registers aliases) : ∃ e, Blamed registers aliases e := by
  by_cases once : (registers.map (·.1)).Nodup
  · have broken : ¬ AliasesFit (registers.map (·.1)) aliases := fun fit => misfit ⟨once, fit⟩
    obtain ⟨before, listed, after, split, fit, lost⟩ := exists_first_loss aliasesFit_nil broken
    obtain ⟨e, misfit⟩ := exists_misfit fit lost
    exact ⟨e, .misfit once split fit misfit⟩
  · obtain ⟨before, ⟨name, number⟩, after, split, unique, lost⟩ :=
      exists_first_loss (P := fun l : List (String × RegisterNumber) => (l.map (·.1)).Nodup) .nil once
    refine ⟨_, .repeated split unique (Classical.not_not.1 fun new => lost ?_)⟩
    rw [List.map_append, List.map_singleton, ← List.concat_eq_append]
    exact unique.concat new

/-! ### What the maps hold -/

/-- The width listed last for a name. -/
def lastWidth? (widths : List (String × Nat)) (name : String) : Option Nat :=
  widths.reverse.lookup name

/-- The map holds the registers of a list, each with the width listed last for it. -/
def Entered (m : NameMap Register) (registers : List (String × RegisterNumber))
    (widths : List (String × Nat)) : Prop :=
  ∀ name, m.find? name = (registers.lookup name).map fun number => ⟨name, number, lastWidth? widths name⟩

/-- The maps hold what is listed, and the aliases in both directions. -/
structure Stands (c : Catalog) (registers : List (String × RegisterNumber))
    (aliases : List (String × String)) (widths : List (String × Nat)) : Prop where
  registers : Entered c.byName registers widths
  targets : ∀ name, c.targets.find? name = (aliases.map Prod.swap).lookup name
  aliasLists : ∀ target,
    (c.aliasLists.find? target).getD [] = (aliases.filter (·.1 == target)).map (·.2)

theorem lookup_eq_none_iff {β : Type} {name : String} {l : List (String × β)} :
    l.lookup name = none ↔ name ∉ l.map (·.1) := by
  rw [List.lookup_eq_none_iff, List.mem_map, not_exists]
  refine forall_congr' fun entry => ?_
  rw [bne_iff_ne, not_and, ne_comm]

theorem Entered.contains_iff {m : NameMap Register} (entered : Entered m registers widths)
    {name : String} : m.contains name = true ↔ name ∈ registers.map (·.1) := by
  rw [NameMap.contains, entered name, Option.isSome_map, Option.isSome_iff_ne_none, ne_eq,
    lookup_eq_none_iff, not_not]

/-! ### One entry after another -/

/-- **A register that is new** is taken. -/
theorem putNew_of_new {m : NameMap Register} {name : String} {number : RegisterNumber}
    (entered : Entered m registers []) (new : name ∉ registers.map (·.1)) :
    ∃ m', putNew m (name, number) = .ok m' ∧ Entered m' (registers ++ [(name, number)]) [] := by
  refine ⟨_, if_neg fun old => new (entered.contains_iff.1 old), fun other => ?_⟩
  rw [put, NameMap.find?_insert, List.lookup_append, NameMap.lookup_cons]
  split
  · next here =>
    subst here
    rw [lookup_eq_none_iff.2 new]
    rfl
  · rw [List.lookup_nil, Option.or_none]
    exact entered other

/-- A register that is named again is not. -/
theorem putNew_again {m : NameMap Register} {name : String} {number : RegisterNumber}
    (entered : Entered m registers []) (again : name ∈ registers.map (·.1)) :
    putNew m (name, number) = .error (.duplicateCanonical name) :=
  if_pos (entered.contains_iff.2 again)

theorem lastWidth?_append (widths : List (String × Nat)) (name other : String) (width : Nat) :
    lastWidth? (widths ++ [(name, width)]) other =
      if other = name then some width else lastWidth? widths other := by
  rw [lastWidth?, List.reverse_append]
  exact NameMap.lookup_cons _ _ _ _

/-- **A width** takes the place of those listed before it for the same name. -/
theorem Entered.setWidth {m : NameMap Register} (entered : Entered m registers widths)
    (listed : String × Nat) : Entered (setWidth m listed) registers (widths ++ [listed]) := by
  obtain ⟨name, width⟩ := listed
  intro other
  rw [Catalog.setWidth, NameMap.find?_modify, lastWidth?_append, entered other]
  split
  · rw [Option.map_map]
    rfl
  · rfl

theorem Entered.setWidths {m : NameMap Register} (entered : Entered m registers []) :
    Entered (widths.foldl Catalog.setWidth m) registers widths := by
  suffices from_here : ∀ (rest before : List (String × Nat)) (m : NameMap Register),
      Entered m registers before → Entered (rest.foldl Catalog.setWidth m) registers (before ++ rest) from
    from_here widths [] m entered
  intro rest
  induction rest with
  | nil =>
    intro before m entered
    rw [List.append_nil]
    exact entered
  | cons listed rest ih =>
    intro before m entered
    have later := ih (before ++ [listed]) _ (entered.setWidth listed)
    rw [List.append_assoc] at later
    exact later

/-- The aliases under their own names. -/
theorem map_fst_swap (aliases : List (String × String)) :
    (aliases.map Prod.swap).map (·.1) = aliases.map (·.2) := by
  rw [List.map_map]
  rfl

variable {c : Catalog}

/-- One more alias, in both directions. -/
theorem Stands.withAlias {target name : String} (stands : Stands c registers before widths)
    (new : name ∉ before.map (·.2)) :
    Stands (c.withAlias (target, name)) registers (before ++ [(target, name)]) widths where
  registers := stands.registers
  targets other := by
    rw [Catalog.withAlias, NameMap.find?_insert, List.map_append, List.lookup_append, ← stands.targets,
      List.map_singleton, Prod.swap_prod_mk, NameMap.lookup_cons]
    split
    · next here =>
      subst here
      rw [stands.targets, lookup_eq_none_iff.2 (map_fst_swap before ▸ new)]
      rfl
    · rw [List.lookup_nil, Option.or_none]
  aliasLists other := by
    rw [Catalog.withAlias, NameMap.find?_insert, List.filter_append, List.map_append, ← stands.aliasLists]
    by_cases here : other = target
    · subst here
      simp
    · simp [here, Ne.symm here]

/-- **An alias that fits** is taken. -/
theorem exists_addAlias (stands : Stands c registers before widths)
    (fit : AliasesFit (registers.map (·.1)) (before ++ [listed])) :
    ∃ c', addAlias c listed = .ok c' ∧ Stands c' registers (before ++ [listed]) widths := by
  obtain ⟨target, name⟩ := listed
  have last : (target, name) ∈ before ++ [(target, name)] :=
    List.mem_append_right _ (List.mem_singleton.2 rfl)
  have grounded : c.byName.contains target = true :=
    stands.registers.contains_iff.2 (fit.grounded _ last)
  have apart : ¬ (c.byName.contains name = true ∧ name ≠ target) := fun shadows =>
    shadows.2 (fit.apart _ last (stands.registers.contains_iff.1 shadows.1))
  have new : name ∉ before.map (·.2) := by
    have once := fit.once
    rw [List.map_append, List.map_singleton, ← List.concat_eq_append, List.nodup_concat] at once
    exact once.1
  refine ⟨c.withAlias (target, name), ?_, stands.withAlias new⟩
  rw [addAlias, if_neg (not_not.2 grounded), if_neg apart, stands.targets,
    lookup_eq_none_iff.2 (map_fst_swap before ▸ new)]

/-- **An alias that does not fit** ends in its error. -/
theorem addAlias_of_misfit (stands : Stands c registers before widths)
    (fit : AliasesFit (registers.map (·.1)) before)
    (misfit : Misfit (registers.map (·.1)) before listed e) : addAlias c listed = .error e := by
  have known {name : String} : c.byName.contains name = true ↔ name ∈ registers.map (·.1) :=
    stands.registers.contains_iff
  cases misfit with
  | dangling unknown => exact if_pos fun found => unknown (known.1 found)
  | collision grounded shadows other =>
    rw [addAlias, if_neg (not_not.2 (known.2 grounded)), if_pos ⟨known.2 shadows, other⟩]
  | @ambiguous target name first grounded apart earlier =>
    have distinct : ¬ (c.byName.contains name = true ∧ name ≠ target) := fun shadows =>
      shadows.2 (apart (known.1 shadows.1))
    have found : (before.map Prod.swap).lookup name = some first := by
      refine (NameMap.lookup_eq_some_iff ?_).2 (List.mem_map.2 ⟨(first, name), earlier, rfl⟩)
      rw [map_fst_swap]
      exact fit.once
    rw [addAlias, if_neg (not_not.2 (known.2 grounded)), if_neg distinct, stands.targets, found]

/-! ### Whole lists -/

/-- What every step keeps where its element fits, holds after elements that fit together. -/
theorem exists_foldlM {σ α ε : Type} {step : σ → α → Except ε σ} {R : σ → List α → Prop}
    {P : List α → Prop} (shorter : ∀ l l', P (l ++ l') → P l)
    (accepts : ∀ s before a, R s before → P (before ++ [a]) →
      ∃ s', step s a = .ok s' ∧ R s' (before ++ [a]))
    {s : σ} (begun : R s []) {l : List α} (fit : P l) :
    ∃ s', l.foldlM step s = .ok s' ∧ R s' l := by
  suffices from_here : ∀ (rest before : List α) (s : σ), R s before → P (before ++ rest) →
      ∃ s', rest.foldlM step s = .ok s' ∧ R s' (before ++ rest) from from_here l [] s begun fit
  intro rest
  induction rest with
  | nil =>
    intro before s held _
    exact ⟨s, rfl, (List.append_nil before).symm ▸ held⟩
  | cons a rest ih =>
    intro before s held fit
    rw [← List.singleton_append, ← List.append_assoc] at fit ⊢
    obtain ⟨s', stepped, held'⟩ := accepts s before a held (shorter _ _ fit)
    obtain ⟨s'', ran, held''⟩ := ih (before ++ [a]) s' held' fit
    exact ⟨s'', by rw [List.singleton_append, List.foldlM_cons, stepped]; exact ran, held''⟩

/-- A step that fails ends the whole. -/
theorem foldlM_eq_error {σ α ε : Type} {step : σ → α → Except ε σ} {s s' : σ} {before after : List α}
    {a : α} {e : ε} (ran : before.foldlM step s = .ok s') (failed : step s' a = .error e) :
    (before ++ a :: after).foldlM step s = .error e := by
  rw [List.foldlM_append, ran]
  show (a :: after).foldlM step s' = .error e
  rw [List.foldlM_cons, failed]
  rfl

theorem entered_empty : Entered .empty [] [] :=
  fun _ => rfl

/-- Registers of which none is named twice are all taken. -/
theorem exists_entered (once : (registers.map (·.1)).Nodup) :
    ∃ m, registers.foldlM putNew .empty = .ok m ∧ Entered m registers [] := by
  refine exists_foldlM (R := fun m before => Entered m before [])
    (P := fun l : List (String × RegisterNumber) => (l.map (·.1)).Nodup) (fun l l' once => ?_)
    (fun m before listed entered once => ?_) entered_empty once
  · rw [List.map_append] at once
    exact (List.nodup_append.1 once).1
  · rw [List.map_append, List.map_singleton, ← List.concat_eq_append, List.nodup_concat] at once
    exact putNew_of_new entered once.1

/-- The maps before the first alias. -/
theorem stands_entered (widths : List (String × Nat)) {m : NameMap Register}
    (entered : Entered m registers []) :
    Stands ⟨widths.foldl Catalog.setWidth m, .empty, .empty⟩ registers [] widths where
  registers := entered.setWidths
  targets _ := rfl
  aliasLists _ := rfl

/-- Aliases that fit are all taken. -/
theorem exists_added (stands : Stands c registers [] widths)
    (fit : AliasesFit (registers.map (·.1)) aliases) :
    ∃ c', aliases.foldlM addAlias c = .ok c' ∧ Stands c' registers aliases widths :=
  exists_foldlM (R := fun c before => Stands c registers before widths)
    (fun _ _ fit => fit.of_append) (fun _ _ _ stands fit => exists_addAlias stands fit) stands fit

/-- **Lists that fit together** make a catalog that holds what is listed. -/
theorem exists_build (widths : List (String × Nat)) (fits : Fits registers aliases) :
    ∃ c, build registers aliases widths = .ok c ∧ Stands c registers aliases widths := by
  obtain ⟨m, taken, entered⟩ := exists_entered fits.once
  obtain ⟨c, added, stands⟩ := exists_added (stands_entered widths entered) fits.aliases
  refine ⟨c, ?_, stands⟩
  rw [build, taken]
  exact added

/-- **The first entry that does not fit** ends the building in its error. -/
theorem build_of_blamed (widths : List (String × Nat)) (blamed : Blamed registers aliases e) :
    build registers aliases widths = .error e := by
  cases blamed with
  | repeated split once again =>
    obtain ⟨m, taken, entered⟩ := exists_entered once
    rw [build, split, foldlM_eq_error taken (putNew_again entered again)]
    rfl
  | misfit once split fit misfit =>
    obtain ⟨m, taken, entered⟩ := exists_entered once
    obtain ⟨c, added, stands⟩ := exists_added (stands_entered widths entered) fit
    rw [build, taken]
    show aliases.foldlM addAlias _ = _
    rw [split]
    exact foldlM_eq_error added (addAlias_of_misfit stands fit misfit)

/-- A catalog that was built holds what is listed in lists that fit together. -/
theorem stands_of_build (built : build registers aliases widths = .ok c) :
    Fits registers aliases ∧ Stands c registers aliases widths := by
  by_cases fits : Fits registers aliases
  · obtain ⟨c', built', stands⟩ := exists_build widths fits
    rw [built] at built'
    exact ⟨fits, Except.ok.inj built' ▸ stands⟩
  · obtain ⟨e, blamed⟩ := exists_blamed fits
    rw [build_of_blamed widths blamed] at built
    cases built

/-- Steps that either fail or only change the state as `change` does, leave what the changes leave. -/
theorem foldlM_eq_foldl {σ α ε : Type} {step : σ → α → Except ε σ} {change : σ → α → σ}
    (changes : ∀ {s a s'}, step s a = .ok s' → s' = change s a) {l : List α} {s s' : σ}
    (ran : l.foldlM step s = .ok s') : s' = l.foldl change s := by
  induction l generalizing s with
  | nil => exact (Except.ok.inj ran).symm
  | cons a l ih =>
    rw [List.foldlM_cons] at ran
    cases stepped : step s a with
    | error e =>
      rw [stepped] at ran
      cases ran
    | ok t =>
      rw [stepped] at ran
      rw [List.foldl_cons, ← changes stepped]
      exact ih ran

theorem eq_put_of_putNew {m m' : NameMap Register} {listed : String × RegisterNumber}
    (taken : putNew m listed = .ok m') : m' = put m listed := by
  rw [putNew] at taken
  split at taken
  · cases taken
  · exact (Except.ok.inj taken).symm

theorem eq_withAlias_of_addAlias {c c' : Catalog} (added : addAlias c listed = .ok c') :
    c' = c.withAlias listed := by
  obtain ⟨target, name⟩ := listed
  rw [addAlias] at added
  split at added
  · cases added
  · split at added
    · cases added
    · split at added
      · cases added
      · exact (Except.ok.inj added).symm

/-- **A catalog that was built is that of its lists.** -/
theorem eq_ofLists_of_build (built : build registers aliases widths = .ok c) :
    c = ofLists registers aliases widths := by
  rw [build] at built
  cases taken : registers.foldlM putNew .empty with
  | error e =>
    rw [taken] at built
    cases built
  | ok m =>
    rw [taken] at built
    rw [ofLists, ← foldlM_eq_foldl eq_put_of_putNew taken]
    exact foldlM_eq_foldl eq_withAlias_of_addAlias built

/-- **Which lists make a catalog, and which error the others end in.**  For all lists of registers, aliases and
widths: there is a catalog exactly if no register is named twice, every alias stands for a listed register and
is not the name of another, and no alias is defined twice.  Building ends in an error exactly if that is the
error of the first entry that does not fit those before it: of the first register named again, and where there
is none, of the first alias that breaks a rule given the aliases before it. -/
theorem build_accepts_or_blames (registers : List (String × RegisterNumber))
    (aliases : List (String × String)) (widths : List (String × Nat)) :
    ((∃ c, build registers aliases widths = .ok c) ↔ Fits registers aliases) ∧
    ∀ e, build registers aliases widths = .error e ↔ Blamed registers aliases e := by
  refine ⟨⟨fun ⟨c, built⟩ => (stands_of_build built).1, fun fits => ?_⟩, fun e => ⟨fun failed => ?_, ?_⟩⟩
  · obtain ⟨c, built, -⟩ := exists_build widths fits
    exact ⟨c, built⟩
  · have misfit : ¬ Fits registers aliases := fun fits => by
      obtain ⟨c, built, -⟩ := exists_build widths fits
      rw [failed] at built
      cases built
    obtain ⟨e', blamed⟩ := exists_blamed misfit
    rw [build_of_blamed widths blamed] at failed
    exact Except.error.inj failed ▸ blamed
  · exact build_of_blamed widths

end HartDebug.Catalog
