import HartDebug.DebugModule
import HartDebug.Proofs.Bits.Fields
import Mathlib.Data.List.Pairwise

/-!
# Fields assigned one after another

The fields of a register lie apart, so numbers can be assigned to them in any order: what a field holds in the
end depends on what was assigned to this field, and on nothing else.

* `BitField.held` — what a field holds of a number;
* `BitField.get_assign`, `BitField.get_assign_of_apart`, `BitField.getLsbD_assign_of_outside` — **one
  assignment**, as its field, another field and the bits around it see it;
* `Layout.all`, `Layout.apart_of_mem` — the registers, whose **fields lie apart**;
* `Layout.get_assignAll`, `Layout.getLsbD_assignAll_of_outside` — **a run of assignments**, as a field and the
  bits around all of them see it;
* `Layout.fields_independent` — **the fields of a register are independent of each other**.
-/

namespace HartDebug

namespace BitField

/-- The bit of a word belongs to the field. -/
def Covers (f : BitField) (i : Nat) : Prop :=
  f.low ≤ i ∧ i < f.low + f.width

instance (f : BitField) (i : Nat) : Decidable (f.Covers i) :=
  inferInstanceAs (Decidable (_ ∧ _))

/-- What a field holds of a number: a flag whether the number is other than zero, any other field its low
bits. -/
def held (f : BitField) (n : Nat) : Nat :=
  if f.IsFlag then (n != 0).toNat else n % 2 ^ f.width

instance : Std.Symm Apart :=
  ⟨fun _ _ => Or.symm⟩

/-- A bit of a field is one of the number that the field holds. -/
theorem getLsbD_of_covers {f : BitField} {i : Nat} (inside : f.Covers i) (w : Word) :
    w.getLsbD i = (f.get w).testBit (i - f.low) := by
  obtain ⟨low, high⟩ := inside
  have offset : f.low + (i - f.low) = i := by omega
  have within : i - f.low < f.width := by omega
  rw [testBit_get, offset, decide_eq_true within, Bool.true_and]

/-! ### One assignment -/

/-- **A field holds what was assigned to it.** -/
theorem get_assign (f : BitField) (n : Nat) (w : Word) : f.get (f.assign n w) = f.held n := by
  rw [assign, held]
  split
  · next flag =>
    have one : f.width = 1 := flag
    rw [setFlag, get_set, one]
    cases n != 0 <;> rfl
  · exact get_set f n w

/-- **A field that lies apart holds what it held.** -/
theorem get_assign_of_apart {f g : BitField} (h : f.Apart g) (n : Nat) (w : Word) :
    f.get (g.assign n w) = f.get w := by
  rw [assign]
  split
  · exact get_setFlag_of_apart h _ w
  · exact get_set_of_apart h n w

/-- **Every bit outside the field stays.** -/
theorem getLsbD_assign_of_outside {f : BitField} {i : Nat} (outside : ¬ f.Covers i) (n : Nat) (w : Word) :
    (f.assign n w).getLsbD i = w.getLsbD i := by
  rw [assign]
  split
  · exact (getLsbD_set f _ w i).trans (if_neg outside)
  · exact (getLsbD_set f n w i).trans (if_neg outside)

/-- A flag that holds a number is set if the number is other than zero. -/
theorem isSet_of_get_eq_held {f : BitField} (flag : f.IsFlag) {n : Nat} {w : Word}
    (holds : f.get w = f.held n) : f.isSet w = (n != 0) := by
  rw [isSet, holds, held, if_pos flag]
  cases n != 0 <;> rfl

end BitField

namespace Layout

/-- The registers whose fields are known. -/
def all : List Layout :=
  [Dtmcs.layout, Dmcontrol.layout, Dmstatus.layout, Abstractcs.layout, AccessRegister.layout]

/-- **Two fields of a register lie apart.** -/
theorem apart_of_mem {l : Layout} (mem : l ∈ all) {f g : BitField} (hf : f ∈ l.fields) (hg : g ∈ l.fields)
    (different : f ≠ g) : f.Apart g := by
  have each : ∀ l ∈ all, l.fields.Pairwise BitField.Apart := by decide
  exact (each l mem).forall hf hg different

/-! ### Runs of assignments -/

/-- The numbers assigned to a field, one after another. -/
def numbers (f : BitField) (assignments : List (BitField × Nat)) : List Nat :=
  (assignments.filter (·.1 = f)).map (·.2)

/-- Every field receives the same numbers in the same order; assignments to different fields may have changed
places. -/
def Reordered (assignments others : List (BitField × Nat)) : Prop :=
  ∀ f, numbers f others = numbers f assignments

variable {l : Layout} {f : BitField} {assignments others : List (BitField × Nat)}

theorem numbers_cons_self (f : BitField) (n : Nat) (rest : List (BitField × Nat)) :
    numbers f ((f, n) :: rest) = n :: numbers f rest := by
  rw [numbers, List.filter_cons_of_pos (by simp)]
  rfl

theorem numbers_cons_of_ne {g : BitField} (different : g ≠ f) (n : Nat) (rest : List (BitField × Nat)) :
    numbers f ((g, n) :: rest) = numbers f rest := by
  rw [numbers, List.filter_cons_of_neg (by simpa using different)]
  rfl

theorem numbers_append (f : BitField) (first second : List (BitField × Nat)) :
    numbers f (first ++ second) = numbers f first ++ numbers f second := by
  rw [numbers, List.filter_append, List.map_append]
  rfl

/-- A field receives no number if it is not assigned. -/
theorem numbers_eq_nil_iff : numbers f assignments = [] ↔ ∀ a ∈ assignments, a.1 ≠ f := by
  rw [numbers, List.map_eq_nil_iff, List.filter_eq_nil_iff]
  simp only [decide_eq_true_eq, ne_eq]

/-- A run of assignments goes on where the first one has been made. -/
theorem assignAll_cons (w : Word) (g : BitField) (n : Nat) (rest : List (BitField × Nat)) :
    assignAll w ((g, n) :: rest) = assignAll (g.assign n w) rest := rfl

/-- **A field holds the last number that it has received**, or what it held before if it has received none.  The
induction is on the assignments. -/
theorem get_assignAll (mem : l ∈ all) (own : ∀ a ∈ assignments, a.1 ∈ l.fields) (hf : f ∈ l.fields)
    (w : Word) :
    f.get (assignAll w assignments) = (numbers f assignments).getLast?.elim (f.get w) f.held := by
  induction assignments generalizing w with
  | nil => rfl
  | cons first rest ih =>
    obtain ⟨g, n⟩ := first
    obtain ⟨hg, own_rest⟩ := List.forall_mem_cons.1 own
    rw [assignAll_cons, ih own_rest]
    by_cases same : g = f
    · subst same
      rw [numbers_cons_self, List.getLast?_cons, BitField.get_assign]
      cases (numbers g rest).getLast? <;> rfl
    · rw [numbers_cons_of_ne same, BitField.get_assign_of_apart (apart_of_mem mem hf hg (Ne.symm same))]

/-- **Every bit outside the assigned fields stays.** -/
theorem getLsbD_assignAll_of_outside {i : Nat} (outside : ∀ a ∈ assignments, ¬ a.1.Covers i) (w : Word) :
    (assignAll w assignments).getLsbD i = w.getLsbD i := by
  induction assignments generalizing w with
  | nil => rfl
  | cons first rest ih =>
    obtain ⟨here, outside_rest⟩ := List.forall_mem_cons.1 outside
    rw [assignAll_cons, ih outside_rest, BitField.getLsbD_assign_of_outside here]

/-- The same fields are assigned in another order. -/
theorem Reordered.assigned (h : Reordered assignments others) {a : BitField × Nat} (mem : a ∈ others) :
    ∃ b ∈ assignments, b.1 = a.1 := by
  by_contra absent
  have none_received : numbers a.1 others = [] := by
    rw [h a.1, numbers_eq_nil_iff]
    exact fun b mem_b same => absent ⟨b, mem_b, same⟩
  exact numbers_eq_nil_iff.1 none_received a mem rfl

/-- Two assignments to different fields change places. -/
theorem reordered_swap {g : BitField} (different : f ≠ g) (n m : Nat) (before after : List (BitField × Nat)) :
    Reordered (before ++ (f, n) :: (g, m) :: after) (before ++ (g, m) :: (f, n) :: after) := by
  intro k
  rw [numbers_append, numbers_append]
  by_cases first : f = k
  · subst first
    rw [numbers_cons_of_ne (Ne.symm different), numbers_cons_self, numbers_cons_self,
      numbers_cons_of_ne (Ne.symm different)]
  · by_cases second : g = k
    · subst second
      rw [numbers_cons_self, numbers_cons_of_ne first, numbers_cons_of_ne first, numbers_cons_self]
    · rw [numbers_cons_of_ne second, numbers_cons_of_ne first, numbers_cons_of_ne first,
        numbers_cons_of_ne second]

/-- **The order among different fields makes no difference.**  Each bit of the result belongs to a field that was
assigned, and then the last number that this field has received decides, or to none of them. -/
theorem assignAll_of_reordered (mem : l ∈ all) (own : ∀ a ∈ assignments, a.1 ∈ l.fields)
    (h : Reordered assignments others) (w : Word) : assignAll w others = assignAll w assignments := by
  have own_others : ∀ a ∈ others, a.1 ∈ l.fields := by
    intro a mem_a
    obtain ⟨b, mem_b, same⟩ := h.assigned mem_a
    exact same ▸ own b mem_b
  apply BitVec.eq_of_getLsbD_eq
  intro i _
  by_cases assigned : ∃ a ∈ assignments, a.1.Covers i
  · obtain ⟨a, mem_a, inside⟩ := assigned
    have ha := own a mem_a
    rw [BitField.getLsbD_of_covers inside, BitField.getLsbD_of_covers inside, get_assignAll mem own_others ha,
      get_assignAll mem own ha, h a.1]
  · have outside : ∀ a ∈ assignments, ¬ a.1.Covers i := fun a mem_a inside => assigned ⟨a, mem_a, inside⟩
    have outside_others : ∀ a ∈ others, ¬ a.1.Covers i := by
      intro a mem_a
      obtain ⟨b, mem_b, same⟩ := h.assigned mem_a
      exact same ▸ outside b mem_b
    rw [getLsbD_assignAll_of_outside outside_others, getLsbD_assignAll_of_outside outside]

/-- What assignments to fields of a register come to. -/
structure Independent (l : Layout) (w : Word) (assignments : List (BitField × Nat)) : Prop where
  /-- A field reads as the last number assigned to it: a flag as whether the number is other than zero, and any
  other field as the number cut to its width. -/
  assigned : ∀ f ∈ l.fields, ∀ before n after, assignments = before ++ (f, n) :: after →
    (∀ a ∈ after, a.1 ≠ f) →
      (f.IsFlag → f.isSet (assignAll w assignments) = (n != 0)) ∧
        (¬ f.IsFlag → f.get (assignAll w assignments) = n % 2 ^ f.width)
  /-- A field to which nothing was assigned reads as before. -/
  unassigned : ∀ f ∈ l.fields, (∀ a ∈ assignments, a.1 ≠ f) →
    f.isSet (assignAll w assignments) = f.isSet w ∧ f.get (assignAll w assignments) = f.get w
  /-- The bits outside the assigned fields are as before. -/
  outside : ∀ i, (∀ a ∈ assignments, ¬ a.1.Covers i) → (assignAll w assignments).getLsbD i = w.getLsbD i
  /-- Assignments to different fields may change places. -/
  reordered : ∀ others, Reordered assignments others → assignAll w others = assignAll w assignments

/-- **The fields of a register are independent of each other**: whatever word the register starts from, and
whichever of its fields are assigned in whichever order, however often and however large the numbers, each field
ends with the last number that was meant for it, and nothing else has changed. -/
theorem fields_independent (mem : l ∈ all) (own : ∀ a ∈ assignments, a.1 ∈ l.fields) (w : Word) :
    l.Independent w assignments where
  assigned := by
    intro f hf before n after split last
    have received : (numbers f assignments).getLast? = some n := by
      rw [split, numbers_append, numbers_cons_self, numbers_eq_nil_iff.2 last, List.getLast?_concat]
    have holds : f.get (assignAll w assignments) = f.held n := by
      rw [get_assignAll mem own hf, received]
      rfl
    exact ⟨fun flag => BitField.isSet_of_get_eq_held flag holds, fun wide => holds.trans (if_neg wide)⟩
  unassigned := by
    intro f hf absent
    have same : f.get (assignAll w assignments) = f.get w := by
      rw [get_assignAll mem own hf, numbers_eq_nil_iff.2 absent]
      rfl
    exact ⟨by rw [BitField.isSet, same, BitField.isSet], same⟩
  outside _ outside := getLsbD_assignAll_of_outside outside w
  reordered _ h := assignAll_of_reordered mem own h w

/-- A command word from one with all bits set: numbers too wide for their fields, one field assigned twice, and
the same with its first assignment later. -/
theorem fields_independent_of_command :
    let assignments := [(AccessRegister.regno, 0x12345), (AccessRegister.aarsize, 0xb),
      (AccessRegister.write, 2), (AccessRegister.regno, 0x51008)]
    let others := [(AccessRegister.aarsize, 0xb), (AccessRegister.regno, 0x12345),
      (AccessRegister.write, 2), (AccessRegister.regno, 0x51008)]
    AccessRegister.layout ∈ all ∧ (∀ a ∈ assignments, a.1 ∈ AccessRegister.layout.fields) ∧
      AccessRegister.layout.Independent 0xffffffff assignments ∧
      assignAll 0xffffffff others = assignAll 0xffffffff assignments ∧
      assignAll 0xffffffff assignments = 0xffbf1008 := by
  intro assignments others
  have mem : AccessRegister.layout ∈ all := by decide
  have own : ∀ a ∈ assignments, a.1 ∈ AccessRegister.layout.fields := by decide
  have independent := fields_independent mem own 0xffffffff
  have swapped : Reordered assignments others := reordered_swap (by decide) _ _ [] _
  exact ⟨mem, own, independent, independent.reordered others swapped, by decide⟩

end Layout

end HartDebug
