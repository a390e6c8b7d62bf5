import Mathlib.Data.List.Dedup
import Mathlib.Data.Finset.Card

/-!
Rust's `HashSet` and `HashMap` as the policies use them. A set is the list of its
elements in iteration order and a map the list of its entries; neither holds an
element or a key twice, and both carry that fact as a field. Rust fixes no
iteration order, so the statements of the project speak of membership and length,
which do not depend on the order of these lists.
-/
namespace KubewardenPolicies

/-- `std::collections::HashSet`: its elements in iteration order, each once. -/
structure HashSet (α : Type) where
  toList : List α
  nodup : toList.Nodup

namespace HashSet

variable {α : Type}

instance : Membership α (HashSet α) := ⟨fun s a => a ∈ s.toList⟩

@[simp] theorem mem_toList {s : HashSet α} {a : α} : a ∈ s.toList ↔ a ∈ s := Iff.rfl

def empty : HashSet α := ⟨[], List.nodup_nil⟩

def isEmpty (s : HashSet α) : Bool := s.toList.isEmpty

def len (s : HashSet α) : Nat := s.toList.length

@[simp] theorem not_mem_empty (a : α) : a ∉ (empty : HashSet α) := List.not_mem_nil a

theorem isEmpty_iff {s : HashSet α} : s.isEmpty = true ↔ ∀ a, a ∉ s := by
  simp only [isEmpty, List.isEmpty_iff, List.eq_nil_iff_forall_not_mem, mem_toList]

/-- A loop that grows a set: when each step adds the elements `P a` names, the loop
adds those of every element it visits. -/
theorem mem_foldl {β : Type} {step : HashSet α → β → HashSet α} {P : β → α → Prop}
    (hstep : ∀ s a b, b ∈ step s a ↔ b ∈ s ∨ P a b) (l : List β) (s : HashSet α) (b : α) :
    b ∈ l.foldl step s ↔ b ∈ s ∨ ∃ a ∈ l, P a b := by
  induction l generalizing s with
  | nil => simp
  | cons a l ih =>
    rw [List.foldl_cons, ih, hstep]
    simp only [List.mem_cons, exists_eq_or_imp]
    tauto

variable [DecidableEq α]

instance (a : α) (s : HashSet α) : Decidable (a ∈ s) :=
  inferInstanceAs (Decidable (a ∈ s.toList))

/-- `HashSet::insert`: an element already present leaves the set as it is. -/
def insert (s : HashSet α) (a : α) : HashSet α := ⟨List.insert a s.toList, s.nodup.insert⟩

/-- `Extend::extend`: insert the elements in turn. -/
def extend (s : HashSet α) (l : List α) : HashSet α := l.foldl insert s

/-- `FromIterator::from_iter`, which `collect::<HashSet<_>>()` calls. -/
def ofList (l : List α) : HashSet α := empty.extend l

/-- `HashSet::intersection`, collected: the elements of `s` that `t` holds. -/
def intersection (s t : HashSet α) : HashSet α :=
  ⟨s.toList.filter (fun a => decide (a ∈ t)), s.nodup.filter _⟩

@[simp] theorem mem_insert {s : HashSet α} {a b : α} : b ∈ s.insert a ↔ b = a ∨ b ∈ s :=
  List.mem_insert_iff

@[simp] theorem mem_extend {s : HashSet α} {l : List α} {b : α} :
    b ∈ s.extend l ↔ b ∈ s ∨ b ∈ l := by
  induction l generalizing s with
  | nil => simp [extend]
  | cons a l ih =>
    simp only [extend, List.foldl_cons] at ih ⊢
    rw [ih, mem_insert, List.mem_cons]
    tauto

@[simp] theorem mem_ofList {l : List α} {b : α} : b ∈ ofList l ↔ b ∈ l := by
  simp [ofList]

@[simp] theorem mem_intersection {s t : HashSet α} {b : α} :
    b ∈ s.intersection t ↔ b ∈ s ∧ b ∈ t := by
  show b ∈ s.toList.filter _ ↔ _
  simp

theorem mem_foldl_extend {β : Type} {f : β → List α} (l : List β) (s : HashSet α) (b : α) :
    b ∈ l.foldl (fun s a => s.extend (f a)) s ↔ b ∈ s ∨ ∃ a ∈ l, b ∈ f a :=
  mem_foldl (P := fun a b => b ∈ f a) (fun _ _ _ => mem_extend) l s b

theorem mem_foldl_insert {β : Type} {f : β → α} (l : List β) (s : HashSet α) (b : α) :
    b ∈ l.foldl (fun s a => s.insert (f a)) s ↔ b ∈ s ∨ ∃ a ∈ l, b = f a :=
  mem_foldl (P := fun a b => b = f a) (fun _ _ _ => mem_insert.trans or_comm) l s b

/-- The size of a set is the size of any finite set with its members. -/
theorem len_eq_card {s : HashSet α} {t : Finset α} (h : ∀ a, a ∈ s ↔ a ∈ t) :
    s.len = t.card := by
  rw [len, ← List.toFinset_card_of_nodup s.nodup]
  congr 1
  ext a
  simp [h]

end HashSet

/-- `std::collections::HashMap`: its entries in iteration order, no key twice. -/
structure HashMap (κ ν : Type) where
  entries : List (κ × ν)
  nodupKeys : (entries.map Prod.fst).Nodup

namespace HashMap

variable {κ ν : Type}

def empty : HashMap κ ν := ⟨[], List.nodup_nil⟩

def keys (m : HashMap κ ν) : List κ := m.entries.map Prod.fst

theorem mem_keys {m : HashMap κ ν} {k : κ} : k ∈ m.keys ↔ ∃ v, (k, v) ∈ m.entries := by
  simp [keys]

@[simp] theorem not_mem_entries_empty (e : κ × ν) : e ∉ (empty : HashMap κ ν).entries :=
  List.not_mem_nil e

variable [DecidableEq κ]

private theorem map_fst_update (l : List (κ × ν)) (key : κ) (f : ν → ν) :
    (l.map fun e => if e.1 = key then (e.1, f e.2) else e).map Prod.fst = l.map Prod.fst := by
  rw [List.map_map]
  exact List.map_congr_left fun e _ => by by_cases h : e.1 = key <;> simp [h]

/-- `m.entry(key).and_modify(f).or_insert(v)`: update the value under `key` in place,
or add the entry `(key, v)` when the key is new. -/
def modifyOrInsert (m : HashMap κ ν) (key : κ) (f : ν → ν) (v : ν) : HashMap κ ν :=
  if h : key ∈ m.keys then
    ⟨m.entries.map fun e => if e.1 = key then (e.1, f e.2) else e,
      by rw [map_fst_update]; exact m.nodupKeys⟩
  else
    ⟨m.entries ++ [(key, v)], by
      rw [List.map_append, List.map_singleton, ← List.concat_eq_append]
      exact m.nodupKeys.concat h⟩

theorem mem_keys_modifyOrInsert {m : HashMap κ ν} {key k : κ} {f : ν → ν} {v : ν} :
    k ∈ (m.modifyOrInsert key f v).keys ↔ k ∈ m.keys ∨ k = key := by
  unfold modifyOrInsert
  split
  · simp only [keys, map_fst_update] at *
    constructor
    · exact Or.inl
    · rintro (h | rfl) <;> assumption
  · simp [keys]

/-- What `modifyOrInsert` leaves under each key: other entries as they were, and under
`key` either the modified old value or, for a new key, `v`. -/
theorem mem_entries_modifyOrInsert {m : HashMap κ ν} {key : κ} {f : ν → ν} {v : ν}
    {e : κ × ν} :
    e ∈ (m.modifyOrInsert key f v).entries ↔
      (e.1 ≠ key ∧ e ∈ m.entries) ∨
      (e.1 = key ∧ ((∃ w, (key, w) ∈ m.entries ∧ e.2 = f w) ∨ (key ∉ m.keys ∧ e.2 = v))) := by
  obtain ⟨k, w⟩ := e
  unfold modifyOrInsert
  split
  · rename_i hkey
    simp only [List.mem_map, hkey, not_true_eq_false, false_and, or_false]
    constructor
    · rintro ⟨⟨k₀, w₀⟩, hmem, heq⟩
      by_cases h : k₀ = key <;> aesop
    · rintro (⟨h, hmem⟩ | ⟨rfl, w₀, hmem, rfl⟩)
      · exact ⟨(k, w), hmem, by simp [h]⟩
      · exact ⟨(k, w₀), hmem, by simp⟩
  · rename_i hkey
    have hfresh : ∀ w₀, (key, w₀) ∉ m.entries := fun w₀ h => hkey (mem_keys.mpr ⟨w₀, h⟩)
    simp only [List.mem_append, List.mem_singleton, Prod.mk.injEq, hkey, not_false_eq_true,
      true_and]
    aesop

end HashMap

end KubewardenPolicies
