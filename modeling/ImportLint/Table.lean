/-!
# Tables

A finite map that remembers the order of insertion, and values with an identity.

* `Table`: at most one value for a key; `insert` overwrites, `erase` forgets.
* `Shared`: a value together with the number of the entry that holds it, so that two answers
  can be told to be one and the same entry and not merely equal.
-/

namespace ImportLint

/-- A value held by one entry of a table; `id` numbers the entries as they were made. -/
structure Shared (α : Type) where
  id : Nat
  value : α
deriving Repr, DecidableEq

instance [Inhabited α] : Inhabited (Shared α) := ⟨⟨0, default⟩⟩

/-- Keys with their values, newest first. -/
structure Table (κ α : Type) where
  entries : List (κ × α) := []

namespace Table

variable {κ α : Type} [DecidableEq κ]

def empty : Table κ α := {}

instance : Inhabited (Table κ α) := ⟨empty⟩

/-- The value of a key. -/
def get? (t : Table κ α) (k : κ) : Option α := t.entries.lookup k

/-- Forgets a key. -/
def erase (t : Table κ α) (k : κ) : Table κ α := ⟨t.entries.filter fun e => e.1 ≠ k⟩

/-- Gives a key a value, in place of any earlier one. -/
def insert (t : Table κ α) (k : κ) (v : α) : Table κ α := ⟨(k, v) :: (t.erase k).entries⟩

def size (t : Table κ α) : Nat := t.entries.length

def isEmpty (t : Table κ α) : Bool := t.entries.isEmpty

def keys (t : Table κ α) : List κ := t.entries.map Prod.fst

theorem get?_erase (t : Table κ α) (k k' : κ) :
    (t.erase k).get? k' = if k' = k then none else t.get? k' := by
  obtain ⟨es⟩ := t
  simp only [get?, erase]
  induction es with
  | nil => simp
  | cons e es ih =>
    obtain ⟨a, v⟩ := e
    by_cases h : a = k <;> by_cases h' : k' = a <;> grind

theorem get?_insert (t : Table κ α) (k k' : κ) (v : α) :
    (t.insert k v).get? k' = if k' = k then some v else t.get? k' := by
  have h := get?_erase t k k'
  simp only [get?, insert, List.lookup_cons] at h ⊢
  by_cases hk : k' = k
  · simp [hk]
  · have hb : (k' == k) = false := by simpa using hk
    simp only [hb, hk, if_false] at h ⊢
    exact h

theorem mem_keys_iff (t : Table κ α) (k : κ) : k ∈ t.keys ↔ ∃ v, t.get? k = some v := by
  obtain ⟨es⟩ := t
  simp only [get?, keys]
  induction es with
  | nil => simp
  | cons e es ih =>
    obtain ⟨a, v⟩ := e
    by_cases h : k = a
    · simp [h]
    · have hb : (k == a) = false := by simpa using h
      simp [List.lookup_cons, hb, h, ih]

theorem keys_erase (t : Table κ α) (k : κ) : (t.erase k).keys = t.keys.filter (· ≠ k) := by
  simp only [keys, erase, List.filter_map]
  rfl

theorem keys_insert (t : Table κ α) (k : κ) (v : α) :
    (t.insert k v).keys = k :: t.keys.filter (· ≠ k) :=
  congrArg (k :: ·) (t.keys_erase k)

theorem nodup_keys_erase {t : Table κ α} (h : t.keys.Nodup) (k : κ) : (t.erase k).keys.Nodup := by
  rw [keys_erase]
  exact h.filter _

theorem nodup_keys_insert {t : Table κ α} (h : t.keys.Nodup) (k : κ) (v : α) :
    (t.insert k v).keys.Nodup := by
  rw [keys_insert, List.nodup_cons]
  exact ⟨by simp, h.filter _⟩

/-- A new key comes first, and no entry is lost. -/
theorem entries_insert_of_get?_eq_none {t : Table κ α} {k : κ} (h : t.get? k = none) (v : α) :
    (t.insert k v).entries = (k, v) :: t.entries := by
  have hk : ∀ e ∈ t.entries, e.1 ≠ k := by
    intro e he hek
    have hm : k ∈ t.keys := List.mem_map.mpr ⟨e, he, hek⟩
    obtain ⟨w, hw⟩ := (mem_keys_iff t k).mp hm
    rw [h] at hw
    cases hw
  rw [insert, erase, List.filter_eq_self.mpr fun e he => by simpa using hk e he]

end Table

end ImportLint
