/-! Finite tables: association lists in which no key occurs twice. The look-up equations below
say what each operation does; nothing else depends on the order of the entries. -/
namespace SkillHost

structure Table (κ α : Type) where
  entries : List (κ × α)
  distinct : (entries.map Prod.fst).Nodup

namespace Table
variable {κ α : Type} [DecidableEq κ]

def empty : Table κ α := ⟨[], List.nodup_nil⟩

def find? (k : κ) : List (κ × α) → Option α
  | [] => none
  | (k', a) :: rest => if k' = k then some a else find? k rest

def get? (t : Table κ α) (k : κ) : Option α := find? k t.entries

def contains (t : Table κ α) (k : κ) : Bool := (t.get? k).isSome

def size (t : Table κ α) : Nat := t.entries.length

def isEmpty (t : Table κ α) : Bool := t.entries.isEmpty

def filter (t : Table κ α) (p : κ → α → Bool) : Table κ α :=
  ⟨t.entries.filter fun e => p e.1 e.2, (List.filter_sublist.map Prod.fst).nodup t.distinct⟩

def erase (t : Table κ α) (k : κ) : Table κ α := t.filter fun k' _ => k' != k

def insert (t : Table κ α) (k : κ) (a : α) : Table κ α :=
  ⟨(k, a) :: (t.erase k).entries, by
    simp only [List.map_cons, List.nodup_cons]
    exact ⟨by simp [erase, filter], (t.erase k).distinct⟩⟩

def ofList (pairs : List (κ × α)) : Table κ α :=
  pairs.foldl (fun t e => t.insert e.1 e.2) empty

@[simp] theorem get?_empty (k : κ) : (empty : Table κ α).get? k = none := rfl

theorem find?_filter_ne (entries : List (κ × α)) (k k' : κ) :
    find? k' (entries.filter fun e => e.1 != k) = if k' = k then none else find? k' entries := by
  induction entries with
  | nil => simp [find?]
  | cons e rest ih =>
    obtain ⟨a, b⟩ := e
    by_cases ha : a = k
    · simp only [List.filter_cons, ha, bne_self_eq_false, Bool.false_eq_true, ↓reduceIte, ih, find?]
      by_cases hk : k' = k
      · simp [hk]
      · simp [hk, Ne.symm hk]
    · have hne : (a != k) = true := by simp [ha]
      simp only [List.filter_cons, hne, ↓reduceIte, find?, ih]
      by_cases hk : k' = k
      · simp [hk, ha]
      · simp [hk]

@[simp] theorem get?_erase (t : Table κ α) (k k' : κ) :
    (t.erase k).get? k' = if k' = k then none else t.get? k' :=
  find?_filter_ne t.entries k k'

@[simp] theorem get?_insert (t : Table κ α) (k k' : κ) (a : α) :
    (t.insert k a).get? k' = if k' = k then some a else t.get? k' := by
  have h := get?_erase t k k'
  by_cases hk : k' = k
  · simp [get?, insert, find?, hk]
  · rw [if_neg hk] at h ⊢
    simpa only [get?, insert, find?, Ne.symm hk, ↓reduceIte] using h

theorem insert_insert (t : Table κ α) (k : κ) (a b : α) :
    (t.insert k a).insert k b = t.insert k b := by
  simp [insert, erase, filter]

end Table

end SkillHost
