import Mathlib.Data.List.Basic
import Mathlib.Data.List.TakeWhile
import SkillHost.Text.Blank

/-! Parts of texts: what a text begins with, and what trimming takes away. -/
namespace SkillHost.Text

theorem afterStart?_eq_some_iff {start t rest : Text} :
    afterStart? start t = some rest ↔ t = start ++ rest := by
  induction start generalizing t with
  | nil => simp [afterStart?, eq_comm]
  | cons a start ih =>
    cases t with
    | nil => simp [afterStart?]
    | cons b t =>
      by_cases h : a = b
      · simp [afterStart?, h, ih]
      · simp [afterStart?, h, Ne.symm h]

theorem isBlank_of_bounds {c : Char} (low : 0x20 < c.toNat) (high : c.toNat < 0x85) :
    isBlank c = false := by
  rw [Bool.eq_false_iff]
  intro blank
  obtain ⟨r, mem, above, below⟩ := (Ranges.has_iff _ c).mp blank
  simp only [blankRanges, List.mem_cons, List.not_mem_nil, or_false] at mem
  rcases mem with rfl | rfl | rfl | rfl | rfl | rfl | rfl | rfl | rfl | rfl <;>
    simp only at above below <;> omega

theorem trimStart_append {b : Text} (h : ∀ c ∈ b, isBlank c = true) (t : Text) :
    trimStart (b ++ t) = trimStart t := List.dropWhile_append_of_pos h

theorem trimStart_of_head {t : Text} (h : ∀ c ∈ t.head?, isBlank c = false) : trimStart t = t := by
  cases t with
  | nil => rfl
  | cons c rest => exact List.dropWhile_cons_of_neg (by simp [h c rfl])

theorem head_trimStart (t : Text) : ∀ c ∈ (trimStart t).head?, isBlank c = false := by
  intro c hc
  have := List.head?_dropWhile_not isBlank t
  simp_all [trimStart]

theorem exists_append_trimStart (t : Text) :
    ∃ b, (∀ c ∈ b, isBlank c = true) ∧ t = b ++ trimStart t :=
  ⟨t.takeWhile isBlank, fun c hc => List.all_eq_true.mp List.all_takeWhile c hc,
    List.takeWhile_append_dropWhile.symm⟩

theorem trimStart_append_of_ne_nil {t : Text} (h : trimStart t ≠ []) (y : Text) :
    trimStart (t ++ y) = trimStart t ++ y := by
  obtain ⟨b, hb, ht⟩ := exists_append_trimStart t
  obtain ⟨c, rest, hc⟩ := List.exists_cons_of_ne_nil h
  have head := head_trimStart t c (by rw [hc]; rfl)
  rw [ht, List.append_assoc, trimStart_append hb, hc, trimStart_append hb,
    trimStart_of_head (by rintro a ⟨⟩; exact head), trimStart_of_head (by rintro a ⟨⟩; exact head)]

theorem trimStart_eq_nil_iff {t : Text} : trimStart t = [] ↔ ∀ c ∈ t, isBlank c = true :=
  List.dropWhile_eq_nil_iff

theorem trimStart_concat (t : Text) (c : Char) :
    trimStart (t ++ [c]) = trimStart t ++ [c] ∨
      isBlank c = true ∧ trimStart t = [] ∧ trimStart (t ++ [c]) = [] := by
  by_cases h : trimStart t = []
  · rw [trimStart_append (trimStart_eq_nil_iff.mp h), h]
    cases hc : isBlank c with
    | true => exact .inr ⟨rfl, rfl, List.dropWhile_cons_of_pos hc⟩
    | false => exact .inl (List.dropWhile_cons_of_neg (by simp [hc]))
  · exact .inl (trimStart_append_of_ne_nil h [c])

theorem exists_trimEnd_append (t : Text) :
    ∃ b, (∀ c ∈ b, isBlank c = true) ∧ t = trimEnd t ++ b := by
  obtain ⟨b, hb, ht⟩ := exists_append_trimStart t.reverse
  refine ⟨b.reverse, fun c hc => hb c (List.mem_reverse.mp hc), ?_⟩
  rw [trimEnd, ← List.reverse_append]
  exact List.reverse_eq_iff.mp ht

theorem trimEnd_append (t : Text) {b : Text} (h : ∀ c ∈ b, isBlank c = true) :
    trimEnd (t ++ b) = trimEnd t := by
  rw [trimEnd, List.reverse_append,
    List.dropWhile_append_of_pos fun c hc => h c (List.mem_reverse.mp hc), trimEnd]

theorem trim_append (t : Text) {b : Text} (h : ∀ c ∈ b, isBlank c = true) :
    trim (t ++ b) = trim t := by
  by_cases empty : trimStart t = []
  · rw [trim, trimStart_append (trimStart_eq_nil_iff.mp empty), trimStart_eq_nil_iff.mpr h, trim,
      empty]
  · rw [trim, trimStart_append_of_ne_nil empty, trimEnd_append _ h, trim]

theorem trimEnd_of_getLast {t : Text} (h : ∀ c ∈ t.getLast?, isBlank c = false) :
    trimEnd t = t := by
  have h' : trimStart t.reverse = t.reverse := by
    apply trimStart_of_head
    simpa using h
  rw [trimEnd, show t.reverse.dropWhile isBlank = t.reverse from h', List.reverse_reverse]

theorem getLast_trimEnd (t : Text) : ∀ c ∈ (trimEnd t).getLast?, isBlank c = false := by
  rw [trimEnd, List.getLast?_reverse]
  exact head_trimStart t.reverse

theorem trim_subset (t : Text) : trim t ⊆ t := by
  intro c hc
  have inside := List.dropWhile_subset _ (List.mem_reverse.mp hc)
  exact List.dropWhile_subset _ (List.mem_reverse.mp inside)

theorem trim_append_append {t : Text} (head : ∀ c ∈ t.head?, isBlank c = false)
    (last : ∀ c ∈ t.getLast?, isBlank c = false) {a b : Text}
    (ha : ∀ c ∈ a, isBlank c = true) (hb : ∀ c ∈ b, isBlank c = true) :
    trim (a ++ t ++ b) = t := by
  rw [trim, List.append_assoc, trimStart_append ha]
  cases t with
  | nil =>
    rw [List.nil_append, ← List.append_nil b, trimStart_append hb]
    rfl
  | cons c rest =>
    rw [trimStart_of_head (by simpa using head), trimEnd_append _ hb, trimEnd_of_getLast last]

theorem trim_trimStart_of_trim_eq {t x y : Text} (h : trim t = x ++ y) :
    trim (trimStart y) = trimStart y := by
  rw [trim, trimStart_of_head (head_trimStart y)]
  apply trimEnd_of_getLast
  intro c hc
  obtain ⟨b, -, hy⟩ := exists_append_trimStart y
  have ne : trimStart y ≠ [] := by
    intro empty
    simp [empty] at hc
  apply getLast_trimEnd (trimStart t)
  rw [show trimEnd (trimStart t) = x ++ y from h, hy, ← List.append_assoc,
    List.getLast?_append_of_ne_nil _ ne]
  exact hc

end SkillHost.Text
