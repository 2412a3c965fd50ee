import SkillHost.Proofs.Text.Lowercase

/-! Spellings of a text that are one in lower case: the text in lower case itself, and the text with
letters of ASCII in the other case. No run of capitals is sent into another one, so what is in lower
case stays as it is. A capital sigma looks at its neighbours, but not at the case of ASCII letters
among them, and in lower case there is none. -/
namespace SkillHost.Text

def CaseRun.low (r : CaseRun) : Nat := (r.first + r.shift).toNat

def CaseRun.high (r : CaseRun) : Nat := (r.last + r.shift).toNat

/-- No character of one run is sent into the other: all of them go to places before it, to places
behind it, or to places between its characters. -/
def CaseRun.avoids (r r' : CaseRun) : Bool :=
  -- `ble` is what evaluates fast: the runs are compared in pairs.
  (r.high + 1).ble r'.first || (r'.last + 1).ble r.low ||
    (r.step == 2 || r.first == r.last) && r'.step == 2 && (r.low + r'.first) % 2 == 1

/-- The capital that grows, as a run. -/
def growing : CaseRun := ⟨0x130, 0x130, 1, 0⟩

theorem caseRuns_avoid : (caseRuns.all fun r => (growing :: caseRuns).all r.avoids) = true := by
  decide +kernel

theorem CaseRun.has_eq_false_of_avoids {r r' : CaseRun} (mem : r ∈ caseRuns)
    (avoids : r.avoids r' = true) {a c : Char} (has : r.has a = true)
    (image : (c.toNat : Int) = a.toNat + r.shift) : r'.has c = false := by
  have positive := (caseRuns_bounds r mem).1
  have low : (r.low : Int) = r.first + r.shift := Int.toNat_of_nonneg (by omega)
  have high : r.high = (r.last + r.shift).toNat := rfl
  rw [Bool.eq_false_iff]
  intro inside
  simp only [CaseRun.avoids, CaseRun.has, Bool.and_eq_true, Bool.or_eq_true, decide_eq_true_eq,
    Nat.ble_eq, beq_iff_eq] at avoids has inside
  rcases avoids with (before | behind) | ⟨⟨step | single, step'⟩, between⟩
  · omega
  · omega
  · rw [step] at has
    rw [step'] at inside
    omega
  · rw [step'] at inside
    omega

def IsLower (c : Char) : Prop := c ≠ 'Σ' ∧ lowerChar c = [c]

theorem isLower_of_has_eq_false {c : Char} (h : ∀ r ∈ growing :: caseRuns, r.has c = false) :
    IsLower c := by
  rw [List.forall_mem_cons] at h
  obtain ⟨single, none⟩ := h
  constructor
  · rintro rfl
    have capital : caseRuns.any (·.has 'Σ') = true := by decide +kernel
    obtain ⟨r, mem, has⟩ := List.any_eq_true.mp capital
    exact Bool.false_ne_true ((none r mem).symm.trans has)
  · rw [lowerChar, if_neg, List.find?_eq_none.mpr fun r mem => by rw [none r mem]; decide]
    rintro rfl
    exact absurd single (by decide)

theorem isLower_of_mem_lowerChar {a c : Char} (plain : a ≠ 'Σ') (h : c ∈ lowerChar a) :
    IsLower c := by
  unfold lowerChar at h
  split at h
  · simp only [List.mem_cons, List.not_mem_nil, or_false] at h
    unfold IsLower
    rcases h with rfl | rfl <;> decide +kernel
  split at h
  · rename_i r found
    obtain rfl := List.mem_singleton.mp h
    have mem := List.mem_of_find?_eq_some found
    have has := List.find?_some found
    refine isLower_of_has_eq_false fun r' mem' => ?_
    have avoids := List.all_eq_true.mp (List.all_eq_true.mp caseRuns_avoid r mem) r' mem'
    exact CaseRun.has_eq_false_of_avoids mem avoids has (CaseRun.toNat_shifted mem has)
  · rename_i grows _ none
    obtain rfl := List.mem_singleton.mp h
    exact ⟨plain, by rw [lowerChar, if_neg grows, none]⟩

theorem isLower_of_mem_lowerFrom {inWord : Bool} {t : Text} {c : Char}
    (h : c ∈ lowerFrom inWord t) : IsLower c := by
  induction t generalizing inWord with
  | nil => cases h
  | cons a rest ih =>
    rw [lowerFrom, List.mem_append] at h
    rcases h with first | later
    · split at first
      · obtain rfl := List.mem_singleton.mp first
        unfold IsLower
        split <;> decide +kernel
      · rename_i plain
        exact isLower_of_mem_lowerChar plain first
    · exact ih later

theorem lowerFrom_of_isLower (inWord : Bool) {t : Text} (h : ∀ c ∈ t, IsLower c) :
    lowerFrom inWord t = t := by
  induction t generalizing inWord with
  | nil => rfl
  | cons c rest ih =>
    obtain ⟨⟨plain, same⟩, later⟩ := List.forall_mem_cons.mp h
    rw [lowerFrom, if_neg plain, same, ih _ later]
    rfl

theorem lowercase_lowercase (t : Text) : lowercase (lowercase t) = lowercase t :=
  lowerFrom_of_isLower false fun _ => isLower_of_mem_lowerFrom

def capitals : Text := "ABCDEFGHIJKLMNOPQRSTUVWXYZ".toList

theorem toLower_eq_or_mem_capitals (c : Char) : c.toLower = c ∨ c ∈ capitals := by
  unfold Char.toLower
  split
  · rename_i between
    right
    have all : ∀ n < 26, Char.ofNat (65 + n) ∈ capitals := by decide +kernel
    have low : 'A'.val.toNat = 65 := rfl
    have high : 'Z'.val.toNat = 90 := rfl
    have code : c.toNat = c.val.toNat := rfl
    simp only [ge_iff_le, UInt32.le_iff_toNat_le] at between
    rw [← Char.ofNat_toNat c, show c.toNat = 65 + (c.toNat - 65) by omega]
    exact all _ (by omega)
  · exact .inl rfl

/-- What lower case asks about a character has one answer for it and for its small letter. -/
def alike (c : Char) : Bool :=
  (c.toLower == 'Σ') == (c == 'Σ') && lowerChar c.toLower == lowerChar c &&
    isCased c.toLower == isCased c && isCaseIgnorable c.toLower == isCaseIgnorable c

theorem capitals_alike : capitals.all alike = true := by decide +kernel

theorem toLower_alike (c : Char) : (c.toLower = 'Σ' ↔ c = 'Σ') ∧ lowerChar c.toLower = lowerChar c ∧
    isCased c.toLower = isCased c ∧ isCaseIgnorable c.toLower = isCaseIgnorable c := by
  rcases toLower_eq_or_mem_capitals c with same | capital
  · simp only [same, and_self]
  · have same := List.all_eq_true.mp capitals_alike c capital
    simpa only [alike, Bool.and_eq_true, Bool.beq_eq_decide_eq, decide_eq_decide,
      decide_eq_true_eq, and_assoc] using same

theorem startsCased_map_toLower (t : Text) : startsCased (t.map Char.toLower) = startsCased t := by
  induction t with
  | nil => rfl
  | cons c rest ih =>
    obtain ⟨-, -, cased, ignorable⟩ := toLower_alike c
    unfold startsCased at ih ⊢
    rw [List.map_cons, List.dropWhile_cons, List.dropWhile_cons, ignorable]
    by_cases through : isCaseIgnorable c = true
    · rw [if_pos through, if_pos through]
      exact ih
    · rw [if_neg through, if_neg through]
      exact cased

theorem lowerFrom_map_toLower (inWord : Bool) (t : Text) :
    lowerFrom inWord (t.map Char.toLower) = lowerFrom inWord t := by
  induction t generalizing inWord with
  | nil => rfl
  | cons c rest ih =>
    obtain ⟨sigma, lower, cased, ignorable⟩ := toLower_alike c
    rw [List.map_cons, lowerFrom, lowerFrom, ih, startsCased_map_toLower]
    simp only [sigma, lower, cased, ignorable]

/-- Another spelling of a text: in lower case, with letters of ASCII in the other case, or one after
the other. -/
inductive Respelled : Text → Text → Prop where
  | lowercase (t : Text) : Respelled t (lowercase t)
  | letters {t u : Text} (h : u.map Char.toLower = t.map Char.toLower) : Respelled t u
  | trans {t u v : Text} : Respelled t u → Respelled u v → Respelled t v

theorem Respelled.refl (t : Text) : Respelled t t := .letters rfl

theorem Respelled.lowercase_eq {t u : Text} (h : Respelled t u) :
    Text.lowercase u = Text.lowercase t := by
  induction h with
  | lowercase t => exact lowercase_lowercase t
  | @letters t u h =>
    calc
      _ = Text.lowercase (u.map Char.toLower) := (lowerFrom_map_toLower false u).symm
      _ = Text.lowercase (t.map Char.toLower) := by rw [h]
      _ = Text.lowercase t := lowerFrom_map_toLower false t
  | trans _ _ first second => rw [second, first]

end SkillHost.Text
