import Mathlib.Data.List.TakeWhile
import SkillHost.Text.Lowercase

/-! The capital sigma, whose lower case alone depends on what stands around it. A text in lower case
is known from its parts but for the two forms of the small sigma, and it is known altogether where
no capital sigma ends the first part or begins the second. -/
namespace SkillHost.Text

/-- A text with every small sigma in the form that it has within a word. -/
def innerSigmas (t : Text) : Text := t.map fun c => if c = 'ς' then 'σ' else c

theorem innerSigmas_append (s t : Text) :
    innerSigmas (s ++ t) = innerSigmas s ++ innerSigmas t :=
  List.map_append

theorem innerSigmas_lowerFrom (inWord : Bool) (t : Text) :
    innerSigmas (lowerFrom inWord t) =
      t.flatMap fun c => if c = 'Σ' then ['σ'] else innerSigmas (lowerChar c) := by
  induction t generalizing inWord with
  | nil => rfl
  | cons c rest ih =>
    rw [lowerFrom, innerSigmas_append, ih, List.flatMap_cons]
    by_cases sigma : c = 'Σ'
    · rw [if_pos sigma, if_pos sigma]
      split <;> rfl
    · rw [if_neg sigma, if_neg sigma]

theorem innerSigmas_lowercase_append (s t : Text) :
    innerSigmas (lowercase (s ++ t)) = innerSigmas (lowercase s ++ lowercase t) := by
  simp only [lowercase, innerSigmas_append, innerSigmas_lowerFrom, List.flatMap_append]

/-- The first character that is not looked through is a capital sigma. -/
def StartsInSigma (t : Text) : Prop :=
  ∃ before after, t = before ++ 'Σ' :: after ∧ before.all isCaseIgnorable = true

def EndsInSigma (t : Text) : Prop :=
  ∃ before after, t = before ++ 'Σ' :: after ∧ after.all isCaseIgnorable = true

def wordAfter (inWord : Bool) (t : Text) : Bool :=
  t.foldl (fun inWord c => if isCaseIgnorable c then inWord else isCased c) inWord

theorem startsCased_append {s : Text} (t : Text) (seen : s.all isCaseIgnorable = false) :
    startsCased (s ++ t) = startsCased s := by
  have left : s.dropWhile isCaseIgnorable ≠ [] := by
    simpa [List.dropWhile_eq_nil_iff] using seen
  rw [startsCased, startsCased, List.dropWhile_append, if_neg (by simpa using left)]
  obtain ⟨c, rest, first⟩ := List.exists_cons_of_ne_nil left
  rw [first]
  rfl

theorem lowerFrom_append (inWord : Bool) {s : Text} (t : Text) (inner : ¬ EndsInSigma s) :
    lowerFrom inWord (s ++ t) = lowerFrom inWord s ++ lowerFrom (wordAfter inWord s) t := by
  induction s generalizing inWord with
  | nil => rfl
  | cons c s ih =>
    have rest : ¬ EndsInSigma s := by
      intro ⟨before, after, parts, through⟩
      exact inner ⟨c :: before, after, by rw [parts, List.cons_append], through⟩
    have cased : c = 'Σ' → startsCased (s ++ t) = startsCased s := by
      intro sigma
      refine startsCased_append t (Bool.eq_false_iff.mpr fun through => ?_)
      exact inner ⟨[], s, by rw [sigma, List.nil_append], through⟩
    rw [List.cons_append, lowerFrom, lowerFrom, ih _ rest, List.append_assoc]
    congr 1
    by_cases sigma : c = 'Σ'
    · rw [if_pos sigma, if_pos sigma, cased sigma]
    · rw [if_neg sigma, if_neg sigma]

theorem lowerFrom_eq_lowercase (inWord : Bool) {t : Text} (inner : ¬ StartsInSigma t) :
    lowerFrom inWord t = lowercase t := by
  unfold lowercase
  induction t generalizing inWord with
  | nil => rfl
  | cons c t ih =>
    have plain : c ≠ 'Σ' := fun sigma => inner ⟨[], t, by rw [sigma, List.nil_append], rfl⟩
    rw [lowerFrom, lowerFrom, if_neg plain, if_neg plain]
    by_cases through : isCaseIgnorable c = true
    · have rest : ¬ StartsInSigma t := by
        intro ⟨before, after, parts, all⟩
        exact inner ⟨c :: before, after, by rw [parts, List.cons_append], by simp [through, all]⟩
      rw [if_pos through, if_pos through, ih inWord rest]
    · rw [if_neg through, if_neg through]

end SkillHost.Text
