import Mathlib.Data.List.TakeWhile
import SkillHost.Decimal.Numeral

/-! The grammar of numerals: which texts denote a number, and which number. A text is read as a
numeral exactly if it is spelled so. -/
namespace SkillHost.Decimal

def AllDigits (t : Text) : Prop := ∀ c ∈ t, c.isDigit = true

inductive Sign : Text → Bool → Prop where
  | none : Sign [] false
  | plus : Sign ['+'] false
  | minus : Sign ['-'] true

/-- What may stand after a number, and the power of ten that it means. -/
inductive ExponentPart : Text → Int → Prop where
  | none : ExponentPart [] 0
  | some {mark : Char} {sign digits : Text} {negative : Bool} (e : mark = 'e' ∨ mark = 'E')
    (signed : Sign sign negative) (all : AllDigits digits) (nonempty : digits ≠ []) :
    ExponentPart (mark :: (sign ++ digits))
      (if negative then -(natOfDigits digits : Int) else natOfDigits digits)

/-- What may stand between the whole digits of a number and its exponent, and the digits after the
point. -/
inductive FractionPart : Text → Text → Prop where
  | none : FractionPart [] []
  | point {digits : Text} (all : AllDigits digits) : FractionPart ('.' :: digits) digits

inductive Unsigned : Text → Nat → Int → Prop where
  | number {whole middle fraction part : Text} {exponent : Int} (all : AllDigits whole)
    (between : FractionPart middle fraction) (nonempty : whole ++ fraction ≠ [])
    (after : ExponentPart part exponent) :
    Unsigned (whole ++ (middle ++ part)) (natOfDigits (whole ++ fraction))
      (exponent - fraction.length)

/-- How a numeral is spelled. Words may be in any case. -/
inductive Spells : Text → Numeral → Prop where
  | finite {sign body : Text} {negative : Bool} {digits : Nat} {exponent : Int}
    (signed : Sign sign negative) (number : Unsigned body digits exponent) :
    Spells (sign ++ body) (.finite negative digits exponent)
  | infinity {sign word : Text} {negative : Bool} (signed : Sign sign negative)
    (named : word.map Char.toLower = "inf".toList ∨ word.map Char.toLower = "infinity".toList) :
    Spells (sign ++ word) (.infinity negative)
  | notANumber {sign word : Text} {negative : Bool} (signed : Sign sign negative)
    (named : word.map Char.toLower = "nan".toList) : Spells (sign ++ word) .notANumber

def Bare (t : Text) : Prop := ∀ c ∈ t.head?, c ≠ '+' ∧ c ≠ '-'

theorem splitSign_of_sign {sign rest : Text} {negative : Bool} (signed : Sign sign negative)
    (bare : Bare rest) : splitSign (sign ++ rest) = (negative, rest) := by
  cases signed with
  | none =>
    rw [List.nil_append]
    unfold splitSign
    split
    · exact absurd rfl (bare _ rfl).2
    · exact absurd rfl (bare _ rfl).1
    · rfl
  | plus => rfl
  | minus => rfl

theorem exists_sign (t : Text) :
    ∃ sign, Sign sign (splitSign t).1 ∧ t = sign ++ (splitSign t).2 := by
  unfold splitSign
  split
  · exact ⟨_, .minus, rfl⟩
  · exact ⟨_, .plus, rfl⟩
  · exact ⟨_, .none, rfl⟩

theorem isDigit_e {c : Char} (h : c = 'e' ∨ c = 'E') : c.isDigit = false := by
  rcases h with rfl | rfl <;> decide

theorem bare_of_digits {t rest : Text} (all : AllDigits t) (nonempty : t ≠ []) :
    Bare (t ++ rest) := by
  obtain ⟨c, more, rfl⟩ := List.exists_cons_of_ne_nil nonempty
  rintro d ⟨⟩
  have digit := all c (List.mem_cons_self ..)
  constructor
  · rintro rfl
    exact absurd digit (by decide)
  · rintro rfl
    exact absurd digit (by decide)

theorem readExponent?_eq_some_iff {t : Text} {exponent : Int} :
    readExponent? t = some exponent ↔ ExponentPart t exponent := by
  constructor
  · intro h
    cases t with
    | nil =>
      cases h
      exact .none
    | cons mark rest =>
      obtain ⟨sign, signed, parts⟩ := exists_sign rest
      rcases read : splitSign rest with ⟨negative, digits⟩
      rw [read] at signed parts
      simp only [readExponent?, read] at h
      split at h
      · rename_i shape
        cases h
        rw [parts]
        exact .some shape.1 signed (List.all_eq_true.mp shape.2.2) shape.2.1
      · cases h
  · intro h
    cases h with
    | none => rfl
    | @some mark sign digits negative e signed all nonempty =>
      have bare : Bare (digits ++ []) := bare_of_digits all nonempty
      rw [List.append_nil] at bare
      have split := splitSign_of_sign signed bare
      have digit : digits.all Char.isDigit = true := List.all_eq_true.mpr all
      simp only [readExponent?, split, e, digit, nonempty, ne_eq, not_false_eq_true, and_self,
        if_true]

theorem digits_append {digits rest : Text} (all : AllDigits digits)
    (stop : ∀ c ∈ rest.head?, c.isDigit = false) :
    (digits ++ rest).takeWhile Char.isDigit = digits ∧
      (digits ++ rest).dropWhile Char.isDigit = rest := by
  rw [List.takeWhile_append_of_pos all, List.dropWhile_append_of_pos all]
  cases rest with
  | nil => exact ⟨List.append_nil _, rfl⟩
  | cons c rest =>
    have other : ¬ c.isDigit = true := by simp [stop c rfl]
    rw [List.takeWhile_cons_of_neg other, List.dropWhile_cons_of_neg other]
    exact ⟨List.append_nil _, rfl⟩

theorem allDigits_takeWhile (t : Text) : AllDigits (t.takeWhile Char.isDigit) :=
  fun _ mem => List.mem_takeWhile_imp mem

theorem ExponentPart.stop {part : Text} {exponent : Int} (h : ExponentPart part exponent) :
    ∀ c ∈ part.head?, c.isDigit = false ∧ c ≠ '.' := by
  cases h with
  | none => simp
  | some e signed all nonempty =>
    rintro c ⟨⟩
    refine ⟨isDigit_e e, ?_⟩
    rcases e with rfl | rfl <;> decide

def splitFraction : Text → Text × Text
  | '.' :: rest => (rest.takeWhile Char.isDigit, rest.dropWhile Char.isDigit)
  | rest => ([], rest)

theorem exists_fraction (t : Text) :
    ∃ middle, FractionPart middle (splitFraction t).1 ∧ t = middle ++ (splitFraction t).2 := by
  unfold splitFraction
  split
  · rename_i rest
    refine ⟨_, .point (allDigits_takeWhile rest), ?_⟩
    rw [List.cons_append, List.takeWhile_append_dropWhile]
  · exact ⟨_, .none, rfl⟩

theorem splitFraction_append {middle fraction part : Text} {exponent : Int}
    (between : FractionPart middle fraction) (after : ExponentPart part exponent) :
    splitFraction (middle ++ part) = (fraction, part) := by
  cases between with
  | none =>
    rw [List.nil_append]
    unfold splitFraction
    split
    · exact absurd rfl (after.stop _ rfl).2
    · rfl
  | point all =>
    obtain ⟨digits, rest⟩ := digits_append all fun c mem => (after.stop c mem).1
    rw [List.cons_append, splitFraction, digits, rest]

theorem FractionPart.stop {middle fraction part : Text} {exponent : Int}
    (between : FractionPart middle fraction) (after : ExponentPart part exponent) :
    ∀ c ∈ (middle ++ part).head?, c.isDigit = false := by
  cases between with
  | none => exact fun c mem => (after.stop c mem).1
  | point all =>
    rintro c ⟨⟩
    decide

theorem readFinite?_eq (negative : Bool) (t : Text) : readFinite? negative t =
    let whole := t.takeWhile Char.isDigit
    let (fraction, rest) := splitFraction (t.dropWhile Char.isDigit)
    if whole.isEmpty && fraction.isEmpty then none
    else (readExponent? rest).map fun exponent =>
      .finite negative (natOfDigits (whole ++ fraction)) (exponent - fraction.length) := by
  rfl

theorem readFinite?_eq_some_iff {negative : Bool} {t : Text} {n : Numeral} :
    readFinite? negative t = some n ↔
      ∃ digits exponent, n = .finite negative digits exponent ∧ Unsigned t digits exponent := by
  rw [readFinite?_eq]
  constructor
  · intro h
    have all := allDigits_takeWhile t
    obtain ⟨middle, between, tail⟩ := exists_fraction (t.dropWhile Char.isDigit)
    have parts := (List.takeWhile_append_dropWhile (p := Char.isDigit) (l := t)).symm
    rw [tail] at parts
    simp only at h
    split at h
    · cases h
    · rename_i nonempty
      obtain ⟨exponent, after, rfl⟩ := Option.map_eq_some_iff.mp h
      rw [readExponent?_eq_some_iff] at after
      have spelled := Unsigned.number all between (by simpa using nonempty) after
      rw [← parts] at spelled
      exact ⟨_, _, rfl, spelled⟩
  · rintro ⟨digits, exponent, rfl, spelled⟩
    cases spelled with
    | @number whole middle fraction part exponent all between nonempty after =>
      have cut := digits_append all (between.stop after)
      have some : (whole.isEmpty && fraction.isEmpty) = false := by simpa using nonempty
      simp only [cut.1, cut.2, splitFraction_append between after, some,
        readExponent?_eq_some_iff.mpr after, Bool.false_eq_true, if_false, Option.map_some]

theorem isDigit_bounds {c : Char} (h : c.isDigit = true) : 48 ≤ c.toNat ∧ c.toNat ≤ 57 := by
  simp only [Char.isDigit, Bool.and_eq_true, decide_eq_true_eq, ge_iff_le,
    UInt32.le_iff_toNat_le] at h
  exact h

theorem toLower_of_isDigit {c : Char} (h : c.isDigit = true) : c.toLower = c := by
  have a : 'A'.val.toNat = 65 := rfl
  have code : c.toNat = c.val.toNat := rfl
  have bounds := isDigit_bounds h
  unfold Char.toLower
  rw [dif_neg]
  simp only [ge_iff_le, UInt32.le_iff_toNat_le]
  omega

theorem Unsigned.exists_cons {t : Text} {digits : Nat} {exponent : Int}
    (h : Unsigned t digits exponent) :
    ∃ c rest, t = c :: rest ∧ (c.isDigit = true ∨ c = '.') := by
  cases h with
  | @number whole middle fraction part exponent all between nonempty after =>
    cases whole with
    | cons c rest => exact ⟨c, _, rfl, .inl (all c (List.mem_cons_self ..))⟩
    | nil =>
      cases between with
      | none => exact absurd rfl nonempty
      | point all' => exact ⟨'.', _, rfl, .inr rfl⟩

theorem Unsigned.bare {t : Text} {digits : Nat} {exponent : Int}
    (h : Unsigned t digits exponent) : Bare t := by
  obtain ⟨c, rest, rfl, digit | rfl⟩ := h.exists_cons
  · exact bare_of_digits (t := [c]) (by simpa [AllDigits] using digit) (by simp)
  · rintro c ⟨⟩
    decide

theorem Unsigned.map_toLower_ne {t : Text} {digits : Nat} {exponent : Int}
    (h : Unsigned t digits exponent) {c : Char} (letter : c.isDigit = false ∧ c ≠ '.')
    (rest : Text) : t.map Char.toLower ≠ c :: rest := by
  obtain ⟨d, more, rfl, digit⟩ := h.exists_cons
  intro same
  have head : d.toLower = c := by simpa using congrArg List.head? same
  obtain digit | rfl := digit
  · rw [toLower_of_isDigit digit] at head
    rw [head, letter.1] at digit
    cases digit
  · exact letter.2 head.symm

theorem bare_of_map_toLower {t : Text} {c : Char} {rest : Text} (letter : c ≠ '+' ∧ c ≠ '-')
    (h : t.map Char.toLower = c :: rest) : Bare t := by
  obtain ⟨d, more, rfl, lower, -⟩ := List.map_eq_cons_iff.mp h
  rintro e ⟨⟩
  constructor
  · rintro rfl
    exact letter.1 lower.symm
  · rintro rfl
    exact letter.2 lower.symm

theorem ofText?_eq_some_iff {t : Text} {n : Numeral} :
    Numeral.ofText? t = some n ↔ Spells t n := by
  constructor
  · intro h
    obtain ⟨sign, signed, parts⟩ := exists_sign t
    rcases read : splitSign t with ⟨negative, word⟩
    rw [read] at signed parts
    simp only [Numeral.ofText?, read] at h
    rw [parts]
    split at h
    · rename_i named
      cases h
      exact .infinity signed (by simpa [infinityWords] using named)
    · split at h
      · rename_i named
        cases h
        exact .notANumber signed named
      · obtain ⟨digits, exponent, rfl, number⟩ := readFinite?_eq_some_iff.mp h
        exact .finite signed number
  · intro h
    cases h with
    | @finite sign body negative digits exponent signed number =>
      have read : readFinite? negative body = some (.finite negative digits exponent) :=
        readFinite?_eq_some_iff.mpr ⟨digits, exponent, rfl, number⟩
      have finite : body.map Char.toLower ∉ infinityWords := by
        simp [infinityWords, number.map_toLower_ne]
      have number' : body.map Char.toLower ≠ notANumberWord :=
        number.map_toLower_ne (by decide) _
      simp only [Numeral.ofText?, splitSign_of_sign signed number.bare, List.contains_iff_mem,
        finite, number', if_false, read]
    | @infinity sign word negative signed named =>
      have bare : Bare word := named.elim (bare_of_map_toLower (by decide))
        (bare_of_map_toLower (by decide))
      have listed : word.map Char.toLower ∈ infinityWords := by simpa [infinityWords] using named
      simp only [Numeral.ofText?, splitSign_of_sign signed bare, List.contains_iff_mem, listed,
        if_true]
    | @notANumber sign word negative signed named =>
      have bare : Bare word := bare_of_map_toLower (by decide) named
      have other : notANumberWord ∉ infinityWords := by decide
      have named' : word.map Char.toLower = notANumberWord := named
      simp only [Numeral.ofText?, splitSign_of_sign signed bare, List.contains_iff_mem, named',
        other, if_false, if_true]

end SkillHost.Decimal
