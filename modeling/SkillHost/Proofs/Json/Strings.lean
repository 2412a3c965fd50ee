import SkillHost.Json.Basic
import SkillHost.Json.Token

/-! Strings of JSON read back. What is written for a character brings the scanner of tokens back into
the string, with the character's code as the last one read. -/
namespace SkillHost.Json

theorem not_surrogate (c : Char) :
    isHighSurrogate c.toNat = false ∧ isLowSurrogate c.toNat = false := by
  have code : c.toNat = c.val.toNat := rfl
  have valid := c.valid
  simp only [UInt32.isValidChar, Nat.isValidChar] at valid
  constructor
  · rw [isHighSurrogate, Bool.and_eq_false_iff, decide_eq_false_iff_not, decide_eq_false_iff_not]
    omega
  · rw [isLowSurrogate, Bool.and_eq_false_iff, decide_eq_false_iff_not, decide_eq_false_iff_not]
    omega

theorem textOfCodes?_map (t : Text) : textOfCodes? (t.map Char.toNat) = some t := by
  induction t with
  | nil => rfl
  | cons c t ih =>
    have surrogate := not_surrogate c
    cases t with
    | nil => simp [textOfCodes?, surrogate]
    | cons d t =>
      rw [List.map_cons] at ih
      simp [textOfCodes?, surrogate, ih]

theorem hexValue?_digitChar : ∀ d < 16, hexValue? (Nat.digitChar d) = some d := by
  decide

theorem hexDigits_eq :
    ∀ n < 0x20, hexDigits n = ['0', '0', Nat.digitChar (n / 16), Nat.digitChar (n % 16)] := by
  decide

theorem tokensFrom_hexDigits (codes : List Nat) {n : Nat} (h : n < 0x20) (rest : Text) :
    tokensFrom (.hex codes 0 0) (hexDigits n ++ rest) = tokensFrom (.string (n :: codes)) rest := by
  have zero : hexValue? '0' = some 0 := by decide
  have high := hexValue?_digitChar (n / 16) (by omega)
  have low := hexValue?_digitChar (n % 16) (by omega)
  have value : n / 16 * 16 + n % 16 = n := Nat.div_add_mod' n 16
  simp [hexDigits_eq n h, tokensFrom, zero, high, low, value]

theorem tokensFrom_escape (codes : List Nat) {mark : Char} {code : Nat}
    (h : mark ≠ 'u' ∧ escapeCode? mark = some code) (rest : Text) :
    tokensFrom (.string codes) ('\\' :: mark :: rest) =
      tokensFrom (.string (code :: codes)) rest := by
  simp [tokensFrom, h]

theorem tokensFrom_escapedChar (codes : List Nat) (c : Char) (rest : Text) :
    tokensFrom (.string codes) (escapedChar c ++ rest) =
      tokensFrom (.string (c.toNat :: codes)) rest := by
  unfold escapedChar
  split
  · rename_i quoted
    rcases quoted with rfl | rfl
    · exact tokensFrom_escape codes (by decide) rest
    · exact tokensFrom_escape codes (by decide) rest
  rename_i plain
  split
  · subst c
    exact tokensFrom_escape codes (by decide) rest
  split
  · subst c
    exact tokensFrom_escape codes (by decide) rest
  split
  · subst c
    exact tokensFrom_escape codes (by decide) rest
  split
  · subst c
    exact tokensFrom_escape codes (by decide) rest
  split
  · subst c
    exact tokensFrom_escape codes (by decide) rest
  split
  · rename_i control
    rw [List.append_assoc, ← tokensFrom_hexDigits codes control rest]
    simp [tokensFrom]
  · rename_i printed
    rw [not_or] at plain
    simp [tokensFrom, plain, printed]

theorem tokensFrom_string (codes : List Nat) (t rest : Text) :
    tokensFrom (.string codes) (t.flatMap escapedChar ++ '"' :: rest) =
      (tokensFrom .between rest).map
        (.string (textOfCodes? (codes.reverse ++ t.map Char.toNat)) :: ·) := by
  induction t generalizing codes with
  | nil => simp [tokensFrom]
  | cons c t ih =>
    rw [List.flatMap_cons, List.append_assoc, tokensFrom_escapedChar, ih, List.reverse_cons,
      List.append_assoc, List.singleton_append, List.map_cons]

theorem tokensFrom_stringText (t rest : Text) :
    tokensFrom .between (stringText t ++ rest) =
      (tokensFrom .between rest).map (.string (some t) :: ·) := by
  have start : tokensFrom .between (stringText t ++ rest) =
      tokensFrom (.string []) (t.flatMap escapedChar ++ '"' :: rest) := by
    simp [stringText, tokensFrom, beginToken, isSpace]
  rw [start, tokensFrom_string, List.reverse_nil, List.nil_append, textOfCodes?_map]

end SkillHost.Json
