import Mathlib.Data.List.Infix
import SkillHost.Proofs.Dotenv.Escaping
import SkillHost.Proofs.Dotenv.Keys
import SkillHost.Table

/-! Settings files as they are written: blank lines, comments, and lines that give a value to a key
or take it away. The escaping of dollars changes nothing in them but a value without quotes, whose
dollars get their backslashes. -/
namespace SkillHost.Dotenv

structure Key where
  text : Text
  isKey : isKey text = true

structure Remark where
  text : Text
  oneLine : '\n' ∉ text

def isQuiet (c : Char) : Bool :=
  !Text.isBlank c && c ≠ '\\' && c ≠ '\'' && c ≠ '"'

/-- A value that needs no quotes and holds no reference. -/
structure PlainValue where
  text : Text
  ne_nil : text ≠ []
  head_ne_hash : text.head? ≠ some '#'
  quiet : ∀ c ∈ text, isQuiet c = true
  noReference : ¬['$', '{'] <:+: text

/-- A value for double quotes: a backslash before each backslash, quote and dollar. -/
def quote (v : Text) : Text :=
  v.flatMap fun c => if c = '\\' ∨ c = '"' ∨ c = '$' then ['\\', c] else [c]

theorem quote_cons (c : Char) (v : Text) :
    quote (c :: v) = (if c = '\\' ∨ c = '"' ∨ c = '$' then ['\\', c] else [c]) ++ quote v := rfl

inductive Entry where
  | quoted (value : Text)
  | plain (value : PlainValue)
  | bare

def Entry.text : Entry → Text
  | quoted value => '=' :: '"' :: (quote value ++ ['"'])
  | plain value => '=' :: value.text
  | bare => []

def Entry.apply (values : Table Text Text) (key : Key) : Entry → Table Text Text
  | quoted value => values.insert key.text value
  | plain value => values.insert key.text value.text
  | bare => values.erase key.text

inductive Line where
  | blank (blanks : Text) (isBlank : ∀ c ∈ blanks, Text.isBlank c = true) (oneLine : '\n' ∉ blanks)
  | comment (remark : Remark)
  | statement (exported : Bool) (key : Key) (entry : Entry) (remark : Option Remark)

def lead (exported : Bool) : Text := if exported then exportWord ++ [' '] else []

def trailer : Option Remark → Text
  | none => []
  | some remark => ' ' :: '#' :: remark.text

def Line.text : Line → Text
  | blank blanks _ _ => blanks
  | comment remark => '#' :: remark.text
  | statement exported key entry remark => lead exported ++ key.text ++ entry.text ++ trailer remark

def Line.apply (values : Table Text Text) : Line → Table Text Text
  | statement _ key entry _ => entry.apply values key
  | _ => values

def write (lines : List Line) : Text := lines.flatMap fun line => line.text ++ ['\n']

theorem isQuiet_of_isKeyChar {c : Char} (h : isKeyChar c = true) : isQuiet c = true := by
  simp only [isQuiet, isBlank_of_isKeyChar h, Bool.not_false, Bool.true_and, Bool.and_eq_true,
    decide_eq_true_eq]
  refine ⟨⟨?_, ?_⟩, ?_⟩ <;> rintro rfl <;> cases h

theorem isQuiet_iff {c : Char} :
    isQuiet c = true ↔ Text.isBlank c = false ∧ c ≠ '\\' ∧ c ≠ '\'' ∧ c ≠ '"' := by
  simp [isQuiet, and_assoc]

theorem escapeDollarsFrom_cons (d : DollarScan) {c : Char} (h : c ≠ '$') (rest : Text) :
    escapeDollarsFrom d (c :: rest) = c :: escapeDollarsFrom (d.next c) rest := by
  simp [escapeDollarsFrom, h]

theorem DollarScan.plain_next_of_isQuiet {c : Char} (h : isQuiet c = true) :
    (plain false).next c = plain false := by
  obtain ⟨hblank, hback, hsingle, hdouble⟩ := isQuiet_iff.mp h
  simp [next, hblank, hback, hsingle, hdouble]

theorem escapeDollarsFrom_key (b : Bool) (key : Key) (y : Text) :
    escapeDollarsFrom (.plain b) (key.text ++ y) =
      key.text ++ escapeDollarsFrom (.plain false) y := by
  obtain ⟨c, rest, hkey, hc, hrest⟩ := isKey_iff.mp key.isKey
  have quiet := isQuiet_iff.mp (isQuiet_of_isKeyChar (isKeyChar_of_isKeyStart hc))
  have hash : c ≠ '#' := by rintro rfl; cases hc
  have dollar : c ≠ '$' := by rintro rfl; cases hc
  have first : (DollarScan.plain b).next c = .plain false := by
    simp [DollarScan.next, hash, quiet]
  rw [hkey, List.cons_append, escapeDollarsFrom_cons _ dollar, first, List.cons_append]
  clear hkey
  congr 1
  induction rest with
  | nil => rfl
  | cons a rest ih =>
    have ha := hrest a List.mem_cons_self
    have dollar : a ≠ '$' := by rintro rfl; cases ha
    rw [List.cons_append, escapeDollarsFrom_cons _ dollar,
      DollarScan.plain_next_of_isQuiet (isQuiet_of_isKeyChar ha),
      ih fun x hx => hrest x (List.mem_cons_of_mem a hx), List.cons_append]

theorem escapeDollarsFrom_lead (exported : Bool) (key : Key) (y : Text) :
    escapeDollars (lead exported ++ (key.text ++ y)) =
      lead exported ++ (key.text ++ escapeDollarsFrom (.plain false) y) := by
  cases exported with
  | false => exact escapeDollarsFrom_key true key y
  | true =>
    rw [← escapeDollarsFrom_key true key y]
    rfl

theorem escapeDollarsFrom_quote (v y : Text) :
    escapeDollarsFrom .double (quote v ++ y) = quote v ++ escapeDollarsFrom .double y := by
  induction v with
  | nil => rfl
  | cons c v ih =>
    rw [quote_cons]
    split
    · simp [escapeDollarsFrom, DollarScan.next, DollarScan.expands, ih]
    · rename_i h
      rw [not_or, not_or] at h
      simp [escapeDollarsFrom, DollarScan.next, h, ih]

def dollarsEscaped (v : Text) : Text := v.flatMap fun c => if c = '$' then ['\\', c] else [c]

theorem dollarsEscaped_cons (c : Char) (v : Text) :
    dollarsEscaped (c :: v) = (if c = '$' then ['\\', c] else [c]) ++ dollarsEscaped v := rfl

theorem escapeDollarsFrom_plain {v : Text} (quiet : ∀ c ∈ v, isQuiet c = true)
    (noReference : ¬['$', '{'] <:+: v) {y : Text} (h : y.head? ≠ some '{') :
    escapeDollarsFrom (.plain false) (v ++ y) =
      dollarsEscaped v ++ escapeDollarsFrom (.plain false) y := by
  induction v with
  | nil => rfl
  | cons c v ih =>
    rw [List.infix_cons_iff, not_or] at noReference
    have brace : c = '$' → (v ++ y).head? ≠ some '{' := by
      rintro rfl
      cases v with
      | nil => exact h
      | cons a v =>
        intro ha
        obtain rfl := Option.some.inj ha
        exact noReference.1 (List.prefix_append ['$', '{'] v)
    rw [List.cons_append, escapeDollarsFrom,
      DollarScan.plain_next_of_isQuiet (quiet c List.mem_cons_self),
      ih (fun x hx => quiet x (List.mem_cons_of_mem c hx)) noReference.2,
      dollarsEscaped_cons, List.append_assoc]
    congr 1
    by_cases hc : c = '$'
    · rw [if_pos ⟨hc, rfl, brace hc⟩, if_pos hc]
    · rw [if_neg fun found => hc found.1, if_neg hc]

theorem escapeDollarsFrom_trailer (remark : Option Remark) (y : Text) :
    escapeDollarsFrom (.plain false) (trailer remark ++ '\n' :: y) =
      trailer remark ++ '\n' :: escapeDollars y := by
  cases remark with
  | none => rfl
  | some remark =>
    have inComment := escapeDollarsFrom_comment_append remark.text ('\n' :: y) remark.oneLine
    calc
      _ = ' ' :: '#' :: escapeDollarsFrom .comment (remark.text ++ '\n' :: y) := rfl
      _ = _ := by rw [inComment]; rfl

def Entry.escaped : Entry → Text
  | plain value => '=' :: dollarsEscaped value.text
  | e => e.text

theorem escapeDollarsFrom_entry (e : Entry) {y : Text} (h : y.head? ≠ some '{') :
    escapeDollarsFrom (.plain false) (e.text ++ y) =
      e.escaped ++ escapeDollarsFrom (.plain false) y := by
  cases e with
  | quoted value =>
    have inQuotes := escapeDollarsFrom_quote value ('"' :: y)
    calc
      _ = '=' :: '"' :: escapeDollarsFrom .double (quote value ++ '"' :: y) := by
        simp [Entry.text, escapeDollarsFrom, DollarScan.next, Text.isBlank]
      _ = '=' :: '"' :: (quote value ++ '"' :: escapeDollarsFrom (.plain false) y) := by
        rw [inQuotes]
        rfl
      _ = _ := by simp [Entry.escaped, Entry.text]
  | plain value =>
    calc
      _ = '=' :: escapeDollarsFrom (.plain false) (value.text ++ y) := rfl
      _ = _ := by
        rw [escapeDollarsFrom_plain value.quiet value.noReference h]
        rfl
  | bare => rfl

theorem head_trailer_append (remark : Option Remark) (y : Text) :
    (trailer remark ++ '\n' :: y).head? ≠ some '{' := by
  cases remark <;> simp [trailer]

end SkillHost.Dotenv
