import Mathlib.Data.List.DropRight
import SkillHost.Proofs.Dotenv.OwnKey
import SkillHost.Proofs.Dotenv.RoundTrip

/-! Values between single quotes. The escaping of dollars and the reader of values take all that
stands there as it is; the reader of statements lets a backslash escape what comes after it, be it
the closing quote. So the value is read, and the line after it, exactly if the backslashes at its
end come in pairs; else the quote is never closed. -/
namespace SkillHost.Dotenv

structure Verbatim where
  text : Text
  noQuote : '\'' ∉ text

structure Word where
  text : Text
  isWord : ∀ c ∈ text, c.isAlphanum = true

def trailingBackslashes (t : Text) : Nat := (t.rtakeWhile (· = '\\')).length

theorem trailingBackslashes_concat (t : Text) (c : Char) :
    trailingBackslashes (t ++ [c]) = if c = '\\' then trailingBackslashes t + 1 else 0 := by
  unfold trailingBackslashes
  by_cases h : c = '\\' <;> simp [h]

theorem Quoting.foldl_next_strong {t : Text} (h : '\'' ∉ t) :
    t.foldl next strong = if 2 ∣ trailingBackslashes t then strong else strongEscape := by
  induction t using List.reverseRecOn with
  | nil => rfl
  | append_singleton t c ih =>
    rw [List.mem_append, not_or] at h
    have quote : c ≠ '\'' := fun same => h.2 (same ▸ List.mem_singleton_self c)
    rw [List.foldl_append, ih h.1, List.foldl_cons, List.foldl_nil, trailingBackslashes_concat]
    by_cases back : c = '\\'
    · rw [if_pos back]
      by_cases even : 2 ∣ trailingBackslashes t
      · rw [if_pos even, if_neg (by omega)]
        simp [next, back]
      · rw [if_neg even, if_pos (by omega)]
        rfl
    · rw [if_neg back, if_pos (Nat.dvd_zero 2)]
      split <;> simp [next, back, quote]

theorem Cursor.statements_strong {t : Text} (h : '\'' ∉ t) {quoting : Quoting}
    (hq : quoting = .strong ∨ quoting = .strongEscape) (start y : Text) :
    (Cursor.mk (.body false quoting) start).statements (t ++ y) =
      (Cursor.mk (.body false (t.foldl Quoting.next quoting))
        (t.reverse ++ start)).statements y := by
  induction t generalizing quoting start with
  | nil => rfl
  | cons c t ih =>
    have quote : c ≠ '\'' := (List.ne_of_not_mem_cons h).symm
    have stays : quoting.next c = .strong ∨ quoting.next c = .strongEscape := by
      rcases hq with rfl | rfl
      · by_cases back : c = '\\' <;> simp [Quoting.next, back, quote]
      · exact .inl rfl
    have quoted : quoting.quoted = true := by
      rcases hq with rfl | rfl <;> rfl
    rw [List.cons_append, statements_quoted quoted, ih (List.not_mem_of_not_mem_cons h) stays]
    simp

theorem escapeDollarsFrom_single {t : Text} (h : '\'' ∉ t) (y : Text) :
    escapeDollarsFrom .single (t ++ y) = t ++ escapeDollarsFrom .single y := by
  induction t with
  | nil => rfl
  | cons c t ih =>
    have quote : c ≠ '\'' := (List.ne_of_not_mem_cons h).symm
    simp [escapeDollarsFrom, DollarScan.expands, DollarScan.next, quote,
      ih (List.not_mem_of_not_mem_cons h)]

theorem readValueFrom_single (expand : Text → Text) {t : Text} (h : '\'' ∉ t) :
    readValueFrom expand .single (t ++ ['\'']) = some t := by
  induction t with
  | nil => rfl
  | cons c t ih =>
    have quote : c ≠ '\'' := (List.ne_of_not_mem_cons h).symm
    simp [readValueFrom, quote, ih (List.not_mem_of_not_mem_cons h)]

def quotedLine (key : Key) (value : Verbatim) : Text :=
  key.text ++ '=' :: '\'' :: (value.text ++ ['\''])

def wordLine (key : Key) (value : Word) : Text := key.text ++ '=' :: value.text

theorem Word.isKeyChar (value : Word) : ∀ c ∈ value.text, isKeyChar c = true := by
  intro c hc
  simp [Dotenv.isKeyChar, value.isWord c hc]

theorem not_mem_wordLine (key : Key) (value : Word) {c : Char} (h : isKeyChar c = false)
    (equals : c ≠ '=') : c ∉ wordLine key value := by
  have absent {t : Text} (chars : ∀ a ∈ t, isKeyChar a = true) : c ∉ t := by
    intro mem
    rw [chars c mem] at h
    cases h
  simp [wordLine, equals, absent value.isKeyChar, absent fun _ => isKeyChar_of_mem key.isKey]

theorem isBlank_quotedLine_last (key : Key) (value : Verbatim) :
    ∀ c ∈ (quotedLine key value).getLast?, Text.isBlank c = false := by
  have last : quotedLine key value = key.text ++ '=' :: '\'' :: value.text ++ ['\''] := by
    simp [quotedLine]
  rw [last, List.getLast?_concat]
  rintro c ⟨⟩
  decide

theorem isBlank_wordLine_last (key : Key) (value : Word) :
    ∀ c ∈ (wordLine key value).getLast?, Text.isBlank c = false := by
  intro c hc
  rw [wordLine, List.getLast?_append_of_ne_nil _ (List.cons_ne_nil _ _)] at hc
  rcases List.mem_cons.mp (List.mem_of_getLast? hc) with rfl | mem
  · decide
  · exact isBlank_of_isKeyChar (value.isKeyChar c mem)

theorem escapeDollars_quotedLine (key : Key) (value : Verbatim) {y : Text} (h : '$' ∉ y) :
    escapeDollars (quotedLine key value ++ y) = quotedLine key value ++ y := by
  have closed : escapeDollarsFrom .single ('\'' :: y) = '\'' :: y :=
    escapeDollarsFrom_of_not_mem _ (by simpa using h)
  simp only [quotedLine, List.append_assoc, List.cons_append, List.nil_append]
  calc
    _ = key.text ++ '=' :: '\'' :: escapeDollarsFrom .single (value.text ++ '\'' :: y) :=
      escapeDollarsFrom_key true key _
    _ = _ := by rw [escapeDollarsFrom_single value.noQuote, closed]

namespace Cursor

theorem statements_quotedLine (key : Key) (value : Verbatim) (y : Text) :
    fresh.statements (quotedLine key value ++ y) =
      (Cursor.mk (.body false (value.text.foldl Quoting.next .strong))
        (value.text.reverse ++ '\'' :: '=' :: key.text.reverse)).statements ('\'' :: y) := by
  simp only [quotedLine, List.append_assoc, List.cons_append, List.nil_append]
  calc
    _ = (inside key.text.reverse).statements ('=' :: '\'' :: (value.text ++ '\'' :: y)) :=
      statements_lead false key _
    _ = (Cursor.mk (.body false .strong) ('\'' :: '=' :: key.text.reverse)).statements
        (value.text ++ '\'' :: y) := rfl
    _ = _ := statements_strong value.noQuote (.inl rfl) _ _

theorem statements_quotedLine_of_even (key : Key) {value : Verbatim}
    (even : 2 ∣ trailingBackslashes value.text) (y : Text) :
    fresh.statements (quotedLine key value ++ '\n' :: y) =
      .whole (quotedLine key value) :: fresh.statements y := by
  rw [statements_quotedLine, Quoting.foldl_next_strong value.noQuote, if_pos even]
  have last := isBlank_quotedLine_last key value
  rw [← List.head?_reverse] at last
  have ends := statements_trailer none last y
  rw [List.reverse_reverse, gap, List.append_nil] at ends
  rw [← ends, statements_step .strong '\'' _ _ (by decide) (.inl (by decide))]
  simp [quotedLine, trailer, Quoting.next]

theorem exists_statements_quotedLine_of_odd (key : Key) {value : Verbatim}
    (odd : ¬2 ∣ trailingBackslashes value.text) {y : Text} (h : '\'' ∉ y) :
    ∃ text, '=' ∈ text ∧ fresh.statements (quotedLine key value ++ y) = [.unfinished text] := by
  let start := '\'' :: (value.text.reverse ++ '\'' :: '=' :: key.text.reverse)
  have reads := statements_strong h (.inl rfl) start []
  have within : y.foldl Quoting.next .strong ≠ .plain := by
    rw [Quoting.foldl_next_strong h]
    split <;> decide
  rw [List.append_nil, statements_nil within] at reads
  refine ⟨(y.reverse ++ start).reverse, by simp [start], ?_⟩
  rw [statements_quotedLine, Quoting.foldl_next_strong value.noQuote, if_neg odd,
    statements_step .strongEscape '\'' _ _ (by decide) (.inl (by decide))]
  exact reads

theorem statements_wordLine (key : Key) (value : Word) :
    fresh.statements (wordLine key value ++ ['\n']) = [.whole (wordLine key value)] := by
  have last := isBlank_wordLine_last key value
  rw [← List.head?_reverse] at last
  have ends := statements_trailer none last []
  rw [List.reverse_reverse, gap, List.append_nil] at ends
  have quiet : ∀ c ∈ value.text, isQuiet c = true := fun c hc =>
    isQuiet_of_isKeyChar (value.isKeyChar c hc)
  calc
    _ = (inside key.text.reverse).statements ('=' :: (value.text ++ ['\n'])) := by
      simp only [wordLine, List.append_assoc, List.cons_append]
      exact statements_lead false key _
    _ = (inside ('=' :: key.text.reverse)).statements (value.text ++ ['\n']) :=
      statements_step .plain '=' _ _ (by decide) (.inl (by decide))
    _ = (inside (wordLine key value).reverse).statements ['\n'] := by
      rw [statements_quiet quiet]
      simp [wordLine]
    _ = _ := ends

end Cursor

theorem Statement.read_line (expand : Text → Text) (key : Key) {value : Text}
    (last : ∀ c ∈ (key.text ++ '=' :: value).getLast?, Text.isBlank c = false) :
    (whole (key.text ++ '=' :: value)).read expand =
      .ofValue expand key.text (Text.trimStart value) := by
  have none : ∀ c ∈ ([] : Text), Text.isBlank c = true := nofun
  have trimmed := Text.trim_append_append (isBlank_of_isKey_head key.isKey _) last none none
  rw [List.nil_append, List.append_nil] at trimmed
  exact read_of_assigns ⟨key.isKey, [], '=' :: value, .inl rfl, trimmed, rfl⟩ expand

theorem read_quotedLine (expand : Text → Text) (key : Key) (value : Verbatim) :
    (Statement.whole (quotedLine key value)).read expand = .assigned key.text value.text := by
  have read := readValueFrom_single expand value.noQuote
  rw [quotedLine, Statement.read_line expand key (isBlank_quotedLine_last key value),
    Text.trimStart_of_head (by rintro c ⟨⟩; decide), Reading.ofValue, if_neg (by simp [isVoid]),
    readValue, readValueFrom]
  simp [read]

theorem read_wordLine (expand : Text → Text) (key : Key) (value : Word) :
    (Statement.whole (wordLine key value)).read expand = .assigned key.text value.text := by
  have head : ∀ c ∈ value.text.head?, Text.isBlank c = false := fun c hc =>
    isBlank_of_isKeyChar (value.isKeyChar c (List.mem_of_mem_head? hc))
  have read := readValue_of_isPlain expand fun c hc => isPlain_of_isKeyChar (value.isKeyChar c hc)
  rw [wordLine, Statement.read_line expand key (isBlank_wordLine_last key value),
    Text.trimStart_of_head head, Reading.ofValue, read]
  split
  · rename_i void
    cases hvalue : value.text with
    | nil => rfl
    | cons c rest =>
      have key := value.isKeyChar c (by simp [hvalue])
      have hash : c ≠ '#' := by rintro rfl; cases key
      simp [hvalue, isVoid, hash] at void
  · rfl

theorem values_quotedLine (env : Environment) (key : Key) (value : Verbatim) (other : Key)
    (word : Word) :
    (parse env (quotedLine key value ++ '\n' :: (wordLine other word ++ ['\n']))).values =
      if 2 ∣ trailingBackslashes value.text then
        (Table.empty.insert key.text value.text).insert other.text word.text
      else .empty := by
  have dollar : '$' ∉ '\n' :: (wordLine other word ++ ['\n']) := by
    simp [not_mem_wordLine other word (c := '$') rfl (by decide)]
  have quote : '\'' ∉ '\n' :: (wordLine other word ++ ['\n']) := by
    simp [not_mem_wordLine other word (c := '\'') rfl (by decide)]
  have unmarked : withoutMark (quotedLine key value ++ '\n' :: (wordLine other word ++ ['\n'])) =
      quotedLine key value ++ '\n' :: (wordLine other word ++ ['\n']) := by
    apply withoutMark_of_head
    rw [quotedLine, List.append_assoc]
    exact key.head_append _
  rw [parse, unmarked, escapeDollars_quotedLine key value dollar, statements_eq]
  split
  · rename_i even
    rw [Cursor.statements_quotedLine_of_even key even, Cursor.statements_wordLine,
      List.foldl_cons, List.foldl_cons, List.foldl_nil,
      values_handle_assigned env _ (read_wordLine _ other word),
      values_handle_assigned env _ (read_quotedLine _ key value)]
    rfl
  · rename_i odd
    obtain ⟨text, equals, reads⟩ := Cursor.exists_statements_quotedLine_of_odd key odd quote
    rw [reads, List.foldl_cons, List.foldl_nil, Parsed.values_handle_unfinished env _ equals]
    rfl

/-- The value between single quotes is taken as it is, and the line after it is read, exactly if
the backslashes before the closing quote come in pairs; otherwise nothing is loaded. -/
theorem quoted_verbatim_iff (env : Environment) (key : Key) (value : Verbatim) (other : Key)
    (word : Word) :
    let text := quotedLine key value ++ '\n' :: (wordLine other word ++ ['\n'])
    let expected := (Table.empty.insert key.text value.text).insert other.text word.text
    ((parse env text).values = expected ↔ 2 ∣ trailingBackslashes value.text) ∧
      ((parse env text).values = expected ∨ (parse env text).values = .empty) := by
  intro text expected
  have there : expected ≠ .empty := by
    intro same
    have found := congrArg (fun t => Table.get? t other.text) same
    simp [expected] at found
  rw [values_quotedLine]
  split
  · rename_i even
    exact ⟨iff_of_true rfl even, .inl rfl⟩
  · rename_i odd
    exact ⟨iff_of_false there.symm odd, .inr rfl⟩

/-- A backslash before the closing quote hides it from the reader of statements. -/
theorem backslash_hides_closing_quote :
    quotedLine ⟨['K'], rfl⟩ ⟨['\\'], by decide⟩ ++
        '\n' :: (wordLine ⟨['L'], rfl⟩ ⟨['w'], List.forall_mem_singleton.mpr rfl⟩ ++ ['\n']) =
          "K='\\'\nL=w\n".toList ∧
      (parse .empty "K='\\'\nL=w\n".toList).values.get? ['K'] = none ∧
      (parse .empty "K='\\'\nL=w\n".toList).values.get? ['L'] = none :=
  ⟨rfl, by decide, by decide⟩

end SkillHost.Dotenv
