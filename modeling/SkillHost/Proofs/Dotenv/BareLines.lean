import SkillHost.Proofs.Dotenv.Boundaries
import SkillHost.Proofs.Dotenv.FinalBreak
import SkillHost.Proofs.Dotenv.Verbatim

/-! Lines that name a key alone. Two recognisers know them: the one that takes a key away again, and
the head of an assignment, which with an equals sign put behind the line gives nothing to the key.
Both take the same lines for the same keys, whatever blanks stand around the parts. -/
namespace SkillHost.Dotenv

def isUnmarked (c : Char) : Bool :=
  c ≠ '\n' && c ≠ '#' && c ≠ '\\' && c ≠ '\'' && c ≠ '"'

/-- A line without an equals sign, in which nothing is quoted, escaped or commented. -/
structure BareLine where
  text : Text
  unmarked : ∀ c ∈ text, isUnmarked c = true
  noEquals : '=' ∉ text
  head_ne_mark : text.head? ≠ some '\ufeff'

theorem isUnmarked_of_isKeyChar {c : Char} (h : isKeyChar c = true) : isUnmarked c = true := by
  simp only [isUnmarked, Bool.and_eq_true, decide_eq_true_eq]
  refine ⟨⟨⟨⟨?_, ?_⟩, ?_⟩, ?_⟩, ?_⟩ <;> rintro rfl <;> cases h

theorem Quoting.quoted_next_of_isUnmarked {q : Quoting} (h : q.quoted = false) {c : Char}
    (hc : isUnmarked c = true) : (q.next c).quoted = false := by
  simp only [isUnmarked, Bool.and_eq_true, decide_eq_true_eq] at hc
  obtain ⟨⟨⟨-, back⟩, single⟩, double⟩ := hc
  cases q with
  | plain =>
    simp only [next, back, double, single, if_false]
    split_ifs <;> rfl
  | blank => simp [next, back, double, single, quoted]
  | escape => rfl
  | weak | weakEscape | strong | strongEscape => cases h

theorem Quoting.quoted_foldl_next {t : Text} (h : ∀ c ∈ t, isUnmarked c = true) {q : Quoting}
    (hq : q.quoted = false) : (t.foldl next q).quoted = false := by
  induction t generalizing q with
  | nil => exact hq
  | cons c t ih =>
    obtain ⟨hc, ht⟩ := List.forall_mem_cons.mp h
    exact ih ht (quoted_next_of_isUnmarked hq hc)

theorem Cursor.statements_unmarked {t : Text} (h : ∀ c ∈ t, isUnmarked c = true) (y : Text) :
    fresh.statements (t ++ '\n' :: y) = .whole (closeLine t.reverse) :: fresh.statements y := by
  have absent {c : Char} (marked : isUnmarked c = false) : c ∉ t := by
    intro mem
    rw [h c mem] at marked
    cases marked
  obtain ⟨leading, reads⟩ :=
    exists_statements_append (absent (c := '#') rfl) (absent (c := '\n') rfl) true .plain []
  rw [List.append_nil] at reads
  rw [fresh, reads, statements_lineEnd (Quoting.quoted_foldl_next h rfl), fresh]

theorem Escaped.bareKey?_eq {t u : Text} (h : Escaped t u) : bareKey? u = bareKey? t := by
  by_cases dollar : '$' ∈ t
  · rw [bareKey?_eq_none_of_mem dollar (by decide) (by decide),
      bareKey?_eq_none_of_mem (h.sublist.subset dollar) (by decide) (by decide)]
  · rw [h.eq_of_not_mem dollar]

theorem Statement.assigns_concat_iff {t k v : Text} (h : '=' ∉ t) :
    (whole (t ++ ['='])).Assigns k v ↔ v = [] ∧ bareKey? t = some k := by
  have equals : Text.isBlank '=' = false := by decide
  have trimmed : Text.trim (t ++ ['=']) = Text.trimStart t ++ ['='] := by
    rcases Text.trimStart_concat t '=' with start | ⟨blank, -⟩
    · rw [Text.trim, start]
      exact Text.trimEnd_of_getLast (by simpa using equals)
    · rw [equals] at blank
      cases blank
  obtain ⟨b, hb, parts⟩ := Text.exists_trimEnd_append (Text.trimStart t)
  rw [bareKey?_eq_some_iff, Text.trim]
  constructor
  · rintro ⟨hk, lead, rest, hlead, whole, value⟩
    obtain ⟨b', hb', hrest⟩ := Text.exists_append_trimStart rest
    have free : '=' ∉ Text.trimStart t := fun mem => h (List.dropWhile_subset _ mem)
    rw [text, trimmed, hrest, value, ← List.append_assoc,
      List.append_cons_inj_of_notMem free List.not_mem_nil] at whole
    obtain ⟨cut, -, rfl⟩ := whole
    refine ⟨rfl, hk, lead, hlead, ?_⟩
    rw [cut, Text.trimEnd_append _ hb', Text.trimEnd_of_getLast (isBlank_of_isKey_last hk lead)]
  · rintro ⟨rfl, hk, lead, hlead, bare⟩
    refine ⟨hk, lead, b ++ ['='], hlead, ?_, ?_⟩
    · rw [text, trimmed, parts, bare, List.append_assoc]
    · rw [Text.trimStart_append hb]
      exact Text.trimStart_of_head (by simpa using equals)

theorem Parsed.entries_handle_concat (env : Environment) {t : Text} (h : '=' ∉ t) :
    (Parsed.empty.handle env (.whole (t ++ ['=']))).values.entries =
      ((bareKey? t).map fun k => (k, [])).toList := by
  cases named : bareKey? t with
  | some k =>
    have assigns := (Statement.assigns_concat_iff h).mpr ⟨rfl, named⟩
    have read := Statement.read_of_assigns assigns (Parsed.empty.expand env)
    rw [values_handle_assigned env _ read]
    rfl
  | none =>
    rcases (Statement.whole (t ++ ['='])).read_cases (Parsed.empty.expand env) with
      read | ⟨key, value, v, assigns, -⟩ | ⟨text, read, -⟩
    · rw [Parsed.handle, read]
      rfl
    · rw [((Statement.assigns_concat_iff h).mp assigns).2] at named
      cases named
    · rw [Parsed.handle, read, Parsed.apply]
      cases bareKey? text <;> rfl

theorem Parsed.get?_handle_of_not_mem (env : Environment) (parsed : Parsed) {t : Text}
    (h : '=' ∉ t) (k : Text) :
    (parsed.handle env (.whole t)).values.get? k =
      if bareKey? t = some k then none else parsed.values.get? k := by
  have free (key value : Text) : ¬(Statement.whole t).Assigns key value :=
    fun assigns => h (Text.trim_subset t assigns.equals_mem)
  have idle : (Statement.whole t).Idle env parsed := by
    constructor
    · intro key v assigned
      rcases (Statement.whole t).read_cases (parsed.expand env) with
        read | ⟨key, value, -, assigns, -⟩ | ⟨text, read, -⟩
      · rw [read] at assigned
        cases assigned
      · exact absurd assigns (free key value)
      · rw [read] at assigned
        cases assigned
    · rintro key ⟨-, key', value, assigns, -⟩
      exact absurd assigns (free key' value)
  rw [(idle_iff env parsed t).mpr idle k, get?_handle_unfinished]

def one : Word := ⟨['1'], List.forall_mem_singleton.mpr rfl⟩

namespace BareLine
variable (line : BareLine)

theorem withoutMark_append {c : Char} (h : c ≠ '\ufeff') (y : Text) :
    withoutMark (line.text ++ c :: y) = line.text ++ c :: y := by
  rw [Dotenv.withoutMark_append h, withoutMark_of_head line.head_ne_mark]

theorem exists_statements_equals :
    ∃ u, Escaped line.text u ∧
      statements (escapeDollars (line.text ++ ['=', '\n'])) = [.whole (u ++ ['='])] := by
  have marks : ∀ c ∈ line.text ++ ['='], isUnmarked c = true :=
    List.forall_mem_append.mpr ⟨line.unmarked, List.forall_mem_singleton.mpr rfl⟩
  have closed : closeLine (line.text ++ ['=']).reverse = line.text ++ ['='] := by
    rw [closeLine_of_head_ne (by simp), List.reverse_reverse]
  have reads : statements (line.text ++ ['='] ++ ['\n']) =
      [line.text ++ ['=']].map .whole := by
    rw [statements_eq, Cursor.statements_unmarked marks [], closed]
    rfl
  obtain ⟨_, _ | ⟨texts, _ | _⟩, escaped⟩ := exists_statements_escapeDollars reads
  obtain ⟨u, rfl, inner⟩ := texts.exists_of_concat (by decide)
  rw [List.append_assoc] at escaped
  exact ⟨u, inner, escaped⟩

theorem exists_statements_after (key : Key) :
    ∃ u, Escaped (closeLine line.text.reverse) u ∧
      statements (escapeDollars (key.text ++ '=' :: '1' :: '\n' :: (line.text ++ ['\n']))) =
        [.whole (key.text ++ ['=', '1']), .whole u] := by
  have marks : ∀ c ∈ key.text ++ ['=', '1'], isUnmarked c = true :=
    List.forall_mem_append.mpr
      ⟨fun c mem => isUnmarked_of_isKeyChar (isKeyChar_of_mem key.isKey mem),
        List.forall_mem_cons.mpr ⟨rfl, List.forall_mem_singleton.mpr rfl⟩⟩
  have closed : closeLine (key.text ++ ['=', '1']).reverse = key.text ++ ['=', '1'] := by
    rw [closeLine_of_head_ne (by simp), List.reverse_reverse]
  have reads : statements (key.text ++ ['=', '1'] ++ '\n' :: (line.text ++ ['\n'])) =
      [key.text ++ ['=', '1'], closeLine line.text.reverse].map .whole := by
    rw [statements_eq, Cursor.statements_unmarked marks, closed,
      Cursor.statements_unmarked line.unmarked]
    rfl
  have dollar : '$' ∉ key.text ++ ['=', '1'] :=
    not_mem_wordLine key one (by decide) (by decide)
  obtain ⟨_, _ | ⟨first, _ | ⟨texts, _ | _⟩⟩, escaped⟩ := exists_statements_escapeDollars reads
  rw [first.eq_of_not_mem dollar, List.append_assoc] at escaped
  exact ⟨_, texts, escaped⟩

end BareLine

/-- With an equals sign behind it a bare line leaves a key with an empty value exactly if it names
that key, and on its own it takes away exactly the key that it names. -/
theorem bareKey?_agrees (env : Environment) (line : BareLine) :
    (∀ k, bareKey? line.text = some k ↔
      (parse env (line.text ++ ['=', '\n'])).values.entries = [(k, [])]) ∧
    ∀ key : Key,
      (parse env (key.text ++ '=' :: '1' :: '\n' :: (line.text ++ ['\n']))).values.get? key.text =
        none ↔ bareKey? line.text = some key.text := by
  constructor
  · intro k
    obtain ⟨u, texts, reads⟩ := line.exists_statements_equals
    have free : '=' ∉ u := texts.not_mem (by decide) line.noEquals
    rw [parse, line.withoutMark_append (by decide), reads, List.foldl_cons, List.foldl_nil,
      Parsed.entries_handle_concat env free, texts.bareKey?_eq]
    cases bareKey? line.text <;> simp
  · intro key
    obtain ⟨u, texts, reads⟩ := line.exists_statements_after key
    have free : '=' ∉ u := by
      refine texts.not_mem (by decide) fun mem => line.noEquals ?_
      exact List.mem_reverse.mp (closeLine_subset _ mem)
    have named : bareKey? u = bareKey? line.text := by
      rw [texts.bareKey?_eq, bareKey?_congr (trim_closeLine _), List.reverse_reverse]
    have first : (Statement.whole (key.text ++ ['=', '1'])).read (Parsed.empty.expand env) =
        .assigned key.text one.text := read_wordLine _ key one
    rw [parse, withoutMark_of_head (key.head_append _), reads, List.foldl_cons, List.foldl_cons,
      List.foldl_nil, Parsed.get?_handle_of_not_mem env _ free, named]
    rw [values_handle_assigned env _ first]
    simp [one]

example : bareKey? "\u00a0export export\u2003".toList = some "export".toList := by decide

end SkillHost.Dotenv
