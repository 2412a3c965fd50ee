import SkillHost.Proofs.Dotenv.Held
import SkillHost.Proofs.Dotenv.OwnKey
import SkillHost.Proofs.Dotenv.Prefix

/-! The end of a text. A line break there changes what is loaded only where the reader of statements
stands behind a blank or a backslash. The line break ends the statement; without it the statement is
left unfinished, and what it gives to a key is lost. -/
namespace SkillHost.Dotenv

theorem bareKey?_congr {t u : Text} (h : Text.trim t = Text.trim u) : bareKey? t = bareKey? u := by
  rw [bareKey?, h, bareKey?]

namespace Parsed

theorem apply_rejected_congr (parsed : Parsed) {t u : Text} (h : Text.trim t = Text.trim u) :
    parsed.apply (.rejected t) = parsed.apply (.rejected u) := by
  rw [apply, bareKey?_congr h, apply]

theorem handle_unfinished_congr (env : Environment) (parsed : Parsed) {t u : Text}
    (h : Text.trim t = Text.trim u) :
    parsed.handle env (.unfinished t) = parsed.handle env (.unfinished u) :=
  parsed.apply_rejected_congr h

theorem handle_whole_congr (env : Environment) (parsed : Parsed) {t u : Text}
    (h : Text.trim t = Text.trim u) :
    parsed.handle env (.whole t) = parsed.handle env (.whole u) := by
  rw [handle, handle, Statement.read, Statement.read, Reading.ofText, Reading.ofText, h]
  split
  · rfl
  split
  · rfl
  · exact parsed.apply_rejected_congr h

end Parsed

theorem Quoting.next_eq_blank_or_escape {quoting : Quoting} {c : Char}
    (h : quoting.next c = .blank ∨ quoting.next c = .escape) :
    Text.isBlank c = true ∨ c = '\\' := by
  cases quoting with
  | plain | blank | weak | strong =>
    simp only [next] at h
    split_ifs at h <;> simp_all
  | escape | weakEscape | strongEscape => simp [next] at h

theorem StatementScan.isBlank_or_backslash {s : StatementScan} {c : Char} {leading : Bool}
    {quoting : Quoting} (h : s.next c = .body leading quoting)
    (stands : quoting = .blank ∨ quoting = .escape) : Text.isBlank c = true ∨ c = '\\' := by
  have other : quoting ≠ .plain := by
    rcases stands with rfl | rfl <;> decide
  cases s with
  | comment =>
    simp only [next] at h
    split_ifs at h
    exact absurd (StatementScan.body.inj h).2.symm other
  | body leading' quoting' =>
    simp only [next] at h
    split_ifs at h
    · exact absurd (StatementScan.body.inj h).2.symm other
    · rw [← (StatementScan.body.inj h).2] at stands
      exact Quoting.next_eq_blank_or_escape stands

namespace Cursor

/-- The statement that a line break would end, but the end of the text does not. -/
def dangling? (r : Cursor) : Option Text :=
  match r.scan with
  | .body _ .blank | .body _ .escape => some r.start.reverse
  | _ => none

theorem exists_of_dangling? {r : Cursor} {text : Text} (h : r.dangling? = some text) :
    ∃ leading quoting, (quoting = .blank ∨ quoting = .escape) ∧
      r = ⟨.body leading quoting, text.reverse⟩ := by
  obtain ⟨scan, start⟩ := r
  unfold dangling? at h
  split at h
  · rename_i leading scan
    obtain rfl := Option.some.inj h
    exact ⟨leading, .blank, .inl rfl, by simpa using scan⟩
  · rename_i leading scan
    obtain rfl := Option.some.inj h
    exact ⟨leading, .escape, .inr rfl, by simpa using scan⟩
  · cases h

theorem handle_break_of_dangling (env : Environment) (parsed : Parsed) {r : Cursor} {text : Text}
    (h : r.dangling? = some text) :
    (r.statements []).foldl (Parsed.handle env) parsed = parsed.handle env (.unfinished text) ∧
      (r.statements ['\n']).foldl (Parsed.handle env) parsed = parsed.handle env (.whole text) := by
  obtain ⟨leading, quoting, stands, rfl⟩ := exists_of_dangling? h
  have other : quoting ≠ .plain := by
    rcases stands with rfl | rfl <;> decide
  have ends : (Cursor.mk (.body leading quoting) text.reverse).statements ['\n'] =
      [.whole (closeLine text.reverse)] := by
    rcases stands with rfl | rfl <;> rfl
  have trimmed := trim_closeLine text.reverse
  rw [List.reverse_reverse] at trimmed
  rw [ends, statements_nil other, List.reverse_reverse]
  exact ⟨rfl, parsed.handle_whole_congr env trimmed⟩

theorem handle_break_of_not_dangling (env : Environment) (parsed : Parsed) {r : Cursor}
    (h : r.dangling? = none) :
    (r.statements ['\n']).foldl (Parsed.handle env) parsed =
      (r.statements []).foldl (Parsed.handle env) parsed := by
  obtain ⟨scan, start⟩ := r
  -- Between quotes the line break becomes the last character of the unfinished statement.
  have quoted {leading : Bool} {quoting : Quoting} (within : quoting ≠ .plain)
      (reads : (Cursor.mk (.body leading quoting) start).statements ['\n'] =
        [.unfinished ('\n' :: start).reverse]) :
      ((Cursor.mk (.body leading quoting) start).statements ['\n']).foldl (Parsed.handle env)
          parsed =
        ((Cursor.mk (.body leading quoting) start).statements []).foldl (Parsed.handle env)
          parsed := by
    rw [reads, statements_nil within, List.reverse_cons]
    exact parsed.handle_unfinished_congr env
      (Text.trim_append start.reverse (List.forall_mem_singleton.mpr (by decide)))
  cases scan with
  | comment => rfl
  | body leading quoting =>
    cases quoting with
    | plain =>
      cases start with
      | nil => rfl
      | cons c start => exact parsed.handle_whole_congr env (trim_closeLine (c :: start))
    | blank | escape => cases h
    | weak | weakEscape | strong | strongEscape => exact quoted (by decide) rfl

theorem getLast_of_dangling? {x text : Text} (h : (behind x).dangling? = some text) :
    ∃ c ∈ x.getLast?, Text.isBlank c = true ∨ c = '\\' := by
  obtain ⟨leading, quoting, stands, parts⟩ := exists_of_dangling? h
  have scan := behind_scan x
  rw [parts] at scan
  cases x using List.reverseRecOn with
  | nil =>
    obtain ⟨-, rfl⟩ := StatementScan.body.inj scan
    simp at stands
  | append_singleton x c =>
    rw [StatementScan.after_append, StatementScan.after_cons, StatementScan.after_nil] at scan
    exact ⟨c, by simp, StatementScan.isBlank_or_backslash scan.symm stands⟩

end Cursor

/-- Read as a whole, the statement does no more than it does unfinished. -/
structure Statement.Idle (s : Statement) (env : Environment) (parsed : Parsed) : Prop where
  assigned : ∀ k v, s.read (parsed.expand env) = .assigned k v → parsed.values.get? k = some v
  strays : ∀ k, s.Strays k → parsed.values.get? k = none

theorem get?_handle_unfinished (env : Environment) (parsed : Parsed) (text k : Text) :
    (parsed.handle env (.unfinished text)).values.get? k =
      if bareKey? text = some k then none else parsed.values.get? k :=
  parsed.get?_apply_rejected text k

section
variable {env : Environment} {parsed : Parsed} {text : Text}

theorem exists_rejected_of_strays {k : Text} (h : (Statement.whole text).Strays k)
    (expand : Text → Text) :
    bareKey? text ≠ some k ∧ ∃ kept, bareKey? kept = some k ∧
      (Statement.whole text).read expand = .rejected kept := by
  obtain ⟨kept, read, named⟩ := Statement.read_of_strays h expand
  obtain ⟨-, key, value, assigns, -⟩ := h
  exact ⟨fun bare => Statement.not_isBare_of_assigns assigns k (Statement.isBare_iff.mpr bare),
    kept, named, read⟩

theorem read_of_bareKey? {k : Text} (h : bareKey? text = some k) :
    (Statement.whole text).read (parsed.expand env) = .rejected text :=
  Statement.read_of_isBare (Statement.isBare_iff.mpr h) _

theorem idle_of_nothing (read : (Statement.whole text).read (parsed.expand env) = .nothing) :
    (Statement.whole text).Idle env parsed := by
  constructor
  · intro k v assigned
    rw [read] at assigned
    cases assigned
  · intro k stray
    obtain ⟨-, kept, -, rejected⟩ := exists_rejected_of_strays stray (parsed.expand env)
    rw [read] at rejected
    cases rejected

theorem idle_iff_of_assigned {key v : Text}
    (read : (Statement.whole text).read (parsed.expand env) = .assigned key v) :
    (Statement.whole text).Idle env parsed ↔ parsed.values.get? key = some v := by
  constructor
  · exact fun idle => idle.assigned key v read
  · refine fun there => ⟨fun k v' assigned => ?_, fun k stray => ?_⟩
    · rw [read] at assigned
      obtain ⟨rfl, rfl⟩ := Reading.assigned.inj assigned
      exact there
    · obtain ⟨-, kept, -, rejected⟩ := exists_rejected_of_strays stray (parsed.expand env)
      rw [read] at rejected
      cases rejected

theorem idle_iff_of_rejected {kept : Text}
    (read : (Statement.whole text).read (parsed.expand env) = .rejected kept)
    (erases : ∀ k, bareKey? kept = some k →
      (Statement.whole text).IsBare k ∨ (Statement.whole text).Strays k) :
    (Statement.whole text).Idle env parsed ↔
      ∀ k, bareKey? kept = some k → bareKey? text ≠ some k → parsed.values.get? k = none := by
  constructor
  · intro idle k named other
    rcases erases k named with bare | stray
    · exact absurd (Statement.isBare_iff.mp bare) other
    · exact idle.strays k stray
  · refine fun absent => ⟨fun k v assigned => ?_, fun k stray => ?_⟩
    · rw [read] at assigned
      cases assigned
    · obtain ⟨other, kept', named, rejected⟩ := exists_rejected_of_strays stray (parsed.expand env)
      rw [read] at rejected
      obtain rfl := Reading.rejected.inj rejected
      exact absent k named other

end

theorem idle_iff (env : Environment) (parsed : Parsed) (text : Text) :
    (∀ k, (parsed.handle env (.whole text)).values.get? k =
      (parsed.handle env (.unfinished text)).values.get? k) ↔
    (Statement.whole text).Idle env parsed := by
  simp only [get?_handle_unfinished]
  rcases (Statement.whole text).read_cases (parsed.expand env) with
    read | ⟨key, value, v, assigns, read⟩ | ⟨kept, read, erases⟩
  · refine iff_of_true (fun k => ?_) (idle_of_nothing read)
    have unnamed : bareKey? text ≠ some k := by
      intro named
      rw [read_of_bareKey? named] at read
      cases read
    rw [if_neg unnamed, Parsed.handle, read, Parsed.apply]
  · have unnamed (k : Text) : bareKey? text ≠ some k := by
      intro named
      rw [read_of_bareKey? named] at read
      cases read
    simp only [idle_iff_of_assigned read, Parsed.handle, read, Parsed.get?_apply_assigned, unnamed,
      if_false]
    constructor
    · intro same
      exact (same key).symm.trans (if_pos rfl)
    · intro there k
      split
      · rename_i same
        rw [same, there]
      · rfl
  · simp only [idle_iff_of_rejected read erases, Parsed.handle, read, Parsed.get?_apply_rejected]
    refine forall_congr' fun k => ?_
    by_cases named : bareKey? kept = some k
    · by_cases alone : bareKey? text = some k <;> simp [named, alone, eq_comm]
    · have other : bareKey? text ≠ some k := by
        intro alone
        rw [read_of_bareKey? alone] at read
        exact named (Reading.rejected.inj read ▸ alone)
      simp [named, other]

/-- The line break changes nothing exactly if the statement before it is ended anyway, or does no
more as a whole than it does unfinished. -/
theorem final_break_iff (env : Environment) (t : Text) :
    (∀ k, (parse env (t ++ ['\n'])).values.get? k = (parse env t).values.get? k) ↔
      ∀ text, (Cursor.behind (withoutMark t)).dangling? = some text →
        (Statement.whole text).Idle env (Parsed.before env (withoutMark t)) := by
  let r := Cursor.behind (withoutMark t)
  let earlier := Parsed.before env (withoutMark t)
  have with_break : parse env (t ++ ['\n']) =
      (r.statements ['\n']).foldl (Parsed.handle env) earlier :=
    parse_append env t (by decide) (by decide) []
  have without_break : parse env t = (r.statements []).foldl (Parsed.handle env) earlier := by
    rw [parse, statements_eq, ← List.append_nil (escapeDollars (withoutMark t)),
      Cursor.statements_append, List.foldl_append]
    rfl
  rw [with_break, without_break]
  cases dangling : r.dangling? with
  | none =>
    rw [Cursor.handle_break_of_not_dangling env earlier dangling]
    simp
  | some text =>
    obtain ⟨without, whole⟩ := Cursor.handle_break_of_dangling env earlier dangling
    rw [without, whole, idle_iff]
    simp [earlier]

/-- Behind any other character than a blank or a backslash the line break changes nothing. -/
theorem get?_final_break {t : Text} (h : ∀ c ∈ t.getLast?, Text.isBlank c = false ∧ c ≠ '\\')
    (env : Environment) (k : Text) :
    (parse env (t ++ ['\n'])).values.get? k = (parse env t).values.get? k := by
  refine (final_break_iff env t).mpr (fun text dangling => ?_) k
  obtain ⟨c, last, stands⟩ := Cursor.getLast_of_dangling? dangling
  obtain ⟨mark, parts⟩ := withoutMark_suffix t
  have within : c ∈ t.getLast? := by
    rw [← parts, List.getLast?_append_of_ne_nil _ (by rintro empty; simp [empty] at last)]
    exact last
  obtain ⟨blank, back⟩ := h c within
  rcases stands with isBlank | isBack
  · rw [isBlank] at blank
    cases blank
  · exact absurd isBack back

/-- A blank at the end of the last line loses its value, unless the line is ended. -/
theorem value_lost_behind_last_blank :
    (parse .empty "A=1 ".toList).values.get? ['A'] = none ∧
      (parse .empty ("A=1 ".toList ++ ['\n'])).values.get? ['A'] = some ['1'] := by decide

end SkillHost.Dotenv
