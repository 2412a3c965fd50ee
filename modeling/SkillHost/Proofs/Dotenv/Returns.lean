import SkillHost.Proofs.Dotenv.FinalBreak

/-! Carriage returns put before the line feeds of a text. To the reader of statements they make no
difference as long as each statement is on one line. -/
namespace SkillHost.Dotenv

def withReturns (t : Text) : Text := t.flatMap fun c => if c = '\n' then ['\r', '\n'] else [c]

theorem withReturns_cons {c : Char} (h : c ≠ '\n') (t : Text) :
    withReturns (c :: t) = c :: withReturns t := by
  simp [withReturns, h]

theorem withReturns_break (t : Text) :
    withReturns ('\n' :: t) = '\r' :: '\n' :: withReturns t := rfl

theorem withReturns_append (x y : Text) : withReturns (x ++ y) = withReturns x ++ withReturns y :=
  List.flatMap_append

theorem head_withReturns {c : Char} (feed : c ≠ '\n') (back : c ≠ '\r') (t : Text) :
    (withReturns t).head? = some c ↔ t.head? = some c := by
  cases t with
  | nil => exact Iff.rfl
  | cons a t =>
    by_cases line : a = '\n'
    · simp [line, withReturns_break, feed.symm, back.symm]
    · simp [withReturns_cons line]

theorem withoutMark_withReturns (t : Text) :
    withoutMark (withReturns t) = withReturns (withoutMark t) := by
  cases t with
  | nil => rfl
  | cons c t =>
    by_cases line : c = '\n'
    · rw [line]
      rfl
    by_cases mark : c = '\ufeff'
    · rw [mark]
      rfl
    · rw [withReturns_cons line, withoutMark_of_head (by simpa), withoutMark_of_head (by simpa),
        withReturns_cons line]

/-- The statement stands on one line. A line end may be its last character, where the end of the
text leaves it unfinished. -/
def Statement.OnOneLine (s : Statement) : Prop := '\n' ∉ s.text.dropLast

instance (s : Statement) : Decidable s.OnOneLine :=
  inferInstanceAs (Decidable ('\n' ∉ s.text.dropLast))

namespace StatementScan

def quoted : StatementScan → Bool
  | comment => false
  | body _ quoting => quoting.quoted

theorem next_return (s : StatementScan) : (s.next '\r').next '\n' = s.next '\n' := by
  cases s with
  | comment => rfl
  | body leading quoting => cases leading <;> cases quoting <;> rfl

theorem after_withReturns (s : StatementScan) (t : Text) :
    s.after (withReturns t) = s.after t := by
  induction t generalizing s with
  | nil => rfl
  | cons c t ih =>
    by_cases line : c = '\n'
    · rw [line, withReturns_break, after_cons, after_cons, next_return, ih, after_cons]
    · rw [withReturns_cons line, after_cons, ih, after_cons]

end StatementScan

namespace Cursor

structure Tidy (r : Cursor) : Prop where
  noReturn : '\r' ∉ r.start
  unquoted : ∀ quoting, r.scan = .body true quoting → quoting.quoted = false

theorem tidy_fresh : Tidy fresh := by
  refine ⟨List.not_mem_nil, ?_⟩
  rintro quoting ⟨⟩
  rfl

theorem Tidy.next {r : Cursor} (h : r.Tidy) {c : Char} (hc : c ≠ '\r') : (r.next c).Tidy := by
  obtain ⟨scan, start⟩ := r
  obtain ⟨noReturn, unquoted⟩ := h
  cases scan with
  | comment =>
    simp only [Cursor.next, startNext, StatementScan.next]
    split_ifs
    · exact tidy_fresh
    · exact ⟨noReturn, fun q parts => StatementScan.noConfusion parts⟩
  | body leading quoting =>
    simp only [Cursor.next, startNext, StatementScan.next]
    split_ifs
    · exact ⟨noReturn, fun q parts => StatementScan.noConfusion parts⟩
    · exact tidy_fresh
    · refine ⟨by simp [noReturn, Ne.symm hc], fun q parts => ?_⟩
      obtain ⟨blanks, rfl⟩ := StatementScan.body.inj parts
      obtain ⟨rfl, blank⟩ := Bool.and_eq_true_iff.mp blanks
      rw [Quoting.quoted_next quoting blank]
      exact unquoted quoting rfl

theorem Tidy.after {r : Cursor} (h : r.Tidy) {t : Text} (ht : '\r' ∉ t) : (r.after t).Tidy := by
  induction t generalizing r with
  | nil => exact h
  | cons c t ih =>
    exact ih (h.next (List.ne_of_not_mem_cons ht).symm) (List.not_mem_of_not_mem_cons ht)

theorem Tidy.exists_of_quoted {r : Cursor} (h : r.Tidy) (quoted : r.scan.quoted = true) :
    ∃ quoting start, quoting.quoted = true ∧ '\r' ∉ start ∧ r = ⟨.body false quoting, start⟩ := by
  obtain ⟨scan, start⟩ := r
  cases scan with
  | comment => cases quoted
  | body leading quoting =>
    cases leading with
    | true => exact absurd ((h.unquoted quoting rfl).symm.trans quoted) nofun
    | false => exact ⟨quoting, start, quoted, h.noReturn, rfl⟩

theorem closeLine_of_not_mem {start : Text} (h : '\r' ∉ start) :
    closeLine start = start.reverse :=
  closeLine_of_head_ne fun back => h (List.mem_of_mem_head? back)

theorem statements_break {r : Cursor} (quoted : r.scan.quoted = false) (back : '\r' ∉ r.start)
    (y : Text) : r.statements ('\n' :: y) = .whole r.start.reverse :: fresh.statements y := by
  obtain ⟨scan, start⟩ := r
  cases scan with
  | comment => rfl
  | body leading quoting => rw [statements_lineEnd quoted, closeLine_of_not_mem back]

theorem statements_return_break {r : Cursor} (quoted : r.scan.quoted = false) (y : Text) :
    r.statements ('\r' :: '\n' :: y) = .whole r.start.reverse :: fresh.statements y := by
  obtain ⟨scan, start⟩ := r
  cases scan with
  | comment => rfl
  | body leading quoting =>
    have closed : closeLine ('\r' :: start) = start.reverse := rfl
    have still : Quoting.plain.next '\n' = .plain := rfl
    simp [statements_cons, ended?, next, startNext, StatementScan.next,
      (Quoting.next_of_not_quoted quoted).2, closed, still, fresh]

theorem ended?_or_start_next {r : Cursor} (back : '\r' ∉ r.start) (c : Char) :
    r.ended? c = some (.whole r.start.reverse) ∨
      (r.next c).start = r.start ∨ (r.next c).start = c :: r.start := by
  obtain ⟨scan, start⟩ := r
  cases scan with
  | comment =>
    by_cases line : c = '\n'
    · exact .inl (if_pos line)
    · exact .inr (.inl (if_neg line))
  | body leading quoting =>
    simp only [ended?, next, startNext]
    split_ifs
    · exact .inr (.inl rfl)
    · rw [closeLine_of_not_mem back]
      exact .inl rfl
    · exact .inr (.inr rfl)

theorem exists_mem_statements {r : Cursor} (held : r.start ≠ []) (back : '\r' ∉ r.start) {t : Text}
    (ht : '\r' ∉ t) : ∃ s ∈ r.statements t, r.start.reverse <+: s.text := by
  induction t generalizing r with
  | nil =>
    obtain ⟨scan, start⟩ := r
    cases scan with
    | comment => exact ⟨_, List.mem_singleton_self _, List.prefix_rfl⟩
    | body leading quoting =>
      by_cases plain : quoting = .plain
      · have last : (Cursor.mk (.body leading quoting) start).statements [] =
            [.whole start.reverse] := by
          simpa [statements, statementsFrom, plain] using held
        exact ⟨_, last ▸ List.mem_singleton_self _, List.prefix_rfl⟩
      · rw [statements_nil plain]
        exact ⟨_, List.mem_singleton_self _, List.prefix_rfl⟩
  | cons c t ih =>
    rw [statements_cons]
    rcases ended?_or_start_next back c with ends | keeps
    · exact ⟨_, by rw [ends]; exact List.mem_cons_self, List.prefix_rfl⟩
    · have nonempty : (r.next c).start ≠ [] := by
        rcases keeps with same | more <;> simp [*]
      have clean : '\r' ∉ (r.next c).start := by
        rcases keeps with same | more <;> simp [*, List.ne_of_not_mem_cons ht]
      have begins : r.start.reverse <+: (r.next c).start.reverse := by
        rcases keeps with same | more <;> simp [*]
      obtain ⟨s, mem, later⟩ := ih nonempty clean (List.not_mem_of_not_mem_cons ht)
      exact ⟨s, List.mem_append_right _ mem, begins.trans later⟩

theorem exists_not_onOneLine {r : Cursor} (tidy : r.Tidy) (quoted : r.scan.quoted = true) {c : Char}
    {t : Text} (ht : '\r' ∉ c :: t) : ∃ s ∈ r.statements ('\n' :: c :: t), ¬s.OnOneLine := by
  obtain ⟨quoting, start, within, back, rfl⟩ := tidy.exists_of_quoted quoted
  have still : (quoting.next '\n').quoted = true := by
    rw [quoting.quoted_next rfl, within]
  have clean : '\r' ∉ c :: '\n' :: start := by
    simp [back, List.ne_of_not_mem_cons ht]
  rw [statements_quoted within, statements_quoted still]
  obtain ⟨s, mem, z, parts⟩ := exists_mem_statements
    (r := ⟨.body false ((quoting.next '\n').next c), c :: '\n' :: start⟩) (List.cons_ne_nil _ _)
    clean (List.not_mem_of_not_mem_cons ht)
  refine ⟨s, mem, fun oneLine => oneLine ?_⟩
  rw [← parts, List.reverse_cons, List.append_assoc, List.dropLast_append_of_ne_nil (by simp)]
  simp

theorem handle_withReturns (env : Environment) {r : Cursor} (tidy : r.Tidy) {t : Text}
    (ht : '\r' ∉ t) (lines : ∀ s ∈ r.statements t, s.OnOneLine) (parsed : Parsed) :
    (r.statements (withReturns t)).foldl (Parsed.handle env) parsed =
      (r.statements t).foldl (Parsed.handle env) parsed := by
  induction t generalizing r parsed with
  | nil => rfl
  | cons c t ih =>
    have later := List.not_mem_of_not_mem_cons ht
    by_cases line : c = '\n'
    · subst line
      rw [withReturns_break]
      cases quoted : r.scan.quoted with
      | false =>
        rw [statements_break quoted tidy.noReturn] at lines ⊢
        rw [statements_return_break quoted, List.foldl_cons, List.foldl_cons]
        exact ih tidy_fresh later (fun s mem => lines s (List.mem_cons_of_mem _ mem)) _
      | true =>
        cases t with
        | cons a t =>
          obtain ⟨s, mem, broken⟩ := exists_not_onOneLine tidy quoted later
          exact absurd (lines s mem) broken
        | nil =>
          -- The end of the text comes inside quotes, and the blanks before it do not matter.
          obtain ⟨quoting, start, within, -, rfl⟩ := tidy.exists_of_quoted quoted
          have back : (quoting.next '\r').quoted = true := by
            rw [quoting.quoted_next rfl, within]
          have feed : (quoting.next '\n').quoted = true := by
            rw [quoting.quoted_next rfl, within]
          have both : ((quoting.next '\r').next '\n').quoted = true := by
            rw [Quoting.quoted_next _ rfl, back]
          rw [withReturns, List.flatMap_nil, statements_quoted within, statements_quoted within,
            statements_quoted back, statements_nil (Quoting.ne_plain_of_quoted feed),
            statements_nil (Quoting.ne_plain_of_quoted both)]
          have feedBlank : ∀ c ∈ ['\n'], Text.isBlank c = true :=
            List.forall_mem_singleton.mpr rfl
          have bothBlank : ∀ c ∈ ['\r', '\n'], Text.isBlank c = true :=
            List.forall_mem_cons.mpr ⟨rfl, feedBlank⟩
          refine parsed.handle_unfinished_congr env ?_
          rw [List.reverse_cons, List.reverse_cons, List.append_assoc, List.reverse_cons,
            Text.trim_append _ feedBlank]
          exact Text.trim_append _ bothBlank
    · rw [withReturns_cons line, statements_cons, statements_cons, List.foldl_append,
        List.foldl_append]
      rw [statements_cons] at lines
      exact ih (tidy.next (List.ne_of_not_mem_cons ht).symm) later
        (fun s mem => lines s (List.mem_append_right _ mem)) _

end Cursor

end SkillHost.Dotenv
