import Mathlib.Data.List.Induction
import Mathlib.Tactic.SplitIfs
import SkillHost.Dotenv.Statement

/-! The reader of statements taken one character at a time. A cursor is where it stands inside a
text; a text read in two parts gives the statements that end in the first part, then those read
on from the cursor behind it. -/
namespace SkillHost.Dotenv

theorem closeLine_of_head_ne {start : Text} (h : start.head? ≠ some '\r') :
    closeLine start = start.reverse := by
  unfold closeLine
  split
  · exact absurd rfl h
  · rfl

theorem closeLine_of_head {start : Text} (h : ∀ c ∈ start.head?, Text.isBlank c = false) :
    closeLine start = start.reverse :=
  closeLine_of_head_ne fun back => absurd (h '\r' back) (by decide)

theorem closeLine_subset (start : Text) : closeLine start ⊆ start := by
  unfold closeLine
  split
  · exact fun c mem => List.mem_cons_of_mem _ (List.mem_reverse.mp mem)
  · exact fun c mem => List.mem_reverse.mp mem

namespace Quoting

def quoted : Quoting → Bool
  | plain | blank | escape => false
  | weak | weakEscape | strong | strongEscape => true

theorem quoted_next (q : Quoting) {c : Char} (h : Text.isBlank c = true) :
    (q.next c).quoted = q.quoted := by
  have back : c ≠ '\\' := by rintro rfl; cases h
  have double : c ≠ '"' := by rintro rfl; cases h
  have single : c ≠ '\'' := by rintro rfl; cases h
  cases q with
  | plain =>
    simp only [next, back, double, single, if_false]
    split_ifs <;> rfl
  | blank | weak | strong => simp [next, back, double, single, quoted]
  | escape | weakEscape | strongEscape => rfl

theorem next_of_not_quoted {q : Quoting} (h : q.quoted = false) :
    q.next '\n' = .plain ∧ q.next '\r' = .plain := by
  cases q with
  | plain | blank | escape => exact ⟨rfl, rfl⟩
  | weak | weakEscape | strong | strongEscape => cases h

theorem ne_plain_of_quoted {q : Quoting} (h : q.quoted = true) : q ≠ .plain := by
  rintro rfl
  cases h

end Quoting

namespace StatementScan

def next : StatementScan → Char → StatementScan
  | comment, c => if c = '\n' then body true .plain else comment
  | body leading quoting, c =>
    if c = '#' ∧ (body leading quoting).takesComment then comment
    else if c = '\n' ∧ quoting.next c = .plain then body true .plain
    else body (leading && Text.isBlank c) (quoting.next c)

def after (s : StatementScan) (t : Text) : StatementScan := t.foldl next s

@[simp] theorem after_nil (s : StatementScan) : s.after [] = s := rfl

@[simp] theorem after_cons (s : StatementScan) (c : Char) (rest : Text) :
    s.after (c :: rest) = (s.next c).after rest := rfl

theorem after_append (s : StatementScan) (x y : Text) :
    s.after (x ++ y) = (s.after x).after y := List.foldl_append

end StatementScan

/-- Where the reader stands, with what it holds of the current statement, in reverse. -/
structure Cursor where
  scan : StatementScan
  start : Text

namespace Cursor

def fresh : Cursor := ⟨.body true .plain, []⟩

def statements (r : Cursor) (t : Text) : List Statement := statementsFrom r.scan r.start t

def ended? (r : Cursor) (c : Char) : Option Statement :=
  match r.scan with
  | .comment => if c = '\n' then some (.whole r.start.reverse) else none
  | .body leading quoting =>
    if c = '#' ∧ (StatementScan.body leading quoting).takesComment then none
    else if c = '\n' ∧ quoting.next c = .plain then some (.whole (closeLine r.start))
    else none

def startNext (r : Cursor) (c : Char) : Text :=
  match r.scan with
  | .comment => if c = '\n' then [] else r.start
  | .body leading quoting =>
    if c = '#' ∧ (StatementScan.body leading quoting).takesComment then r.start
    else if c = '\n' ∧ quoting.next c = .plain then []
    else c :: r.start

def next (r : Cursor) (c : Char) : Cursor := ⟨r.scan.next c, r.startNext c⟩

def after (r : Cursor) (t : Text) : Cursor := t.foldl next r

def ended (r : Cursor) : Text → List Statement
  | [] => []
  | c :: rest => (r.ended? c).toList ++ (r.next c).ended rest

@[simp] theorem after_nil (r : Cursor) : r.after [] = r := rfl

@[simp] theorem after_cons (r : Cursor) (c : Char) (rest : Text) :
    r.after (c :: rest) = (r.next c).after rest := rfl

theorem after_append (r : Cursor) (x y : Text) : r.after (x ++ y) = (r.after x).after y :=
  List.foldl_append

@[simp] theorem after_scan (r : Cursor) (t : Text) : (r.after t).scan = r.scan.after t := by
  induction t generalizing r with
  | nil => rfl
  | cons c rest ih => exact ih (r.next c)

theorem statements_cons (r : Cursor) (c : Char) (rest : Text) :
    r.statements (c :: rest) = (r.ended? c).toList ++ (r.next c).statements rest := by
  obtain ⟨scan, start⟩ := r
  cases scan with
  | comment =>
    by_cases h : c = '\n' <;>
      simp [statements, statementsFrom, ended?, next, startNext, StatementScan.next, h]
  | body leading quoting =>
    simp only [statements, statementsFrom, ended?, next, startNext, StatementScan.next]
    split_ifs <;> rfl

theorem statements_nil {quoting : Quoting} (h : quoting ≠ .plain) (leading : Bool) (start : Text) :
    (Cursor.mk (.body leading quoting) start).statements [] = [.unfinished start.reverse] :=
  if_pos h

theorem statements_lineEnd {quoting : Quoting} (h : quoting.quoted = false) (leading : Bool)
    (start y : Text) :
    (Cursor.mk (.body leading quoting) start).statements ('\n' :: y) =
      .whole (closeLine start) :: fresh.statements y := by
  simp [statements_cons, ended?, next, startNext, StatementScan.next,
    (Quoting.next_of_not_quoted h).1, fresh]

theorem statements_quoted {quoting : Quoting} (h : quoting.quoted = true) (start : Text) (c : Char)
    (y : Text) :
    (Cursor.mk (.body false quoting) start).statements (c :: y) =
      (Cursor.mk (.body false (quoting.next c)) (c :: start)).statements y := by
  have stays : ¬(c = '\n' ∧ quoting.next c = .plain) := by
    rintro ⟨rfl, plain⟩
    have quoted := quoting.quoted_next (c := '\n') rfl
    rw [plain, h] at quoted
    cases quoted
  have noComment : (StatementScan.body false quoting).takesComment = false := by
    cases quoting with
    | plain | blank | escape => cases h
    | weak | weakEscape | strong | strongEscape => rfl
  simp [statements_cons, ended?, next, startNext, StatementScan.next, noComment, stays]

theorem statements_append (r : Cursor) (x y : Text) :
    r.statements (x ++ y) = r.ended x ++ (r.after x).statements y := by
  induction x generalizing r with
  | nil => rfl
  | cons c rest ih =>
    rw [List.cons_append, statements_cons, ih, ended, after_cons, List.append_assoc]

theorem start_suffix {x : Text} (h : (fresh.after x).scan ≠ .comment) :
    (fresh.after x).start.reverse <:+ x := by
  induction x using List.reverseRecOn with
  | nil => exact List.nil_suffix
  | append_singleton x c ih =>
    rw [after_append, after_cons, after_nil] at h ⊢
    generalize fresh.after x = r at h ih ⊢
    obtain ⟨scan, start⟩ := r
    cases scan with
    | comment =>
      simp only [next, startNext, StatementScan.next] at h ⊢
      split_ifs at h ⊢ with line
      · exact List.nil_suffix
      · exact absurd rfl h
    | body leading quoting =>
      simp only [next, startNext, StatementScan.next] at h ⊢
      split_ifs at h ⊢ with comment ends
      · exact absurd rfl h
      · exact List.nil_suffix
      · obtain ⟨z, rfl⟩ := ih nofun
        exact ⟨z, by simp⟩

theorem exists_statements_append {u : Text} (hash : '#' ∉ u) (line : '\n' ∉ u) (leading : Bool)
    (quoting : Quoting) (start : Text) :
    ∃ leading', ∀ y, (Cursor.mk (.body leading quoting) start).statements (u ++ y) =
      (Cursor.mk (.body leading' (u.foldl Quoting.next quoting))
        (u.reverse ++ start)).statements y := by
  induction u generalizing leading quoting start with
  | nil => exact ⟨leading, fun y => rfl⟩
  | cons c u ih =>
    obtain ⟨leading', reads⟩ := ih (List.not_mem_of_not_mem_cons hash)
      (List.not_mem_of_not_mem_cons line) (leading && Text.isBlank c) (quoting.next c) (c :: start)
    have hc : c ≠ '#' := (List.ne_of_not_mem_cons hash).symm
    have hline : c ≠ '\n' := (List.ne_of_not_mem_cons line).symm
    refine ⟨leading', fun y => ?_⟩
    rw [List.cons_append, statements_cons]
    simp [ended?, next, startNext, StatementScan.next, hc, hline, reads]

end Cursor

theorem statements_eq (t : Text) : statements t = Cursor.fresh.statements t := rfl

end SkillHost.Dotenv
