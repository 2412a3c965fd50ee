import Mathlib.Data.List.Forall2
import SkillHost.Proofs.Dotenv.Lockstep

/-! Where statements begin and end. A backslash put before a dollar leaves the reader of statements
where the dollar alone would, so the escaped text has the statements of the text, one for one, and
each says the same but for such backslashes. This needs no agreement of the two scans on quotes and
comments. What they do agree on is backslashes: none is put where another would escape it. -/
namespace SkillHost.Dotenv

namespace Escaped
variable {t u : Text}

theorem append (h : Escaped t u) {t' u' : Text} (h' : Escaped t' u') :
    Escaped (t ++ t') (u ++ u') := by
  induction h with
  | nil => exact h'
  | keep c _ ih => exact .keep c ih
  | escape _ ih => exact .escape ih

theorem eq_nil_iff (h : Escaped t u) : u = [] ↔ t = [] := by
  cases h <;> simp

theorem getLast? (h : Escaped t u) : u.getLast? = t.getLast? := by
  induction h with
  | nil => rfl
  | keep c _ ih => rw [List.getLast?_cons, List.getLast?_cons, ih]
  | escape _ ih => simp [List.getLast?_cons, ih]

theorem exists_of_concat {c : Char} (dollar : c ≠ '$') (h : Escaped (t ++ [c]) u) :
    ∃ v, u = v ++ [c] ∧ Escaped t v := by
  induction t generalizing u with
  | nil =>
    cases h with
    | keep _ rest =>
      cases rest
      exact ⟨[], rfl, .nil⟩
    | escape _ => exact absurd rfl dollar
  | cons a t ih =>
    cases h with
    | keep _ rest =>
      obtain ⟨v, rfl, later⟩ := ih rest
      exact ⟨a :: v, rfl, .keep a later⟩
    | escape rest =>
      obtain ⟨v, rfl, later⟩ := ih rest
      exact ⟨'\\' :: '$' :: v, rfl, .escape later⟩

end Escaped

/-- The same statement, with a backslash put before some of its dollars. -/
inductive Statement.Escaped : Statement → Statement → Prop where
  | whole {t u : Text} (h : Dotenv.Escaped t u) : Escaped (.whole t) (.whole u)
  | unfinished {t u : Text} (h : Dotenv.Escaped t u) : Escaped (.unfinished t) (.unfinished u)

theorem Escaped.closeLine {start start' : Text} (h : Escaped start.reverse start'.reverse) :
    Escaped (closeLine start) (closeLine start') := by
  by_cases back : start.head? = some '\r'
  · obtain ⟨rest, rfl⟩ := List.head?_eq_some_iff.mp back
    rw [List.reverse_cons] at h
    obtain ⟨v, parts, texts⟩ := h.exists_of_concat (by decide)
    have same : start' = '\r' :: v.reverse := by
      rw [← List.reverse_reverse start', parts, List.reverse_concat]
    rw [same]
    simpa [Dotenv.closeLine] using texts
  · have back' : start'.head? ≠ some '\r' := by
      have last := h.getLast?
      rw [List.getLast?_reverse, List.getLast?_reverse] at last
      rwa [last]
    rwa [closeLine_of_head_ne back, closeLine_of_head_ne back']

namespace Cursor

/-- Two readers at one place of a text and of the escaped text. -/
structure Escaped (r r' : Cursor) : Prop where
  scan : r'.scan = r.scan
  start : Dotenv.Escaped r.start.reverse r'.start.reverse

theorem escaped_fresh : Escaped fresh fresh := ⟨rfl, .nil⟩

theorem ended?_of_ne (r : Cursor) {c : Char} (h : c ≠ '\n') : r.ended? c = none := by
  unfold ended?
  split
  · rw [if_neg h]
  · simp [h]

theorem Escaped.ended? {r r' : Cursor} (h : r.Escaped r') (c : Char) :
    List.Forall₂ Statement.Escaped (r.ended? c).toList (r'.ended? c).toList := by
  obtain ⟨scan, start⟩ := r
  obtain ⟨scan', start'⟩ := r'
  obtain ⟨same, texts⟩ := h
  simp only at same texts
  subst same
  unfold Cursor.ended?
  cases scan' with
  | comment =>
    by_cases line : c = '\n'
    · simpa [line] using Statement.Escaped.whole texts
    · simp [line]
  | body leading quoting =>
    dsimp only
    split_ifs
    · exact .nil
    · exact .cons (.whole texts.closeLine) .nil
    · exact .nil

theorem Escaped.next {r r' : Cursor} (h : r.Escaped r') (c : Char) :
    (r.next c).Escaped (r'.next c) := by
  obtain ⟨scan, start⟩ := r
  obtain ⟨scan', start'⟩ := r'
  obtain ⟨same, texts⟩ := h
  simp only at same texts
  subst same
  refine ⟨rfl, ?_⟩
  have more : Dotenv.Escaped (c :: start).reverse (c :: start').reverse := by
    rw [List.reverse_cons, List.reverse_cons]
    exact texts.append (.keep c .nil)
  unfold Cursor.next startNext
  cases scan' with
  | comment =>
    dsimp only
    split_ifs
    · exact .nil
    · exact texts
  | body leading quoting =>
    dsimp only
    split_ifs
    · exact texts
    · exact .nil
    · exact more

theorem Escaped.escape {r r' : Cursor} (h : r.Escaped r') :
    (r.next '$').Escaped ((r'.next '\\').next '$') := by
  obtain ⟨scan, start⟩ := r
  obtain ⟨scan', start'⟩ := r'
  obtain ⟨same, texts⟩ := h
  simp only at same texts
  subst same
  refine ⟨scan'.next_backslash_dollar, ?_⟩
  cases scan' with
  | comment => exact texts
  | body leading quoting =>
    have more := texts.append (.escape .nil)
    simpa [Cursor.next, startNext, StatementScan.next] using more

theorem Escaped.statements_nil {r r' : Cursor} (h : r.Escaped r') :
    List.Forall₂ Statement.Escaped (r.statements []) (r'.statements []) := by
  obtain ⟨scan, start⟩ := r
  obtain ⟨scan', start'⟩ := r'
  obtain ⟨same, texts⟩ := h
  simp only at same texts
  subst same
  have empty : start' = [] ↔ start = [] := by simpa using texts.eq_nil_iff
  cases scan' with
  | comment => exact .cons (.whole texts) .nil
  | body leading quoting =>
    simp only [Cursor.statements, statementsFrom, List.isEmpty_iff, empty]
    split_ifs
    · exact .cons (.unfinished texts) .nil
    · exact .nil
    · exact .cons (.whole texts) .nil

theorem Escaped.statements {t u : Text} (h : Dotenv.Escaped t u) {r r' : Cursor}
    (hr : r.Escaped r') :
    List.Forall₂ Statement.Escaped (r.statements t) (r'.statements u) := by
  induction h generalizing r r' with
  | nil => exact hr.statements_nil
  | keep c _ ih =>
    rw [statements_cons, statements_cons]
    exact List.rel_append (hr.ended? c) (ih (hr.next c))
  | escape _ ih =>
    rw [statements_cons, statements_cons, statements_cons, ended?_of_ne r (by decide),
      ended?_of_ne r' (by decide), ended?_of_ne (r'.next '\\') (by decide)]
    exact ih hr.escape

end Cursor

theorem forall₂_statements {t u : Text} (h : Escaped t u) :
    List.Forall₂ Statement.Escaped (statements t) (statements u) :=
  Cursor.escaped_fresh.statements h

theorem exists_statements_escapeDollars {t : Text} {texts : List Text}
    (h : statements t = texts.map .whole) :
    ∃ us, List.Forall₂ Escaped texts us ∧ statements (escapeDollars t) = us.map .whole := by
  have escaped := forall₂_statements (escaped_escapeDollarsFrom (.plain true) t)
  rw [h, ← escapeDollars] at escaped
  generalize statements (escapeDollars t) = read at escaped
  clear h
  induction texts generalizing read with
  | nil =>
    cases escaped
    exact ⟨[], .nil, rfl⟩
  | cons text texts ih =>
    cases escaped with
    | cons first rest =>
      cases first with
      | whole inner =>
        obtain ⟨us, later, rfl⟩ := ih _ rest
        exact ⟨_ :: us, .cons inner later, rfl⟩

def Quoting.escapes : Quoting → Bool
  | escape | weakEscape | strongEscape => true
  | plain | blank | weak | strong => false

theorem Quoting.escapes_next_of_ne (q : Quoting) {c : Char} (h : c ≠ '\\') :
    (q.next c).escapes = false := by
  cases q with
  | plain | blank | weak | strong =>
    simp only [next, h, if_false]
    split_ifs <;> rfl
  | escape | weakEscape | strongEscape => rfl

theorem Quoting.escapes_next_backslash (q : Quoting) : (q.next '\\').escapes = !q.escapes := by
  cases q <;> rfl

namespace StatementScan

def escapes : StatementScan → Bool
  | comment => false
  | body _ quoting => quoting.escapes

theorem escapes_next_of_ne (s : StatementScan) {c : Char} (h : c ≠ '\\') :
    (s.next c).escapes = false := by
  cases s with
  | comment =>
    simp only [next]
    split_ifs <;> rfl
  | body leading quoting =>
    simp only [next]
    split_ifs
    · rfl
    · rfl
    · exact quoting.escapes_next_of_ne h

theorem next_backslash (s : StatementScan) :
    s.next '\\' = .comment ∧ s = .comment ∨ (s.next '\\').escapes = !s.escapes := by
  cases s with
  | comment => exact .inl ⟨rfl, rfl⟩
  | body leading quoting => exact .inr quoting.escapes_next_backslash

end StatementScan

/-- What the escaping of dollars knows of the backslashes that the reader of statements sees. -/
structure Paced (d : DollarScan) (s : StatementScan) : Prop where
  clear : d.expands = true → s.escapes = false
  behind : d = .plainEscape ∨ d = .doubleEscape → s.escapes = true ∨ s = .comment

theorem paced_fresh : Paced (.plain true) (.body true .plain) := ⟨fun _ => rfl, by simp⟩

theorem Paced.next {d : DollarScan} {s : StatementScan} (h : Paced d s) (c : Char) :
    Paced (d.next c) (s.next c) := by
  have back := s.next_backslash
  constructor
  case clear =>
    intro expands
    by_cases other : c ≠ '\\'
    · exact s.escapes_next_of_ne other
    obtain rfl := not_not.mp other
    have escaped : d = .plainEscape ∨ d = .doubleEscape := by
      by_contra free
      rw [DollarScan.expands_next_backslash (not_or.mp free)] at expands
      cases expands
    rcases h.behind escaped with escapes | rfl
    · rcases back with ⟨-, rfl⟩ | flips
      · rfl
      · rw [flips, escapes, Bool.not_true]
    · rfl
  case behind =>
    intro escaped
    obtain rfl : c = '\\' := by
      by_contra other
      exact not_or.mpr (d.next_of_ne_backslash other) escaped
    have expands : d.expands = true := by
      by_contra other
      exact not_or.mpr (DollarScan.next_of_not_expands (by simpa using other) _) escaped
    rcases back with ⟨comment, -⟩ | flips
    · exact .inr comment
    · rw [flips, h.clear expands, Bool.not_false]
      exact .inl rfl

theorem Paced.after {d : DollarScan} {s : StatementScan} (h : Paced d s) (t : Text) :
    Paced (d.after t) (s.after t) := by
  induction t generalizing d s with
  | nil => exact h
  | cons c t ih => exact ih (h.next c)

/-- Escaping leaves the statements of a text where they are. -/
structure KeepsStatements (t : Text) : Prop where
  /-- They are the same in number and order, and each says the same but for backslashes before
  dollars, whether it is whole or unfinished. -/
  statements : List.Forall₂ Statement.Escaped (statements t) (statements (escapeDollars t))
  /-- A backslash is put only where the reader of statements is in no escape. -/
  clear : ∀ p, BareDollar t p → ((DollarScan.plain true).after p).expands = true →
    ((StatementScan.body true .plain).after p).escapes = false
  stands : ∀ p, (StatementScan.body true .plain).after (escapeDollars p) =
    (StatementScan.body true .plain).after p

theorem keepsStatements_escapeDollars (t : Text) : KeepsStatements t where
  statements := forall₂_statements (escaped_escapeDollarsFrom _ t)
  clear p _ expands := (paced_fresh.after p).clear expands
  stands p := StatementScan.after_escapeDollarsFrom _ _ p

end SkillHost.Dotenv
