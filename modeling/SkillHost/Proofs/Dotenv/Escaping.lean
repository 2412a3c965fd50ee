import SkillHost.Dotenv.Dollars
import SkillHost.Proofs.Dotenv.Cursor

/-! How the escaping of bare dollars acts on a text in parts, and why it moves no statement: a
backslash put before a dollar leaves the reader of statements as the dollar alone would. -/
namespace SkillHost.Dotenv

namespace DollarScan

def after (d : DollarScan) (t : Text) : DollarScan := t.foldl next d

@[simp] theorem after_cons (d : DollarScan) (c : Char) (rest : Text) :
    d.after (c :: rest) = (d.next c).after rest := rfl

end DollarScan

/-- A brace is the only character that tells the escaping of what stands before it. -/
theorem escapeDollarsFrom_append (d : DollarScan) (x : Text) {y : Text}
    (h : y.head? ≠ some '{') :
    escapeDollarsFrom d (x ++ y) = escapeDollarsFrom d x ++ escapeDollarsFrom (d.after x) y := by
  induction x generalizing d with
  | nil => rfl
  | cons c rest ih =>
    have heads : (rest ++ y).head? ≠ some '{' ↔ rest.head? ≠ some '{' := by
      cases rest with
      | nil => simpa using h
      | cons a rest => simp
    simp only [List.cons_append, escapeDollarsFrom, heads, ih, DollarScan.after_cons,
      List.append_assoc]

/-- The second text is the first with a backslash put before some of its dollars. -/
inductive Escaped : Text → Text → Prop where
  | nil : Escaped [] []
  | keep (c : Char) {t u : Text} (h : Escaped t u) : Escaped (c :: t) (c :: u)
  | escape {t u : Text} (h : Escaped t u) : Escaped ('$' :: t) ('\\' :: '$' :: u)

theorem escaped_escapeDollarsFrom (d : DollarScan) (t : Text) :
    Escaped t (escapeDollarsFrom d t) := by
  induction t generalizing d with
  | nil => exact .nil
  | cons c rest ih =>
    rw [escapeDollarsFrom]
    split
    · rename_i bare
      rw [bare.1]
      exact .escape (ih _)
    · exact .keep c (ih _)

namespace Escaped
variable {t u : Text}

theorem eq_of_not_mem (h : Escaped t u) (dollar : '$' ∉ t) : u = t := by
  induction h with
  | nil => rfl
  | keep c _ ih => rw [ih (List.not_mem_of_not_mem_cons dollar)]
  | escape _ _ => exact absurd List.mem_cons_self dollar

theorem sublist (h : Escaped t u) : t.Sublist u := by
  induction h with
  | nil => exact .slnil
  | keep c _ ih => exact ih.cons_cons c
  | escape _ ih => exact (ih.cons_cons '$').cons '\\'

theorem not_mem (h : Escaped t u) {c : Char} (back : c ≠ '\\') (hc : c ∉ t) : c ∉ u := by
  induction h with
  | nil => exact hc
  | keep a _ ih =>
    simp [List.ne_of_not_mem_cons hc, ih (List.not_mem_of_not_mem_cons hc)]
  | escape _ ih =>
    simp [back, List.ne_of_not_mem_cons hc, ih (List.not_mem_of_not_mem_cons hc)]

theorem count (h : Escaped t u) : u.count '$' = t.count '$' := by
  induction h with
  | nil => rfl
  | keep c _ ih => rw [List.count_cons, List.count_cons, ih]
  | escape _ ih => simp [ih]

end Escaped

theorem escapeDollarsFrom_of_not_mem (d : DollarScan) {t : Text} (h : '$' ∉ t) :
    escapeDollarsFrom d t = t :=
  (escaped_escapeDollarsFrom d t).eq_of_not_mem h

theorem count_escapeDollarsFrom (d : DollarScan) (t : Text) :
    (escapeDollarsFrom d t).count '$' = t.count '$' :=
  (escaped_escapeDollarsFrom d t).count

theorem not_mem_escapeDollarsFrom (d : DollarScan) {c : Char} (back : c ≠ '\\') {t : Text}
    (h : c ∉ t) : c ∉ escapeDollarsFrom d t :=
  (escaped_escapeDollarsFrom d t).not_mem back h

theorem length_le_escapeDollarsFrom (d : DollarScan) (t : Text) :
    t.length ≤ (escapeDollarsFrom d t).length :=
  (escaped_escapeDollarsFrom d t).sublist.length_le

theorem escapeDollarsFrom_comment_append (c rest : Text) (h : '\n' ∉ c) :
    escapeDollarsFrom .comment (c ++ rest) = c ++ escapeDollarsFrom .comment rest := by
  induction c with
  | nil => rfl
  | cons a c ih =>
    have ha : a ≠ '\n' := (List.ne_of_not_mem_cons h).symm
    simp [escapeDollarsFrom, DollarScan.expands, DollarScan.next, ha,
      ih (List.not_mem_of_not_mem_cons h)]

theorem StatementScan.next_backslash_dollar (s : StatementScan) :
    (s.next '\\').next '$' = s.next '$' := by
  cases s with
  | comment => rfl
  | body leading quoting => cases leading <;> cases quoting <;> rfl

theorem StatementScan.after_escaped (s : StatementScan) {t u : Text} (h : Escaped t u) :
    s.after u = s.after t := by
  induction h generalizing s with
  | nil => rfl
  | keep c _ ih => exact ih (s.next c)
  | escape _ ih => rw [after_cons, after_cons, next_backslash_dollar, ih, after_cons]

theorem StatementScan.after_escapeDollarsFrom (s : StatementScan) (d : DollarScan) (t : Text) :
    s.after (escapeDollarsFrom d t) = s.after t :=
  s.after_escaped (escaped_escapeDollarsFrom d t)

end SkillHost.Dotenv
