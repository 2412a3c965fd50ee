import SkillHost.Proofs.Dotenv.Keys
import SkillHost.Proofs.Dotenv.Prefix

/-! Whether the text of a comment matters. The escaping of dollars takes a `#` after any blank for
the start of a comment; the reader of statements counts blanks in its own way, so that after two
of them it reads on. The text of a comment is without effect exactly where both see one. -/
namespace SkillHost.Dotenv

namespace Cursor

theorem statements_in_comment {c : Text} (hc : '\n' ∉ c) (start y : Text) :
    (Cursor.mk .comment start).statements (c ++ '\n' :: y) =
      .whole start.reverse :: fresh.statements y := by
  induction c with
  | nil => simp [statements_cons, ended?, next, startNext, StatementScan.next, fresh]
  | cons a c ih =>
    have ha : a ≠ '\n' := (List.ne_of_not_mem_cons hc).symm
    rw [List.cons_append, statements_cons]
    simp only [ended?, next, startNext, StatementScan.next, if_neg ha]
    exact ih (List.not_mem_of_not_mem_cons hc)

theorem statements_comment {r : Cursor} (h : r.scan.next '#' = .comment) {c : Text}
    (hc : '\n' ∉ c) (y : Text) :
    r.statements ('#' :: (c ++ '\n' :: y)) = .whole r.start.reverse :: fresh.statements y := by
  obtain ⟨scan, start⟩ := r
  rw [statements_cons]
  cases scan with
  | comment => exact statements_in_comment hc start y
  | body leading quoting =>
    have takes : (StatementScan.body leading quoting).takesComment = true := by
      by_contra takes
      simp [StatementScan.next, takes] at h
    simp only [ended?, next, startNext, StatementScan.next, takes, and_self, ↓reduceIte]
    exact statements_in_comment hc start y

end Cursor

theorem parse_comment {pre c : Text}
    (h : ((DollarScan.plain true).after (withoutMark pre)).next '#' = .comment) (hc : '\n' ∉ c)
    (env : Environment) (post : Text) :
    parse env (pre ++ '#' :: (c ++ '\n' :: post)) =
      ((Cursor.behind (withoutMark pre)).statements ('#' :: (c ++ '\n' :: escapeDollars post))).foldl
        (Parsed.handle env) (Parsed.before env (withoutMark pre)) := by
  rw [parse_append env pre (by decide) (by decide), escapeDollarsFrom, h,
    escapeDollarsFrom_comment_append c _ hc]
  simp [escapeDollars, escapeDollarsFrom, DollarScan.next]

theorem Cursor.exists_hiding {r : Cursor} (h : r.scan.next '#' ≠ .comment) :
    ∃ closed opening : Text, '\n' ∉ closed ∧ '\n' ∉ opening ∧
      (∃ text, ∀ y, r.statements ('#' :: (closed ++ '\n' :: y)) =
        .whole text :: fresh.statements y) ∧
      ∀ v : Char, v = '1' ∨ v = '2' → ∃ text, '#' ∈ text ∧
        r.statements ('#' :: (opening ++ '\n' :: ['Z', '=', v, '\n'])) = [.unfinished text] := by
  obtain ⟨scan, start⟩ := r
  cases scan with
  | comment => exact absurd rfl h
  | body leading quoting =>
    cases leading with
    | true => exact absurd rfl h
    | false =>
      cases quoting with
      | blank => exact absurd rfl h
      | plain | escape =>
        refine ⟨[], ['\''], by decide, by decide, ⟨_, fun y => rfl⟩, ?_⟩
        rintro v (rfl | rfl) <;> exact ⟨_, by simp, rfl⟩
      | weak | weakEscape =>
        refine ⟨['"'], [], by decide, by decide, ⟨_, fun y => rfl⟩, ?_⟩
        rintro v (rfl | rfl) <;> exact ⟨_, by simp, rfl⟩
      | strong | strongEscape =>
        refine ⟨['\''], [], by decide, by decide, ⟨_, fun y => rfl⟩, ?_⟩
        rintro v (rfl | rfl) <;> exact ⟨_, by simp, rfl⟩

theorem Parsed.get?_handle_Z (env : Environment) (parsed : Parsed) {v : Char}
    (h : v = '1' ∨ v = '2') :
    (parsed.handle env (.whole ['Z', '=', v])).values.get? ['Z'] = some [v] := by
  have read : (Statement.whole ['Z', '=', v]).read (parsed.expand env) = .assigned ['Z'] [v] := by
    rcases h with rfl | rfl <;> rfl
  rw [Parsed.handle, read, Parsed.apply, Table.get?_insert, if_pos rfl]

theorem Parsed.values_handle_unfinished (env : Environment) (parsed : Parsed) {text : Text}
    {c : Char} (h : c ∈ text) (blank : Text.isBlank c = false := by decide)
    (key : isKeyChar c = false := by decide) :
    (parsed.handle env (.unfinished text)).values = parsed.values := by
  rw [Parsed.handle, Statement.read, Parsed.apply, bareKey?_eq_none_of_mem h blank key]

/-- Where the escaping sees a comment, its text is without effect whatever follows exactly if the
reader of statements sees one too. -/
theorem comment_text_irrelevant_iff {pre : Text}
    (h : ((DollarScan.plain true).after (withoutMark pre)).next '#' = .comment) :
    (∀ (c c' post : Text) (env : Environment), '\n' ∉ c → '\n' ∉ c' →
      ∀ k, (parse env (pre ++ '#' :: (c ++ '\n' :: post))).values.get? k =
        (parse env (pre ++ '#' :: (c' ++ '\n' :: post))).values.get? k) ↔
    ((StatementScan.body true .plain).after (withoutMark pre)).next '#' = .comment := by
  rw [← Cursor.behind_scan]
  constructor
  · intro same
    by_contra seen
    obtain ⟨closed, opening, hclosed, hopening, ⟨ended, closes⟩, hides⟩ := Cursor.exists_hiding seen
    let earlier := Parsed.before .empty (withoutMark pre)
    -- The line after the comment gives `Z` something that it did not have before.
    obtain ⟨v, hv, new⟩ :
        ∃ v : Char, (v = '1' ∨ v = '2') ∧ earlier.values.get? ['Z'] ≠ some [v] := by
      by_cases one : earlier.values.get? ['Z'] = some ['1']
      · exact ⟨'2', .inr rfl, by simp [one]⟩
      · exact ⟨'1', .inl rfl, one⟩
    obtain ⟨text, hash, hidden⟩ := hides v hv
    have unescaped : escapeDollars ['Z', '=', v, '\n'] = ['Z', '=', v, '\n'] := by
      apply escapeDollarsFrom_of_not_mem
      rcases hv with rfl | rfl <;> decide
    have line : Cursor.fresh.statements ['Z', '=', v, '\n'] = [.whole ['Z', '=', v]] := by
      rcases hv with rfl | rfl <;> rfl
    have differ := same closed opening ['Z', '=', v, '\n'] .empty hclosed hopening ['Z']
    rw [parse_comment h hclosed, parse_comment h hopening, unescaped, closes, line, hidden,
      List.foldl_cons, List.foldl_cons, List.foldl_nil, List.foldl_cons, List.foldl_nil,
      Parsed.get?_handle_Z .empty _ hv, Parsed.values_handle_unfinished .empty _ hash] at differ
    exact new differ.symm
  · intro seen c c' post env hc hc' k
    rw [parse_comment h hc, parse_comment h hc', Cursor.statements_comment seen hc,
      Cursor.statements_comment seen hc']

theorem comment_text_irrelevant_after_one_blank :
    ((DollarScan.plain true).after (withoutMark "A=1 ".toList)).next '#' = .comment ∧
    ∀ (c c' post : Text) (env : Environment), '\n' ∉ c → '\n' ∉ c' →
      ∀ k, (parse env ("A=1 ".toList ++ '#' :: (c ++ '\n' :: post))).values.get? k =
        (parse env ("A=1 ".toList ++ '#' :: (c' ++ '\n' :: post))).values.get? k :=
  ⟨by decide, (comment_text_irrelevant_iff (by decide)).mpr (by decide)⟩

/-- After two blanks an apostrophe in the comment hides the assignment and the line after it. -/
theorem comment_text_relevant_after_two_blanks :
    ((DollarScan.plain true).after (withoutMark "A=1  ".toList)).next '#' = .comment ∧
    (parse .empty ("A=1  ".toList ++ '#' :: ([] ++ '\n' :: "B=2\n".toList))).values.get? ['B'] =
      some ['2'] ∧
    (parse .empty ("A=1  ".toList ++ '#' :: (['\''] ++ '\n' :: "B=2\n".toList))).values.get? ['B'] =
      none := by decide

end SkillHost.Dotenv
