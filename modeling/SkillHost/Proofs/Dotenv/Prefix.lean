import SkillHost.Dotenv.Parsed
import SkillHost.Proofs.Dotenv.Escaping

/-! Loading a text in two parts: what the first part leaves loaded, and where it leaves the reader
of statements. -/
namespace SkillHost.Dotenv

theorem withoutMark_of_head {t : Text} (h : t.head? ≠ some '\ufeff') : withoutMark t = t := by
  unfold withoutMark
  split
  · exact absurd rfl h
  · rfl

theorem withoutMark_suffix (t : Text) : withoutMark t <:+ t := by
  unfold withoutMark
  split
  · exact List.suffix_cons _ _
  · exact List.suffix_rfl

theorem suffix_withoutMark {c : Char} (h : c ≠ '\ufeff') {t u : Text} (suffix : c :: u <:+ t) :
    c :: u <:+ withoutMark t := by
  unfold withoutMark
  split
  · rcases List.suffix_cons_iff.mp suffix with whole | inside
    · exact absurd (List.cons.inj whole).1 h
    · exact inside
  · exact suffix

theorem withoutMark_append {c : Char} (h : c ≠ '\ufeff') (x y : Text) :
    withoutMark (x ++ c :: y) = withoutMark x ++ c :: y := by
  cases x with
  | nil => simp [withoutMark, h]
  | cons a x =>
    by_cases ha : a = '\ufeff'
    · simp [withoutMark, ha]
    · simp [withoutMark, ha]

/-- What is loaded when a cursor stands behind a text. -/
def Parsed.before (env : Environment) (x : Text) : Parsed :=
  (Cursor.fresh.ended (escapeDollars x)).foldl (Parsed.handle env) .empty

def Cursor.behind (x : Text) : Cursor := Cursor.fresh.after (escapeDollars x)

theorem Cursor.behind_scan (x : Text) :
    (Cursor.behind x).scan = (StatementScan.body true .plain).after x := by
  rw [Cursor.behind, Cursor.after_scan, escapeDollars, StatementScan.after_escapeDollarsFrom]
  rfl

theorem statements_escapeDollars_append (x : Text) {c : Char} (brace : c ≠ '{') (y : Text) :
    statements (escapeDollars (x ++ c :: y)) =
      Cursor.fresh.ended (escapeDollars x) ++ (Cursor.behind x).statements
        (escapeDollarsFrom ((DollarScan.plain true).after x) (c :: y)) := by
  rw [escapeDollars, escapeDollarsFrom_append _ _ (by simpa), statements_eq,
    Cursor.statements_append]
  rfl

theorem parse_append (env : Environment) (pre : Text) {c : Char} (mark : c ≠ '\ufeff')
    (brace : c ≠ '{') (post : Text) :
    parse env (pre ++ c :: post) =
      ((Cursor.behind (withoutMark pre)).statements
        (escapeDollarsFrom ((DollarScan.plain true).after (withoutMark pre)) (c :: post))).foldl
          (Parsed.handle env) (Parsed.before env (withoutMark pre)) := by
  rw [parse, withoutMark_append mark, statements_escapeDollars_append _ brace, List.foldl_append]
  rfl

end SkillHost.Dotenv
