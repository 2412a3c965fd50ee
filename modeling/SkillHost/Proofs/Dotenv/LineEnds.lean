import SkillHost.Proofs.Dotenv.Returns

/-! Line ends with and without carriage returns. The escaping of dollars sees a difference in one
place: an escaped line feed is no blank to it, so that a `#` on the next line starts no comment, but
after an escaped carriage return the line feed is one. -/
namespace SkillHost.Dotenv

namespace DollarScan

theorem next_return {d : DollarScan} (h : d ≠ .plainEscape) :
    (d.next '\r').next '\n' = d.next '\n' := by
  cases d with
  | plainEscape => exact absurd rfl h
  | plain afterBlank => cases afterBlank <;> rfl
  | single | double | doubleEscape | comment => rfl

theorem next_plain_congr {c : Char} (h : c ≠ '#') (b b' : Bool) :
    (plain b).next c = (plain b').next c := by
  simp [next, h]

theorem after_plain_congr {t : Text} (h : t.head? ≠ some '#') (b b' : Bool)
    (escape : (plain b).after t = .plainEscape) : (plain b').after t = .plainEscape := by
  cases t with
  | nil => cases escape
  | cons c t =>
    have hc : c ≠ '#' := by simpa using h
    rwa [after_cons, next_plain_congr hc b' b]

end DollarScan

theorem escapeDollarsFrom_plain_congr {t : Text} (h : t.head? ≠ some '#') (b b' : Bool) :
    escapeDollarsFrom (.plain b) t = escapeDollarsFrom (.plain b') t := by
  cases t with
  | nil => rfl
  | cons c t =>
    have hc : c ≠ '#' := by simpa using h
    rw [escapeDollarsFrom, DollarScan.next_plain_congr hc b b', escapeDollarsFrom]
    rfl

theorem prefix_of_not_mem {c : Char} {x y z : Text} (h : x ++ [c] <+: y ++ c :: z) (hc : c ∉ z) :
    x ++ [c] <+: y ++ [c] := by
  have inside : y ++ [c] <+: y ++ c :: z := ⟨z, by simp⟩
  rcases List.prefix_or_prefix_of_prefix h inside with shorter | ⟨w, longer⟩
  · exact shorter
  · obtain ⟨v, rest⟩ := h
    rw [← longer] at rest ⊢
    obtain rfl : w ++ v = z := by simpa using rest
    cases w using List.reverseRecOn with
    | nil => simp
    | append_singleton w a =>
      rw [← List.append_assoc] at longer
      obtain rfl : a = c := List.singleton_inj.mp (List.append_inj' longer rfl).2
      simp at hc

/-- Behind `p` a line feed that is escaped stands before `#`. -/
def EscapedBreak (d : DollarScan) (t p : Text) : Prop :=
  p ++ ['\n', '#'] <+: t ∧ d.after p = .plainEscape

namespace EscapedBreak

theorem cons {d : DollarScan} {c : Char} {t p : Text} (h : EscapedBreak (d.next c) t p) :
    EscapedBreak d (c :: t) (c :: p) :=
  ⟨List.cons_prefix_cons.mpr ⟨rfl, h.1⟩, h.2⟩

theorem mono {d : DollarScan} {t u p : Text} (h : EscapedBreak d t p) (prefix' : t <+: u) :
    EscapedBreak d u p :=
  ⟨h.1.trans prefix', h.2⟩

theorem exists_first {d : DollarScan} {t p : Text} (h : EscapedBreak d t p) :
    ∃ q, EscapedBreak d t q ∧ ∀ q', ¬EscapedBreak d q q' := by
  induction n : p.length using Nat.strong_induction_on generalizing p with
  | _ n ih =>
    by_cases free : ∀ q, ¬EscapedBreak d p q
    · exact ⟨p, h, free⟩
    · obtain ⟨q, inner⟩ := not_forall_not.mp free
      have shorter : q.length < p.length := by
        have bound := inner.1.length_le
        rw [List.length_append, List.length_cons] at bound
        omega
      exact ih q.length (by omega) (inner.mono ((List.prefix_append _ _).trans h.1)) rfl

end EscapedBreak

theorem next_return_or_head {d : DollarScan} {t : Text}
    (free : ∀ p, ¬EscapedBreak d ('\n' :: t) p) :
    (d.next '\r').next '\n' = d.next '\n' ∨ d = .plainEscape ∧ t.head? ≠ some '#' := by
  by_cases escaped : d = .plainEscape
  · refine .inr ⟨escaped, fun head => free [] ⟨?_, escaped⟩⟩
    obtain ⟨t, rfl⟩ := List.head?_eq_some_iff.mp head
    exact List.prefix_append ['\n', '#'] t
  · exact .inl (DollarScan.next_return escaped)

theorem head_withReturns_ne_hash {t : Text} (h : t.head? ≠ some '#') :
    (withReturns t).head? ≠ some '#' := by
  rwa [Ne, head_withReturns (by decide) (by decide)]

theorem escapeDollarsFrom_withReturns {d : DollarScan} {t : Text}
    (free : ∀ p, ¬EscapedBreak d t p) :
    escapeDollarsFrom d (withReturns t) = withReturns (escapeDollarsFrom d t) := by
  induction t generalizing d with
  | nil => rfl
  | cons c t ih =>
    have later := ih (d := d.next c) fun p h => free _ h.cons
    by_cases line : c = '\n'
    · subst line
      have feeds : escapeDollarsFrom ((d.next '\r').next '\n') (withReturns t) =
          escapeDollarsFrom (d.next '\n') (withReturns t) := by
        rcases next_return_or_head free with same | ⟨rfl, head⟩
        · rw [same]
        · exact escapeDollarsFrom_plain_congr (head_withReturns_ne_hash head) _ _
      simp [withReturns_break, escapeDollarsFrom, feeds, later]
    · rw [withReturns_cons line, escapeDollarsFrom, escapeDollarsFrom, withReturns_append, later]
      simp only [ne_eq, head_withReturns (c := '{') (by decide) (by decide)]
      split <;> simp [withReturns, line]

theorem after_withReturns {d : DollarScan} {t : Text} (free : ∀ p, ¬EscapedBreak d t p)
    (h : d.after t = .plainEscape) : d.after (withReturns t) = .plainEscape := by
  induction t generalizing d with
  | nil => exact h
  | cons c t ih =>
    have later := ih (d := d.next c) (fun p h => free _ h.cons) h
    by_cases line : c = '\n'
    · subst line
      rw [withReturns_break, DollarScan.after_cons, DollarScan.after_cons]
      rcases next_return_or_head free with same | ⟨rfl, head⟩
      · rwa [same]
      · exact DollarScan.after_plain_congr (head_withReturns_ne_hash head) _ _ later
    · rwa [withReturns_cons line]

/-- A text without carriage returns, and with no statement on two lines. -/
structure LineText where
  text : Text
  noReturn : '\r' ∉ text
  oneLine : ∀ s ∈ statements (escapeDollars (withoutMark text)), s.OnOneLine

namespace LineText

def Breaks (t : LineText) (p : Text) : Prop := EscapedBreak (.plain true) (withoutMark t.text) p

theorem noReturn_withoutMark (t : LineText) : '\r' ∉ withoutMark t.text :=
  fun mem => t.noReturn ((withoutMark_suffix t.text).subset mem)

theorem parse_withReturns (env : Environment) (t : LineText) (free : ∀ p, ¬t.Breaks p) :
    parse env (withReturns t.text) = parse env t.text := by
  have clean : '\r' ∉ escapeDollars (withoutMark t.text) :=
    not_mem_escapeDollarsFrom _ (by decide) t.noReturn_withoutMark
  rw [parse, withoutMark_withReturns, escapeDollars, escapeDollarsFrom_withReturns free]
  exact Cursor.handle_withReturns env Cursor.tidy_fresh clean t.oneLine .empty

/-- Behind an escaped line feed: an apostrophe in what is a comment if the line feed is a blank, and
a dollar. -/
def probe : Text := ['#', '\'', '\n', 'y', '=', '\n', 'B', '=', '$', 'y', '\n']

theorem escape_probe : escapeDollarsFrom (.plain false) probe = probe := by decide

theorem statements_probe :
    Cursor.fresh.statements probe =
      [.whole [], .whole ['y', '='], .whole ['B', '=', '$', 'y']] := by decide

theorem onOneLine_probe : ∀ s ∈ Cursor.fresh.statements probe, s.OnOneLine := by decide

theorem statements_probe_withReturns :
    Cursor.fresh.statements (escapeDollarsFrom (.plain true) (withReturns probe)) =
      [.whole [], .whole ['y', '='], .whole ['B', '=', '\\', '$', 'y']] := by decide

theorem read_probe (expand : Text → Text) :
    (Statement.whole []).read expand = .nothing ∧
      (Statement.whole ['y', '=']).read expand = .assigned ['y'] [] ∧
      (Statement.whole ['B', '=', '$', 'y']).read expand = .assigned ['B'] (expand ['y']) ∧
      (Statement.whole ['B', '=', '\\', '$', 'y']).read expand = .assigned ['B'] ['$', 'y'] :=
  ⟨rfl, rfl, rfl, rfl⟩

theorem get?_probe (parsed : Parsed) :
    ((Cursor.fresh.statements probe).foldl (Parsed.handle .empty) parsed).values.get? ['B'] =
      some [] := by
  have unset : Environment.empty.lookup ['y'] = none := by decide
  simp [statements_probe, Parsed.handle, read_probe, Parsed.apply, Parsed.expand, unset]

theorem get?_probe_withReturns (parsed : Parsed) :
    ((Cursor.fresh.statements (escapeDollarsFrom (.plain true) (withReturns probe))).foldl
      (Parsed.handle .empty) parsed).values.get? ['B'] = some ['$', 'y'] := by
  simp [statements_probe_withReturns, Parsed.handle, read_probe, Parsed.apply]

theorem statements_escaped_break {p : Text} (h : (DollarScan.plain true).after p = .plainEscape)
    (y : Text) :
    statements (escapeDollars (p ++ '\n' :: y)) = Cursor.fresh.ended (escapeDollars p) ++
      (Cursor.behind p).statements ('\n' :: escapeDollarsFrom (.plain false) y) := by
  rw [statements_escapeDollars_append _ (by decide), h]
  rfl

theorem Breaks.exists_parts {t : LineText} {p : Text} (h : t.Breaks p) :
    ∃ z, withoutMark t.text = p ++ '\n' :: '#' :: z ∧ '\r' ∉ p ∧ '\r' ∉ z := by
  obtain ⟨z, parts⟩ := h.1
  have clean := t.noReturn_withoutMark
  rw [← parts] at clean
  simp only [List.mem_append, not_or] at clean
  exact ⟨z, by rw [← parts, List.append_assoc]; rfl, clean.1.1, clean.2⟩

theorem Breaks.tidy {t : LineText} {p : Text} (h : t.Breaks p) : (Cursor.behind p).Tidy := by
  obtain ⟨z, -, clean, -⟩ := h.exists_parts
  exact Cursor.tidy_fresh.after (not_mem_escapeDollarsFrom _ (by decide) clean)

theorem Breaks.not_quoted {t : LineText} {p : Text} (h : t.Breaks p) :
    (Cursor.behind p).scan.quoted = false := by
  obtain ⟨z, parts, -, clean⟩ := h.exists_parts
  refine Bool.eq_false_iff.mpr fun quoted => ?_
  have later : '\r' ∉ escapeDollarsFrom (.plain false) ('#' :: z) :=
    not_mem_escapeDollarsFrom _ (by decide) (by simp [clean])
  obtain ⟨s, mem, broken⟩ := Cursor.exists_not_onOneLine h.tidy quoted later
  refine broken (t.oneLine s ?_)
  rw [parts, statements_escaped_break h.2]
  exact List.mem_append_right _ mem

/-- The text up to such a line feed, with lines behind it that tell the two scans apart. -/
def probed (t : LineText) {p : Text} (h : t.Breaks p) : LineText where
  text := '\ufeff' :: (p ++ '\n' :: probe)
  noReturn := by
    obtain ⟨-, -, clean, -⟩ := h.exists_parts
    simpa [probe] using clean
  oneLine := by
    obtain ⟨z, parts, -, -⟩ := h.exists_parts
    have lines := t.oneLine
    rw [parts, statements_escaped_break h.2,
      Cursor.statements_break h.not_quoted h.tidy.noReturn] at lines
    intro s mem
    rw [withoutMark, statements_escaped_break h.2, escape_probe,
      Cursor.statements_break h.not_quoted h.tidy.noReturn] at mem
    rcases List.mem_append.mp mem with earlier | here
    · exact lines s (List.mem_append_left _ earlier)
    rcases List.mem_cons.mp here with rfl | later
    · exact lines _ (List.mem_append_right _ List.mem_cons_self)
    · exact onOneLine_probe s later

theorem breaks_of_probed {t : LineText} {p q : Text} (h : t.Breaks p)
    (hq : (t.probed h).Breaks q) : t.Breaks q := by
  have hash : '#' ∉ probe.tail := by decide
  have within : (q ++ ['\n']) ++ ['#'] <+: (p ++ ['\n']) ++ '#' :: probe.tail := by
    simpa [probed, withoutMark, probe] using hq.1
  have earlier := prefix_of_not_mem within hash
  rw [List.append_assoc, List.append_assoc] at earlier
  exact ⟨earlier.trans h.1, hq.2⟩

theorem get?_probed {t : LineText} {p : Text} (h : t.Breaks p) :
    (parse .empty (t.probed h).text).values.get? ['B'] = some [] := by
  rw [parse, probed, withoutMark, statements_escaped_break h.2, escape_probe,
    Cursor.statements_break h.not_quoted h.tidy.noReturn, List.foldl_append, List.foldl_cons]
  exact get?_probe _

theorem get?_probed_withReturns {t : LineText} {p : Text} (h : t.Breaks p)
    (first : ∀ q, ¬EscapedBreak (.plain true) p q) :
    (parse .empty (withReturns (t.probed h).text)).values.get? ['B'] = some ['$', 'y'] := by
  have escape := after_withReturns first h.2
  have quoted : (Cursor.behind (withReturns p)).scan.quoted = false := by
    rw [Cursor.behind_scan, StatementScan.after_withReturns, ← Cursor.behind_scan, h.not_quoted]
  have unescaped : escapeDollarsFrom .plainEscape ('\r' :: '\n' :: withReturns probe) =
      '\r' :: '\n' :: escapeDollarsFrom (.plain true) (withReturns probe) := rfl
  rw [parse, withoutMark_withReturns, probed, withoutMark, withReturns_append, withReturns_break,
    statements_escapeDollars_append _ (by decide), escape, unescaped,
    Cursor.statements_return_break quoted, List.foldl_append, List.foldl_cons]
  exact get?_probe_withReturns _

/-- The line texts with no other escaped line feed before `#` than those of one text all say the
same with carriage returns exactly if there is none. -/
theorem line_ends_irrelevant_iff (t : LineText) :
    (∀ u : LineText, (∀ p, u.Breaks p → t.Breaks p) → ∀ env k,
      (parse env (withReturns u.text)).values.get? k = (parse env u.text).values.get? k) ↔
    ∀ p, ¬t.Breaks p := by
  constructor
  · intro same p h
    -- The lines that tell are put behind the first such line feed, so nothing else differs.
    obtain ⟨q, broken, first⟩ : ∃ q, t.Breaks q ∧ ∀ q', ¬EscapedBreak (.plain true) q q' :=
      h.exists_first
    have differ := same (t.probed broken) (fun p => breaks_of_probed broken) .empty ['B']
    rw [get?_probed, get?_probed_withReturns broken first] at differ
    cases differ
  · intro free u fewer env k
    rw [parse_withReturns env u fun p h => free p (fewer p h)]

end LineText

/-- Behind an escaped line feed `#` starts no comment, and the apostrophe hides the dollar. -/
theorem dollar_hidden_behind_escaped_line_feed :
    (∀ s ∈ statements (escapeDollars (withoutMark "A=1\\\n#'\nB=x$y\n".toList)), s.OnOneLine) ∧
      '\r' ∉ "A=1\\\n#'\nB=x$y\n".toList ∧
      (parse .empty "A=1\\\n#'\nB=x$y\n".toList).values.get? ['B'] = some ['x'] ∧
      (parse .empty (withReturns "A=1\\\n#'\nB=x$y\n".toList)).values.get? ['B'] =
        some ['x', '$', 'y'] := by decide

end SkillHost.Dotenv
