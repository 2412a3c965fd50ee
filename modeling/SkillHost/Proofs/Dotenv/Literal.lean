import SkillHost.Proofs.Dotenv.Lockstep
import SkillHost.Proofs.Environment

/-! Bare dollars stand for themselves wherever the scans agree on them: no statement refers to a
name but those that the text has between braces. -/
namespace SkillHost.Dotenv

/-- A statement of `t` that refers to nothing but what is written there. -/
structure Statement.Spelled (t : Text) (s : Statement) : Prop where
  names : ∀ name ∈ s.names, Written t name
  reference : s.Refers → ['$', '{'] <:+: t

theorem Statement.spelled_of_value?_eq_none (t : Text) {s : Statement} (h : s.value? = none) :
    s.Spelled t := by
  refine ⟨by simp [Statement.names, h], ?_⟩
  rintro ⟨value, x, state, hvalue, -⟩
  rw [h] at hvalue
  cases hvalue

theorem Statement.Spelled.congr {t : Text} {s s' : Statement} (h : s.Spelled t)
    (same : s.value? = s'.value?) : s'.Spelled t := by
  constructor
  · simpa only [Statement.names, same] using h.names
  · simpa only [Statement.Refers, same] using h.reference

/-- What is held of a statement after `x` refers to nothing but what is written in `t`, and the
scans agree on where it stands. -/
def Holds (t x y : Text) (d : DollarScan) (start : Text) : Prop :=
  ∀ k v, held? start.reverse = some (k, v) →
    (∀ name ∈ (ValueScan.text false).closedBy v, Written t name) ∧
    ∀ s, (ValueScan.text false).after? v = some s → Agrees x y d s

theorem holds_nil (t x y : Text) (d : DollarScan) : Holds t x y d [] := by
  intro k v h
  cases h

theorem Holds.keep {t x y start : Text} {d : DollarScan} {c : Char} (h : Holds t x (c :: y) d start)
    (parts : t = x ++ c :: y) (kept : c = '$' → y.head? ≠ some '{' → d.expands = false)
    (fits : c = '$' → y.head? ≠ some '{' → ∀ k v s, held? start.reverse = some (k, v) →
      (ValueScan.text false).after? v = some s → d.Fits s) :
    Holds t (x ++ [c]) y (d.next c) (c :: start) := by
  intro k v hv
  have begins (back : c ≠ '\\') : (∀ name ∈ (ValueScan.text false).closedBy [], Written t name) ∧
      ∀ s, (ValueScan.text false).after? [] = some s → Agrees (x ++ [c]) y (d.next c) s := by
    refine ⟨nofun, fun s hs => ?_⟩
    obtain rfl := Option.some.inj hs
    exact d.next_of_ne_backslash back
  rw [List.reverse_cons] at hv
  rcases held?_concat hv with ⟨rfl, rfl⟩ | ⟨blank, rfl, -⟩ | ⟨v', rfl, held⟩
  · exact begins (by decide)
  · exact begins (by rintro rfl; cases blank)
  obtain ⟨closed, agrees⟩ := h k v' held
  rw [ValueScan.closedBy_concat, ValueScan.after?_concat]
  constructor
  · intro name hname
    rcases List.mem_append.mp hname with earlier | last
    · exact closed name earlier
    · rw [Option.mem_toList, Option.bind_eq_some_iff] at last
      obtain ⟨s, hs, ended⟩ := last
      rw [parts, List.append_cons]
      exact ((agrees s hs).closed ended).append y
  · intro s' hs'
    obtain ⟨s, hs, next⟩ := Option.bind_eq_some_iff.mp hs'
    exact (agrees s hs).keep kept (fun dollar bare => fits dollar bare k v' s held hs) next

theorem Holds.escape {t x y start : Text} {d : DollarScan} (h : Holds t x ('$' :: y) d start)
    (expands : d.expands = true) (fits : ∀ k v s, held? start.reverse = some (k, v) →
      (ValueScan.text false).after? v = some s → d.Fits s) :
    Holds t (x ++ ['$']) y (d.next '$') ('$' :: '\\' :: start) := by
  intro k v hv
  obtain ⟨v', rfl, held⟩ : ∃ v', v = v' ++ ['\\', '$'] ∧ held? start.reverse = some (k, v') := by
    rw [List.reverse_cons, List.reverse_cons] at hv
    rcases held?_concat hv with ⟨equals, -⟩ | ⟨blank, -⟩ | ⟨v₁, rfl, hv₁⟩
    · cases equals
    · cases blank
    rcases held?_concat hv₁ with ⟨equals, -⟩ | ⟨blank, -⟩ | ⟨v₂, rfl, hv₂⟩
    · cases equals
    · cases blank
    · exact ⟨v₂, by simp, hv₂⟩
  obtain ⟨closed, agrees⟩ := h k v' held
  rw [ValueScan.closedBy_append, ValueScan.after?_append]
  cases hs : (ValueScan.text false).after? v' with
  | none => exact ⟨by simpa using closed, nofun⟩
  | some s =>
    rw [Option.map_some, Option.getD_some, Option.bind_some]
    rw [(agrees s hs).closedBy_escape, List.append_nil]
    exact ⟨closed, fun s' next => (agrees s hs).escape expands (fits k v' s held hs) next⟩

theorem Holds.spelled {t x y start : Text} {d : DollarScan} (h : Holds t x y d start)
    (before : x <+: t) (brace : y.head? ≠ some '{') :
    (Statement.whole start.reverse).Spelled t := by
  cases hvalue : (Statement.whole start.reverse).value? with
  | none => exact Statement.spelled_of_value?_eq_none t hvalue
  | some value =>
    obtain ⟨k, b, hb, held⟩ := Statement.held?_of_value? hvalue
    obtain ⟨closed, agrees⟩ := h k _ held
    constructor
    · intro name hname
      simp only [Statement.names, hvalue, Option.map_some, Option.getD_some, ValueScan.names,
        List.mem_append, Option.mem_toList, Option.bind_eq_some_iff] at hname
      rcases hname with earlier | ⟨s, hs, last⟩
      · rw [ValueScan.closedBy_append] at closed
        exact closed name (List.mem_append_left _ earlier)
      · obtain rfl : s = .reference false name := by
          cases s with
          | reference quoted n => cases quoted <;> simp_all [ValueScan.lastName?]
          | _ => cases last
        cases b with
        | nil =>
          rw [List.append_nil] at agrees
          exact absurd (agrees _ hs).2.2 brace
        | cons c b =>
          have blank := hb c List.mem_cons_self
          have ends : (ValueScan.reference false name).closed? c = some name := by
            have plain : c ≠ '{' := by rintro rfl; cases blank
            simp [ValueScan.closed?, isAlphanumeric_of_isBlank blank, plain]
          rw [ValueScan.closedBy_append, hs] at closed
          apply closed
          simp [ValueScan.closedBy, ends]
    · rintro ⟨_, v, s, hv, ⟨w, rfl⟩, hs, refers⟩
      rw [hvalue] at hv
      obtain rfl := Option.some.inj hv
      cases names : (ValueScan.text false).closedBy (v ++ w ++ b) with
      | cons name rest =>
        obtain ⟨raw, ⟨-, p, q, hp⟩, -⟩ := closed name (names ▸ List.mem_cons_self)
        exact ⟨p, raw ++ '}' :: q, by rw [← hp]; simp⟩
      | nil =>
        rw [List.append_assoc, ValueScan.closedBy_append, hs, List.append_eq_nil_iff] at names
        obtain ⟨s', hs', refers'⟩ := ValueScan.exists_after?_of_refers refers names.2
        have last := agrees s' (by rw [List.append_assoc, ValueScan.after?_append, hs]; exact hs')
        cases s' with
        | reference quoted name => exact absurd last.2.2 brace
        | braced quoted name =>
          obtain ⟨raw, -, opened, -⟩ := last
          exact (List.prefix_append ['$', '{'] raw).isInfix.trans
            (opened.isInfix.trans before.isInfix)
        | _ => cases refers'

/-- A cursor between `x` and `y`. In a comment the statement stays as it was where the comment
started. -/
def Cursor.Sound (t x y : Text) (d : DollarScan) (r : Cursor) : Prop :=
  match r.scan with
  | .comment => ∃ x' y' d', x' <+: t ∧ y'.head? ≠ some '{' ∧ Holds t x' y' d' r.start
  | .body _ _ => Holds t x y d r.start

theorem Cursor.sound_fresh (t x y : Text) (d : DollarScan) : fresh.Sound t x y d :=
  holds_nil t x y d

namespace Cursor
variable {t x y : Text} {d : DollarScan} {r : Cursor} {c : Char}

theorem Sound.keep (h : r.Sound t x (c :: y) d) (parts : t = x ++ c :: y)
    (kept : c = '$' → y.head? ≠ some '{' → d.expands = false)
    (fits : c = '$' → y.head? ≠ some '{' → ∀ s, r.value? = some s → d.Fits s) :
    (∀ s ∈ r.ended? c, s.Spelled t) ∧ (r.next c).Sound t (x ++ [c]) y (d.next c) := by
  obtain ⟨scan, start⟩ := r
  cases scan with
  | comment =>
    obtain ⟨x', y', d', before, brace, holds⟩ := h
    by_cases line : c = '\n'
    · simp only [ended?, next, startNext, StatementScan.next, line, if_true]
      refine ⟨?_, sound_fresh t _ _ _⟩
      rintro s ⟨⟩
      exact holds.spelled before brace
    · simp only [ended?, next, startNext, StatementScan.next, line, if_false]
      exact ⟨by simp, x', y', d', before, brace, holds⟩
  | body leading quoting =>
    have before : x <+: t := ⟨c :: y, parts.symm⟩
    simp only [ended?, next, startNext, StatementScan.next]
    split_ifs with comment ends
    · refine ⟨by simp, x, c :: y, d, before, ?_, h⟩
      simp [comment.1]
    · refine ⟨?_, sound_fresh t _ _ _⟩
      have whole := Holds.spelled h before (by simp [ends.1])
      rintro s ⟨⟩
      exact whole.congr (Statement.value?_closeLine start).symm
    · refine ⟨by simp, Holds.keep h parts kept fun dollar bare k v s held hs => ?_⟩
      exact fits dollar bare s (by simp [value?, held, hs])

theorem Sound.escape (h : r.Sound t x ('$' :: y) d) (expands : d.expands = true)
    (fits : ∀ s, r.value? = some s → d.Fits s) :
    r.ended ['\\', '$'] = [] ∧ (r.after ['\\', '$']).Sound t (x ++ ['$']) y (d.next '$') := by
  obtain ⟨scan, start⟩ := r
  cases scan with
  | comment => exact ⟨rfl, h⟩
  | body leading quoting =>
    have holds : Holds t (x ++ ['$']) y (d.next '$') ('$' :: '\\' :: start) :=
      Holds.escape h expands fun k v s held hs => fits s (by simp [value?, held, hs])
    exact ⟨rfl, holds⟩

end Cursor

def DollarScan.escaped (d : DollarScan) (c : Char) (rest : Text) : Text :=
  if c = '$' ∧ d.expands ∧ rest.head? ≠ some '{' then ['\\', c] else [c]

def InStepFrom (d : DollarScan) (r : Cursor) (y : Text) : Prop :=
  ∀ p, BareDollar y p → ∀ s, (r.after (escapeDollarsFrom d p)).value? = some s → (d.after p).Fits s

theorem InStepFrom.next {d : DollarScan} {r : Cursor} {c : Char} {y : Text}
    (h : InStepFrom d r (c :: y)) : InStepFrom (d.next c) (r.after (d.escaped c y)) y := by
  rintro p ⟨q, rfl, bare⟩ s hs
  have heads : p.head? ≠ some '{' ↔ (p ++ '$' :: q).head? ≠ some '{' := by
    cases p <;> simp
  refine h (c :: p) ⟨q, rfl, bare⟩ s ?_
  rw [escapeDollarsFrom, ← DollarScan.escaped, Cursor.after_append]
  simpa only [DollarScan.escaped, heads] using hs

theorem spelled_of_inStepFrom {t x y : Text} {d : DollarScan} {r : Cursor} (parts : t = x ++ y)
    (sound : r.Sound t x y d) (inStep : InStepFrom d r y) :
    ∀ s ∈ r.statements (escapeDollarsFrom d y), s.Spelled t := by
  -- Each character moves from `y` to `x`, and the cursor between them stays sound.
  induction y generalizing x d r with
  | nil =>
    rw [List.append_nil] at parts
    obtain ⟨scan, start⟩ := r
    cases scan with
    | comment =>
      obtain ⟨x', y', d', before, brace, holds⟩ := sound
      intro s hs
      obtain rfl := List.mem_singleton.mp hs
      exact holds.spelled before brace
    | body leading quoting =>
      have whole := Holds.spelled sound ⟨[], by rw [parts, List.append_nil]⟩ nofun
      intro s hs
      simp only [escapeDollarsFrom, Cursor.statements, statementsFrom] at hs
      split_ifs at hs
      · obtain rfl := List.mem_singleton.mp hs
        exact Statement.spelled_of_value?_eq_none t rfl
      · cases hs
      · obtain rfl := List.mem_singleton.mp hs
        exact whole
  | cons c y ih =>
    have fits : c = '$' → y.head? ≠ some '{' → ∀ s, r.value? = some s → d.Fits s := by
      rintro rfl bare
      exact inStep [] ⟨y, rfl, bare⟩
    have step : (∀ s ∈ r.ended (d.escaped c y), s.Spelled t) ∧
        (r.after (d.escaped c y)).Sound t (x ++ [c]) y (d.next c) := by
      by_cases escapes : c = '$' ∧ d.expands ∧ y.head? ≠ some '{'
      · obtain ⟨rfl, expands, bare⟩ := escapes
        rw [DollarScan.escaped, if_pos ⟨rfl, expands, bare⟩]
        obtain ⟨none, next⟩ := sound.escape expands (fits rfl bare)
        exact ⟨by simp [none], next⟩
      · rw [DollarScan.escaped, if_neg escapes]
        have kept (dollar : c = '$') (bare : y.head? ≠ some '{') : d.expands = false := by
          rw [Bool.eq_false_iff]
          exact fun expands => escapes ⟨dollar, expands, bare⟩
        obtain ⟨ended, next⟩ := sound.keep parts kept fits
        refine ⟨?_, next⟩
        simpa [Cursor.ended] using ended
    rw [escapeDollarsFrom, ← DollarScan.escaped, Cursor.statements_append]
    intro s hs
    rcases List.mem_append.mp hs with ended | later
    · exact step.1 s ended
    · exact ih (by rw [parts, List.append_cons]) step.2 inStep.next s later

theorem inStepFrom_of_inStep {t : Text} (h : InStep t) :
    InStepFrom (.plain true) .fresh (withoutMark t) := by
  rintro p ⟨q, parts, bare⟩ s hs
  obtain ⟨p', ht, hp⟩ : ∃ p', t = p' ++ '$' :: q ∧ withoutMark p' = p := by
    by_cases mark : t.head? = some '\ufeff'
    · obtain ⟨t', rfl⟩ := List.head?_eq_some_iff.mp mark
      obtain rfl : t' = p ++ '$' :: q := parts
      exact ⟨'\ufeff' :: p, rfl, rfl⟩
    · rw [withoutMark_of_head mark] at parts
      refine ⟨p, parts, ?_⟩
      have := withoutMark_append (c := '$') (by decide) p q
      rw [← parts, withoutMark_of_head mark, parts] at this
      exact (List.append_cancel_right this).symm
  rw [← hp]
  apply h p' ⟨q, ht, bare⟩ s
  rw [hp]
  exact hs

theorem IsBraced.of_withoutMark {t name : Text} (h : IsBraced (withoutMark t) name) :
    IsBraced t name := ⟨h.1, h.2.trans (withoutMark_suffix t).isInfix⟩

/-- Only a braced name is ever expanded, and a bare dollar stands for itself. -/
structure DollarsLiteral (t : Text) : Prop where
  values : ∀ env env' : Environment,
    (∀ name, IsBraced t name → env.lookup name = env'.lookup name) →
      (parse env t).values = (parse env' t).values
  /-- Where no dollar has a brace, no value enters a reference, so none depends on what a name
  stands for. -/
  reference : ¬['$', '{'] <:+: t → ∀ s ∈ statements (escapeDollars (withoutMark t)), ¬s.Refers ∧
    ∀ expand expand', s.read expand = s.read expand'

theorem dollarsLiteral_of_inStep {t : Text} (h : InStep t) : DollarsLiteral t := by
  have spelled : ∀ s ∈ statements (escapeDollars (withoutMark t)), s.Spelled (withoutMark t) :=
    spelled_of_inStepFrom (x := []) rfl (Cursor.sound_fresh _ _ _ _) (inStepFrom_of_inStep h)
  constructor
  · intro env env' agree
    have same : ∀ s ∈ statements (escapeDollars (withoutMark t)), ∀ name ∈ s.names,
        env.lookup name = env'.lookup name := by
      intro s hs name hname
      obtain ⟨raw, braced, rfl | none⟩ := (spelled s hs).names name hname
      · exact agree name braced.of_withoutMark
      · rw [Environment.lookup_of_zero none, Environment.lookup_of_zero none]
    rw [parse, parse, Parsed.foldl_handle_congr same]
  · intro unbraced s hs
    have outside : ¬s.Refers := by
      intro refers
      have marked := (spelled s hs).reference refers
      exact unbraced (marked.trans (withoutMark_suffix t).isInfix)
    exact ⟨outside, Statement.read_of_not_refers outside⟩

end SkillHost.Dotenv
