import SkillHost.Proofs.Dotenv.Held
import SkillHost.Proofs.Dotenv.Prefix

/-! Bare dollars and the scans that see them. The escaping of dollars, the reader of statements and
the reader of values each keep their own account of quotes, backslashes and comments. Where they
agree at every bare dollar, the values refer only to the names that the text has between braces. -/
namespace SkillHost.Dotenv

/-- A bare dollar of `t` stands right behind `p`. -/
def BareDollar (t p : Text) : Prop := ∃ q, t = p ++ '$' :: q ∧ q.head? ≠ some '{'

/-- The name stands in `t` between a dollar with a brace and the next closing brace. -/
def IsBraced (t name : Text) : Prop := '}' ∉ name ∧ '$' :: '{' :: (name ++ ['}']) <:+: t

/-- A dollar that the reader of values would expand has to be escaped, and one that it takes into
a name has not, unless nothing can have that name anyway. -/
def DollarScan.Fits (d : DollarScan) : ValueScan → Prop
  | .text _ => d.expands = true
  | .braced _ name => d.expands = true → '\x00' ∈ name
  | _ => True

def Cursor.value? (r : Cursor) : Option ValueScan :=
  match r.scan with
  | .comment => none
  | .body _ _ => (held? r.start.reverse).bind fun (_, v) => (ValueScan.text false).after? v

/-- The scans agree at every bare dollar. -/
def InStep (t : Text) : Prop :=
  ∀ p, BareDollar t p → ∀ s, (Cursor.behind (withoutMark p)).value? = some s →
    ((DollarScan.plain true).after (withoutMark p)).Fits s

theorem bareDollar_iff {t p : Text} :
    BareDollar t p ↔
      ∃ n < t.length, t[n]? = some '$' ∧ t[n + 1]? ≠ some '{' ∧ p = t.take n := by
  constructor
  · rintro ⟨q, rfl, bare⟩
    refine ⟨p.length, by simp, by simp, ?_, by simp⟩
    have next : (p ++ '$' :: q)[p.length + 1]? = q.head? := by
      rw [List.append_cons, List.getElem?_append_right (by simp), List.head?_eq_getElem?]
      simp
    rwa [next]
  · rintro ⟨n, -, dollar, bare, rfl⟩
    refine ⟨t.drop (n + 1), ?_, by rwa [List.head?_drop]⟩
    obtain ⟨h, hn⟩ := List.getElem?_eq_some_iff.mp dollar
    rw [← hn, ← List.drop_eq_getElem_cons h, List.take_append_drop]

instance (d : DollarScan) : ∀ s, Decidable (d.Fits s)
  | .text _ => inferInstanceAs (Decidable (d.expands = true))
  | .braced _ name => inferInstanceAs (Decidable (d.expands = true → '\x00' ∈ name))
  | .escape _ | .single | .reference _ _ | .ending => .isTrue trivial

instance (t : Text) : Decidable (InStep t) :=
  decidable_of_iff (∀ n < t.length, t[n]? = some '$' → t[n + 1]? ≠ some '{' →
      ∀ s ∈ (Cursor.behind (withoutMark (t.take n))).value?,
        ((DollarScan.plain true).after (withoutMark (t.take n))).Fits s) <| by
    constructor
    · intro fits p hp
      obtain ⟨n, hn, dollar, bare, rfl⟩ := bareDollar_iff.mp hp
      exact fits n hn dollar bare
    · intro inStep n hn dollar bare
      exact inStep (t.take n) (bareDollar_iff.mpr ⟨n, hn, dollar, bare, rfl⟩)

theorem IsBraced.append {t name : Text} (h : IsBraced t name) (y : Text) :
    IsBraced (t ++ y) name := ⟨h.1, h.2.trans (List.prefix_append t y).isInfix⟩

/-- The name is the text, or it has a character U+0000 and nothing has that name. -/
def Spells (raw name : Text) : Prop := name = raw ∨ '\x00' ∈ name

theorem Spells.concat {raw name : Text} (h : Spells raw name) (c : Char) :
    Spells (raw ++ [c]) (name ++ [c]) := by
  rcases h with rfl | none
  · exact .inl rfl
  · exact .inr (List.mem_append_left [c] none)

def Written (t name : Text) : Prop := ∃ raw, IsBraced t raw ∧ Spells raw name

theorem Written.append {t name : Text} (h : Written t name) (y : Text) : Written (t ++ y) name := by
  obtain ⟨raw, braced, spells⟩ := h
  exact ⟨raw, braced.append y, spells⟩

/-- What the scan for dollars has to know of the reader of values, between `x` and `y`. -/
def Agrees (x y : Text) (d : DollarScan) : ValueScan → Prop
  | .text _ => d ≠ .plainEscape ∧ d ≠ .doubleEscape
  | .escape _ => d.expands = false
  | .reference _ name => name = [] ∧ x.getLast? = some '$' ∧ y.head? = some '{'
  | .braced _ name => ∃ raw, '}' ∉ raw ∧ '$' :: '{' :: raw <:+ x ∧ Spells raw name
  | _ => True

theorem DollarScan.next_of_ne_backslash (d : DollarScan) {c : Char} (h : c ≠ '\\') :
    d.next c ≠ plainEscape ∧ d.next c ≠ doubleEscape := by
  cases d with
  | plain afterBlank => simp only [next, h, if_false]; split_ifs <;> simp
  | double => simp only [next, h, if_false]; split_ifs <;> simp
  | plainEscape => simp [next]
  | doubleEscape => simp [next]
  | single => simp only [next]; split_ifs <;> simp
  | comment => simp only [next]; split_ifs <;> simp

theorem DollarScan.next_of_not_expands {d : DollarScan} (h : d.expands = false) (c : Char) :
    d.next c ≠ plainEscape ∧ d.next c ≠ doubleEscape := by
  cases d with
  | plain afterBlank => cases h
  | double => cases h
  | plainEscape => simp [next]
  | doubleEscape => simp [next]
  | single => simp only [next]; split_ifs <;> simp
  | comment => simp only [next]; split_ifs <;> simp

theorem DollarScan.expands_next_backslash {d : DollarScan}
    (h : d ≠ plainEscape ∧ d ≠ doubleEscape) : (d.next '\\').expands = false := by
  cases d with
  | plainEscape => exact absurd rfl h.1
  | doubleEscape => exact absurd rfl h.2
  | plain afterBlank => rfl
  | single => rfl
  | double => rfl
  | comment => rfl

theorem suffix_concat {u x : Text} (h : u <:+ x) (c : Char) : u ++ [c] <:+ x ++ [c] := by
  obtain ⟨z, rfl⟩ := h
  exact ⟨z, by simp⟩

theorem blankRanges_apart : ∀ r ∈ Text.blankRanges, ∀ a ∈ Text.alphanumericRanges,
    r.2 < a.1 ∨ a.2 < r.1 := by decide +kernel

theorem isAlphanumeric_of_isBlank {c : Char} (h : Text.isBlank c = true) :
    Text.isAlphanumeric c = false := by
  rw [Bool.eq_false_iff]
  intro alphanumeric
  rw [Text.isAlphanumeric] at alphanumeric
  split at alphanumeric
  · have key : isKeyChar c = true := by simp [isKeyChar, alphanumeric]
    rw [isBlank_of_isKeyChar key] at h
    cases h
  · obtain ⟨r, hr, low, high⟩ := (Text.Ranges.has_iff _ c).mp h
    obtain ⟨a, ha, low', high'⟩ := (Text.Ranges.has_iff _ c).mp alphanumeric
    rcases blankRanges_apart r hr a ha with apart | apart <;> omega

theorem Agrees.keep {x y : Text} {d : DollarScan} {s s' : ValueScan} {c : Char}
    (h : Agrees x (c :: y) d s) (kept : c = '$' → y.head? ≠ some '{' → d.expands = false)
    (fits : c = '$' → y.head? ≠ some '{' → d.Fits s) (next : s.next? c = some s') :
    Agrees (x ++ [c]) y (d.next c) s' := by
  cases s with
  | text quoted =>
    rcases ValueScan.next?_text_cases next with ⟨dollar, rfl⟩ | ⟨rfl, rfl⟩ | ⟨-, back, other⟩
    · -- A dollar that opens a reference and was left as it is has its brace.
      have brace : y.head? = some '{' := by
        by_contra bare
        have expands : d.expands = true := fits dollar bare
        rw [kept dollar bare] at expands
        cases expands
      exact ⟨rfl, by simp [dollar], brace⟩
    · exact DollarScan.expands_next_backslash h
    · rcases other with rfl | rfl | ⟨q, rfl⟩
      · trivial
      · trivial
      · exact d.next_of_ne_backslash back
  | escape quoted =>
    obtain ⟨a, -, rfl⟩ := Option.map_eq_some_iff.mp next
    exact DollarScan.next_of_not_expands h c
  | single =>
    simp only [ValueScan.next?, Option.some.injEq] at next
    subst next
    split_ifs with quote
    · exact d.next_of_ne_backslash (by rw [quote]; decide)
    · exact trivial
  | reference quoted name =>
    obtain ⟨rfl, last, brace⟩ := h
    obtain rfl := Option.some.inj brace
    simp only [ValueScan.next?, isAlphanumeric_brace, Bool.false_eq_true, if_false, and_self,
      if_true, Option.some.injEq] at next
    subst next
    obtain ⟨x', hx⟩ := List.getLast?_eq_some_iff.mp last
    exact ⟨[], by simp, ⟨x', by simp [hx]⟩, .inl rfl⟩
  | braced quoted name =>
    obtain ⟨raw, unclosed, opened, spells⟩ := h
    simp only [ValueScan.next?, Option.some.injEq] at next
    subst next
    split_ifs with close
    · exact d.next_of_ne_backslash (by rw [close]; decide)
    · refine ⟨raw ++ [c], ?_, suffix_concat opened c, spells.concat c⟩
      simpa [unclosed] using Ne.symm close
  | ending =>
    simp only [ValueScan.next?, Option.ite_none_right_eq_some, Option.some.injEq] at next
    obtain ⟨-, rfl⟩ := next
    trivial

theorem Agrees.closed {x y : Text} {d : DollarScan} {s : ValueScan} {c : Char}
    (h : Agrees x (c :: y) d s) {name : Text} (closed : s.closed? c = some name) :
    Written (x ++ [c]) name := by
  cases s with
  | reference quoted n =>
    obtain ⟨rfl, -, brace⟩ := h
    obtain rfl := Option.some.inj brace
    simp [ValueScan.closed?] at closed
  | braced quoted n =>
    simp only [ValueScan.closed?, Option.ite_none_right_eq_some, Option.some.injEq] at closed
    obtain ⟨rfl, rfl⟩ := closed
    obtain ⟨raw, unclosed, opened, spells⟩ := h
    exact ⟨raw, ⟨unclosed, (suffix_concat opened '}').isInfix⟩, spells⟩
  | text quoted => cases closed
  | escape quoted => cases closed
  | single => cases closed
  | ending => cases closed

theorem Agrees.closedBy_escape {x y : Text} {d : DollarScan} {s : ValueScan}
    (h : Agrees x ('$' :: y) d s) : s.closedBy ['\\', '$'] = [] := by
  cases s with
  | reference quoted name => cases h.2.2
  | text quoted => cases quoted <;> rfl
  | escape quoted => cases quoted <;> rfl
  | single => rfl
  | braced quoted name => rfl
  | ending => rfl

theorem Agrees.escape {x y : Text} {d : DollarScan} {s s' : ValueScan}
    (h : Agrees x ('$' :: y) d s) (expands : d.expands = true) (fits : d.Fits s)
    (next : s.after? ['\\', '$'] = some s') : Agrees (x ++ ['$']) y (d.next '$') s' := by
  have still := d.next_of_ne_backslash (c := '$') (by decide)
  cases s with
  | text quoted => cases quoted <;> (obtain rfl := Option.some.inj next; exact still)
  | escape quoted =>
    rw [show d.expands = false from h] at expands
    cases expands
  | single =>
    obtain rfl := Option.some.inj next
    trivial
  | reference quoted name => cases h.2.2
  | braced quoted name =>
    obtain ⟨raw, unclosed, opened, -⟩ := h
    obtain rfl := Option.some.inj next
    have none : '\x00' ∈ name := fits expands
    exact ⟨raw ++ ['$'], by simp [unclosed], suffix_concat opened '$', .inr (by simp [none])⟩
  | ending => cases next

end SkillHost.Dotenv
