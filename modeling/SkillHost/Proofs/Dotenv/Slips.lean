import SkillHost.Proofs.Dotenv.Literal

/-! Slips: bare dollars at which the scans disagree. Behind a slip the text can be continued,
without another dollar, so that a value depends on a name that is nowhere between braces. -/
namespace SkillHost.Dotenv

namespace ValueScan

theorem eq_dollar_of_next? {s : ValueScan} {c : Char} {quoted : Bool}
    (h : s.next? c = some (reference quoted [])) : c = '$' := by
  cases s with
  | text q =>
    rcases next?_text_cases h with ⟨dollar, -⟩ | ⟨-, escaped⟩ | ⟨-, -, other⟩
    · exact dollar
    · cases escaped
    · simp at other
  | escape q => simp [next?] at h
  | single =>
    simp only [next?, Option.some.injEq] at h
    split_ifs at h
  | reference q name =>
    simp only [next?, Option.some.injEq] at h
    split_ifs at h
    · simp at h
    · assumption
  | braced q name =>
    simp only [next?, Option.some.injEq] at h
    split_ifs at h
  | ending => simp [next?] at h

theorem next?_eq_braced {s : ValueScan} {c : Char} {quoted : Bool} {name : Text}
    (h : s.next? c = some (braced quoted name)) :
    c = '{' ∧ name = [] ∧ s = reference quoted [] ∨ ∃ n, name = n ++ [c] ∧ s = braced quoted n := by
  cases s with
  | text q => simpa using next?_text_cases h
  | escape q => simp [next?] at h
  | single =>
    simp only [next?, Option.some.injEq] at h
    split_ifs at h
  | reference q n =>
    simp only [next?, Option.some.injEq] at h
    split_ifs at h with _ brace
    obtain ⟨rfl, rfl⟩ := brace
    cases h
    exact .inl ⟨rfl, rfl, rfl⟩
  | braced q n =>
    simp only [next?, Option.some.injEq] at h
    split_ifs at h
    cases h
    exact .inr ⟨n, rfl, rfl⟩
  | ending => simp [next?] at h

theorem opening_suffix {v name : Text} {quoted : Bool}
    (h : (text false).after? v = some (braced quoted name)) : '$' :: '{' :: name <:+ v := by
  induction v using List.reverseRecOn generalizing name with
  | nil => cases h
  | append_singleton v c ih =>
    rw [after?_concat, Option.bind_eq_some_iff] at h
    obtain ⟨s, before, next⟩ := h
    rcases next?_eq_braced next with ⟨rfl, rfl, rfl⟩ | ⟨n, rfl, rfl⟩
    · cases v using List.reverseRecOn with
      | nil => cases before
      | append_singleton v a =>
        rw [after?_concat, Option.bind_eq_some_iff] at before
        obtain ⟨s, -, dollar⟩ := before
        rw [eq_dollar_of_next? dollar]
        exact ⟨v, by simp⟩
    · exact suffix_concat (ih before) c

theorem readValue_of_after? {v : Text} (h : (text false).after? v = some (text false))
    (expand : Text → Text) : readValue expand v = some ((text false).addedBy expand v) := by
  have parts := readValueFrom_append expand h []
  rw [List.append_nil] at parts
  rw [readValue, parts]
  simp [readValueFrom]

theorem isAlphanumeric_Z : Text.isAlphanumeric 'Z' = true := by decide

theorem isAlphanumeric_hyphen : Text.isAlphanumeric '-' = false := by decide

theorem after?_reference (quoted : Bool) (name : Text) (m : Nat) :
    (reference quoted name).after? (List.replicate m 'Z' ++ ['-']) = some (text quoted) ∧
    ∀ expand, (reference quoted name).addedBy expand (List.replicate m 'Z' ++ ['-']) =
      expand (name ++ List.replicate m 'Z') ++ ['-'] := by
  induction m generalizing name with
  | zero =>
    simp [after?_cons, next?, addedBy, added, closed?, literal, isAlphanumeric_hyphen]
  | succ m ih =>
    have later := ih (name ++ ['Z'])
    have next : (reference quoted name).next? 'Z' = some (reference quoted (name ++ ['Z'])) := by
      simp [next?, isAlphanumeric_Z]
    have added (expand : Text → Text) : (reference quoted name).added expand 'Z' = [] := by
      simp [added, closed?, literal, isAlphanumeric_Z]
    rw [List.replicate_succ, List.cons_append, after?_cons, next, Option.bind_some]
    refine ⟨later.1, fun expand => ?_⟩
    rw [addedBy, next, Option.map_some, Option.getD_some, later.2, added]
    simp

theorem after?_braced (quoted : Bool) (name : Text) (m : Nat) :
    (braced quoted name).after? (List.replicate m 'Z' ++ ['}']) = some (text quoted) ∧
    ∀ expand, (braced quoted name).addedBy expand (List.replicate m 'Z' ++ ['}']) =
      expand (name ++ List.replicate m 'Z') ++ [] := by
  induction m generalizing name with
  | zero => simp [after?_cons, next?, addedBy, added, closed?, literal]
  | succ m ih =>
    have later := ih (name ++ ['Z'])
    have next : (braced quoted name).next? 'Z' = some (braced quoted (name ++ ['Z'])) := rfl
    have added (expand : Text → Text) : (braced quoted name).added expand 'Z' = [] := rfl
    rw [List.replicate_succ, List.cons_append, after?_cons, next, Option.bind_some]
    refine ⟨later.1, fun expand => ?_⟩
    rw [addedBy, next, Option.map_some, Option.getD_some, later.2, added]
    simp

end ValueScan

def Quoting.Settled (q : Quoting) : Prop := q = .plain ∨ q = .weak ∨ q = .strong

theorem Quoting.Settled.next {q : Quoting} (h : q.Settled) {c : Char}
    (blank : Text.isBlank c = false) (back : c ≠ '\\') (double : c ≠ '"') (single : c ≠ '\'') :
    q.next c = q := by
  rcases h with rfl | rfl | rfl <;> simp [Quoting.next, blank, back, double, single]

theorem Quoting.settled_next_dollar (q : Quoting) : (q.next '$').Settled := by
  cases q
  · exact .inl rfl
  · exact .inl rfl
  · exact .inl rfl
  · exact .inr (.inl rfl)
  · exact .inr (.inl rfl)
  · exact .inr (.inr rfl)
  · exact .inr (.inr rfl)

/-- A text that closes the quotes of both readers. -/
structure Closes (q : Quoting) (quoted : Bool) (u : Text) : Prop where
  dollar : '$' ∉ u
  brace : '}' ∉ u
  hash : '#' ∉ u
  line : '\n' ∉ u
  last : ∀ c ∈ u.getLast?, Text.isBlank c = false
  quoting : u.foldl Quoting.next q = .plain
  reads : (ValueScan.text quoted).after? u = some (.text false)
  names : (ValueScan.text quoted).closedBy u = []

theorem exists_closes {q : Quoting} (h : q.Settled) (quoted : Bool) : ∃ u, Closes q quoted u := by
  have one {c : Char} (h : Text.isBlank c = false) : ∀ a ∈ some c, Text.isBlank a = false := by
    rintro a ⟨⟩
    exact h
  rcases h with rfl | rfl | rfl <;> cases quoted
  · exact ⟨[], by decide, by decide, by decide, by decide, nofun, rfl, rfl, rfl⟩
  · exact ⟨"\"'\"''\\'".toList, by decide, by decide, by decide, by decide, one (by decide),
      rfl, rfl, rfl⟩
  · exact ⟨"'\"''\\'".toList, by decide, by decide, by decide, by decide, one (by decide),
      rfl, rfl, rfl⟩
  · exact ⟨"\"".toList, by decide, by decide, by decide, by decide, one (by decide),
      rfl, rfl, rfl⟩
  · exact ⟨"'\\'".toList, by decide, by decide, by decide, by decide, one (by decide),
      rfl, rfl, rfl⟩
  · exact ⟨"\"'\\'".toList, by decide, by decide, by decide, by decide, one (by decide),
      rfl, rfl, rfl⟩

/-- The names that the statements of a text refer to, with those of the statement that is held. -/
def namesBehind (x : Text) : List Text :=
  (Cursor.fresh.ended (escapeDollars x)).flatMap Statement.names ++
    ((held? (Cursor.behind x).start.reverse).map fun (_, v) =>
      (ValueScan.text false).closedBy v).getD []

theorem Parsed.before_congr {env env' : Environment} {x : Text}
    (h : ∀ name ∈ namesBehind x, env.lookup name = env'.lookup name) :
    before env x = before env' x :=
  foldl_handle_congr (fun s hs name hname =>
    h name (List.mem_append_left _ (List.mem_flatMap.mpr ⟨s, hs, hname⟩))) empty

/-- A name that the reader of values ends in `w`, and that matters to the value. -/
structure Misreads (s : ValueScan) (w name : Text) (quoted : Bool) : Prop where
  hash : '#' ∉ w
  line : '\n' ∉ w
  head : ∃ c rest, w = c :: rest ∧ Text.isBlank c = false
  last : ∀ c ∈ w.getLast?, Text.isBlank c = false
  quoting : ∀ q : Quoting, (w.foldl Quoting.next q).Settled
  reads : s.after? w = some (.text quoted)
  adds : ∃ more, ∀ expand, s.addedBy expand w = expand name ++ more

section
variable {s : ValueScan} {w u name : Text} {quoted : Bool} {q : Quoting}

theorem last_misread (misread : Misreads s w name quoted) (closes : Closes q quoted u) :
    ∀ c ∈ (w ++ u).getLast?, Text.isBlank c = false := by
  cases u with
  | nil => simpa using misread.last
  | cons a u =>
    rw [List.getLast?_append_of_ne_nil _ (List.cons_ne_nil a u)]
    exact closes.last

theorem statements_misread (misread : Misreads s w name quoted)
    (closes : Closes (w.foldl Quoting.next q) quoted u) (leading : Bool) (start : Text) :
    (Cursor.mk (.body leading q) start).statements (w ++ (u ++ ['\n'])) =
      [.whole (start.reverse ++ (w ++ u))] := by
  have hash : '#' ∉ w ++ u := by simp [misread.hash, closes.hash]
  have line : '\n' ∉ w ++ u := by simp [misread.line, closes.line]
  obtain ⟨leading', reads⟩ := Cursor.exists_statements_append hash line leading q start
  have last : ∀ c ∈ ((w ++ u).reverse ++ start).head?, Text.isBlank c = false := by
    obtain ⟨c, rest, hw, -⟩ := misread.head
    rw [List.head?_append_of_ne_nil _ (by simp [hw]), List.head?_reverse]
    exact last_misread misread closes
  have close : closeLine ((w ++ u).reverse ++ start) = start.reverse ++ (w ++ u) := by
    rw [closeLine_of_head last, List.reverse_append, List.reverse_reverse]
  rw [← List.append_assoc, reads, List.foldl_append, closes.quoting, ← close]
  rfl

theorem read_misread {start k v : Text} (held : held? start.reverse = some (k, v))
    (state : (ValueScan.text false).after? v = some s) (misread : Misreads s w name quoted)
    (closes : Closes q quoted u) :
    ∃ more, ∀ expand, (Statement.whole (start.reverse ++ (w ++ u))).read expand =
      .assigned k ((ValueScan.text false).addedBy expand v ++ (expand name ++ more)) := by
  obtain ⟨c, rest, hw, blank⟩ := misread.head
  obtain ⟨more, adds⟩ := misread.adds
  have hash : c ≠ '#' := by
    have := misread.hash
    rw [hw] at this
    exact (List.ne_of_not_mem_cons this).symm
  have heldAll : held? (start.reverse ++ (w ++ u)) = some (k, v ++ (w ++ u)) := by
    rw [hw]
    exact held?_append held blank hash (rest ++ u)
  have last : ∀ c ∈ (start.reverse ++ (w ++ u)).getLast?, Text.isBlank c = false := by
    rw [List.getLast?_append_of_ne_nil _ (by simp [hw])]
    exact last_misread misread closes
  have stateAll : (ValueScan.text false).after? (v ++ (w ++ u)) = some (.text false) := by
    rw [ValueScan.after?_append, state, Option.bind_some, ValueScan.after?_append, misread.reads]
    exact closes.reads
  have void : isVoid (v ++ (w ++ u)) = false := by
    have first := (held?_eq_some_iff.mp heldAll).1
    obtain ⟨a, more, ha⟩ := List.exists_cons_of_ne_nil (l := v ++ (w ++ u)) (by simp [hw])
    rw [ha] at first ⊢
    simpa [isVoid] using first
  refine ⟨more ++ (ValueScan.text quoted).addedBy id u, fun expand => ?_⟩
  have tail : (ValueScan.text quoted).addedBy expand u = (ValueScan.text quoted).addedBy id u :=
    ValueScan.addedBy_congr (by simp [closes.names])
  rw [Statement.read_of_held? heldAll last, Reading.ofValue, void,
    ValueScan.readValue_of_after? stateAll, ValueScan.addedBy_append expand state,
    ValueScan.addedBy_append expand misread.reads, adds, tail]
  simp

end

theorem exists_values_ne {x w name : Text} {s : ValueScan} {quoted : Bool}
    (value : (Cursor.behind x).value? = some s) (misread : Misreads s w name quoted)
    (ne : name ≠ []) (zero : '\x00' ∉ name) (new : name ∉ namesBehind x) :
    ∃ tail : Text, '$' ∉ tail ∧ '}' ∉ tail ∧ ∃ env env' : Environment,
      (∀ other, other ≠ name → env.lookup other = env'.lookup other) ∧
      (((Cursor.behind x).statements (w ++ tail)).foldl (Parsed.handle env)
        (Parsed.before env x)).values ≠
      (((Cursor.behind x).statements (w ++ tail)).foldl (Parsed.handle env')
        (Parsed.before env' x)).values := by
  have known : ∀ k v, held? (Cursor.behind x).start.reverse = some (k, v) →
      name ∉ (ValueScan.text false).closedBy v := by
    intro k v hv mem
    apply new
    rw [namesBehind, hv]
    exact List.mem_append_right _ mem
  generalize hr : Cursor.behind x = r at value known ⊢
  obtain ⟨scan, start⟩ := r
  cases scan with
  | comment => cases value
  | body leading q =>
    obtain ⟨⟨k, v⟩, held, state⟩ := Option.bind_eq_some_iff.mp value
    obtain ⟨u, closes⟩ := exists_closes (misread.quoting q) quoted
    obtain ⟨more, reads⟩ := read_misread held state misread closes
    obtain ⟨env, absent, others⟩ := Environment.exists_differing ne zero
    -- The environment gives to the name what nothing in the text does.
    let standing := (((Parsed.before env x).assigned.get? name).getD [])
    obtain ⟨value, equals, differs⟩ : ∃ value : Text, '=' ∉ value ∧ standing ≠ value := by
      by_cases one : standing = ['1']
      · exact ⟨['2'], by decide, by simp [one]⟩
      · exact ⟨['1'], by decide, one⟩
    obtain ⟨env', present, same⟩ := others value equals
    have before : Parsed.before env x = Parsed.before env' x :=
      Parsed.before_congr fun n hn => same n (by rintro rfl; exact new hn)
    refine ⟨u ++ ['\n'], by simp [closes.dollar], by simp [closes.brace], env, env', same, ?_⟩
    rw [statements_misread misread closes, List.foldl_cons, List.foldl_nil, List.foldl_cons,
      List.foldl_nil, Parsed.handle, Parsed.handle, reads, reads, ← before]
    intro equal
    have value := congrArg (fun values => values.get? k) equal
    simp only [Parsed.apply, Table.get?_insert, if_true, Option.some.injEq] at value
    have first : (ValueScan.text false).addedBy ((Parsed.before env x).expand env) v =
        (ValueScan.text false).addedBy ((Parsed.before env x).expand env') v := by
      apply ValueScan.addedBy_congr
      intro n hn
      rw [Parsed.expand, Parsed.expand, same n (by rintro rfl; exact known k v held hn)]
    rw [first, List.append_cancel_left_eq, List.append_cancel_right_eq, Parsed.expand, absent,
      Parsed.expand, present] at value
    exact differs value

end SkillHost.Dotenv
