import SkillHost.Proofs.Dotenv.Slips

/-! When bare dollars stand for themselves: exactly where the scans agree on them, in a text and in
whatever continues a part of it that ends in a bare dollar. -/
namespace SkillHost.Dotenv

theorem settled_misread {chunk : Text} (hchunk : chunk = ['$'] ∨ chunk = ['\\', '$']) (m : Nat)
    {close : Char} (hclose : close = '-' ∨ close = '}') (q : Quoting) :
    ((chunk ++ (List.replicate m 'Z' ++ [close])).foldl Quoting.next q).Settled := by
  have opened : (chunk.foldl Quoting.next q).Settled := by
    rcases hchunk with rfl | rfl
    · exact q.settled_next_dollar
    · exact (q.next '\\').settled_next_dollar
  have named (q : Quoting) (h : q.Settled) : (List.replicate m 'Z').foldl Quoting.next q = q := by
    induction m with
    | zero => rfl
    | succ m ih =>
      rw [List.replicate_succ, List.foldl_cons,
        h.next (by decide) (by decide) (by decide) (by decide), ih]
  rw [List.foldl_append, List.foldl_append, named _ opened]
  rcases hclose with rfl | rfl
  · have closed := opened.next (c := '-') (by decide) (by decide) (by decide) (by decide)
    rwa [List.foldl_cons, List.foldl_nil, closed]
  · have closed := opened.next (c := '}') (by decide) (by decide) (by decide) (by decide)
    rwa [List.foldl_cons, List.foldl_nil, closed]

theorem misreads_text (quoted : Bool) (m : Nat) :
    Misreads (.text quoted) ('$' :: (List.replicate m 'Z' ++ ['-'])) (List.replicate m 'Z')
      quoted where
  hash := by simp
  line := by simp
  head := ⟨'$', _, rfl, by decide⟩
  last := by
    rw [← List.cons_append, List.getLast?_concat]
    rintro c ⟨⟩
    decide
  quoting := settled_misread (.inl rfl) m (.inl rfl)
  reads := by
    have named := (ValueScan.after?_reference quoted [] m).1
    cases quoted <;> exact named
  adds := by
    refine ⟨['-'], fun expand => ?_⟩
    have named := (ValueScan.after?_reference quoted [] m).2 expand
    cases quoted <;> exact named

theorem misreads_braced (quoted : Bool) (n : Text) (m : Nat) :
    Misreads (.braced quoted n) ('\\' :: '$' :: (List.replicate m 'Z' ++ ['}']))
      (n ++ '\\' :: '$' :: List.replicate m 'Z') quoted where
  hash := by simp
  line := by simp
  head := ⟨'\\', _, rfl, by decide⟩
  last := by
    rw [← List.cons_append, ← List.cons_append, List.getLast?_concat]
    rintro c ⟨⟩
    decide
  quoting := settled_misread (.inr rfl) m (.inr rfl)
  reads := (ValueScan.after?_braced quoted (n ++ ['\\'] ++ ['$']) m).1
  adds := by
    refine ⟨[], fun expand => ?_⟩
    have named := (ValueScan.after?_braced quoted (n ++ ['\\'] ++ ['$']) m).2 expand
    have spelled : n ++ ['\\'] ++ ['$'] ++ List.replicate m 'Z' =
        n ++ '\\' :: '$' :: List.replicate m 'Z' := by simp
    rw [spelled] at named
    exact named

theorem IsBraced.of_append {x y name : Text} (h : IsBraced (x ++ y) name) (brace : '}' ∉ y) :
    IsBraced x name := by
  obtain ⟨unclosed, a, b, parts⟩ := h
  refine ⟨unclosed, ?_⟩
  rcases List.append_eq_append_iff.mp parts with ⟨more, hx, -⟩ | ⟨more, hname, hy⟩
  · exact ⟨a, more, hx.symm⟩
  · cases more using List.reverseRecOn with
    | nil => exact ⟨a, [], by simpa using hname⟩
    | append_singleton more c =>
      rw [← List.append_assoc, ← List.cons_append, ← List.cons_append, ← List.append_assoc] at hname
      have last := List.singleton_inj.mp (List.append_inj' hname rfl).2
      exact absurd (by rw [hy, ← last]; simp) brace

theorem IsBraced.length_lt {x name : Text} (h : IsBraced x name) : name.length < x.length := by
  have := h.2.length_le
  simp only [List.length_cons, List.length_append, List.length_nil] at this
  omega

theorem eq_of_count_eq {t u v : Text} (hu : '$' :: u <:+ t) (hv : '$' :: v <:+ t)
    (count : u.count '$' = v.count '$') : u = v := by
  have shorter {u v : Text} (h : '$' :: u <:+ '$' :: v) (count : u.count '$' = v.count '$') :
      u = v := by
    rcases List.suffix_cons_iff.mp h with same | inside
    · exact (List.cons.inj same).2
    · have := inside.sublist.count_le '$'
      rw [List.count_cons_self] at this
      omega
  rcases List.suffix_or_suffix_of_suffix hu hv with h | h
  · exact shorter h count
  · exact (shorter h count.symm).symm

theorem not_suffix_misread {x n : Text} {quoted : Bool}
    (value : (Cursor.behind x).value? = some (.braced quoted n)) :
    ¬('$' :: '{' :: (n ++ ['\\']) <:+ x) := by
  rintro ⟨z, parts⟩
  -- What was read of the name, and what the escaping makes of the name with a backslash more, stand
  -- in one text, behind the same dollar.
  have read : '$' :: '{' :: n <:+ escapeDollars x := by
    have held (h : (Cursor.behind x).scan ≠ .comment) := Cursor.start_suffix h
    generalize hr : Cursor.behind x = r at value
    obtain ⟨scan, start⟩ := r
    cases scan with
    | comment => cases value
    | body leading quoting =>
      obtain ⟨⟨k, v⟩, hkv, hv⟩ := Option.bind_eq_some_iff.mp value
      have start := held (by rw [hr]; nofun)
      rw [show Cursor.fresh.after (escapeDollars x) = _ from hr] at start
      exact (ValueScan.opening_suffix hv).trans ((suffix_of_held? hkv).trans start)
  obtain ⟨d, escaped⟩ :
      ∃ d, '$' :: '{' :: escapeDollarsFrom d (n ++ ['\\']) <:+ escapeDollars x := by
    refine ⟨(((DollarScan.plain true).after z).next '$').next '{', escapeDollars z, ?_⟩
    rw [← parts, escapeDollars, escapeDollars, escapeDollarsFrom_append _ z (by simp)]
    simp [escapeDollarsFrom]
  have same := eq_of_count_eq read escaped (by simp [count_escapeDollarsFrom])
  have longer := length_le_escapeDollarsFrom d (n ++ ['\\'])
  rw [← (List.cons.inj same).2, List.length_append, List.length_singleton] at longer
  omega

theorem not_isBraced_misread {p n : Text} {quoted : Bool}
    (value : (Cursor.behind (withoutMark p)).value? = some (.braced quoted n)) {m : Nat}
    (long : p.length ≤ m) {tail : Text} (brace : '}' ∉ tail) :
    ¬IsBraced (p ++ '$' :: (List.replicate m 'Z' ++ '}' :: tail))
      (n ++ '\\' :: '$' :: List.replicate m 'Z') := by
  intro braced
  have parts : p ++ '$' :: (List.replicate m 'Z' ++ '}' :: tail) =
      (p ++ '$' :: List.replicate m 'Z' ++ ['}']) ++ tail := by simp
  rw [parts] at braced
  obtain ⟨unclosed, within⟩ := braced.of_append brace
  rcases List.infix_concat_iff.mp within with last | earlier
  · have name : '$' :: '{' :: (n ++ ['\\']) ++ '$' :: List.replicate m 'Z' <:+
        p ++ '$' :: List.replicate m 'Z' := by
      rw [← List.cons_append, ← List.cons_append, List.suffix_append_self_iff] at last
      simpa using last
    rw [List.suffix_append_self_iff] at name
    exact not_suffix_misread value (suffix_withoutMark (by decide) name)
  · have before : IsBraced p (n ++ '\\' :: '$' :: List.replicate m 'Z') :=
      IsBraced.of_append ⟨unclosed, earlier⟩ (by simp)
    have := before.length_lt
    simp only [List.length_append, List.length_cons, List.length_replicate] at this
    omega

theorem not_isBraced_new {p : Text} {m : Nat} (long : p.length ≤ m) {tail : Text}
    (brace : '}' ∉ tail) :
    ¬IsBraced (p ++ '$' :: (List.replicate m 'Z' ++ '-' :: tail)) (List.replicate m 'Z') := by
  intro braced
  have := (braced.of_append (by simp [brace])).length_lt
  rw [List.length_replicate] at this
  omega

theorem BareDollar.of_append {t p q q' u : Text} (parts : t = p ++ '$' :: q)
    (bare : q.head? ≠ some '{') (dollar : '$' ∉ q') (h : BareDollar (p ++ '$' :: q') u) :
    BareDollar t u := by
  obtain ⟨rest, hu, hrest⟩ := h
  rcases List.append_eq_append_iff.mp hu with ⟨more, rfl, hmore⟩ | ⟨more, rfl, hmore⟩
  · cases more with
    | nil => exact ⟨q, by simpa using parts, bare⟩
    | cons c more =>
      have inside : '$' ∈ q' := by
        rw [(List.cons.inj hmore).2]
        exact List.mem_append_right more List.mem_cons_self
      exact absurd inside dollar
  · cases more with
    | nil => exact ⟨q, by simpa using parts, bare⟩
    | cons c more =>
      obtain ⟨rfl, rfl⟩ := List.cons.inj hmore
      refine ⟨more ++ '$' :: q, by simp [parts], ?_⟩
      cases more with
      | nil => simp
      | cons a more => simpa using hrest

theorem exists_not_dollarsLiteral_of_misreads {p q₀ name : Text} {d : DollarScan} {s : ValueScan}
    {quoted : Bool} (hd : (DollarScan.plain true).after (withoutMark p) = d)
    (value : (Cursor.behind (withoutMark p)).value? = some s)
    (misread : Misreads s (d.escaped '$' q₀ ++ q₀) name quoted) (ne : name ≠ [])
    (zero : '\x00' ∉ name) (new : name ∉ namesBehind (withoutMark p))
    (unbraced : ∀ tail, '}' ∉ tail → ¬IsBraced (p ++ '$' :: (q₀ ++ tail)) name)
    (dollar : '$' ∉ q₀) {c : Char} (head : q₀.head? = some c) (brace : c ≠ '{') :
    ∃ q, '$' ∉ q ∧ q.head? ≠ some '{' ∧ ¬DollarsLiteral (p ++ '$' :: q) := by
  obtain ⟨tail, noDollar, noBrace, env, env', same, differ⟩ :=
    exists_values_ne value misread ne zero new
  have first : (q₀ ++ tail).head? = some c := by rw [List.head?_append, head, Option.some_or]
  have noDollar' : '$' ∉ q₀ ++ tail := by simp [dollar, noDollar]
  have escapes : escapeDollarsFrom d ('$' :: (q₀ ++ tail)) =
      d.escaped '$' q₀ ++ q₀ ++ tail := by
    rw [escapeDollarsFrom, escapeDollarsFrom_of_not_mem _ noDollar', first, ← head,
      ← DollarScan.escaped, List.append_assoc]
  refine ⟨q₀ ++ tail, noDollar', by simpa [first] using brace, fun literal => differ ?_⟩
  have values := literal.values env env' fun other braced =>
    same other (by rintro rfl; exact unbraced tail noBrace braced)
  rw [parse_append env p (by decide) (by decide), parse_append env' p (by decide) (by decide), hd,
    escapes] at values
  exact values

theorem exists_not_dollarsLiteral {p : Text} {s : ValueScan}
    (value : (Cursor.behind (withoutMark p)).value? = some s)
    (slip : ¬((DollarScan.plain true).after (withoutMark p)).Fits s) :
    ∃ q, '$' ∉ q ∧ q.head? ≠ some '{' ∧ ¬DollarsLiteral (p ++ '$' :: q) := by
  generalize hd : (DollarScan.plain true).after (withoutMark p) = d at slip
  -- A name longer than all that was read is a new one.
  let m := (namesBehind (withoutMark p)).flatten.length + p.length
  have long : p.length ≤ m := Nat.le_add_left _ _
  have new {name : Text} (h : m < name.length) : name ∉ namesBehind (withoutMark p) := by
    intro mem
    have := (List.sublist_flatten_of_mem mem).length_le
    omega
  have head (close : Char) : (List.replicate (m + 1) 'Z' ++ [close]).head? = some 'Z' := by
    simp [List.replicate_succ]
  cases s with
  | text quoted =>
    have kept : d.expands = false := by simpa [DollarScan.Fits] using slip
    have opening : d.escaped '$' (List.replicate (m + 1) 'Z' ++ ['-']) = ['$'] := by
      simp [DollarScan.escaped, kept]
    have misread := misreads_text quoted (m + 1)
    rw [← List.singleton_append, ← opening] at misread
    refine exists_not_dollarsLiteral_of_misreads hd value misread (by simp) (by simp)
      (new (by simp)) (fun tail brace => ?_) (by simp) (head '-') (by decide)
    rw [List.append_assoc]
    exact not_isBraced_new (Nat.le_succ_of_le long) brace
  | braced quoted n =>
    obtain ⟨expands, zero⟩ := Classical.not_imp.mp slip
    have opening : d.escaped '$' (List.replicate (m + 1) 'Z' ++ ['}']) = ['\\', '$'] := by
      simp [DollarScan.escaped, expands, head]
    have misread := misreads_braced quoted n (m + 1)
    have parts (rest : Text) : '\\' :: '$' :: rest = ['\\', '$'] ++ rest := rfl
    rw [parts (_ ++ _), ← opening] at misread
    refine exists_not_dollarsLiteral_of_misreads hd value misread (by simp) (by simp [zero])
      (new ?_) (fun tail brace => ?_) (by simp) (head '}') (by decide)
    · simp only [List.length_append, List.length_cons, List.length_replicate]
      omega
    · rw [List.append_assoc]
      exact not_isBraced_misread value (Nat.le_succ_of_le long) brace
  | reference quoted name => exact absurd trivial slip
  | escape quoted => exact absurd trivial slip
  | single => exact absurd trivial slip
  | ending => exact absurd trivial slip

/-- The scans agree at every bare dollar of a text exactly if the dollars are literal in each text
whose bare dollars, with all that stands before them, are among its own. -/
theorem inStep_iff (t : Text) :
    InStep t ↔ ∀ u, (∀ p, BareDollar u p → BareDollar t p) → DollarsLiteral u := by
  constructor
  · intro inStep u among
    exact dollarsLiteral_of_inStep fun p hp => inStep p (among p hp)
  · rintro literal p ⟨q, parts, bare⟩ s value
    by_contra slip
    obtain ⟨q', dollar, brace, slips⟩ := exists_not_dollarsLiteral value slip
    exact slips (literal _ fun u hu => hu.of_append parts bare dollar)

example : InStep "A=pa$word\nB='$x' # it's $y\n".toList := by decide

/-- An apostrophe after a backslash closes a quote for the escaping of dollars, not for the reader
of statements. The dollar of the next line is then left as it is, and opens a reference. -/
theorem dollar_expanded_after_escaped_apostrophe :
    ¬['$', '{'] <:+: "A='it\\'s'\nB=pa$word\n".toList ∧
    (parse .empty "A='it\\'s'\nB=pa$word\n".toList).values.get? ['B'] = some "pa".toList ∧
    (parse (.set .empty "word".toList (.text ['x'])) "A='it\\'s'\nB=pa$word\n".toList).values.get?
      ['B'] = some "pax".toList := by
  refine ⟨fun braced => ?_, by decide, by decide⟩
  have mem : '{' ∈ "A='it\\'s'\nB=pa$word\n".toList := braced.subset (by simp)
  exact absurd mem (by decide)

end SkillHost.Dotenv
