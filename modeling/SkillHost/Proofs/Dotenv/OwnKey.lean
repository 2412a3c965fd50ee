import SkillHost.Dotenv.Parsed
import SkillHost.Proofs.Dotenv.Heads
import SkillHost.Proofs.Dotenv.ValueSteps

/-! What a statement does to the values loaded so far. It minds its own key but for one slip: of a
value that cannot be read only the text of the value is kept, and where that reads `export` and a
key, the key is taken away as if a statement had named it alone. -/
namespace SkillHost.Dotenv

/-- A value that is no value, since a space or tab ends it too early, but reads as a key after
`export`. -/
def ExportsKey (value k : Text) : Prop :=
  isKey k = true ∧ ∃ blanks, (∀ c ∈ blanks, Text.isBlank c = true) ∧
    (' ' ∈ blanks ∨ '\t' ∈ blanks) ∧ value = exportWord ++ blanks ++ k

/-- The statement is whole, and its value reads as a key after `export`. -/
def Statement.Strays (s : Statement) (k : Text) : Prop :=
  s = .whole s.text ∧ ∃ key value, s.Assigns key value ∧ ExportsKey (Text.trimStart value) k

theorem isPlain_of_isKeyChar {c : Char} (h : isKeyChar c = true) : isPlain c = true := by
  simp only [isPlain, Bool.and_eq_true, decide_eq_true_eq]
  refine ⟨⟨⟨⟨⟨?_, ?_⟩, ?_⟩, ?_⟩, ?_⟩, ?_⟩ <;> rintro rfl <;> cases h

theorem isPlain_of_isBlank {c : Char} (h : Text.isBlank c = true) (space : c ≠ ' ')
    (tab : c ≠ '\t') : isPlain c = true := by
  simp only [isPlain, Bool.and_eq_true, decide_eq_true_eq]
  refine ⟨⟨⟨⟨⟨?_, ?_⟩, ?_⟩, ?_⟩, space⟩, tab⟩ <;> rintro rfl <;> cases h

theorem readValue_of_isPlain (expand : Text → Text) {t : Text} (h : ∀ c ∈ t, isPlain c = true) :
    readValue expand t = some t := by
  have := readValueFrom_of_isPlain expand h []
  simpa [readValue, readValueFrom] using this

theorem readValueFrom_ending_key (expand : Text → Text) {blanks k : Text}
    (h : ∀ c ∈ blanks, Text.isBlank c = true) (hk : isKey k = true) :
    readValueFrom expand .ending (blanks ++ k) = none := by
  induction blanks with
  | nil =>
    obtain ⟨a, more, rfl, ha, -⟩ := isKey_iff.mp hk
    have space : a ≠ ' ' := by rintro rfl; cases ha
    have tab : a ≠ '\t' := by rintro rfl; cases ha
    have hash : a ≠ '#' := by rintro rfl; cases ha
    simp [readValueFrom, space, tab, hash]
  | cons c rest ih =>
    have hash : c ≠ '#' := by
      rintro rfl
      exact absurd (h '#' List.mem_cons_self) (by decide)
    simp [readValueFrom, hash, ih fun a ha => h a (List.mem_cons_of_mem c ha)]

theorem readValueFrom_blanks_key (expand : Text → Text) {blanks k : Text}
    (h : ∀ c ∈ blanks, Text.isBlank c = true) (hk : isKey k = true)
    (ends : ' ' ∈ blanks ∨ '\t' ∈ blanks) :
    readValueFrom expand (.text false) (blanks ++ k) = none := by
  induction blanks with
  | nil => simp at ends
  | cons c rest ih =>
    have hrest : ∀ a ∈ rest, Text.isBlank a = true := fun a ha => h a (List.mem_cons_of_mem c ha)
    by_cases hc : c = ' ' ∨ c = '\t'
    · have next : (ValueScan.text false).next? c = some .ending := by
        rcases hc with rfl | rfl <;> rfl
      rw [List.cons_append, readValueFrom_cons expand next, readValueFrom_ending_key expand hrest hk]
      rfl
    · rw [not_or] at hc
      have plain := isPlain_of_isBlank (h c List.mem_cons_self) hc.1 hc.2
      rw [List.cons_append, readValueFrom_cons expand (ValueScan.next?_of_isPlain plain), ih hrest]
      · rfl
      · simpa [Ne.symm hc.1, Ne.symm hc.2] using ends

theorem exportsKey_iff (expand : Text → Text) {value k : Text} (trimmed : Text.trim value = value) :
    ExportsKey value k ↔ readValue expand value = none ∧ bareKey? value = some k := by
  rw [bareKey?_eq_some_iff, trimmed]
  constructor
  · rintro ⟨hk, blanks, hblanks, ends, rfl⟩
    refine ⟨?_, hk, exportWord ++ blanks, .inr ⟨blanks, ?_, hblanks, rfl⟩, rfl⟩
    · rw [readValue, List.append_assoc, readValueFrom_of_isPlain, readValueFrom_blanks_key expand
        hblanks hk ends]
      · rfl
      · exact fun c hc => isPlain_of_isKeyChar (isKeyChar_of_mem isKey_exportWord hc)
    · rintro rfl
      simp at ends
  · rintro ⟨refused, hk, lead, hlead, rfl⟩
    have key_plain : ∀ c ∈ k, isPlain c = true := fun c hc =>
      isPlain_of_isKeyChar (isKeyChar_of_mem hk hc)
    rcases hlead with rfl | ⟨blanks, -, hblanks, rfl⟩
    · rw [List.nil_append, readValue_of_isPlain expand key_plain] at refused
      cases refused
    · refine ⟨hk, blanks, hblanks, ?_, rfl⟩
      by_contra ends
      rw [not_or] at ends
      rw [readValue_of_isPlain expand] at refused
      · cases refused
      · intro c hc
        simp only [List.mem_append] at hc
        rcases hc with (hc | hc) | hc
        · exact isPlain_of_isKeyChar (isKeyChar_of_mem isKey_exportWord hc)
        · exact isPlain_of_isBlank (hblanks c hc) (fun h => ends.1 (h ▸ hc))
            fun h => ends.2 (h ▸ hc)
        · exact key_plain c hc

theorem Statement.read_of_strays {s : Statement} {k : Text} (h : s.Strays k)
    (expand : Text → Text) :
    ∃ text, s.read expand = .rejected text ∧ bareKey? text = some k := by
  obtain ⟨whole, key, value, assigns, stray⟩ := h
  obtain ⟨refused, bare⟩ := (exportsKey_iff expand assigns.trim_trimStart).mp stray
  refine ⟨Text.trimStart value, ?_, bare⟩
  rw [whole] at assigns ⊢
  rw [Statement.read_of_assigns assigns]
  obtain ⟨-, blanks, -, -, reads⟩ := stray
  have void : isVoid (Text.trimStart value) = false := by simp [reads, exportWord, isVoid]
  simp [Reading.ofValue, void, refused]

theorem Statement.read_cases (s : Statement) (expand : Text → Text) :
    s.read expand = .nothing ∨
    (∃ k value v, s.Assigns k value ∧ s.read expand = .assigned k v) ∨
    ∃ text, s.read expand = .rejected text ∧
      ∀ k, bareKey? text = some k → s.IsBare k ∨ s.Strays k := by
  cases s with
  | unfinished t => exact .inr (.inr ⟨t, rfl, fun k h => .inl (Statement.isBare_iff.mpr h)⟩)
  | whole t =>
    by_cases void : isVoid (Text.trim t) = true
    · exact .inl (by simp [Statement.read, Reading.ofText, void])
    cases head : readHead? (Text.trim t) with
    | none =>
      refine .inr (.inr ⟨t, ?_, fun k h => .inl (Statement.isBare_iff.mpr h)⟩)
      simp [Statement.read, Reading.ofText, void, head]
    | some found =>
      obtain ⟨key, rest⟩ := found
      have assigns : (whole t).Assigns key rest := Statement.assigns_iff.mpr head
      rw [Statement.read_of_assigns assigns, Reading.ofValue]
      split
      · exact .inr (.inl ⟨key, rest, [], assigns, rfl⟩)
      split
      · rename_i v _
        exact .inr (.inl ⟨key, rest, v, assigns, rfl⟩)
      · rename_i refused
        refine .inr (.inr ⟨Text.trimStart rest, rfl, fun k h => .inr ⟨rfl, key, rest, assigns, ?_⟩⟩)
        exact (exportsKey_iff expand assigns.trim_trimStart).mpr ⟨refused, h⟩

@[simp] theorem Parsed.get?_apply_assigned (parsed : Parsed) (key v k : Text) :
    (parsed.apply (.assigned key v)).values.get? k =
      if k = key then some v else parsed.values.get? k :=
  Table.get?_insert parsed.values key k v

theorem Parsed.get?_apply_rejected (parsed : Parsed) (text k : Text) :
    (parsed.apply (.rejected text)).values.get? k =
      if bareKey? text = some k then none else parsed.values.get? k := by
  rw [Parsed.apply]
  cases bareKey? text with
  | none => simp
  | some key =>
    simp only [Table.get?_erase, Option.some.injEq]
    by_cases h : k = key
    · rw [if_pos h, if_pos h.symm]
    · rw [if_neg h, if_neg (Ne.symm h)]

/-- What is expected of a statement that is read after others. -/
structure Statement.MindsOwnKey (s : Statement) (env : Environment) (parsed : Parsed) : Prop where
  frame : ∀ k, ¬s.Names k → (parsed.handle env s).values.get? k = parsed.values.get? k
  refused : ∀ k value text, s.Assigns k value → s.read (parsed.expand env) = .rejected text →
    ∀ k', (parsed.handle env s).values.get? k' = parsed.values.get? k'
  removed : ∀ k, (parsed.values.get? k).isSome = true →
    (parsed.handle env s).values.get? k = none → s.IsBare k

/-- A statement does what is expected of it unless it strays to a key that is there. -/
theorem Statement.mindsOwnKey_iff (s : Statement) (env : Environment) (parsed : Parsed) :
    s.MindsOwnKey env parsed ↔ ∀ k, s.Strays k → parsed.values.get? k = none := by
  constructor
  · intro minds k stray
    obtain ⟨text, read, bare⟩ := Statement.read_of_strays stray (parsed.expand env)
    obtain ⟨-, key, value, assigns, -⟩ := stray
    rw [← minds.refused key value text assigns read k, Parsed.handle, read,
      Parsed.get?_apply_rejected, if_pos bare]
  intro absent
  rcases s.read_cases (parsed.expand env) with
    read | ⟨key, value, v, assigns, read⟩ | ⟨text, read, erases⟩
  · have same : parsed.handle env s = parsed := by rw [Parsed.handle, read, Parsed.apply]
    refine ⟨fun k _ => by rw [same], fun _ _ _ _ _ k => by rw [same], fun k there gone => ?_⟩
    rw [same] at gone
    simp [gone] at there
  · have effect (k : Text) : (parsed.handle env s).values.get? k =
        if k = key then some v else parsed.values.get? k := by
      rw [Parsed.handle, read, Parsed.get?_apply_assigned]
    constructor
    · intro k other
      rw [effect, if_neg]
      rintro rfl
      exact other (.inr ⟨value, assigns⟩)
    · intro _ _ text _ rejected
      rw [read] at rejected
      cases rejected
    · intro k there gone
      rw [effect] at gone
      split at gone
      · cases gone
      · simp [gone] at there
  · have effect (k : Text) : (parsed.handle env s).values.get? k =
        if bareKey? text = some k then none else parsed.values.get? k := by
      rw [Parsed.handle, read, Parsed.get?_apply_rejected]
    -- What is erased is the key that stands alone, or one that is not there.
    have unchanged {k : Text} (h : ¬s.IsBare k) :
        (parsed.handle env s).values.get? k = parsed.values.get? k := by
      rw [effect]
      split
      · rename_i bare
        rw [absent k ((erases k bare).resolve_left h)]
      · rfl
    constructor
    · intro k other
      exact unchanged fun bare => other (.inl bare)
    · intro key value _ assigns _ k
      exact unchanged (Statement.not_isBare_of_assigns assigns k)
    · intro k there gone
      by_contra bare
      rw [unchanged bare] at gone
      simp [gone] at there

/-- After `B=1` the statement `A=export B` takes `B` away. -/
theorem refused_value_takes_key_away :
    statements (escapeDollars "B=1\nA=export B\n".toList) =
      [.whole "B=1".toList, .whole "A=export B".toList] ∧
    ¬(Statement.whole "A=export B".toList).MindsOwnKey .empty
      (Parsed.handle .empty .empty (.whole "B=1".toList)) := by
  refine ⟨by decide, fun minds => ?_⟩
  have assigns : (Statement.whole "A=export B".toList).Assigns ['A'] "export B".toList :=
    Statement.assigns_iff.mpr (by decide)
  have same := minds.refused ['A'] "export B".toList "export B".toList assigns (by decide) ['B']
  exact absurd same (by decide)

end SkillHost.Dotenv
