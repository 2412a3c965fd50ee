import SkillHost.Proofs.Dotenv.Cursor
import SkillHost.Proofs.Dotenv.References

/-! What is known of a statement while it is read: its key, and its value so far. A character read
on either completes the head or goes to the value. -/
namespace SkillHost.Dotenv

theorem readHead?_append {x k v : Text} (h : readHead? x = some (k, v)) (y : Text) :
    readHead? (x ++ y) = some (k, v ++ y) := by
  obtain ⟨hk, lead, rest, hlead, rfl, equals⟩ := readHead?_eq_some_iff.mp h
  refine readHead?_eq_some_iff.mpr ⟨hk, lead, rest ++ y, hlead, by simp, ?_⟩
  rw [Text.trimStart_append_of_ne_nil (by simp [equals]), equals]
  rfl

theorem readHead?_concat {x k v : Text} {c : Char} (h : readHead? (x ++ [c]) = some (k, v)) :
    c = '=' ∧ v = [] ∨ ∃ v', v = v' ++ [c] ∧ readHead? x = some (k, v') := by
  obtain ⟨hk, lead, rest, hlead, parts, equals⟩ := readHead?_eq_some_iff.mp h
  obtain ⟨b, hb, hrest⟩ := Text.exists_append_trimStart rest
  rw [equals] at hrest
  cases v using List.reverseRecOn with
  | nil =>
    rw [hrest, ← List.append_assoc] at parts
    exact .inl ⟨List.singleton_inj.mp (List.append_inj' parts rfl).2, rfl⟩
  | append_singleton v' a =>
    rw [hrest, ← List.cons_append, ← List.append_assoc, ← List.append_assoc] at parts
    obtain ⟨rfl, last⟩ := List.append_inj' parts rfl
    obtain rfl := List.singleton_inj.mp last
    refine .inr ⟨v', rfl, readHead?_eq_some_iff.mpr ⟨hk, lead, b ++ '=' :: v', hlead, by simp, ?_⟩⟩
    rw [Text.trimStart_append hb]
    rfl

/-- The key and the value of a statement as far as it is read. A value that starts with `#` is
none. -/
def held? (x : Text) : Option (Text × Text) :=
  (readHead? (Text.trimStart x)).bind fun (key, rest) =>
    if (Text.trimStart rest).head? = some '#' then none else some (key, Text.trimStart rest)

theorem held?_eq_some_iff {x k v : Text} :
    held? x = some (k, v) ↔ v.head? ≠ some '#' ∧
      ∃ rest, readHead? (Text.trimStart x) = some (k, rest) ∧ Text.trimStart rest = v := by
  rw [held?, Option.bind_eq_some_iff]
  constructor
  · rintro ⟨⟨key, rest⟩, head, h⟩
    simp only [Option.ite_none_left_eq_some, Option.some.injEq, Prod.mk.injEq] at h
    obtain ⟨hash, rfl, rfl⟩ := h
    exact ⟨hash, rest, head, rfl⟩
  · rintro ⟨hash, rest, head, rfl⟩
    exact ⟨(k, rest), head, if_neg hash⟩

theorem suffix_of_held? {x k v : Text} (h : held? x = some (k, v)) : v <:+ x := by
  obtain ⟨-, rest, head, rfl⟩ := held?_eq_some_iff.mp h
  obtain ⟨-, lead, tail, -, parts, equals⟩ := readHead?_eq_some_iff.mp head
  have inRest : Text.trimStart rest <:+ rest := List.dropWhile_suffix _
  have inTail : '=' :: rest <:+ tail := equals ▸ List.dropWhile_suffix _
  have inText : tail <:+ Text.trimStart x := parts ▸ List.suffix_append _ _
  have inWhole : Text.trimStart x <:+ x := List.dropWhile_suffix _
  exact inRest.trans ((List.suffix_cons '=' rest).trans (inTail.trans (inText.trans inWhole)))

theorem held?_concat {x k v : Text} {c : Char} (h : held? (x ++ [c]) = some (k, v)) :
    c = '=' ∧ v = [] ∨ Text.isBlank c = true ∧ v = [] ∧ held? x = some (k, []) ∨
      ∃ v', v = v' ++ [c] ∧ held? x = some (k, v') := by
  obtain ⟨hash, rest, head, hv⟩ := held?_eq_some_iff.mp h
  rcases Text.trimStart_concat x c with parts | ⟨-, -, empty⟩
  · rw [parts] at head
    rcases readHead?_concat head with ⟨rfl, rfl⟩ | ⟨rest', rfl, head'⟩
    · exact .inl ⟨rfl, hv.symm⟩
    · rcases Text.trimStart_concat rest' c with joined | ⟨blank, before, after⟩
      · rw [joined] at hv
        refine .inr (.inr ⟨Text.trimStart rest', hv.symm,
          held?_eq_some_iff.mpr ⟨?_, rest', head', rfl⟩⟩)
        rw [← hv] at hash
        intro first
        exact hash (by rw [List.head?_append, first]; rfl)
      · exact .inr (.inl ⟨blank, by rw [← hv, after],
          held?_eq_some_iff.mpr ⟨by simp, rest', head', before⟩⟩)
  · rw [empty] at head
    cases head

theorem held?_append {x k v : Text} (h : held? x = some (k, v)) {c : Char}
    (blank : Text.isBlank c = false) (hash : c ≠ '#') (y : Text) :
    held? (x ++ c :: y) = some (k, v ++ c :: y) := by
  obtain ⟨hv, rest, head, rfl⟩ := held?_eq_some_iff.mp h
  have ne : Text.trimStart x ≠ [] := by
    intro empty
    rw [empty] at head
    cases head
  have start : Text.trimStart (rest ++ c :: y) = Text.trimStart rest ++ c :: y := by
    obtain ⟨b, hb, hrest⟩ := Text.exists_append_trimStart rest
    conv => lhs; rw [hrest, List.append_assoc, Text.trimStart_append hb]
    apply Text.trimStart_of_head
    intro a ha
    cases hstart : Text.trimStart rest with
    | nil =>
      rw [hstart] at ha
      obtain rfl := Option.some.inj ha
      exact blank
    | cons d more =>
      rw [hstart] at ha
      exact Text.head_trimStart rest a (by rw [hstart]; exact ha)
  refine held?_eq_some_iff.mpr ⟨?_, rest ++ c :: y, ?_, start⟩
  · cases hstart : Text.trimStart rest with
    | nil => simpa using hash
    | cons d more => simpa [hstart] using hv
  · rw [Text.trimStart_append_of_ne_nil ne]
    exact readHead?_append head _

theorem Statement.held?_of_value? {t value : Text} (h : (whole t).value? = some value) :
    ∃ k b, (∀ c ∈ b, Text.isBlank c = true) ∧ held? t = some (k, value ++ b) := by
  obtain ⟨⟨k, rest⟩, head, hvalue⟩ := Option.bind_eq_some_iff.mp h
  simp only [Option.ite_none_left_eq_some, Option.some.injEq] at hvalue
  obtain ⟨void, rfl⟩ := hvalue
  obtain ⟨b, hb, ht⟩ := Text.exists_trimEnd_append (Text.trimStart t)
  have ne : Text.trimStart rest ≠ [] := by
    intro empty
    simp [empty, isVoid] at void
  refine ⟨k, b, hb, held?_eq_some_iff.mpr ⟨?_, rest ++ b, ?_, ?_⟩⟩
  · obtain ⟨c, more, hc⟩ := List.exists_cons_of_ne_nil ne
    simpa [hc, isVoid] using void
  · rw [ht]
    exact readHead?_append head b
  · exact Text.trimStart_append_of_ne_nil ne b

theorem Statement.read_of_held? {t k v : Text} (h : held? t = some (k, v))
    (last : ∀ c ∈ t.getLast?, Text.isBlank c = false) (expand : Text → Text) :
    (whole t).read expand = .ofValue expand k v := by
  obtain ⟨-, rest, head, rfl⟩ := held?_eq_some_iff.mp h
  have trimmed : Text.trim t = Text.trimStart t := by
    apply Text.trimEnd_of_getLast
    intro c hc
    obtain ⟨b, -, ht⟩ := Text.exists_append_trimStart t
    have ne : Text.trimStart t ≠ [] := by
      intro empty
      simp [empty] at hc
    apply last
    rw [ht, List.getLast?_append_of_ne_nil _ ne]
    exact hc
  exact read_of_assigns (assigns_iff.mpr (by rw [text, trimmed, head])) expand

theorem trim_closeLine (start : Text) : Text.trim (closeLine start) = Text.trim start.reverse := by
  unfold closeLine
  split
  · rw [List.reverse_cons, Text.trim_append]
    simp only [List.mem_singleton, forall_eq]
    decide
  · rfl

theorem Statement.value?_closeLine (start : Text) :
    (whole (closeLine start)).value? = (whole start.reverse).value? := by
  simp only [value?, trim_closeLine]

end SkillHost.Dotenv
