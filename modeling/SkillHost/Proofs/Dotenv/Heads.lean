import SkillHost.Proofs.Dotenv.Keys

/-! The heads of statements: whether a statement gives something to a key or consists of the key
alone, and how it is read then. -/
namespace SkillHost.Dotenv

namespace Statement

/-- The statement gives something to a key: `K=...` or `export K=...`. -/
def Assigns (s : Statement) (k value : Text) : Prop :=
  isKey k = true ∧ ∃ lead rest, IsLead lead ∧ Text.trim s.text = lead ++ k ++ rest ∧
    Text.trimStart rest = '=' :: value

/-- The statement consists of a key alone: `K` or `export K`. -/
def IsBare (s : Statement) (k : Text) : Prop :=
  isKey k = true ∧ ∃ lead, IsLead lead ∧ Text.trim s.text = lead ++ k

def Names (s : Statement) (k : Text) : Prop := s.IsBare k ∨ ∃ value, s.Assigns k value

end Statement

theorem Statement.assigns_iff {s : Statement} {k value : Text} :
    s.Assigns k value ↔ readHead? (Text.trim s.text) = some (k, value) :=
  readHead?_eq_some_iff.symm

theorem Statement.isBare_iff {s : Statement} {k : Text} : s.IsBare k ↔ bareKey? s.text = some k :=
  bareKey?_eq_some_iff.symm

theorem Statement.Assigns.equals_mem {s : Statement} {k value : Text} (h : s.Assigns k value) :
    '=' ∈ Text.trim s.text := by
  obtain ⟨-, lead, rest, -, parts, equals⟩ := h
  rw [parts]
  apply List.mem_append_right
  apply List.dropWhile_subset Text.isBlank
  rw [show rest.dropWhile Text.isBlank = '=' :: value from equals]
  exact List.mem_cons_self

theorem Statement.not_isBare_of_assigns {s : Statement} {k value : Text} (h : s.Assigns k value)
    (k' : Text) : ¬s.IsBare k' := by
  rintro ⟨hk', lead', hlead', bare⟩
  have mem := h.equals_mem
  rw [bare] at mem
  rcases List.mem_append.mp mem with mem | mem
  · exact absurd (isKeyChar_of_mem_lead hlead' mem) (by decide)
  · exact absurd (isKeyChar_of_mem hk' mem) (by decide)

theorem Statement.Assigns.trim_trimStart {s : Statement} {k value : Text}
    (h : s.Assigns k value) : Text.trim (Text.trimStart value) = Text.trimStart value := by
  obtain ⟨-, lead, rest, -, parts, equals⟩ := h
  obtain ⟨b, -, hrest⟩ := Text.exists_append_trimStart rest
  rw [hrest, equals, ← List.append_assoc, List.append_cons] at parts
  exact Text.trim_trimStart_of_trim_eq parts

theorem isVoid_lead_append {lead k : Text} (hlead : IsLead lead) (hk : isKey k = true)
    (rest : Text) : isVoid (lead ++ k ++ rest) = false := by
  rcases hlead with rfl | ⟨blanks, -, -, rfl⟩
  · obtain ⟨a, more, rfl, ha, -⟩ := isKey_iff.mp hk
    have hash : a ≠ '#' := by rintro rfl; cases ha
    simp [isVoid, hash]
  · simp [isVoid, exportWord]

theorem Statement.Assigns.not_isVoid {s : Statement} {k value : Text} (h : s.Assigns k value) :
    isVoid (Text.trim s.text) = false := by
  obtain ⟨hk, lead, rest, hlead, parts, -⟩ := h
  rw [parts, isVoid_lead_append hlead hk]

theorem Statement.read_of_assigns {t : Text} {k value : Text} (h : (whole t).Assigns k value)
    (expand : Text → Text) :
    (whole t).read expand = .ofValue expand k (Text.trimStart value) := by
  have void := h.not_isVoid
  have head := Statement.assigns_iff.mp h
  rw [Statement.text] at void head
  simp [Statement.read, Reading.ofText, void, head]

theorem Statement.read_of_isBare {t k : Text} (h : (whole t).IsBare k) (expand : Text → Text) :
    (whole t).read expand = .rejected t := by
  have head : readHead? (Text.trim t) = none := by
    rw [Option.eq_none_iff_forall_ne_some]
    rintro ⟨key, value⟩ hkey
    have assigns : (whole t).Assigns key value := Statement.assigns_iff.mpr hkey
    exact Statement.not_isBare_of_assigns assigns k h
  have void : isVoid (Text.trim t) = false := by
    obtain ⟨hk, lead, hlead, bare⟩ := h
    rw [show Text.trim t = lead ++ k from bare]
    simpa using isVoid_lead_append hlead hk []
  simp [Statement.read, Reading.ofText, void, head]

end SkillHost.Dotenv
