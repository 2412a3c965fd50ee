import Mathlib.Data.List.Basic
import SkillHost.Dotenv.Assignment
import SkillHost.Proofs.Text.Parts

/-! The two recognisers of keys, described by what they accept: the head of an assignment, up to
its equals sign, and a text that names a key alone. -/
namespace SkillHost.Dotenv

theorem isKeyChar_bounds {c : Char} (h : isKeyChar c = true) : 46 ≤ c.toNat ∧ c.toNat ≤ 122 := by
  have classes : isKeyChar c = (decide ('A'.val ≤ c.val ∧ c.val ≤ 'Z'.val) ||
      (decide ('a'.val ≤ c.val) && decide (c.val ≤ 'z'.val)) ||
      (decide ('0'.val ≤ c.val) && decide (c.val ≤ '9'.val)) || decide (c = '_') ||
      decide (c = '.')) := rfl
  simp only [classes, Bool.or_eq_true, Bool.and_eq_true, decide_eq_true_eq,
    UInt32.le_iff_toNat_le] at h
  rcases h with (((⟨a, b⟩ | ⟨a, b⟩) | ⟨a, b⟩) | rfl) | rfl
  · exact ⟨Nat.le_trans (by decide) a, Nat.le_trans b (by decide)⟩
  · exact ⟨Nat.le_trans (by decide) a, Nat.le_trans b (by decide)⟩
  · exact ⟨Nat.le_trans (by decide) a, Nat.le_trans b (by decide)⟩
  · decide
  · decide

theorem isBlank_of_isKeyChar {c : Char} (h : isKeyChar c = true) : Text.isBlank c = false := by
  have bounds := isKeyChar_bounds h
  exact Text.isBlank_of_bounds (by omega) (by omega)

theorem isKeyChar_of_isKeyStart {c : Char} (h : isKeyStart c = true) : isKeyChar c = true := by
  simp only [isKeyStart, isKeyChar, Char.isAlphanum, Bool.or_eq_true] at h ⊢
  rcases h with h | h
  · exact .inl (.inl (.inl h))
  · exact .inl (.inr h)

theorem isKey_iff {k : Text} :
    isKey k = true ↔
      ∃ c rest, k = c :: rest ∧ isKeyStart c = true ∧ ∀ a ∈ rest, isKeyChar a = true := by
  cases k with
  | nil => simp [isKey]
  | cons c rest =>
    simp only [isKey, Bool.and_eq_true, List.all_eq_true]
    constructor
    · intro h
      exact ⟨c, rest, rfl, h⟩
    · rintro ⟨a, more, h, ha⟩
      obtain ⟨rfl, rfl⟩ := List.cons.inj h
      exact ha

theorem isKeyChar_of_mem {k : Text} (h : isKey k = true) {c : Char} (hc : c ∈ k) :
    isKeyChar c = true := by
  obtain ⟨a, rest, rfl, ha, hrest⟩ := isKey_iff.mp h
  rcases List.mem_cons.mp hc with rfl | hc
  · exact isKeyChar_of_isKeyStart ha
  · exact hrest c hc

theorem isKey_exportWord : isKey exportWord = true := by decide

theorem readKey?_eq_some_iff {t k rest : Text} :
    readKey? t = some (k, rest) ↔
      isKey k = true ∧ t = k ++ rest ∧ ∀ c ∈ rest.head?, isKeyChar c = false := by
  cases t with
  | nil =>
    simp only [readKey?, reduceCtorEq, false_iff]
    rintro ⟨hk, ht, -⟩
    obtain ⟨rfl, rfl⟩ := List.append_eq_nil_iff.mp ht.symm
    cases hk
  | cons c t =>
    simp only [readKey?]
    constructor
    · intro h
      split at h
      · rename_i hc
        obtain ⟨rfl, rfl⟩ := Prod.mk.inj (Option.some.inj h)
        refine ⟨?_, by simp, ?_⟩
        · rw [isKey_iff]
          exact ⟨c, _, rfl, hc, fun a ha => List.all_eq_true.mp List.all_takeWhile a ha⟩
        · intro a ha
          have := List.head?_dropWhile_not isKeyChar t
          simp_all
      · cases h
    · rintro ⟨hk, ht, hrest⟩
      obtain ⟨a, more, rfl, ha, hmore⟩ := isKey_iff.mp hk
      rw [List.cons_append] at ht
      obtain ⟨rfl, rfl⟩ := List.cons.inj ht
      rw [if_pos ha, List.takeWhile_append_of_pos hmore, List.dropWhile_append_of_pos hmore]
      cases rest with
      | nil => simp
      | cons b rest => simp [hrest b rfl]

theorem isBlank_of_isKey_head {k : Text} (h : isKey k = true) (rest : Text) :
    ∀ c ∈ (k ++ rest).head?, Text.isBlank c = false := by
  obtain ⟨a, more, rfl, ha, -⟩ := isKey_iff.mp h
  rintro c ⟨⟩
  exact isBlank_of_isKeyChar (isKeyChar_of_isKeyStart ha)

theorem isBlank_of_isKey_last {k : Text} (h : isKey k = true) (lead : Text) :
    ∀ c ∈ (lead ++ k).getLast?, Text.isBlank c = false := by
  intro c hc
  obtain ⟨a, more, rfl, -, -⟩ := isKey_iff.mp h
  rw [List.getLast?_append_of_ne_nil _ (by simp)] at hc
  exact isBlank_of_isKeyChar (isKeyChar_of_mem h (List.mem_of_getLast? hc))

theorem trimStart_key_append {k : Text} (h : isKey k = true) (rest : Text) :
    Text.trimStart (k ++ rest) = k ++ rest :=
  Text.trimStart_of_head (isBlank_of_isKey_head h rest)

theorem afterEquals?_eq_some_iff {t v : Text} :
    afterEquals? t = some v ↔ Text.trimStart t = '=' :: v := by
  rw [afterEquals?]
  split
  · rename_i rest h
    simp [h]
  · rename_i h
    simp only [reduceCtorEq, false_iff]
    exact h v

/-- What may stand before a key: nothing, or `export` and blanks. -/
def IsLead (lead : Text) : Prop :=
  lead = [] ∨ ∃ blanks, blanks ≠ [] ∧ (∀ c ∈ blanks, Text.isBlank c = true) ∧
    lead = exportWord ++ blanks

theorem head_not_isKeyChar_of_afterEquals {rest v : Text} (h : Text.trimStart rest = '=' :: v) :
    ∀ c ∈ rest.head?, isKeyChar c = false := by
  intro c hc
  rw [Bool.eq_false_iff]
  intro key
  have : Text.trimStart rest = rest := by
    apply Text.trimStart_of_head
    intro a ha
    rw [Option.mem_unique ha hc]
    exact isBlank_of_isKeyChar key
  rw [← this, h, List.head?_cons, Option.mem_some_iff] at hc
  rw [← hc] at key
  exact absurd key (by decide)

theorem not_isKeyChar_of_isBlank {c : Char} (h : Text.isBlank c = true) : isKeyChar c = false := by
  rw [Bool.eq_false_iff]
  intro key
  rw [isBlank_of_isKeyChar key] at h
  cases h

theorem readKey?_exportWord {blanks rest : Text} (hne : blanks ≠ [])
    (h : ∀ c ∈ blanks, Text.isBlank c = true) :
    readKey? (exportWord ++ (blanks ++ rest)) = some (exportWord, blanks ++ rest) := by
  rw [readKey?_eq_some_iff]
  refine ⟨isKey_exportWord, rfl, ?_⟩
  obtain ⟨b, more, rfl⟩ := List.exists_cons_of_ne_nil hne
  rintro c ⟨⟩
  exact not_isKeyChar_of_isBlank (h b List.mem_cons_self)

theorem afterEquals?_key {blanks k : Text} (h : ∀ c ∈ blanks, Text.isBlank c = true)
    (hk : isKey k = true) (rest : Text) : afterEquals? (blanks ++ (k ++ rest)) = none := by
  obtain ⟨a, more, rfl, ha, -⟩ := isKey_iff.mp hk
  rw [Option.eq_none_iff_forall_ne_some]
  intro v hv
  rw [afterEquals?_eq_some_iff, Text.trimStart_append h, trimStart_key_append hk] at hv
  obtain ⟨rfl, -⟩ := List.cons.inj hv
  exact absurd ha (by decide)

theorem readHead?_eq_some_iff {t k v : Text} :
    readHead? t = some (k, v) ↔ isKey k = true ∧ ∃ lead rest, IsLead lead ∧
      t = lead ++ k ++ rest ∧ Text.trimStart rest = '=' :: v := by
  constructor
  · intro h
    rw [readHead?, Option.bind_eq_some_iff] at h
    obtain ⟨⟨key, rest⟩, hkey, h⟩ := h
    obtain ⟨isKey_key, rfl, boundary⟩ := readKey?_eq_some_iff.mp hkey
    simp only at h
    split at h
    · rename_i value hv
      obtain ⟨rfl, rfl⟩ := Prod.mk.inj (Option.some.inj h)
      exact ⟨isKey_key, [], rest, .inl rfl, rfl, afterEquals?_eq_some_iff.mp hv⟩
    · split at h
      · rename_i hexport
        obtain ⟨⟨key', rest'⟩, hkey', h⟩ := Option.bind_eq_some_iff.mp h
        obtain ⟨value, hv, h⟩ := Option.map_eq_some_iff.mp h
        obtain ⟨rfl, rfl⟩ := Prod.mk.inj h
        obtain ⟨isKey_key', hrest, -⟩ := readKey?_eq_some_iff.mp hkey'
        obtain ⟨blanks, hblanks, parts⟩ := Text.exists_append_trimStart rest
        refine ⟨isKey_key', key ++ blanks, rest', .inr ⟨blanks, ?_, hblanks, ?_⟩, ?_,
          afterEquals?_eq_some_iff.mp hv⟩
        · rintro rfl
          obtain ⟨a, more, rfl, ha, -⟩ := isKey_iff.mp isKey_key'
          rw [parts, hrest] at boundary
          simp [isKeyChar_of_isKeyStart ha] at boundary
        · rw [hexport]
        · rw [List.append_assoc, List.append_assoc, ← hrest, ← parts]
      · cases h
  · rintro ⟨hk, lead, rest, hlead, rfl, hv⟩
    have boundary := head_not_isKeyChar_of_afterEquals hv
    rcases hlead with rfl | ⟨blanks, hne, hblanks, rfl⟩
    · simp [readHead?, readKey?_eq_some_iff.mpr ⟨hk, rfl, boundary⟩,
        afterEquals?_eq_some_iff.mpr hv]
    · simp [readHead?, readKey?_exportWord hne hblanks, afterEquals?_key hblanks hk,
        Text.trimStart_append hblanks, trimStart_key_append hk,
        readKey?_eq_some_iff.mpr ⟨hk, rfl, boundary⟩, afterEquals?_eq_some_iff.mpr hv]

theorem withoutExport_lead {lead k : Text} (hlead : IsLead lead) (hk : isKey k = true) :
    withoutExport (lead ++ k) = k := by
  rw [withoutExport]
  rcases hlead with rfl | ⟨blanks, hne, hblanks, rfl⟩
  · rw [List.nil_append]
    split
    · rename_i c rest h
      rw [Text.afterStart?_eq_some_iff] at h
      rw [if_neg]
      rw [isBlank_of_isKeyChar (isKeyChar_of_mem hk (h ▸ by simp))]
      exact Bool.false_ne_true
    · rfl
  · obtain ⟨b, more, rfl⟩ := List.exists_cons_of_ne_nil hne
    have h : Text.afterStart? exportWord (exportWord ++ (b :: more) ++ k) =
        some (b :: (more ++ k)) := Text.afterStart?_eq_some_iff.mpr (by simp)
    rw [h]
    simp only [hblanks b List.mem_cons_self, ↓reduceIte]
    rw [← List.cons_append, Text.trimStart_append hblanks, ← List.append_nil k,
      trimStart_key_append hk]

theorem exists_lead_withoutExport (t : Text) :
    ∃ lead, IsLead lead ∧ t = lead ++ withoutExport t := by
  rw [withoutExport]
  split
  · rename_i c rest h
    rw [Text.afterStart?_eq_some_iff] at h
    split
    · rename_i hc
      obtain ⟨blanks, hblanks, parts⟩ := Text.exists_append_trimStart (c :: rest)
      refine ⟨exportWord ++ blanks, .inr ⟨blanks, ?_, hblanks, rfl⟩, ?_⟩
      · rintro rfl
        have := Text.head_trimStart (c :: rest)
        rw [List.nil_append] at parts
        rw [← parts] at this
        simp [hc] at this
      · rw [List.append_assoc, ← parts, h]
    · exact ⟨[], .inl rfl, rfl⟩
  · exact ⟨[], .inl rfl, rfl⟩

theorem bareKey?_eq_some_iff {t k : Text} :
    bareKey? t = some k ↔ isKey k = true ∧ ∃ lead, IsLead lead ∧ Text.trim t = lead ++ k := by
  rw [bareKey?]
  constructor
  · intro h
    split at h
    · rename_i hk
      obtain rfl := Option.some.inj h
      exact ⟨hk, exists_lead_withoutExport (Text.trim t)⟩
    · cases h
  · rintro ⟨hk, lead, hlead, ht⟩
    rw [ht, withoutExport_lead hlead hk]
    exact if_pos hk

theorem isKeyChar_of_mem_lead {lead : Text} (h : IsLead lead) {c : Char} (hc : c ∈ lead) :
    Text.isBlank c = true ∨ isKeyChar c = true := by
  rcases h with rfl | ⟨blanks, -, hblanks, rfl⟩
  · cases hc
  · rcases List.mem_append.mp hc with hc | hc
    · exact .inr (isKeyChar_of_mem isKey_exportWord hc)
    · exact .inl (hblanks c hc)

theorem isKeyChar_of_mem_of_bareKey? {t k : Text} (h : bareKey? t = some k) {c : Char}
    (hc : c ∈ t) : Text.isBlank c = true ∨ isKeyChar c = true := by
  obtain ⟨hk, lead, hlead, ht⟩ := bareKey?_eq_some_iff.mp h
  obtain ⟨a, ha, hstart⟩ := Text.exists_append_trimStart t
  obtain ⟨b, hb, hend⟩ := Text.exists_trimEnd_append (Text.trimStart t)
  rw [hstart, hend, show Text.trimEnd (Text.trimStart t) = lead ++ k from ht] at hc
  simp only [List.mem_append] at hc
  rcases hc with hc | (hc | hc) | hc
  · exact .inl (ha c hc)
  · exact isKeyChar_of_mem_lead hlead hc
  · exact .inr (isKeyChar_of_mem hk hc)
  · exact .inl (hb c hc)

theorem bareKey?_eq_none_of_mem {t : Text} {c : Char} (hc : c ∈ t)
    (blank : Text.isBlank c = false) (key : isKeyChar c = false) : bareKey? t = none := by
  rw [Option.eq_none_iff_forall_ne_some]
  intro k hk
  rcases isKeyChar_of_mem_of_bareKey? hk hc with h | h
  · rw [h] at blank
    cases blank
  · rw [h] at key
    cases key

end SkillHost.Dotenv
