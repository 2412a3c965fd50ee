import SkillHost.Json.Parser
import SkillHost.Proofs.Json.Strings

/-! Values of JSON read back from their text: first the tokens from the text, then the value from
the tokens. Numbers are left out. -/
namespace SkillHost.Json

mutual

/-- No part of the value is a number or undefined. -/
def Textual : Json → Prop
  | null | bool _ | string _ => True
  | number _ | undefined => False
  | array items => ItemsTextual items
  | object members => MembersTextual members

def ItemsTextual : List Json → Prop
  | [] => True
  | item :: rest => item.Textual ∧ ItemsTextual rest

def MembersTextual : List (Text × Json) → Prop
  | [] => True
  | (_, value) :: rest => value.Textual ∧ MembersTextual rest

end

mutual

def written : Json → List Token
  | null | undefined => [.null]
  | bool b => [.bool b]
  | number n => [.number (some n)]
  | string t => [.string (some t)]
  | array items => .openArray :: (itemsWritten items ++ [.closeArray])
  | object members => .openObject :: (membersWritten members ++ [.closeObject])

def itemsWritten : List Json → List Token
  | [] => []
  | [item] => item.written
  | item :: next :: rest => item.written ++ .comma :: itemsWritten (next :: rest)

def membersWritten : List (Text × Json) → List Token
  | [] => []
  | [(name, value)] => .string (some name) :: .colon :: value.written
  | (name, value) :: next :: rest =>
    .string (some name) :: .colon :: (value.written ++ .comma :: membersWritten (next :: rest))

end

/-- What may stand after a word: no letter that could belong to it. -/
def Parted (rest : Text) : Prop := ∀ c ∈ rest.head?, c.isLower = false

theorem parted_cons {c : Char} (h : c.isLower = false) (rest : Text) : Parted (c :: rest) := by
  rintro d ⟨⟩
  exact h

theorem tokensFrom_mark (mark : Char) (token : Token)
    (h : beginToken mark = some ([token], .between)) (rest : Text) :
    tokensFrom .between (mark :: rest) = (tokensFrom .between rest).map (token :: ·) := by
  simp [tokensFrom, h]

theorem tokensFrom_word (letters : Text) (token : Token)
    (word : wordToken? letters.reverse = some token) {rest : Text} (h : Parted rest) :
    tokensFrom (.word letters) rest = (tokensFrom .between rest).map (token :: ·) := by
  cases rest with
  | nil => simp [tokensFrom, word]
  | cons c rest =>
    have other := h c rfl
    simp [tokensFrom, word, other, Option.map_bind, Function.comp_def]

mutual

theorem tokensFrom_text : ∀ (j : Json), j.Textual → ∀ {rest}, Parted rest →
    tokensFrom .between (j.text ++ rest) = (tokensFrom .between rest).map (j.written ++ ·)
  | null, _, rest, parted => by
    have word := tokensFrom_word ['l', 'l', 'u', 'n'] .null rfl parted
    simpa [text, written, tokensFrom, beginToken, isSpace] using word
  | bool true, _, rest, parted => by
    have word := tokensFrom_word ['e', 'u', 'r', 't'] (.bool true) rfl parted
    simpa [text, written, tokensFrom, beginToken, isSpace] using word
  | bool false, _, rest, parted => by
    have word := tokensFrom_word ['e', 's', 'l', 'a', 'f'] (.bool false) rfl parted
    simpa [text, written, tokensFrom, beginToken, isSpace] using word
  | string t, _, rest, _ => by
    rw [text, tokensFrom_stringText]
    rfl
  | array items, textual, rest, _ => by
    have inner := tokensFrom_itemsText items textual (parted_cons (c := ']') rfl rest)
    rw [tokensFrom_mark ']' .closeArray rfl] at inner
    rw [text, List.append_assoc, List.cons_append, List.singleton_append,
      tokensFrom_mark '[' .openArray rfl, inner]
    simp [written, Function.comp_def]
  | object members, textual, rest, _ => by
    have inner := tokensFrom_membersText members textual (parted_cons (c := '}') rfl rest)
    rw [tokensFrom_mark '}' .closeObject rfl] at inner
    rw [text, List.append_assoc, List.cons_append, List.singleton_append,
      tokensFrom_mark '{' .openObject rfl, inner]
    simp [written, Function.comp_def]

theorem tokensFrom_itemsText : ∀ (items : List Json), ItemsTextual items → ∀ {rest}, Parted rest →
    tokensFrom .between (itemsText items ++ rest) =
      (tokensFrom .between rest).map (itemsWritten items ++ ·)
  | [], _, rest, _ => by simp [itemsText, itemsWritten]
  | [item], textual, rest, parted => tokensFrom_text item textual.1 parted
  | item :: next :: more, textual, rest, parted => by
    rw [itemsText, List.append_assoc, List.cons_append,
      tokensFrom_text item textual.1 (parted_cons rfl _), tokensFrom_mark ',' .comma rfl,
      tokensFrom_itemsText (next :: more) textual.2 parted]
    simp [itemsWritten, Function.comp_def]

theorem tokensFrom_membersText : ∀ (members : List (Text × Json)), MembersTextual members →
    ∀ {rest}, Parted rest → tokensFrom .between (membersText members ++ rest) =
      (tokensFrom .between rest).map (membersWritten members ++ ·)
  | [], _, rest, _ => by simp [membersText, membersWritten]
  | [(name, value)], textual, rest, parted => by
    rw [membersText, List.append_assoc, List.cons_append, tokensFrom_stringText,
      tokensFrom_mark ':' .colon rfl, tokensFrom_text value textual.1 parted]
    simp [membersWritten, Function.comp_def]
  | (name, value) :: next :: more, textual, rest, parted => by
    rw [membersText, List.append_assoc, List.cons_append, List.append_assoc, List.cons_append,
      tokensFrom_stringText, tokensFrom_mark ':' .colon rfl,
      tokensFrom_text value textual.1 (parted_cons rfl _), tokensFrom_mark ',' .comma rfl,
      tokensFrom_membersText (next :: more) textual.2 parted]
    simp [membersWritten, Function.comp_def]

end

theorem tokens?_text {j : Json} (h : j.Textual) : tokens? j.text = some j.written := by
  have nothing : Parted [] := by simp [Parted]
  have read := tokensFrom_text j h nothing
  rw [List.append_nil] at read
  rw [tokens?, read]
  simp [tokensFrom]

theorem parseFrom_item (item : Json) (more before : List Json) (stack : List Frame)
    (rest : List Token) :
    parseFrom (.item before stack) (itemsWritten (item :: more) ++ rest) =
      parseFrom (.value (.array before :: stack)) (itemsWritten (item :: more) ++ rest) := by
  cases more <;> cases item <;> rfl

theorem parseFrom_member (m : Text × Json) (more : List (Text × Json))
    (before : List (Option Text × Json)) (stack : List Frame) (rest : List Token) :
    parseFrom (.member before stack) (membersWritten (m :: more) ++ rest) =
      parseFrom (.name before stack) (membersWritten (m :: more) ++ rest) := by
  cases more <;> rfl

def kept (members : List (Text × Json)) : List (Option Text × Json) :=
  (members.map fun m => (some m.1, m.2)).reverse

theorem kept_concat (members : List (Text × Json)) (name : Text) (value : Json) :
    kept (members ++ [(name, value)]) = (some name, value) :: kept members := by
  simp [kept]

theorem ofMembers_kept (members : List (Text × Json)) :
    ofMembers (kept members).reverse = .object members := by
  have named : (members.map fun m => ((some m.1 : Option Text), m.2)).mapM
      (fun m => m.1.map fun name => (name, m.2)) = some members := by
    induction members with
    | nil => rfl
    | cons m members ih => simp [ih]
  rw [kept, List.reverse_reverse, ofMembers, named]

theorem parseFrom_name {name : Text} {value : Json} {tokens rest : List Token} {stack : List Frame}
    (members : List (Option Text × Json))
    (read : ∀ stack,
      parseFrom (.value stack) (tokens ++ rest) = parseFrom (.after value stack) rest) :
    parseFrom (.name members stack) (.string (some name) :: .colon :: (tokens ++ rest)) =
      parseFrom (.separator (.object ((some name, value) :: members) none) stack) rest := by
  have after := read (.object members (some name) :: stack)
  simpa [parseFrom, ParseState.step?, ParseState.after] using after

mutual

theorem parseFrom_written : ∀ (j : Json), j.Textual → ∀ stack rest,
    parseFrom (.value stack) (j.written ++ rest) = parseFrom (.after j stack) rest
  | null, _, stack, rest => rfl
  | bool b, _, stack, rest => rfl
  | string t, _, stack, rest => rfl
  | array [], _, stack, rest => rfl
  | array (item :: more), textual, stack, rest => by
    have inner := parseFrom_itemsWritten (item :: more) textual (List.cons_ne_nil _ _) [] stack rest
    rw [← parseFrom_item] at inner
    rw [written, List.cons_append, List.append_assoc]
    exact inner
  | object [], _, stack, rest => rfl
  | object (m :: more), textual, stack, rest => by
    have inner := parseFrom_membersWritten (m :: more) textual (List.cons_ne_nil _ _) [] stack rest
    rw [← parseFrom_member] at inner
    rw [written, List.cons_append, List.append_assoc]
    exact inner

theorem parseFrom_itemsWritten : ∀ (items : List Json), ItemsTextual items → items ≠ [] →
    ∀ before stack rest, parseFrom (.value (.array before :: stack))
      (itemsWritten items ++ .closeArray :: rest) =
        parseFrom (.after (.array (before.reverse ++ items)) stack) rest
  | [], _, nonempty, _, _, _ => absurd rfl nonempty
  | [item], textual, _, before, stack, rest => by
    rw [itemsWritten, parseFrom_written item textual.1]
    simp [ParseState.after, parseFrom, ParseState.step?]
  | item :: next :: more, textual, _, before, stack, rest => by
    have tail := parseFrom_itemsWritten (next :: more) textual.2 (List.cons_ne_nil _ _)
      (item :: before) stack rest
    rw [itemsWritten, List.append_assoc, parseFrom_written item textual.1]
    simpa [ParseState.after, parseFrom, ParseState.step?] using tail

theorem parseFrom_membersWritten : ∀ (members : List (Text × Json)), MembersTextual members →
    members ≠ [] → ∀ before stack rest, parseFrom (.name (kept before) stack)
      (membersWritten members ++ .closeObject :: rest) =
        parseFrom (.after (.object (before ++ members)) stack) rest
  | [], _, nonempty, _, _, _ => absurd rfl nonempty
  | [(name, value)], textual, _, before, stack, rest => by
    rw [membersWritten, List.cons_append, List.cons_append,
      parseFrom_name _ fun stack => parseFrom_written value textual.1 stack _, ← kept_concat]
    simp only [parseFrom, ParseState.step?, ofMembers_kept]
  | (name, value) :: next :: more, textual, _, before, stack, rest => by
    have tail := parseFrom_membersWritten (next :: more) textual.2 (List.cons_ne_nil _ _)
      (before ++ [(name, value)]) stack rest
    rw [membersWritten, List.cons_append, List.cons_append, List.append_assoc,
      parseFrom_name _ fun stack => parseFrom_written value textual.1 stack _, ← kept_concat]
    rw [List.append_assoc] at tail
    exact tail

end

theorem parse?_text {j : Json} (h : j.Textual) : parse? j.text = some j := by
  have value := parseFrom_written j h [] []
  rw [List.append_nil] at value
  rw [parse?, tokens?_text h, Option.bind_some, value]
  rfl

end SkillHost.Json
