import Mathlib.Tactic.SplitIfs
import SkillHost.Dotenv.Value

/-! The reader of values taken one character at a time. Where it goes does not depend on what the
names stand for: they only fill in what a reference adds. -/
namespace SkillHost.Dotenv

theorem isAlphanumeric_brace : Text.isAlphanumeric '{' = false := by decide

namespace ValueScan

def next? : ValueScan → Char → Option ValueScan
  | ending, c => if c = ' ' ∨ c = '\t' then some ending else none
  | escape quoted, c => (unescape? c).map fun _ => text quoted
  | single, c => some (if c = '\'' then text false else single)
  | reference quoted name, c => some
      (if Text.isAlphanumeric c then reference quoted (name ++ [c])
      else if c = '{' ∧ name = [] then braced quoted []
      else if c = '$' then reference quoted []
      else text quoted)
  | braced quoted name, c => some (if c = '}' then text quoted else braced quoted (name ++ [c]))
  | text true, c => some
      (if c = '$' then reference true []
      else if c = '"' then text false
      else if c = '\\' then escape true
      else text true)
  | text false, c => some
      (if c = '$' then reference false []
      else if c = '\'' then single
      else if c = '"' then text true
      else if c = '\\' then escape false
      else if c = ' ' ∨ c = '\t' then ending
      else text false)

theorem next?_text_cases {quoted : Bool} {c : Char} {s : ValueScan}
    (h : (text quoted).next? c = some s) :
    c = '$' ∧ s = reference quoted [] ∨ c = '\\' ∧ s = escape quoted ∨
      c ≠ '$' ∧ c ≠ '\\' ∧ (s = single ∨ s = ending ∨ ∃ q, s = text q) := by
  cases quoted with
  | true =>
    simp only [next?, Option.some.injEq] at h
    subst h
    split_ifs <;> simp_all
  | false =>
    simp only [next?, Option.some.injEq] at h
    subst h
    split_ifs <;> simp_all

/-- The name that a character puts an end to. -/
def closed? : ValueScan → Char → Option Text
  | reference _ name, c =>
    if Text.isAlphanumeric c ∨ (c = '{' ∧ name = []) then none else some name
  | braced _ name, c => if c = '}' then some name else none
  | _, _ => none

def literal : ValueScan → Char → Text
  | ending, _ => []
  | escape _, c => (unescape? c).toList
  | single, c => if c = '\'' then [] else [c]
  | reference _ name, c =>
    if Text.isAlphanumeric c ∨ (c = '{' ∧ name = []) ∨ c = '$' then [] else [c]
  | braced _ _, _ => []
  | text true, c => if c = '$' ∨ c = '"' ∨ c = '\\' then [] else [c]
  | text false, c =>
    if c = '$' ∨ c = '\'' ∨ c = '"' ∨ c = '\\' ∨ c = ' ' ∨ c = '\t' then [] else [c]

/-- What a character adds: what the name that it ends stands for, then itself. -/
def added (expand : Text → Text) (s : ValueScan) (c : Char) : Text :=
  ((s.closed? c).map expand).getD [] ++ s.literal c

def after? (s : ValueScan) (t : Text) : Option ValueScan := t.foldlM next? s

@[simp] theorem after?_nil (s : ValueScan) : s.after? [] = some s := rfl

theorem after?_cons (s : ValueScan) (c : Char) (rest : Text) :
    s.after? (c :: rest) = (s.next? c).bind fun s' => s'.after? rest := rfl

theorem after?_append (s : ValueScan) (x y : Text) :
    s.after? (x ++ y) = (s.after? x).bind fun s' => s'.after? y := List.foldlM_append

theorem after?_concat (s : ValueScan) (x : Text) (c : Char) :
    s.after? (x ++ [c]) = (s.after? x).bind fun s' => s'.next? c := by
  rw [after?_append]
  congr 1
  funext s'
  exact Option.bind_fun_some _

def addedBy (expand : Text → Text) (s : ValueScan) : Text → Text
  | [] => []
  | c :: rest => s.added expand c ++ ((s.next? c).map fun s' => s'.addedBy expand rest).getD []

/-- The name that the end of the value puts an end to. -/
def lastName? : ValueScan → Option Text
  | reference false name => some name
  | _ => none

def closedBy (s : ValueScan) : Text → List Text
  | [] => []
  | c :: rest => (s.closed? c).toList ++ ((s.next? c).map fun s' => s'.closedBy rest).getD []

def names (s : ValueScan) (t : Text) : List Text :=
  s.closedBy t ++ ((s.after? t).bind lastName?).toList

end ValueScan

theorem readValueFrom_cons (expand : Text → Text) {s s' : ValueScan} {c : Char}
    (h : s.next? c = some s') (rest : Text) :
    readValueFrom expand s (c :: rest) =
      (readValueFrom expand s' rest).map (s.added expand c ++ ·) := by
  cases s with
  | text quoted =>
    cases quoted <;> simp only [ValueScan.next?, Option.some.injEq] at h <;> subst h <;>
      simp only [readValueFrom, ValueScan.added, ValueScan.closed?, ValueScan.literal] <;>
      split_ifs <;> simp_all
  | escape quoted =>
    obtain ⟨d, hd, rfl⟩ := Option.map_eq_some_iff.mp h
    simp [readValueFrom, ValueScan.added, ValueScan.closed?, ValueScan.literal, hd]
  | single =>
    simp only [ValueScan.next?, Option.some.injEq] at h
    subst h
    simp only [readValueFrom, ValueScan.added, ValueScan.closed?, ValueScan.literal]
    split_ifs <;> simp
  | reference quoted name =>
    simp only [ValueScan.next?, Option.some.injEq] at h
    subst h
    simp only [readValueFrom, ValueScan.added, ValueScan.closed?, ValueScan.literal]
    split_ifs <;> simp_all
  | braced quoted name =>
    simp only [ValueScan.next?, Option.some.injEq] at h
    subst h
    simp only [readValueFrom, ValueScan.added, ValueScan.closed?, ValueScan.literal]
    split_ifs <;> simp
  | ending =>
    simp only [ValueScan.next?, Option.ite_none_right_eq_some, Option.some.injEq] at h
    obtain ⟨hc, rfl⟩ := h
    simp [readValueFrom, ValueScan.added, ValueScan.closed?, ValueScan.literal, hc]

theorem readValueFrom_of_next?_eq_none (expand expand' : Text → Text) {s : ValueScan} {c : Char}
    (h : s.next? c = none) (rest : Text) :
    readValueFrom expand s (c :: rest) = readValueFrom expand' s (c :: rest) := by
  cases s with
  | text quoted => cases quoted <;> cases h
  | escape quoted =>
    have hc : unescape? c = none := Option.map_eq_none_iff.mp h
    simp [readValueFrom, hc]
  | single => cases h
  | reference quoted name => cases h
  | braced quoted name => cases h
  | ending =>
    have hc : ¬(c = ' ' ∨ c = '\t') := by simpa [ValueScan.next?] using h
    simp [readValueFrom, hc]

theorem readValueFrom_append (expand : Text → Text) {s s' : ValueScan} {x : Text}
    (h : s.after? x = some s') (y : Text) :
    readValueFrom expand s (x ++ y) =
      (readValueFrom expand s' y).map (s.addedBy expand x ++ ·) := by
  induction x generalizing s with
  | nil =>
    obtain rfl := Option.some.inj h
    simp [ValueScan.addedBy]
  | cons c rest ih =>
    rw [ValueScan.after?_cons] at h
    obtain ⟨s₁, hc, hrest⟩ := Option.bind_eq_some_iff.mp h
    rw [List.cons_append, readValueFrom_cons expand hc, ih hrest, Option.map_map]
    simp [ValueScan.addedBy, hc, Function.comp_def]

namespace ValueScan

theorem addedBy_append (expand : Text → Text) {s s' : ValueScan} {x : Text}
    (h : s.after? x = some s') (y : Text) :
    s.addedBy expand (x ++ y) = s.addedBy expand x ++ s'.addedBy expand y := by
  induction x generalizing s with
  | nil =>
    obtain rfl := Option.some.inj h
    rfl
  | cons c rest ih =>
    rw [after?_cons] at h
    obtain ⟨s₁, hc, hrest⟩ := Option.bind_eq_some_iff.mp h
    simp [addedBy, hc, ih hrest]

theorem added_congr {expand expand' : Text → Text} {s : ValueScan} {c : Char}
    (h : ∀ name ∈ s.closed? c, expand name = expand' name) :
    s.added expand c = s.added expand' c := by
  rw [added, added]
  congr 2
  exact Option.map_congr h

theorem addedBy_congr {expand expand' : Text → Text} {s : ValueScan} {t : Text}
    (h : ∀ name ∈ s.closedBy t, expand name = expand' name) :
    s.addedBy expand t = s.addedBy expand' t := by
  induction t generalizing s with
  | nil => rfl
  | cons c rest ih =>
    have here : s.added expand c = s.added expand' c :=
      added_congr fun name hname => h name (by simp_all [closedBy])
    rw [addedBy, addedBy, here]
    cases hc : s.next? c with
    | none => rfl
    | some s' =>
      have later : s'.addedBy expand rest = s'.addedBy expand' rest := by
        apply ih
        intro name hname
        apply h
        simp [closedBy, hc, hname]
      rw [Option.map_some, Option.map_some, later]

end ValueScan

theorem readValueFrom_congr {expand expand' : Text → Text} {s : ValueScan} {t : Text}
    (h : ∀ name ∈ s.names t, expand name = expand' name) :
    readValueFrom expand s t = readValueFrom expand' s t := by
  induction t generalizing s with
  | nil =>
    cases s with
    | reference quoted name =>
      cases quoted with
      | false =>
        have same := h name (by simp [ValueScan.names, ValueScan.closedBy, ValueScan.lastName?])
        simp [readValueFrom, same]
      | true => rfl
    | text quoted => cases quoted <;> rfl
    | escape quoted => cases quoted <;> rfl
    | single => rfl
    | braced quoted name => rfl
    | ending => rfl
  | cons c rest ih =>
    cases hc : s.next? c with
    | none => exact readValueFrom_of_next?_eq_none _ _ hc rest
    | some s' =>
      have same : s.added expand c = s.added expand' c :=
        ValueScan.added_congr fun name hname =>
          h name (by simp_all [ValueScan.names, ValueScan.closedBy])
      have later : readValueFrom expand s' rest = readValueFrom expand' s' rest := by
        apply ih
        intro name hname
        apply h
        simp only [ValueScan.names, ValueScan.after?_cons, ValueScan.closedBy, hc] at hname ⊢
        simp only [Option.map_some, Option.getD_some, Option.bind_some, List.append_assoc]
        exact List.mem_append_right _ hname
      rw [readValueFrom_cons expand hc, readValueFrom_cons expand' hc, same, later]

def isPlain (c : Char) : Bool :=
  c ≠ '$' && c ≠ '\'' && c ≠ '"' && c ≠ '\\' && c ≠ ' ' && c ≠ '\t'

theorem ValueScan.next?_of_isPlain {c : Char} (h : isPlain c = true) :
    (text false).next? c = some (text false) := by
  simp only [isPlain, Bool.and_eq_true, decide_eq_true_eq] at h
  simp [next?, h]

theorem ValueScan.added_of_isPlain (expand : Text → Text) {c : Char} (h : isPlain c = true) :
    (text false).added expand c = [c] := by
  simp only [isPlain, Bool.and_eq_true, decide_eq_true_eq] at h
  simp [added, closed?, literal, h]

theorem readValueFrom_of_isPlain (expand : Text → Text) {x : Text}
    (h : ∀ c ∈ x, isPlain c = true) (y : Text) :
    readValueFrom expand (.text false) (x ++ y) =
      (readValueFrom expand (.text false) y).map (x ++ ·) := by
  induction x with
  | nil => simp
  | cons c rest ih =>
    have hc := h c List.mem_cons_self
    rw [List.cons_append, readValueFrom_cons expand (ValueScan.next?_of_isPlain hc),
      ih fun a ha => h a (List.mem_cons_of_mem c ha), Option.map_map,
      ValueScan.added_of_isPlain expand hc]
    rfl

end SkillHost.Dotenv
