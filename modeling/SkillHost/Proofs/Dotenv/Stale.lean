import SkillHost.Proofs.Dotenv.Interpolation

/-! References to keys that were taken away. Loading a written file keeps two tables, the values and
what references find. They differ only in the keys that were taken away: there a reference finds the
last value still. So the values are those of an evaluation with one table exactly as long as no
reference is to such a key. -/
namespace SkillHost.Dotenv

/-- A variable of the environment, else the value that a key has now, else nothing. -/
def current (env : Environment) (values : Table Text Text) (name : Text) : Text :=
  (env.lookup name).getD ((values.get? name).getD [])

/-- What a command does where references stand for what is in force. -/
def Command.evaluate (env : Environment) (values : Table Text Text) : Command → Table Text Text
  | bare key => values.erase key.text
  | assign key pieces =>
    values.insert key.text (pieces.flatMap (Piece.value (current env values)))

/-- References to the name find a text that was taken away. -/
def Stale (env : Environment) (parsed : Parsed) (name : Text) : Prop :=
  env.lookup name = none ∧ parsed.values.get? name = none ∧
    (parsed.assigned.get? name).getD [] ≠ []

def Command.IsFresh (env : Environment) (parsed : Parsed) : Command → Prop
  | bare _ => True
  | assign _ pieces => ∀ name, .reference name ∈ pieces → ¬Stale env parsed name.text

def Parsed.Remembers (parsed : Parsed) : Prop :=
  ∀ name value, parsed.values.get? name = some value → parsed.assigned.get? name = some value

theorem Parsed.Remembers.run {parsed : Parsed} (h : parsed.Remembers) (env : Environment)
    (command : Command) : (command.run env parsed).Remembers := by
  intro name value found
  cases command with
  | bare key =>
    simp only [Command.run, Table.get?_erase] at found
    split at found
    · cases found
    · exact h name value found
  | assign key pieces =>
    simp only [Command.run, Table.get?_insert] at found ⊢
    split at found
    · rw [if_pos ‹_›]
      exact found
    · rw [if_neg ‹_›]
      exact h name value found

theorem remembers_foldl_run (env : Environment) (commands : List Command) :
    (commands.foldl (Command.run env) .empty).Remembers := by
  induction commands using List.reverseRecOn with
  | nil => nofun
  | append_singleton commands command ih =>
    rw [List.foldl_append]
    exact ih.run env command

section
variable {env : Environment} {parsed : Parsed} (remembers : parsed.Remembers)
include remembers

theorem expand_of_not_stale {name : Text} (h : ¬Stale env parsed name) :
    parsed.expand env name = current env parsed.values name := by
  unfold Parsed.expand current
  cases outside : env.lookup name with
  | some value => rfl
  | none =>
    cases inside : parsed.values.get? name with
    | some value => rw [remembers name value inside]
    | none =>
      have gone : (parsed.assigned.get? name).getD [] = [] := by
        by_contra found
        exact h ⟨outside, inside, found⟩
      rw [gone]
      rfl

omit remembers in
theorem length_lt_of_stale {name : Text} (h : Stale env parsed name) :
    (current env parsed.values name).length < (parsed.expand env name).length := by
  obtain ⟨outside, inside, found⟩ := h
  simpa [current, Parsed.expand, outside, inside, List.length_pos_iff] using found

theorem length_current_le (name : Text) :
    (current env parsed.values name).length ≤ (parsed.expand env name).length := by
  by_cases h : Stale env parsed name
  · exact (length_lt_of_stale h).le
  · rw [expand_of_not_stale remembers h]

theorem length_pieces_le (pieces : List Piece) :
    (pieces.flatMap (Piece.value (current env parsed.values))).length ≤
      (pieces.flatMap (Piece.value (parsed.expand env))).length := by
  induction pieces with
  | nil => exact le_rfl
  | cons piece pieces ih =>
    simp only [List.flatMap_cons, List.length_append]
    cases piece with
    | literal t => exact Nat.add_le_add_left ih _
    | reference name => exact Nat.add_le_add (length_current_le remembers name.text) ih

/-- Texts with a stale reference differ, since they differ in length. -/
theorem pieces_eq_iff (pieces : List Piece) :
    pieces.flatMap (Piece.value (parsed.expand env)) =
        pieces.flatMap (Piece.value (current env parsed.values)) ↔
      ∀ name, .reference name ∈ pieces → ¬Stale env parsed name.text := by
  induction pieces with
  | nil => simp
  | cons piece pieces ih =>
    rw [List.flatMap_cons, List.flatMap_cons]
    cases piece with
    | literal t => simp [Piece.value, ih]
    | reference name =>
      by_cases h : Stale env parsed name.text
      · -- The reference adds some text, and no piece behind it takes text away.
        have longer := length_lt_of_stale h
        have rest : (pieces.flatMap (Piece.value (current env parsed.values))).length ≤
            (pieces.flatMap (Piece.value (parsed.expand env))).length :=
          length_pieces_le remembers pieces
        constructor
        · intro same
          have lengths := congrArg List.length same
          simp only [Piece.value, List.length_append] at lengths
          omega
        · intro fresh
          exact absurd h (fresh name List.mem_cons_self)
      · rw [Piece.value, Piece.value, expand_of_not_stale remembers h, List.append_cancel_left_eq,
          ih]
        simp [h]

theorem values_run_eq_iff (command : Command) :
    (command.run env parsed).values = command.evaluate env parsed.values ↔
      command.IsFresh env parsed := by
  cases command with
  | bare key => exact iff_of_true rfl trivial
  | assign key pieces =>
    rw [Command.IsFresh, ← pieces_eq_iff remembers]
    constructor
    · intro same
      have found := congrArg (fun t => Table.get? t key.text) same
      simpa [Command.run, Command.evaluate, Table.get?_insert] using found
    · intro same
      rw [Command.run, Command.evaluate, same]

end

theorem forall_prefix_iff (env : Environment) (commands : List Command) :
    (∀ earlier, earlier <+: commands →
        (earlier.foldl (Command.run env) .empty).values =
          earlier.foldl (Command.evaluate env) .empty) ↔
      ∀ earlier command, earlier ++ [command] <+: commands →
        command.IsFresh env (earlier.foldl (Command.run env) .empty) := by
  -- From the last command: it is carried out where all the others have been.
  induction commands using List.reverseRecOn with
  | nil => simp [Parsed.empty]
  | append_singleton commands command ih =>
    have remembers := remembers_foldl_run env commands
    have runs {P : List Command → Prop} :
        (∀ earlier, earlier <+: commands ++ [command] → P earlier) ↔
          P (commands ++ [command]) ∧ ∀ earlier, earlier <+: commands → P earlier := by
      simp only [List.prefix_concat_iff, or_imp, forall_and, forall_eq]
    have steps {P : List Command → Command → Prop} :
        (∀ earlier next, earlier ++ [next] <+: commands ++ [command] → P earlier next) ↔
          P commands command ∧ ∀ earlier next, earlier ++ [next] <+: commands → P earlier next := by
      constructor
      · exact fun h => ⟨h commands command List.prefix_rfl, fun earlier next left =>
          h earlier next (left.trans (List.prefix_append ..))⟩
      · rintro ⟨last, others⟩ earlier next left
        rcases List.prefix_concat_iff.mp left with same | left
        · obtain ⟨rfl, rfl⟩ : earlier = commands ∧ next = command := by simpa using same
          exact last
        · exact others earlier next left
    rw [runs, steps, ← ih]
    refine and_congr_left fun sofar => ?_
    rw [List.foldl_append, List.foldl_append, ← sofar commands List.prefix_rfl]
    exact values_run_eq_iff remembers command

/-- The file is loaded command by command, and the values are those in force after each command
exactly if no reference is to a key that was taken away and not given a value since. -/
theorem values_in_force_iff (env : Environment) (commands : List Command) :
    parse env (writeCommands commands) = commands.foldl (Command.run env) .empty ∧
      ((∀ earlier, earlier <+: commands →
          (parse env (writeCommands earlier)).values =
            earlier.foldl (Command.evaluate env) .empty) ↔
        ∀ earlier command, earlier ++ [command] <+: commands →
          command.IsFresh env (parse env (writeCommands earlier))) := by
  refine ⟨parse_writeCommands env commands, ?_⟩
  simp only [parse_writeCommands]
  exact forall_prefix_iff env commands

def usedAfterRemoval : List Command :=
  [.assign ⟨['A'], rfl⟩ [.literal ['1']], .bare ⟨['A'], rfl⟩,
    .assign ⟨['B'], rfl⟩ [.reference ⟨['A'], List.forall_mem_singleton.mpr rfl⟩]]

/-- The reference finds the value that was taken away, where nothing is in force. -/
theorem taken_away_value_found :
    writeCommands usedAfterRemoval = "A=\"1\"\nA\nB=\"${A}\"\n".toList ∧
      (parse .empty (writeCommands usedAfterRemoval)).values.get? ['B'] = some ['1'] ∧
      (usedAfterRemoval.foldl (Command.evaluate .empty) .empty).get? ['B'] = some [] := by
  decide +kernel

end SkillHost.Dotenv
