import SkillHost.Settings.Operation

/-! Laws of operations on settings. Operations that follow one another can be taken together in any
way, since log entries can be written at once or in parts. -/
namespace SkillHost.Operation
variable {α β γ : Type}

theorem bind_assoc (x : Operation α) (f : α → Operation β) (g : β → Operation γ) :
    x >>= f >>= g = x >>= fun a => f a >>= g := by
  funext p
  cases hx : (x p).outcome with
  | error e =>
    have first := bind_error hx f
    rw [bind_error hx, bind_error (by rw [first]), first]
  | ok a =>
    have first := bind_ok hx f
    rw [bind_ok hx]
    cases hf : (f a (p.write (x p).entries)).outcome with
    | error e => rw [bind_error hf, bind_error (by rw [first, hf]), first]
    | ok b =>
      rw [bind_ok hf, bind_ok (by rw [first, hf]), first]
      simp only [List.append_assoc, Program.write_append]

theorem pure_bind (a : α) (f : α → Operation β) : pure a >>= f = f a := by
  funext p
  exact bind_ok (x := pure a) rfl f

theorem bind_pure (x : Operation α) : x >>= pure = x := by
  funext p
  cases h : (x p).outcome with
  | error e => rw [bind_error h, ← h]
  | ok a => rw [bind_ok h, pure_apply, List.append_nil, ← h]

instance : LawfulMonad Operation :=
  LawfulMonad.mk' Operation bind_pure pure_bind bind_assoc

@[simp] theorem outcome_map (f : α → β) (x : Operation α) (p : Program) :
    ((f <$> x) p).outcome = (x p).outcome.map f := by
  cases h : (x p).outcome with
  | error e =>
    rw [map_eq_pure_bind, bind_error h]
    rfl
  | ok a =>
    rw [map_eq_pure_bind, bind_ok h]
    rfl

theorem environment_bind (f : Environment → Operation α) (p : Program) :
    (environment >>= f) p = f p.system.environment p :=
  bind_ok rfl f

theorem outcome_bind {x : Operation α} {p : Program} {a : α} (h : (x p).outcome = .ok a)
    (f : α → Operation β) :
    ((x >>= f) p).outcome = (f a (p.write (x p).entries)).outcome := by
  rw [bind_ok h]

@[simp] theorem outcome_log_bind (level : LogLevel) (module message : Text)
    (f : Unit → Operation β) (p : Program) :
    ((log level module message >>= f) p).outcome =
      (f () (p.write [⟨level, module, message⟩])).outcome :=
  outcome_bind rfl f

@[simp] theorem outcome_fail (e : SettingsError) (p : Program) :
    ((fail e : Operation α) p).outcome = .error e := rfl

@[simp] theorem fail_bind (e : SettingsError) (f : α → Operation β) : fail e >>= f = fail e := by
  funext p
  exact bind_error rfl f

theorem entries_map (f : α → β) (x : Operation α) (p : Program) :
    ((f <$> x) p).entries = (x p).entries := by
  rw [map_eq_pure_bind]
  cases h : (x p).outcome with
  | error e => rw [bind_error h]
  | ok a =>
    rw [bind_ok h]
    exact List.append_nil _

theorem exists_of_bind_ok {x : Operation α} {f : α → Operation β}
    {p : Program} {b : β} (h : ((x >>= f) p).outcome = .ok b) :
    ∃ a, (x p).outcome = .ok a ∧ (f a (p.write (x p).entries)).outcome = .ok b := by
  cases outcome : (x p).outcome with
  | error e =>
    rw [bind_error outcome] at h
    cases h
  | ok a =>
    rw [outcome_bind outcome] at h
    exact ⟨a, rfl, h⟩

theorem eq_of_map_error {f : α → β} {x : Operation α} {p : Program}
    {entries : List LogEntry} {e : SettingsError} (h : (f <$> x) p = ⟨entries, .error e⟩) :
    x p = ⟨entries, .error e⟩ := by
  have same : (x p).entries = entries := by rw [← entries_map f x p, h]
  have ends := outcome_map f x p
  rw [h] at ends
  cases outcome : (x p).outcome with
  | error e' =>
    rw [outcome] at ends
    cases ends
    rw [← same, ← outcome]
  | ok a =>
    rw [outcome] at ends
    cases ends

theorem exists_of_map_ok {f : α → β} {x : Operation α} {p : Program}
    {entries : List LogEntry} {b : β} (h : (f <$> x) p = ⟨entries, .ok b⟩) :
    ∃ a, x p = ⟨entries, .ok a⟩ := by
  have same : (x p).entries = entries := by rw [← entries_map f x p, h]
  have ends := outcome_map f x p
  rw [h] at ends
  cases outcome : (x p).outcome with
  | error e =>
    rw [outcome] at ends
    cases ends
  | ok a => exact ⟨a, by rw [← same, ← outcome]⟩

end SkillHost.Operation
