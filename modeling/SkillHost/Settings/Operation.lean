import SkillHost.Credentials.Key
import SkillHost.Program

/-! Operations on settings: each may fail, and reports what it does to the debug log. The log is
a file like any other, so an operation that reads files finds there what was reported before. -/
namespace SkillHost

inductive SettingsError where
  | missing (keys : List CredentialKey) (location : Text)
  | parse (path message : Text)
  | file (fault : FileFault)
  deriving DecidableEq

namespace SettingsError

def message : SettingsError → Text
  | missing keys location =>
    Text.joinWith [',', ' '] (keys.map CredentialKey.label) ++ " not found in ".toList ++ location
  | parse path message =>
    "Failed to parse settings file ".toList ++ path ++ [':', ' '] ++ message
  | file fault => "IO error: ".toList ++ fault.message

def missingKeys : SettingsError → List CredentialKey
  | missing keys _ => keys
  | _ => []

end SettingsError

structure Logged (α : Type) where
  entries : List LogEntry
  outcome : Except SettingsError α

/-- What happens depends on the program in which an operation is carried out. -/
def Operation (α : Type) := Program → Logged α

namespace Operation
variable {α β : Type}

def succeed (a : α) : Operation α := fun _ => ⟨[], .ok a⟩

def fail (e : SettingsError) : Operation α := fun _ => ⟨[], .error e⟩

def log (level : LogLevel) (module message : Text) : Operation Unit :=
  fun _ => ⟨[⟨level, module, message⟩], .ok ()⟩

def system : Operation System := fun p => ⟨[], .ok p.system⟩

def environment : Operation Environment := fun p => ⟨[], .ok p.system.environment⟩

/-- The second operation starts from the outcome of the first, in the program that has written
the entries of the first. After a failure there is none. -/
def andThen (x : Operation α) (f : α → Operation β) : Operation β := fun p =>
  let first := x p
  match first.outcome with
  | .ok a =>
    let rest := f a (p.write first.entries)
    ⟨first.entries ++ rest.entries, rest.outcome⟩
  | .error e => ⟨first.entries, .error e⟩

instance : Monad Operation where
  pure := succeed
  bind := andThen

@[simp] theorem pure_apply (a : α) (p : Program) : (pure a : Operation α) p = ⟨[], .ok a⟩ := rfl

theorem bind_ok {x : Operation α} {p : Program} {a : α} (h : (x p).outcome = .ok a)
    (f : α → Operation β) :
    (x >>= f) p = ⟨(x p).entries ++ (f a (p.write (x p).entries)).entries,
      (f a (p.write (x p).entries)).outcome⟩ := by
  simp only [bind, andThen, h]

theorem bind_error {x : Operation α} {p : Program} {e : SettingsError}
    (h : (x p).outcome = .error e) (f : α → Operation β) :
    (x >>= f) p = ⟨(x p).entries, .error e⟩ := by
  simp only [bind, andThen, h]

end Operation

def Program.perform {α : Type} (p : Program) (operation : Operation α) :
    Program × Except SettingsError α :=
  let result := operation p
  (p.write result.entries, result.outcome)

end SkillHost
