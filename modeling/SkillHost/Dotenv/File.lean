import SkillHost.Dotenv.Parsed
import SkillHost.Settings.Operation

/-! Settings files. A file that does not exist is one that sets nothing; only a file that cannot
be read is an error, and no text in a file is. -/
namespace SkillHost

structure Dotenv where
  path : Option Path
  values : Table Text Text

namespace Dotenv

def logModule : Text := "semkit_core::settings::dotenv_source".toList

def origin : Option Path → Text
  | some path => path.shown
  | none => "dotenv contents".toList

/-- One warning for each statement that was skipped. The statement may hold a secret, so it is
not shown. -/
def skipEntries (path : Option Path) (parsed : Parsed) : List LogEntry :=
  List.replicate parsed.skipped
    ⟨.warn, logModule, "skipping unparseable statement in ".toList ++ origin path⟩

def ofTextAt (path : Option Path) (t : Text) : Operation Dotenv := fun p =>
  let parsed := parse p.system.environment t
  ⟨skipEntries path parsed, .ok ⟨path, parsed.values⟩⟩

def ofText (t : Text) : Operation Dotenv := ofTextAt none t

def ofContent : Content → Operation Dotenv
  | .text t => ofText t
  | .binary _ => .fail (.file .notText)

def load (path : Path) : Operation Dotenv := do
  match (← Operation.system).read path with
  | .absent =>
    Operation.log .debug logModule ("no settings file at ".toList ++ path.shown)
    return ⟨some path, .empty⟩
  | .failed fault => .fail (.file fault)
  | .contents t =>
    let file ← ofTextAt (some path) t
    Operation.log .debug logModule
      ("loaded ".toList ++ Text.ofNat file.values.size ++ " keys from ".toList ++ path.shown)
    return file

def sortedValues (d : Dotenv) : List (Text × Text) :=
  d.values.entries.mergeSort fun a b => Text.le a.1 b.1

def describe (d : Dotenv) : Text :=
  match d.path with
  | some path => path.shown ++ " file".toList
  | none => origin none

end Dotenv

end SkillHost
