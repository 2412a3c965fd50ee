import SkillHost.Text.Blank
import SkillHost.Text.Lowercase

/-! Levels of the debug log, in ascending order of weight. -/
namespace SkillHost

inductive LogLevel where
  | trace
  | debug
  | info
  | warn
  | error
  deriving DecidableEq

namespace LogLevel

def rank : LogLevel → Nat
  | trace => 0
  | debug => 1
  | info => 2
  | warn => 3
  | error => 4

def ofName? (name : Text) : Option LogLevel :=
  let word := Text.lowercase (Text.trim name)
  if word = "trace".toList then some trace
  else if word = "debug".toList then some debug
  else if word = "info".toList then some info
  else if word = "warn".toList ∨ word = "warning".toList then some warn
  else if word = "error".toList then some error
  else none

def tag : LogLevel → Text
  | trace => "TRACE".toList
  | debug => "DEBUG".toList
  | info => "INFO ".toList
  | warn => "WARN ".toList
  | error => "ERROR".toList

end LogLevel

end SkillHost
