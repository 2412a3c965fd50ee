import SkillHost.Dotenv.File
import SkillHost.Text.Shown

/-! Sources of settings, in which a key is looked up. -/
namespace SkillHost

inductive Source where
  | memory (values : Table Text Text)
  | dotenv (file : Dotenv)
  | environment
  | chain (sources : List Source)
  | custom (name : Text) (lookup : Text → Option Text)

namespace Source

def name : Source → Text
  | memory _ => "memory".toList
  | dotenv _ => "dotenv".toList
  | environment => "env".toList
  | chain _ => "chain".toList
  | custom name _ => name

mutual

def describe : Source → Text
  | memory _ => "in-memory settings".toList
  | dotenv file => file.describe
  | environment => "process environment".toList
  | chain [] => "empty settings chain".toList
  | chain (source :: rest) =>
    Text.joinWith " or ".toList (source.describe :: describeAll rest)
  | custom name _ => name

def describeAll : List Source → List Text
  | [] => []
  | source :: rest => source.describe :: describeAll rest

end

mutual

/-- The value of a key, an empty one included. In a chain the first value that is not empty
counts; if there is none, the first empty one. The environment is asked as it is now. -/
def get (env : Environment) (key : Text) : Source → Option Text
  | memory values => values.get? key
  | dotenv file => file.values.get? key
  | environment => env.lookup key
  | chain sources => getFirst env key none sources
  | custom _ lookup => lookup key

/-- `empty` is the empty value of an earlier source, if one has any. -/
def getFirst (env : Environment) (key : Text) (empty : Option Text) : List Source → Option Text
  | [] => empty
  | source :: rest => match source.get env key with
    | some [] => getFirst env key (empty.or (some [])) rest
    | some (c :: value) => some (c :: value)
    | none => getFirst env key empty rest

end

def getNonEmpty (env : Environment) (source : Source) (key : Text) : Option Text :=
  (source.get env key).filter fun value => !value.isEmpty

def has (env : Environment) (source : Source) (key : Text) : Bool :=
  (source.getNonEmpty env key).isSome

def findSource (env : Environment) (sources : List Source) (key : Text) : Option Source :=
  sources.find? fun source => source.has env key

def findIndex (env : Environment) (sources : List Source) (key : Text) : Option Nat :=
  sources.findIdx? fun source => source.has env key

def shownChain (sources : List Source) : Text :=
  Text.record "ChainSettingsSource".toList
    [("sources".toList, Text.shownList (sources.map fun s => Text.quoted s.describe))]

end Source

end SkillHost
