import SkillHost.Settings.Source

/-! Where settings are to be found. A location is opened for each use, so that files are read
afresh. -/
namespace SkillHost

inductive Location where
  | dotenv (path : Path)
  | environment
  | source (source : Source)
  | chain (locations : List Location)

namespace Location

mutual

def openSource : Location → Operation Source
  | dotenv path => do return .dotenv (← Dotenv.load path)
  | environment => return .environment
  | source given => return given
  | chain locations => do return .chain (← openSources locations)

def openSources : List Location → Operation (List Source)
  | [] => return []
  | location :: rest => do
    let source ← location.openSource
    return source :: (← openSources rest)

end

mutual

def shown : Location → Text
  | dotenv path => "Dotenv(".toList ++ path.quoted ++ [')']
  | environment => "Environment".toList
  | source given => "Source(".toList ++ Text.quoted given.describe ++ [')']
  | chain locations => "Chain(".toList ++ Text.shownList (shownAll locations) ++ [')']

def shownAll : List Location → List Text
  | [] => []
  | location :: rest => location.shown :: shownAll rest

end

end Location

end SkillHost
