import SkillHost.Environment
import SkillHost.Files
import SkillHost.Log.Entry

/-! What a process sees of the system it runs in. -/
namespace SkillHost

structure System where
  environment : Environment
  files : Files
  directory : Place

namespace System

def read (s : System) (path : Path) : ReadOutcome := s.files.read s.directory path

def temporaryDirectory (s : System) : Path :=
  (s.environment.path? "TMPDIR".toList).getD (.ofText "/tmp".toList)

def logPath (s : System) : Path :=
  s.temporaryDirectory.join (.ofText "semkit-debug.log".toList)

def homeDirectory (s : System) : Path := (s.environment.path? "HOME".toList).getD ⟨[]⟩

def configDirectory (s : System) : Path :=
  ((s.environment.path? "XDG_CONFIG_HOME".toList).filter Path.isAbsolute).getD
    (s.homeDirectory.join (.ofText ".config".toList))

end System

end SkillHost
