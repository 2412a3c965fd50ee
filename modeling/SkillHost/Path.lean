import SkillHost.Text.Quoted
import SkillHost.Text.Utf8

/-! Paths in the file system. A path is any bytes, of which a slash parts one name from the next;
two paths are the same only if their bytes are. To show a path, its bytes are read as UTF-8. -/
namespace SkillHost

abbrev FileName := List UInt8

namespace FileName

def here : FileName := Text.toBytes ['.']

def above : FileName := Text.toBytes ['.', '.']

def maxLength : Nat := 255

end FileName

structure Path where
  bytes : List UInt8
  deriving DecidableEq

namespace Path

def ofText (t : Text) : Path := ⟨Text.toBytes t⟩

def slash : UInt8 := 0x2f

def isAbsolute (path : Path) : Bool := path.bytes.head? = some slash

/-- `file` inside `directory`. An absolute `file` stands for itself. -/
def join (directory file : Path) : Path :=
  if file.isAbsolute || directory.bytes.isEmpty then file
  else if directory.bytes.getLast? = some slash then ⟨directory.bytes ++ file.bytes⟩
  else ⟨directory.bytes ++ slash :: file.bytes⟩

def split : List UInt8 → List FileName
  | [] => [[]]
  | b :: rest =>
    if b = slash then [] :: split rest
    else match split rest with
      | [] => [[b]]
      | part :: more => (b :: part) :: more

def parts (path : Path) : List FileName := split path.bytes

def maxLength : Nat := 4095

def shown (path : Path) : Text := Text.ofBytes path.bytes

def numbered (b : UInt8) : Text :=
  ['\\', 'x', (Nat.digitChar (b.toNat / 16)).toUpper, (Nat.digitChar (b.toNat % 16)).toUpper]

def quotedPiece : Text.Piece → Text
  | .char c => Text.quotedChar c
  | .stray bytes => bytes.flatMap numbered

def quoted (path : Path) : Text :=
  ['"'] ++ (Text.pieces path.bytes).flatMap quotedPiece ++ ['"']

end Path

end SkillHost
