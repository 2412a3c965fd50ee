/-! Text is a list of characters, so that the readers below are recursive on it. Here are its
order, its lines and the few ways of putting texts together. -/
namespace SkillHost

abbrev Text := List Char

namespace Text

def le : Text → Text → Bool
  | [], _ => true
  | _ :: _, [] => false
  | a :: s, b :: t => if a = b then le s t else a.toNat < b.toNat

def joinWith (separator : Text) : List Text → Text
  | [] => []
  | [t] => t
  | t :: u :: rest => t ++ separator ++ joinWith separator (u :: rest)

def afterStart? : Text → Text → Option Text
  | [], t => some t
  | _ :: _, [] => none
  | a :: start, b :: t => if a = b then afterStart? start t else none

/-- The lines of a text: each ends at a line feed, and a carriage return before that is no part
of it. A text that ends with a line feed has no further line after it. -/
def linesFrom (line : Text) : Text → List Text
  | [] => if line.isEmpty then [] else [line.reverse]
  | '\n' :: rest => (match line with
      | '\r' :: start => start.reverse
      | _ => line.reverse) :: linesFrom [] rest
  | c :: rest => linesFrom (c :: line) rest

def lines (t : Text) : List Text := linesFrom [] t

def ofNat (n : Nat) : Text := Nat.toDigits 10 n

def padded (width n : Nat) : Text :=
  let digits := ofNat n
  List.replicate (width - digits.length) '0' ++ digits

end Text

end SkillHost
