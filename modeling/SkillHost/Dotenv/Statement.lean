import SkillHost.Text.Blank

/-! Statements of a settings file. A statement is a line, or several where a quoted value holds
line ends. A comment is cut off where it follows a blank or nothing but blanks; of a line with a
comment alone its leading blanks are left as a statement. -/
namespace SkillHost.Dotenv

inductive Statement where
  | whole (text : Text)
  /-- The end of the text came inside quotes, after a backslash or right after a blank. -/
  | unfinished (text : Text)
  deriving DecidableEq

def Statement.text : Statement → Text
  | whole t => t
  | unfinished t => t

inductive Quoting where
  | plain
  | blank
  | escape
  | weak
  | weakEscape
  | strong
  | strongEscape
  deriving DecidableEq

/-- A backslash escapes in both kinds of quotes. Two blanks in a row are `blank` and `plain` in
turn, and a line end is no blank. -/
def Quoting.next : Quoting → Char → Quoting
  | plain, c =>
    if Text.isBlank c ∧ c ≠ '\n' ∧ c ≠ '\r' then blank
    else if c = '\\' then escape
    else if c = '"' then weak
    else if c = '\'' then strong
    else plain
  | blank, c =>
    if c = '\\' then escape
    else if c = '"' then weak
    else if c = '\'' then strong
    else plain
  | escape, _ => plain
  | weak, c => if c = '\\' then weakEscape else if c = '"' then plain else weak
  | weakEscape, _ => weak
  | strong, c => if c = '\\' then strongEscape else if c = '\'' then plain else strong
  | strongEscape, _ => strong

inductive StatementScan where
  | body (leading : Bool) (quoting : Quoting)
  | comment
  deriving DecidableEq

def StatementScan.takesComment : StatementScan → Bool
  | body leading quoting => leading || quoting = .blank
  | comment => false

def closeLine : Text → Text
  | '\r' :: start => start.reverse
  | start => start.reverse

/-- Reads statements. `start` holds what is read of the current one, in reverse. -/
def statementsFrom : StatementScan → Text → Text → List Statement
  | .comment, start, [] => [.whole start.reverse]
  | .comment, start, c :: rest =>
    if c = '\n' then .whole start.reverse :: statementsFrom (.body true .plain) [] rest
    else statementsFrom .comment start rest
  | .body _ quoting, start, [] =>
    if quoting ≠ .plain then [.unfinished start.reverse]
    else if start.isEmpty then []
    else [.whole start.reverse]
  | .body leading quoting, start, c :: rest =>
    if c = '#' ∧ (StatementScan.body leading quoting).takesComment then
      statementsFrom .comment start rest
    else if c = '\n' ∧ quoting.next c = .plain then
      .whole (closeLine start) :: statementsFrom (.body true .plain) [] rest
    else
      statementsFrom (.body (leading && Text.isBlank c) (quoting.next c)) (c :: start) rest

def statements (t : Text) : List Statement := statementsFrom (.body true .plain) [] t

end SkillHost.Dotenv
