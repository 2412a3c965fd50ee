import SkillHost.Proofs.Dotenv.RoundTrip

/-! Files with references. A file is written that gives texts to keys, in which names are referred
to, or takes keys away. Loading it does this one after the other. -/
namespace SkillHost.Dotenv

structure ReferenceName where
  text : Text
  isName : ∀ c ∈ text, isKeyChar c = true

inductive Piece where
  | literal (text : Text)
  | reference (name : ReferenceName)

namespace Piece

def text : Piece → Text
  | literal t => quote t
  | reference name => '$' :: '{' :: (name.text ++ ['}'])

def value (expand : Text → Text) : Piece → Text
  | literal t => t
  | reference name => expand name.text

end Piece

inductive Command where
  | bare (key : Key)
  | assign (key : Key) (pieces : List Piece)

def Command.text : Command → Text
  | bare key => key.text
  | assign key pieces => key.text ++ '=' :: '"' :: (pieces.flatMap Piece.text ++ ['"'])

/-- A key that is taken away has no value, but references find the last one it had. -/
def Command.run (env : Environment) (parsed : Parsed) : Command → Parsed
  | bare key => { parsed with values := parsed.values.erase key.text }
  | assign key pieces =>
    let value := pieces.flatMap (Piece.value (parsed.expand env))
    { parsed with
      values := parsed.values.insert key.text value
      assigned := parsed.assigned.insert key.text value }

def writeCommands (commands : List Command) : Text := commands.flatMap fun c => c.text ++ ['\n']

theorem escapeDollarsFrom_piece (piece : Piece) (y : Text) :
    escapeDollarsFrom .double (piece.text ++ y) = piece.text ++ escapeDollarsFrom .double y := by
  cases piece with
  | literal t => exact escapeDollarsFrom_quote t y
  | reference name =>
    have inName {x : Text} (h : ∀ c ∈ x, isKeyChar c = true) :
        escapeDollarsFrom .double (x ++ '}' :: y) = x ++ '}' :: escapeDollarsFrom .double y := by
      induction x with
      | nil => rfl
      | cons c x ih =>
        obtain ⟨hc, hx⟩ := List.forall_mem_cons.mp h
        obtain ⟨-, hback, -, hdouble⟩ := isQuiet_iff.mp (isQuiet_of_isKeyChar hc)
        have dollar : c ≠ '$' := by rintro rfl; cases hc
        have stays : DollarScan.double.next c = .double := by
          simp [DollarScan.next, hback, hdouble]
        rw [List.cons_append, escapeDollarsFrom_cons _ dollar, stays, ih hx, List.cons_append]
    calc
      _ = '$' :: '{' :: escapeDollarsFrom .double (name.text ++ '}' :: y) := by
        simp [Piece.text, escapeDollarsFrom, DollarScan.next, DollarScan.expands]
      _ = _ := by simp [inName name.isName, Piece.text]

theorem escapeDollarsFrom_pieces (pieces : List Piece) (y : Text) :
    escapeDollarsFrom .double (pieces.flatMap Piece.text ++ y) =
      pieces.flatMap Piece.text ++ escapeDollarsFrom .double y := by
  induction pieces with
  | nil => rfl
  | cons piece pieces ih =>
    rw [List.flatMap_cons, List.append_assoc, escapeDollarsFrom_piece, ih, List.append_assoc]

theorem escapeDollars_command (command : Command) (y : Text) :
    escapeDollars (command.text ++ '\n' :: y) = command.text ++ '\n' :: escapeDollars y := by
  cases command with
  | bare key => exact escapeDollarsFrom_key true key ('\n' :: y)
  | assign key pieces =>
    simp only [Command.text, List.append_assoc, List.cons_append, List.nil_append]
    calc
      _ = key.text ++ '=' :: '"' ::
          escapeDollarsFrom .double (pieces.flatMap Piece.text ++ '"' :: '\n' :: y) :=
        escapeDollarsFrom_key true key _
      _ = _ := by
        rw [escapeDollarsFrom_pieces]
        rfl

theorem Command.isBlank_head (command : Command) :
    ∀ c ∈ command.text.head?, Text.isBlank c = false := by
  cases command with
  | bare key => simpa [Command.text] using isBlank_of_isKey_head key.isKey []
  | assign key pieces => exact isBlank_of_isKey_head key.isKey _

theorem Command.isBlank_last (command : Command) :
    ∀ c ∈ command.text.getLast?, Text.isBlank c = false := by
  cases command with
  | bare key => exact isBlank_of_isKey_last key.isKey []
  | assign key pieces =>
    have last : (Command.assign key pieces).text =
        key.text ++ '=' :: '"' :: pieces.flatMap Piece.text ++ ['"'] := by
      simp [Command.text]
    rw [last, List.getLast?_concat]
    rintro c ⟨⟩
    decide

theorem Command.trim_text (command : Command) : Text.trim command.text = command.text := by
  have none : ∀ c ∈ ([] : Text), Text.isBlank c = true := nofun
  simpa using Text.trim_append_append command.isBlank_head command.isBlank_last none none

namespace Cursor

theorem statements_piece (piece : Piece) (start y : Text) :
    (Cursor.mk (.body false .weak) start).statements (piece.text ++ y) =
      (Cursor.mk (.body false .weak) (piece.text.reverse ++ start)).statements y := by
  cases piece with
  | literal t => exact statements_quote t start y
  | reference name =>
    have inName : ∀ c ∈ name.text, ∀ start y,
        (Cursor.mk (.body false .weak) start).statements ([c] ++ y) =
          (Cursor.mk (.body false .weak) ([c].reverse ++ start)).statements y := by
      intro c hc
      obtain ⟨-, hback, -, hdouble⟩ := isQuiet_iff.mp (isQuiet_of_isKeyChar (name.isName c hc))
      exact statements_weak hback hdouble
    have read := statements_flatMap inName ('{' :: '$' :: start) ('}' :: y)
    rw [List.flatMap_singleton' name.text] at read
    calc
      _ = (Cursor.mk (.body false .weak) ('{' :: '$' :: start)).statements
          (name.text ++ '}' :: y) := by
        simp only [Piece.text, List.cons_append, List.append_assoc, List.nil_append]
        rw [statements_weak (by decide) (by decide), statements_weak (by decide) (by decide)]
      _ = _ := by
        rw [read, statements_weak (by decide) (by decide)]
        simp [Piece.text]

theorem statements_command (command : Command) (y : Text) :
    fresh.statements (command.text ++ '\n' :: y) =
      .whole command.text :: fresh.statements y := by
  have last := command.isBlank_last
  have ended {start : Text} (h : command.text = start.reverse) :
      (inside start).statements ('\n' :: y) = .whole command.text :: fresh.statements y := by
    rw [h, List.getLast?_reverse] at last
    simpa [h, trailer, gap] using statements_trailer none last y
  cases command with
  | bare key =>
    calc
      _ = (inside key.text.reverse).statements ('\n' :: y) := statements_lead false key _
      _ = _ := ended (by simp [Command.text])
  | assign key pieces =>
    calc
      _ = fresh.statements (key.text ++
          '=' :: '"' :: (pieces.flatMap Piece.text ++ '"' :: '\n' :: y)) := by
        simp [Command.text]
      _ = (inside key.text.reverse).statements
          ('=' :: '"' :: (pieces.flatMap Piece.text ++ '"' :: '\n' :: y)) :=
        statements_lead false key _
      _ = (Cursor.mk (.body false .weak) ('"' :: '=' :: key.text.reverse)).statements
          (pieces.flatMap Piece.text ++ '"' :: '\n' :: y) := rfl
      _ = (inside ('"' :: ((pieces.flatMap Piece.text).reverse ++
          '"' :: '=' :: key.text.reverse))).statements ('\n' :: y) := by
        rw [statements_flatMap fun piece _ => statements_piece piece]
        exact statements_step .weak '"' _ _ (by decide) (.inl (by decide))
      _ = _ := ended (by simp [Command.text])

end Cursor

theorem readValueFrom_braced (expand : Text → Text) {quoted : Bool} {x : Text}
    (h : ∀ c ∈ x, isKeyChar c = true) (name y : Text) :
    readValueFrom expand (.braced quoted name) (x ++ '}' :: y) =
      (readValueFrom expand (.text quoted) y).map (expand (name ++ x) ++ ·) := by
  induction x generalizing name with
  | nil => simp [readValueFrom]
  | cons c x ih =>
    obtain ⟨hc, hx⟩ := List.forall_mem_cons.mp h
    have brace : c ≠ '}' := by rintro rfl; cases hc
    rw [List.cons_append, readValueFrom, if_neg brace, ih hx, List.append_assoc,
      List.singleton_append]

theorem readValueFrom_piece (expand : Text → Text) (piece : Piece) (y : Text) :
    readValueFrom expand (.text true) (piece.text ++ y) =
      (readValueFrom expand (.text true) y).map (piece.value expand ++ ·) := by
  cases piece with
  | literal t => exact readValueFrom_quote_append expand t y
  | reference name =>
    calc
      _ = readValueFrom expand (.braced true []) (name.text ++ '}' :: y) := by
        simp [Piece.text, readValueFrom, isAlphanumeric_brace]
      _ = _ := readValueFrom_braced expand name.isName [] y

theorem readValueFrom_pieces (expand : Text → Text) (pieces : List Piece) :
    readValueFrom expand (.text true) (pieces.flatMap Piece.text ++ ['"']) =
      some (pieces.flatMap (Piece.value expand)) := by
  induction pieces with
  | nil => simp [readValueFrom]
  | cons piece pieces ih =>
    rw [List.flatMap_cons, List.append_assoc, readValueFrom_piece, ih]
    rfl

theorem handle_command (env : Environment) (parsed : Parsed) (command : Command) :
    parsed.handle env (.whole command.text) = command.run env parsed := by
  cases command with
  | bare key =>
    have bare : (Statement.whole (Command.bare key).text).IsBare key.text :=
      ⟨key.isKey, [], .inl rfl, (Command.bare key).trim_text⟩
    have named : bareKey? (Command.bare key).text = some key.text :=
      Statement.isBare_iff.mp bare
    rw [Parsed.handle, Statement.read_of_isBare bare, Parsed.apply, named]
    rfl
  | assign key pieces =>
    have assigns : (Statement.whole (Command.assign key pieces).text).Assigns key.text
        ('"' :: (pieces.flatMap Piece.text ++ ['"'])) :=
      ⟨key.isKey, [], _, .inl rfl, (Command.assign key pieces).trim_text, rfl⟩
    have read := readValueFrom_pieces (parsed.expand env) pieces
    have value : (Statement.whole (Command.assign key pieces).text).read (parsed.expand env) =
        .assigned key.text (pieces.flatMap (Piece.value (parsed.expand env))) := by
      rw [Statement.read_of_assigns assigns, Text.trimStart_of_head (by rintro c ⟨⟩; decide),
        Reading.ofValue, if_neg (by simp [isVoid]), readValue, readValueFrom]
      simp [read]
    rw [Parsed.handle, value]
    rfl

theorem withoutMark_writeCommands (commands : List Command) :
    withoutMark (writeCommands commands) = writeCommands commands := by
  cases commands with
  | nil => rfl
  | cons command commands =>
    apply withoutMark_of_head
    rw [writeCommands, List.flatMap_cons, List.append_assoc]
    cases command with
    | bare key => exact key.head_append _
    | assign key pieces =>
      rw [Command.text, List.append_assoc]
      exact key.head_append _

theorem parse_writeCommands (env : Environment) (commands : List Command) :
    parse env (writeCommands commands) = commands.foldl (Command.run env) .empty := by
  rw [parse, withoutMark_writeCommands, statements_eq]
  generalize Parsed.empty = parsed
  induction commands generalizing parsed with
  | nil => rfl
  | cons command commands ih =>
    have parts : writeCommands (command :: commands) =
        command.text ++ '\n' :: writeCommands commands := by
      simp [writeCommands]
    rw [parts, escapeDollars_command, Cursor.statements_command, List.foldl_cons, handle_command,
      ih, List.foldl_cons]

end SkillHost.Dotenv
