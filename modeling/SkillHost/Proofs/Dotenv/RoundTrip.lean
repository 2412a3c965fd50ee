import SkillHost.Proofs.Dotenv.Comment
import SkillHost.Proofs.Dotenv.Heads
import SkillHost.Proofs.Dotenv.ValueSteps
import SkillHost.Proofs.Dotenv.Written

/-! Loading a written settings file does what its lines say, one after the other, whatever is in the
environment. -/
namespace SkillHost.Dotenv

namespace Cursor

abbrev inside (start : Text) : Cursor := ⟨.body false .plain, start⟩

theorem statements_step (quoting : Quoting) (c : Char) (start y : Text) (blank : quoting ≠ .blank)
    (line : c ≠ '\n' ∨ quoting.next c ≠ .plain) :
    (Cursor.mk (.body false quoting) start).statements (c :: y) =
      (Cursor.mk (.body false (quoting.next c)) (c :: start)).statements y := by
  have comment : ¬(c = '#' ∧ (StatementScan.body false quoting).takesComment = true) := by
    simp [StatementScan.takesComment, blank]
  have ends : ¬(c = '\n' ∧ quoting.next c = .plain) := not_and_or.mpr line
  simp [statements_cons, ended?, next, startNext, StatementScan.next, comment, ends]

theorem statements_quiet {x : Text} (h : ∀ c ∈ x, isQuiet c = true) (start y : Text) :
    (inside start).statements (x ++ y) = (inside (x.reverse ++ start)).statements y := by
  induction x generalizing start with
  | nil => rfl
  | cons c x ih =>
    obtain ⟨hblank, hback, hsingle, hdouble⟩ := isQuiet_iff.mp (h c List.mem_cons_self)
    have newline : c ≠ '\n' := by rintro rfl; cases hblank
    have stays : Quoting.plain.next c = .plain := by
      simp [Quoting.next, hblank, hback, hsingle, hdouble]
    rw [List.cons_append, statements_step .plain c start _ (by decide) (.inl newline), stays,
      ih fun a ha => h a (List.mem_cons_of_mem c ha)]
    simp

theorem statements_key (key : Key) {leading : Bool} {quoting : Quoting}
    (h : quoting = .plain ∨ quoting = .blank) (start y : Text) :
    (Cursor.mk (.body leading quoting) start).statements (key.text ++ y) =
      (inside (key.text.reverse ++ start)).statements y := by
  obtain ⟨c, rest, hkey, hc, hrest⟩ := isKey_iff.mp key.isKey
  obtain ⟨hblank, hback, hsingle, hdouble⟩ :=
    isQuiet_iff.mp (isQuiet_of_isKeyChar (isKeyChar_of_isKeyStart hc))
  have newline : c ≠ '\n' := by rintro rfl; cases hc
  have hash : c ≠ '#' := by rintro rfl; cases hc
  have step : (Cursor.mk (.body leading quoting) start).statements (c :: (rest ++ y)) =
      (inside (c :: start)).statements (rest ++ y) := by
    rcases h with rfl | rfl <;>
      simp [statements_cons, ended?, next, startNext, StatementScan.next, Quoting.next,
        newline, hash, hblank, hback, hsingle, hdouble]
  rw [hkey, List.cons_append, step, statements_quiet fun a ha => isQuiet_of_isKeyChar (hrest a ha)]
  simp

theorem statements_lead (exported : Bool) (key : Key) (y : Text) :
    fresh.statements (lead exported ++ (key.text ++ y)) =
      (inside (lead exported ++ key.text).reverse).statements y := by
  cases exported with
  | false =>
    rw [show lead false = [] from rfl, List.nil_append, fresh, statements_key key (.inl rfl)]
    simp
  | true =>
    rw [List.reverse_append]
    exact statements_key key (.inr rfl) (lead true).reverse y

theorem statements_flatMap {α : Type} {quoting : Quoting} {f : α → Text} {v : List α}
    (h : ∀ c ∈ v, ∀ start y, (Cursor.mk (.body false quoting) start).statements (f c ++ y) =
      (Cursor.mk (.body false quoting) ((f c).reverse ++ start)).statements y) (start y : Text) :
    (Cursor.mk (.body false quoting) start).statements (v.flatMap f ++ y) =
      (Cursor.mk (.body false quoting) ((v.flatMap f).reverse ++ start)).statements y := by
  induction v generalizing start with
  | nil => rfl
  | cons c v ih =>
    rw [List.flatMap_cons, List.append_assoc, h c List.mem_cons_self,
      ih fun a ha => h a (List.mem_cons_of_mem c ha)]
    simp

theorem statements_weak {c : Char} (hback : c ≠ '\\') (hdouble : c ≠ '"') (start y : Text) :
    (Cursor.mk (.body false .weak) start).statements (c :: y) =
      (Cursor.mk (.body false .weak) (c :: start)).statements y := by
  have stays : Quoting.weak.next c = .weak := by simp [Quoting.next, hback, hdouble]
  rw [statements_step .weak c start y (by decide) (.inr (by rw [stays]; decide)), stays]

theorem statements_quote (v start y : Text) :
    (Cursor.mk (.body false .weak) start).statements (quote v ++ y) =
      (Cursor.mk (.body false .weak) ((quote v).reverse ++ start)).statements y := by
  refine statements_flatMap (fun c _ start y => ?_) start y
  split
  · rw [List.cons_append, statements_step .weak '\\' start _ (by decide) (.inl (by decide))]
    exact statements_step .weakEscape c ('\\' :: start) y (by decide) (.inr (by simp [Quoting.next]))
  · rename_i h
    rw [not_or, not_or] at h
    exact statements_weak h.1 h.2.1 start y

theorem statements_dollarsEscaped {v : Text} (h : ∀ c ∈ v, isQuiet c = true) (start y : Text) :
    (inside start).statements (dollarsEscaped v ++ y) =
      (inside ((dollarsEscaped v).reverse ++ start)).statements y := by
  refine statements_flatMap (fun c hc start y => ?_) start y
  split
  · rename_i dollar
    rw [dollar, List.cons_append, statements_step .plain '\\' start _ (by decide) (.inl (by decide))]
    exact statements_step .escape '$' ('\\' :: start) y (by decide) (.inl (by decide))
  · exact statements_quiet (by simpa using h c hc) start y

theorem statements_entry (e : Entry) (start y : Text) :
    (inside start).statements (e.escaped ++ y) =
      (inside (e.escaped.reverse ++ start)).statements y := by
  cases e with
  | quoted value =>
    calc
      _ = (Cursor.mk (.body false .weak) ('"' :: '=' :: start)).statements
          (quote value ++ '"' :: y) := by
        simp only [Entry.escaped, Entry.text, List.cons_append, List.append_assoc]
        rfl
      _ = (inside ('"' :: ((quote value).reverse ++ '"' :: '=' :: start))).statements y := by
        rw [statements_quote]
        exact statements_step .weak '"' _ _ (by decide) (.inl (by decide))
      _ = _ := by simp [Entry.escaped, Entry.text]
  | plain value =>
    calc
      _ = (inside ('=' :: start)).statements (dollarsEscaped value.text ++ y) :=
        statements_step .plain '=' start _ (by decide) (.inl (by decide))
      _ = _ := by
        rw [statements_dollarsEscaped value.quiet]
        simp [Entry.escaped]
  | bare => rfl

/-- The blank that is left of the text after the key and its value. -/
def gap : Option Remark → Text
  | none => []
  | some _ => [' ']

theorem statements_trailer (remark : Option Remark) {start : Text}
    (h : ∀ c ∈ start.head?, Text.isBlank c = false) (y : Text) :
    (inside start).statements (trailer remark ++ '\n' :: y) =
      .whole (start.reverse ++ gap remark) :: fresh.statements y := by
  cases remark with
  | none =>
    rw [gap, List.append_nil, ← closeLine_of_head h]
    rfl
  | some remark =>
    have inComment := statements_in_comment remark.oneLine (' ' :: start) y
    rw [List.reverse_cons] at inComment
    rw [gap, ← inComment]
    rfl

theorem exists_statements_blanks {blanks : Text} (h : ∀ c ∈ blanks, Text.isBlank c = true)
    (oneLine : '\n' ∉ blanks) {quoting : Quoting} (hq : quoting = .plain ∨ quoting = .blank)
    {start : Text} (hstart : ∀ c ∈ start, Text.isBlank c = true) :
    ∃ text, (∀ c ∈ text, Text.isBlank c = true) ∧ ∀ y,
      (Cursor.mk (.body true quoting) start).statements (blanks ++ '\n' :: y) =
        .whole text :: fresh.statements y := by
  induction blanks generalizing quoting start with
  | nil =>
    refine ⟨closeLine start, ?_, fun y => ?_⟩
    · unfold closeLine
      split <;> simp_all
    · rcases hq with rfl | rfl <;> rfl
  | cons c rest ih =>
    have hc := h c List.mem_cons_self
    have newline : c ≠ '\n' := (List.ne_of_not_mem_cons oneLine).symm
    have hash : c ≠ '#' := by rintro rfl; cases hc
    have next : quoting.next c = .plain ∨ quoting.next c = .blank := by
      have hback : c ≠ '\\' := by rintro rfl; cases hc
      have hdouble : c ≠ '"' := by rintro rfl; cases hc
      have hsingle : c ≠ '\'' := by rintro rfl; cases hc
      rcases hq with rfl | rfl
      · by_cases hr : c = '\r' <;> simp [Quoting.next, hr, hc, newline]
      · simp [Quoting.next, hback, hdouble, hsingle]
    have held : ∀ a ∈ c :: start, Text.isBlank a = true := by simpa [hc] using hstart
    obtain ⟨text, blank, reads⟩ := ih (fun a ha => h a (List.mem_cons_of_mem c ha))
      (List.not_mem_of_not_mem_cons oneLine) next held
    refine ⟨text, blank, fun y => ?_⟩
    rw [← reads y, List.cons_append, statements_cons]
    simp [ended?, Cursor.next, startNext, StatementScan.next, hash, newline, hc]

end Cursor

theorem escapeDollarsFrom_blanks {blanks : Text} (h : ∀ c ∈ blanks, Text.isBlank c = true)
    (y : Text) : escapeDollars (blanks ++ '\n' :: y) = blanks ++ '\n' :: escapeDollars y := by
  induction blanks with
  | nil => rfl
  | cons c rest ih =>
    have hc := h c List.mem_cons_self
    have hash : c ≠ '#' := by rintro rfl; cases hc
    have hback : c ≠ '\\' := by rintro rfl; cases hc
    have hdouble : c ≠ '"' := by rintro rfl; cases hc
    have hsingle : c ≠ '\'' := by rintro rfl; cases hc
    have dollar : c ≠ '$' := by rintro rfl; cases hc
    have stays : (DollarScan.plain true).next c = .plain true := by
      simp [DollarScan.next, hash, hback, hdouble, hsingle, hc]
    rw [List.cons_append, escapeDollars, escapeDollarsFrom_cons _ dollar, stays, ← escapeDollars,
      ih fun a ha => h a (List.mem_cons_of_mem c ha), List.cons_append]

theorem readValueFrom_quote_append (expand : Text → Text) (v y : Text) :
    readValueFrom expand (.text true) (quote v ++ y) =
      (readValueFrom expand (.text true) y).map (v ++ ·) := by
  induction v with
  | nil => simp [quote]
  | cons c v ih =>
    rw [quote_cons]
    split
    · rename_i h
      have kept : unescape? c = some c := by rcases h with rfl | rfl | rfl <;> rfl
      simp [readValueFrom, kept, ih, Function.comp_def]
    · rename_i h
      rw [not_or, not_or] at h
      simp [readValueFrom, h, ih, Function.comp_def]

theorem readValueFrom_quote (expand : Text → Text) (v : Text) :
    readValueFrom expand (.text true) (quote v ++ ['"']) = some v := by
  simp [readValueFrom_quote_append, readValueFrom]

theorem readValueFrom_dollarsEscaped (expand : Text → Text) {v : Text}
    (h : ∀ c ∈ v, isQuiet c = true) :
    readValueFrom expand (.text false) (dollarsEscaped v) = some v := by
  induction v with
  | nil => rfl
  | cons c v ih =>
    have hv := ih fun a ha => h a (List.mem_cons_of_mem c ha)
    rw [dollarsEscaped_cons]
    split
    · rename_i hc
      simp [readValueFrom, hc, unescape?, hv]
    · rename_i hc
      obtain ⟨hblank, hback, hsingle, hdouble⟩ := isQuiet_iff.mp (h c List.mem_cons_self)
      have space : c ≠ ' ' := by rintro rfl; cases hblank
      have tab : c ≠ '\t' := by rintro rfl; cases hblank
      simp [readValueFrom, hc, hback, hsingle, hdouble, space, tab, hv]

theorem isLead_lead (exported : Bool) : IsLead (lead exported) := by
  cases exported with
  | false => exact .inl rfl
  | true => exact .inr ⟨[' '], by simp, List.forall_mem_singleton.mpr (by decide), rfl⟩

theorem isBlank_of_mem_dollarsEscaped {v : Text} (h : ∀ c ∈ v, isQuiet c = true) :
    ∀ c ∈ dollarsEscaped v, Text.isBlank c = false := by
  intro c hc
  obtain ⟨a, ha, hc⟩ := List.mem_flatMap.mp hc
  have blank := (isQuiet_iff.mp (h a ha)).1
  split at hc
  · simp only [List.mem_cons, List.not_mem_nil, or_false] at hc
    rcases hc with rfl | rfl
    · decide
    · exact blank
  · simp only [List.mem_cons, List.not_mem_nil, or_false] at hc
    exact hc ▸ blank

theorem isBlank_entry_last (exported : Bool) (key : Key) (e : Entry) :
    ∀ c ∈ (lead exported ++ key.text ++ e.escaped).getLast?, Text.isBlank c = false := by
  cases e with
  | quoted value =>
    have last : Entry.escaped (.quoted value) = '=' :: '"' :: quote value ++ ['"'] := by
      simp [Entry.escaped, Entry.text]
    rw [last, ← List.append_assoc, List.getLast?_concat]
    rintro c ⟨⟩
    decide
  | plain value =>
    intro c hc
    rw [List.getLast?_append_of_ne_nil _ (by simp [Entry.escaped])] at hc
    rcases List.mem_cons.mp (List.mem_of_getLast? hc) with rfl | mem
    · decide
    · exact isBlank_of_mem_dollarsEscaped value.quiet c mem
  | bare =>
    simp only [Entry.escaped, Entry.text, List.append_nil]
    exact isBlank_of_isKey_last key.isKey (lead exported)

theorem isBlank_entry_head (exported : Bool) (key : Key) (e : Entry) :
    ∀ c ∈ (lead exported ++ key.text ++ e.escaped).head?, Text.isBlank c = false := by
  cases exported with
  | false =>
    rw [show lead false = [] from rfl, List.nil_append]
    exact isBlank_of_isKey_head key.isKey e.escaped
  | true =>
    rintro c ⟨⟩
    decide

def entryText (exported : Bool) (key : Key) (e : Entry) (remark : Option Remark) : Text :=
  lead exported ++ key.text ++ e.escaped ++ Cursor.gap remark

theorem trim_entryText (exported : Bool) (key : Key) (e : Entry) (remark : Option Remark) :
    Text.trim (entryText exported key e remark) = lead exported ++ key.text ++ e.escaped := by
  have blanks : ∀ c ∈ Cursor.gap remark, Text.isBlank c = true := by
    cases remark <;> simp [Cursor.gap]
    decide
  have trimmed := Text.trim_append_append (isBlank_entry_head exported key e)
    (isBlank_entry_last exported key e) (a := []) (by simp) blanks
  exact trimmed

theorem assigns_entryText {exported : Bool} {key : Key} {e : Entry} {value : Text}
    (h : e.escaped = '=' :: value) (remark : Option Remark) :
    (Statement.whole (entryText exported key e remark)).Assigns key.text value :=
  ⟨key.isKey, lead exported, '=' :: value, isLead_lead exported, by
    rw [Statement.text, trim_entryText, h], rfl⟩

theorem values_handle_assigned (env : Environment) (parsed : Parsed) {s : Statement} {key v : Text}
    (h : s.read (parsed.expand env) = .assigned key v) :
    (parsed.handle env s).values = parsed.values.insert key v := by
  rw [Parsed.handle, h, Parsed.apply]

theorem values_handle_entry (env : Environment) (parsed : Parsed) (exported : Bool) (key : Key)
    (e : Entry) (remark : Option Remark) :
    (parsed.handle env (.whole (entryText exported key e remark))).values =
      e.apply parsed.values key := by
  cases e with
  | quoted value =>
    have assigns : (Statement.whole (entryText exported key (.quoted value) remark)).Assigns key.text
        ('"' :: (quote value ++ ['"'])) := assigns_entryText rfl remark
    have read := readValueFrom_quote (parsed.expand env) value
    apply values_handle_assigned
    rw [Statement.read_of_assigns assigns, Text.trimStart_of_head (by rintro c ⟨⟩; decide),
      Reading.ofValue, if_neg (by simp [isVoid]), readValue, readValueFrom]
    simp [read]
  | plain value =>
    have assigns : (Statement.whole (entryText exported key (.plain value) remark)).Assigns key.text
        (dollarsEscaped value.text) := assigns_entryText rfl remark
    have read := readValueFrom_dollarsEscaped (parsed.expand env) value.quiet
    have head : ∀ c ∈ (dollarsEscaped value.text).head?, Text.isBlank c = false := fun c hc =>
      isBlank_of_mem_dollarsEscaped value.quiet c (List.mem_of_mem_head? hc)
    have void : isVoid (dollarsEscaped value.text) = false := by
      obtain ⟨c, rest, hc⟩ := List.exists_cons_of_ne_nil value.ne_nil
      have hash := value.head_ne_hash
      rw [hc, dollarsEscaped_cons]
      split <;> simp_all [isVoid]
    apply values_handle_assigned
    rw [Statement.read_of_assigns assigns, Text.trimStart_of_head head, Reading.ofValue, void,
      readValue, read]
    rfl
  | bare =>
    have bare : (Statement.whole (entryText exported key .bare remark)).IsBare key.text := by
      refine ⟨key.isKey, lead exported, isLead_lead exported, ?_⟩
      rw [Statement.text, trim_entryText]
      simp [Entry.escaped, Entry.text]
    have named : bareKey? (entryText exported key .bare remark) = some key.text :=
      Statement.isBare_iff.mp bare
    rw [Parsed.handle, Statement.read_of_isBare bare, Parsed.apply, named]
    rfl

theorem values_handle_blanks (env : Environment) (parsed : Parsed) {text : Text}
    (h : ∀ c ∈ text, Text.isBlank c = true) :
    (parsed.handle env (.whole text)).values = parsed.values := by
  have trimmed : Text.trim text = [] := by
    have := Text.trim_append_append (t := []) (by simp) (by simp) h (b := []) (by simp)
    simpa using this
  simp [Parsed.handle, Statement.read, Reading.ofText, trimmed, isVoid, Parsed.apply]

theorem Line.exists_statement (line : Line) :
    ∃ text, (∀ y, Cursor.fresh.statements (escapeDollars (line.text ++ '\n' :: y)) =
        .whole text :: Cursor.fresh.statements (escapeDollars y)) ∧
      ∀ env parsed, (Parsed.handle env parsed (.whole text)).values = line.apply parsed.values := by
  cases line with
  | blank blanks isBlank oneLine =>
    have nothing : ∀ c ∈ ([] : Text), Text.isBlank c = true := nofun
    obtain ⟨text, blank, reads⟩ :=
      Cursor.exists_statements_blanks isBlank oneLine (.inl rfl) nothing
    refine ⟨text, fun y => ?_, fun env parsed => values_handle_blanks env parsed blank⟩
    rw [Line.text, escapeDollarsFrom_blanks isBlank]
    exact reads (escapeDollars y)
  | comment remark =>
    refine ⟨[], fun y => ?_, fun env parsed => values_handle_blanks env parsed nofun⟩
    have inComment := Cursor.statements_comment (r := Cursor.fresh) rfl remark.oneLine
      (escapeDollars y)
    calc
      _ = Cursor.fresh.statements
          ('#' :: escapeDollarsFrom .comment (remark.text ++ '\n' :: y)) := rfl
      _ = _ := by
        rw [escapeDollarsFrom_comment_append _ _ remark.oneLine]
        exact inComment
  | statement exported key e remark =>
    refine ⟨entryText exported key e remark, fun y => ?_,
      fun env parsed => values_handle_entry env parsed exported key e remark⟩
    have last := isBlank_entry_last exported key e
    rw [← List.head?_reverse] at last
    calc
      _ = Cursor.fresh.statements (lead exported ++ (key.text ++ (e.escaped ++
          (trailer remark ++ '\n' :: escapeDollars y)))) := by
        simp only [Line.text, List.append_assoc]
        rw [escapeDollarsFrom_lead, escapeDollarsFrom_entry e (head_trailer_append remark y),
          escapeDollarsFrom_trailer]
      _ = (Cursor.inside (lead exported ++ key.text ++ e.escaped).reverse).statements
          (trailer remark ++ '\n' :: escapeDollars y) := by
        rw [Cursor.statements_lead, Cursor.statements_entry, ← List.reverse_append]
      _ = _ := by
        rw [Cursor.statements_trailer remark last, List.reverse_reverse]
        rfl

theorem values_foldl_write (env : Environment) (lines : List Line) (parsed : Parsed) :
    ((Cursor.fresh.statements (escapeDollars (write lines))).foldl
      (Parsed.handle env) parsed).values = lines.foldl Line.apply parsed.values := by
  induction lines generalizing parsed with
  | nil => rfl
  | cons line lines ih =>
    obtain ⟨text, reads, does⟩ := line.exists_statement
    have parts : write (line :: lines) = line.text ++ '\n' :: write lines := by
      simp [write]
    rw [parts, reads, List.foldl_cons, ih, does, List.foldl_cons]

theorem Key.head_append (key : Key) (rest : Text) : (key.text ++ rest).head? ≠ some '\ufeff' := by
  obtain ⟨c, more, hkey, hc, -⟩ := isKey_iff.mp key.isKey
  rw [hkey]
  rintro ⟨⟩
  exact absurd hc (by decide)

theorem Line.head_text (line : Line) : (line.text ++ ['\n']).head? ≠ some '\ufeff' := by
  cases line with
  | blank blanks isBlank oneLine =>
    cases blanks with
    | nil => exact (by decide : some '\n' ≠ some '\ufeff')
    | cons c rest =>
      have blank := isBlank c List.mem_cons_self
      rintro ⟨⟩
      exact absurd blank (by decide)
  | comment remark => exact (by decide : some '#' ≠ some '\ufeff')
  | statement exported key e remark =>
    cases exported with
    | true => exact (by decide : some 'e' ≠ some '\ufeff')
    | false =>
      simp only [Line.text, List.append_assoc]
      exact key.head_append _

theorem withoutMark_write (lines : List Line) : withoutMark (write lines) = write lines := by
  cases lines with
  | nil => rfl
  | cons line lines =>
    apply withoutMark_of_head
    have parts : write (line :: lines) = (line.text ++ ['\n']) ++ write lines := rfl
    rw [parts, List.head?_append_of_ne_nil _ (by simp)]
    exact line.head_text

/-- Loading a written file does what its lines say, with or without a mark before them. -/
theorem parse_write (env : Environment) (marked : Bool) (lines : List Line) :
    (parse env ((if marked then ['\ufeff'] else []) ++ write lines)).values =
      lines.foldl Line.apply .empty := by
  have unmarked :
      withoutMark ((if marked then ['\ufeff'] else []) ++ write lines) = write lines := by
    cases marked with
    | false => exact withoutMark_write lines
    | true => rfl
  rw [parse, unmarked, statements_eq]
  exact values_foldl_write env lines .empty

end SkillHost.Dotenv
