import SkillHost.Log.DebugLog

/-! The lines of the debug log as they are read in its file: `[TIME] [LEVEL] [module] message`, the
time as `HH:MM:SS.mmm`, or with question marks for its digits where the clock stands before 1970. -/
namespace SkillHost

structure Writes (width n : Nat) (digits : Text) : Prop where
  length : digits.length = width
  isDigit : ∀ c ∈ digits, c.isDigit = true
  value : Nat.ofDigitChars 10 digits 0 = n

theorem ofDigitChars_replicate_append (n : Nat) (t : Text) :
    Nat.ofDigitChars 10 (List.replicate n '0' ++ t) 0 = Nat.ofDigitChars 10 t 0 := by
  induction n with
  | zero => rfl
  | succ n ih => exact ih

theorem writes_padded {width n : Nat} (positive : 0 < width) (h : n < Nat.pow 10 width) :
    Writes width n (Text.padded width n) := by
  have short : (Text.ofNat n).length ≤ width :=
    (Nat.length_toDigits_le_iff (by decide) positive).mpr h
  refine ⟨?_, fun c mem => ?_, ?_⟩
  · rw [Text.padded, List.length_append, List.length_replicate, Nat.sub_add_cancel short]
  · rw [Text.padded, List.mem_append] at mem
    rcases mem with zero | digit
    · rw [List.eq_of_mem_replicate zero]
      rfl
    · exact Nat.isDigit_of_mem_toDigits (by decide) (by decide) digit
  · rw [Text.padded, ofDigitChars_replicate_append]
    exact Nat.ofDigitChars_ten_toDigits

inductive Clock.Stamp (c : Clock) : Text → Prop where
  | known {hour minute second millisecond : Text} (h : 0 ≤ c.day) (hh : Writes 2 c.hour hour)
      (mm : Writes 2 c.minute minute) (ss : Writes 2 (c.millisecond / 1000) second)
      (mmm : Writes 3 (c.millisecond % 1000) millisecond) :
      Stamp c (hour ++ ':' :: minute ++ ':' :: second ++ '.' :: millisecond)
  | before (h : c.day < 0) : Stamp c "??:??:??.???".toList

theorem Clock.stamp_text (c : Clock) : c.Stamp c.text := by
  rw [text]
  split
  · exact .before ‹_›
  · have second : c.millisecond.val / 1000 < 60 := Nat.div_lt_of_lt_mul c.millisecond.isLt
    refine .known (Int.not_lt.mp ‹_›) (writes_padded (by decide) ?_) (writes_padded (by decide) ?_)
      (writes_padded (by decide) ?_) (writes_padded (by decide) ?_)
    · exact Nat.lt_trans c.hour.isLt (by decide)
    · exact Nat.lt_trans c.minute.isLt (by decide)
    · exact Nat.lt_trans second (by decide)
    · exact Nat.mod_lt _ (by decide)

namespace LogLevel

/-- The levels in ascending order, each with its name in a line. -/
def named : List (LogLevel × String) :=
  [(.trace, "TRACE"), (.debug, "DEBUG"), (.info, "INFO "), (.warn, "WARN "), (.error, "ERROR")]

def reaches (minimum level : LogLevel) : Bool :=
  ((named.map Prod.fst).dropWhile (· ≠ minimum)).contains level

theorem tag_mem_named (level : LogLevel) :
    ∃ name : String, name.toList = level.tag ∧ (level, name) ∈ named := by
  cases level with
  | trace => exact ⟨"TRACE", rfl, by decide⟩
  | debug => exact ⟨"DEBUG", rfl, by decide⟩
  | info => exact ⟨"INFO ", rfl, by decide⟩
  | warn => exact ⟨"WARN ", rfl, by decide⟩
  | error => exact ⟨"ERROR", rfl, by decide⟩

theorem rank_le_iff (minimum level : LogLevel) :
    minimum.rank ≤ level.rank ↔ minimum.reaches level = true := by
  cases minimum <;> cases level <;> decide

end LogLevel

inductive LogEntry.Line (time : Clock) (e : LogEntry) : Text → Prop where
  | mk {stamp : Text} {name : String} (h : time.Stamp stamp)
      (named : (e.level, name) ∈ LogLevel.named) :
    Line time e ("[".toList ++ stamp ++ "] [".toList ++ name.toList ++ "] [".toList ++ e.module ++
      "] ".toList ++ e.message ++ "\n".toList)

theorem LogEntry.line_line (time : Clock) (e : LogEntry) : e.Line time (e.line time) := by
  obtain ⟨name, tag, named⟩ := e.level.tag_mem_named
  rw [line, ← tag]
  exact .mk time.stamp_text named

namespace DebugLog

/-- What log calls add to the file, each call with the time of it: one line for every call that
reaches the minimum, in the order of the calls. -/
inductive Written (minimum : LogLevel) : List (Clock × LogEntry) → Text → Prop where
  | nil : Written minimum [] []
  | line {time : Clock} {e : LogEntry} {rest : List (Clock × LogEntry)} {line t : Text}
      (h : minimum.reaches e.level = true) (shape : e.Line time line)
      (more : Written minimum rest t) :
    Written minimum ((time, e) :: rest) (line ++ t)
  | dropped {time : Clock} {e : LogEntry} {rest : List (Clock × LogEntry)} {t : Text}
      (h : minimum.reaches e.level = false) (more : Written minimum rest t) :
    Written minimum ((time, e) :: rest) t

def linesOf (minimum : LogLevel) (calls : List (Clock × LogEntry)) : Text :=
  (calls.filter fun c => minimum.rank ≤ c.2.level.rank).flatMap fun c => c.2.line c.1

theorem linesOf_nil (minimum : LogLevel) : linesOf minimum [] = [] := rfl

theorem linesOf_append (minimum : LogLevel) (calls more : List (Clock × LogEntry)) :
    linesOf minimum (calls ++ more) = linesOf minimum calls ++ linesOf minimum more := by
  simp [linesOf]

theorem linesOf_map (minimum : LogLevel) (time : Clock) (entries : List LogEntry) :
    linesOf minimum (entries.map fun e => (time, e)) = lines minimum time entries := by
  simp only [linesOf, lines, List.filter_map, List.flatMap_map]
  rfl

theorem written_linesOf (minimum : LogLevel) (calls : List (Clock × LogEntry)) :
    Written minimum calls (linesOf minimum calls) := by
  induction calls with
  | nil => exact .nil
  | cons call rest ih =>
    obtain ⟨time, e⟩ := call
    by_cases enough : minimum.rank ≤ e.level.rank
    · have first : linesOf minimum ((time, e) :: rest) = e.line time ++ linesOf minimum rest := by
        simp [linesOf, enough]
      rw [first]
      exact .line ((LogLevel.rank_le_iff ..).mp enough) (e.line_line time) ih
    · have same : linesOf minimum ((time, e) :: rest) = linesOf minimum rest := by
        simp [linesOf, enough]
      rw [same]
      exact .dropped (Bool.eq_false_iff.mpr fun h => enough ((LogLevel.rank_le_iff ..).mpr h)) ih

end DebugLog

end SkillHost
