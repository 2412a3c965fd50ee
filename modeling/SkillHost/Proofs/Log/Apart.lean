import SkillHost.Program

/-! What logging does to the rest of the files. Lines at the end of the log change what is read at
the place of the log alone: every path leads where it led before. -/
namespace SkillHost

namespace Files

theorem entry_of_ne_nil (files : Files) {place : Place} (h : place ≠ []) :
    files.entry? place = files.entries.get? place := by
  simp [h, entry?]

theorem entry_put (files : Files) {place : Place} (h : place ≠ []) (content : Content) :
    Files.entry? (files.put place content) place = some (.file content) := by
  rw [entry_of_ne_nil _ h, put, Table.get?_insert, if_pos rfl]

theorem entry_appendAt (files : Files) {place : Place} {content : Content}
    (h : files.entry? place = some (.file content)) (more : Text) :
    Files.entry? (files.appendAt place more) place = some (.file (content.append more)) := by
  have named : place ≠ [] := by
    intro root
    rw [root, entry?] at h
    cases h
  rw [entry_of_ne_nil _ named] at h
  rw [appendAt, h]
  exact entry_put files named _

theorem follow_congr {files files' : Files}
    (directories : ∀ place, files.isDirectory place = files'.isDirectory place)
    (entries : ∀ place, (files.entry? place).isSome = (files'.entry? place).isSome)
    (place : Place) (parts : List FileName) :
    files.follow place parts = files'.follow place parts := by
  induction parts generalizing place with
  | nil => rfl
  | cons part rest ih => simp only [follow, directories, entries, ih]

theorem entry_appendAt_of_ne (files : Files) {place other : Place} (h : other ≠ place)
    (more : Text) : Files.entry? (files.appendAt place more) other = files.entry? other := by
  unfold appendAt
  split
  · unfold entry? put
    rw [Table.get?_insert, if_neg h]
  · rfl

theorem entry_appendAt_self (files : Files) (place : Place) (more : Text) :
    Files.entry? (files.appendAt place more) place = files.entry? place ∨
      ∃ content content', files.entry? place = some (.file content) ∧
        Files.entry? (files.appendAt place more) place = some (.file content') := by
  by_cases root : place.isEmpty
  · simp [root, entry?]
  unfold appendAt
  split
  · rename_i content found
    exact .inr ⟨content, content.append more, by simp [root, entry?, found],
      by simp [root, entry?, put]⟩
  · exact .inl rfl

theorem locate_appendAt (files : Files) (place : Place) (more : Text) (directory : Place)
    (path : Path) : (files.appendAt place more).locate directory path =
      files.locate directory path := by
  have same (other : Place) :
      (files.appendAt place more).isDirectory other = files.isDirectory other ∧
        (Files.entry? (files.appendAt place more) other).isSome = (files.entry? other).isSome := by
    by_cases here : other = place
    · subst here
      obtain same | ⟨content, content', before, after⟩ := files.entry_appendAt_self other more
      · simp only [isDirectory, same, and_self]
      · simp only [isDirectory, before, after, Option.isSome_some, and_self]
    · simp only [isDirectory, files.entry_appendAt_of_ne here, and_self]
  unfold locate
  split
  · rfl
  · exact follow_congr (fun other => (same other).1) (fun other => (same other).2) _ _

theorem read_appendAt {files : Files} {place directory : Place} {path : Path}
    (apart : files.locate directory path ≠ .ok place) (more : Text) :
    (files.appendAt place more).read directory path = files.read directory path := by
  rw [read, read, locate_appendAt]
  cases found : files.locate directory path with
  | error e => cases e <;> rfl
  | ok other =>
    have elsewhere : other ≠ place := fun same => apart (by rw [found, same])
    simp only [files.entry_appendAt_of_ne elsewhere]

end Files

namespace Program

/-- The log is configured, and a path does not lead to its file. -/
def Apart (p : Program) (path : Path) : Prop :=
  ∃ minimum file, p.log = .configured minimum file ∧
    ∀ place, file = some place → p.system.files.locate p.system.directory path ≠ .ok place

theorem write_of_configured {p : Program} {minimum : LogLevel} {file : Option Place}
    (h : p.log = .configured minimum file) (entries : List LogEntry) :
    p.write entries = p ∨ ∃ place more, file = some place ∧
      p.write entries = p.withFiles (p.system.files.appendAt place more) := by
  rw [write]
  split
  · exact .inl rfl
  · rw [configureLog_of_configured h, appendToLog, h]
    cases file with
    | none => exact .inl rfl
    | some place => exact .inr ⟨place, _, rfl, rfl⟩

theorem Apart.read_write {p : Program} {path : Path} (h : p.Apart path)
    (entries : List LogEntry) : (p.write entries).system.read path = p.system.read path := by
  obtain ⟨minimum, file, configured, apart⟩ := h
  obtain same | ⟨place, more, opened, written⟩ := write_of_configured configured entries
  · rw [same]
  · rw [written]
    exact Files.read_appendAt (apart place opened) more

end Program

end SkillHost
