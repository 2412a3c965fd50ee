import SkillHost.Proofs.Log.Settled
import SkillHost.Proofs.Settings.Alike
import SkillHost.Proofs.Settings.Layers
import SkillHost.Settings.Resolver

/-! Opening a location. Its settings files are read from left to right, each after what those before
it have reported. The first one that cannot be read ends it; one that does not exist is as good as
one that sets nothing, and no text in a file is an error. -/
namespace SkillHost

namespace System

/-- Why a path cannot be read although it names something: it goes astray on the way, or what it leads
to is no file of text. -/
inductive Unreadable (s : System) (path : Path) : FileFault → Prop where
  | astray {fault : FileFault} (h : s.files.locate s.directory path = .error (.fault fault)) :
    Unreadable s path fault
  | directory {place : Place} (h : s.files.locate s.directory path = .ok place)
    (entry : s.files.entry? place = some .directory) : Unreadable s path .isDirectory
  | binary {place : Place} {bytes : List UInt8} (h : s.files.locate s.directory path = .ok place)
    (entry : s.files.entry? place = some (.file (.binary bytes))) : Unreadable s path .notText

def Missing (s : System) (path : Path) : Prop :=
  s.files.locate s.directory path = .error .notFound ∨
    ∃ place, s.files.locate s.directory path = .ok place ∧ s.files.entry? place = none

def HoldsText (s : System) (path : Path) (t : Text) : Prop :=
  ∃ place, s.files.locate s.directory path = .ok place ∧
    s.files.entry? place = some (.file (.text t))

variable {s : System} {path : Path}

theorem read_eq_failed_iff {fault : FileFault} :
    s.read path = .failed fault ↔ s.Unreadable path fault := by
  constructor
  · intro h
    unfold read Files.read at h
    split at h
    · cases h
    · rename_i located
      cases h
      exact .astray located
    · rename_i place located
      split at h
      · cases h
      · rename_i entry
        cases h
        exact .directory located entry
      · cases h
      · rename_i entry
        cases h
        exact .binary located entry
  · intro h
    unfold read Files.read
    cases h with
    | astray located => rw [located]
    | directory located entry => rw [located]; simp only [entry]
    | binary located entry => rw [located]; simp only [entry]

theorem Missing.read (h : s.Missing path) : s.read path = .absent := by
  unfold System.read Files.read
  obtain located | ⟨place, located, entry⟩ := h
  · rw [located]
  · rw [located]
    simp only [entry]

theorem HoldsText.read {t : Text} (h : s.HoldsText path t) : s.read path = .contents t := by
  unfold System.read Files.read
  obtain ⟨place, located, entry⟩ := h
  rw [located]
  simp only [entry]

end System

namespace Dotenv

/-- What is reported of a settings file as it is loaded; of one that cannot be read, nothing. -/
def report (p : Program) (path : Path) : List LogEntry :=
  let entry (level : LogLevel) (message : Text) : LogEntry :=
    ⟨level, "semkit_core::settings::dotenv_source".toList, message⟩
  match p.system.read path with
  | .absent => [entry .debug ("no settings file at ".toList ++ path.shown)]
  | .failed _ => []
  | .contents t =>
    let parsed := parse p.system.environment t
    List.replicate parsed.skipped
        (entry .warn ("skipping unparseable statement in ".toList ++ path.shown)) ++
      [entry .debug
        ("loaded ".toList ++ Text.ofNat parsed.values.size ++ " keys from ".toList ++ path.shown)]

def reports (p : Program) : List Path → List LogEntry
  | [] => []
  | path :: rest => report p path ++ reports (p.write (report p path)) rest

theorem load_of_unreadable {p : Program} {path : Path} {fault : FileFault}
    (h : p.system.Unreadable path fault) : load path p = ⟨[], .error (.file fault)⟩ := by
  rw [load_eq, System.read_eq_failed_iff.mpr h]

theorem load_of_readable {p : Program} {path : Path}
    (h : ∀ fault, ¬ p.system.Unreadable path fault) :
    ∃ file, load path p = ⟨report p path, .ok file⟩ := by
  rw [load_eq, report]
  cases read : p.system.read path with
  | absent => exact ⟨_, rfl⟩
  | failed fault => exact absurd (System.read_eq_failed_iff.mp read) (h fault)
  | contents t => exact ⟨_, rfl⟩

def loadAll : List Path → Operation Unit
  | [] => return ()
  | path :: rest => do
    let _ ← load path
    loadAll rest

theorem loadAll_append (paths more : List Path) :
    loadAll (paths ++ more) = loadAll paths >>= fun _ => loadAll more := by
  induction paths with
  | nil => rw [List.nil_append, loadAll, Operation.pure_bind]
  | cons path rest ih => rw [List.cons_append, loadAll, loadAll, ih, bind_assoc]

def AllReadable (p : Program) (paths : List Path) : Prop :=
  ∀ before path after, paths = before ++ path :: after →
    ∀ fault, ¬ (p.write (reports p before)).system.Unreadable path fault

structure FirstFault (p : Program) (before : List Path) (path : Path) (fault : FileFault) :
    Prop where
  readable : AllReadable p before
  unreadable : (p.write (reports p before)).system.Unreadable path fault

variable {p : Program} {path : Path} {rest : List Path}

theorem allReadable_cons : AllReadable p (path :: rest) ↔
    (∀ fault, ¬ p.system.Unreadable path fault) ∧ AllReadable (p.write (report p path)) rest := by
  constructor
  · intro h
    refine ⟨h [] path rest rfl, fun before other after parts => ?_⟩
    have later := h (path :: before) other after (by rw [parts, List.cons_append])
    rwa [reports, Program.write_append] at later
  · rintro ⟨first, later⟩ before other after parts
    cases before with
    | nil =>
      obtain ⟨rfl, -⟩ : path = other ∧ rest = after := by simpa using parts
      exact first
    | cons path' before =>
      obtain ⟨rfl, tail⟩ : path = path' ∧ rest = before ++ other :: after := by simpa using parts
      rw [reports, Program.write_append]
      exact later before other after tail

theorem loadAll_of_allReadable {p : Program} {paths : List Path} (h : AllReadable p paths) :
    loadAll paths p = ⟨reports p paths, .ok ()⟩ := by
  induction paths generalizing p with
  | nil => rfl
  | cons path rest ih =>
    obtain ⟨readable, later⟩ := allReadable_cons.mp h
    obtain ⟨file, loaded⟩ := load_of_readable readable
    have ok : (load path p).outcome = .ok file := by rw [loaded]
    rw [loadAll, Operation.bind_ok ok, loaded, ih later, reports]

theorem loadAll_of_firstFault {p : Program} {before : List Path} {path : Path} {fault : FileFault}
    (h : FirstFault p before path fault) (after : List Path) :
    loadAll (before ++ path :: after) p = ⟨reports p before, .error (.file fault)⟩ := by
  have loaded := loadAll_of_allReadable h.readable
  have failed := load_of_unreadable h.unreadable
  have ok : (loadAll before p).outcome = .ok () := by rw [loaded]
  rw [loadAll_append, Operation.bind_ok ok, loaded, loadAll, Operation.bind_error (by rw [failed]),
    failed, List.append_nil]

theorem allReadable_or_firstFault (p : Program) (paths : List Path) :
    AllReadable p paths ∨ ∃ before path after fault, paths = before ++ path :: after ∧
      FirstFault p before path fault := by
  induction paths generalizing p with
  | nil => exact .inl (by simp [AllReadable])
  | cons path rest ih =>
    by_cases readable : ∃ fault, p.system.Unreadable path fault
    · obtain ⟨fault, unreadable⟩ := readable
      exact .inr ⟨[], path, rest, fault, rfl, by simp [AllReadable], unreadable⟩
    · rw [not_exists] at readable
      obtain all | ⟨before, other, after, fault, parts, first⟩ := ih (p.write (report p path))
      · exact .inl (allReadable_cons.mpr ⟨readable, all⟩)
      · refine .inr ⟨path :: before, other, after, fault, by rw [parts, List.cons_append], ?_, ?_⟩
        · exact allReadable_cons.mpr ⟨readable, first.readable⟩
        · rw [reports, Program.write_append]
          exact first.unreadable

end Dotenv

namespace Location

def path? : Location → Option Path
  | dotenv path => some path
  | _ => none

def paths (location : Location) : List Path := location.leaves.filterMap path?

mutual

theorem loadAll_paths : ∀ location : Location,
    (fun _ => ()) <$> location.openSource = Dotenv.loadAll location.paths
  | dotenv path => by simp [openSource, paths, leaves, path?, Dotenv.loadAll]
  | environment | source _ => rfl
  | chain locations => by
    have parts := loadAll_leavesAll locations
    simpa [openSource, paths, leaves] using parts

theorem loadAll_leavesAll : ∀ locations : List Location,
    (fun _ => ()) <$> openSources locations =
      Dotenv.loadAll ((leavesAll locations).filterMap path?)
  | [] => by simp [openSources, leavesAll, Dotenv.loadAll]
  | location :: rest => by
    have first := loadAll_paths location
    have others := loadAll_leavesAll rest
    rw [leavesAll, List.filterMap_append, Dotenv.loadAll_append, ← others, ← paths, ← first,
      openSources]
    simp

end

mutual

theorem leaves_of_mem : ∀ {location leaf : Location}, leaf ∈ location.leaves → leaf.leaves = [leaf]
  | dotenv _, _, h | environment, _, h | source _, _, h => by
    rw [leaves, List.mem_singleton] at h
    rw [h, leaves]
  | chain locations, _, h => @leaves_of_mem_leavesAll locations _ h

theorem leaves_of_mem_leavesAll : ∀ {locations : List Location} {leaf : Location},
    leaf ∈ leavesAll locations → leaf.leaves = [leaf]
  | [], _, h => absurd h (List.not_mem_nil)
  | location :: rest, _, h => by
    rw [leavesAll, List.mem_append] at h
    exact h.elim leaves_of_mem leaves_of_mem_leavesAll

end

theorem leavesAll_eq_self {locations : List Location} (h : ∀ leaf ∈ locations, leaf.leaves = [leaf]) :
    leavesAll locations = locations := by
  induction locations with
  | nil => rfl
  | cons leaf rest ih =>
    rw [List.forall_mem_cons] at h
    rw [leavesAll, h.1, ih h.2, List.singleton_append]

theorem entries_openSources {locations : List Location} {p : Program} {sources : List Source}
    (flat : ∀ leaf ∈ locations, leaf.leaves = [leaf])
    (opens : (openSources locations p).outcome = .ok sources) :
    (openSources locations p).entries = Dotenv.reports p (locations.filterMap path?) := by
  have same := congrFun (loadAll_leavesAll locations) p
  rw [leavesAll_eq_self flat] at same
  obtain all | ⟨before, path, after, fault, parts, first⟩ :=
    Dotenv.allReadable_or_firstFault p (locations.filterMap path?)
  · rw [Dotenv.loadAll_of_allReadable all] at same
    obtain ⟨_, opened⟩ := Operation.exists_of_map_ok same
    rw [opened]
  · rw [parts, Dotenv.loadAll_of_firstFault first] at same
    rw [Operation.eq_of_map_error same] at opens
    cases opens

theorem openSource_of_allReadable {location : Location} {p : Program}
    (h : Dotenv.AllReadable p location.paths) :
    ∃ source, location.openSource p = ⟨Dotenv.reports p location.paths, .ok source⟩ := by
  have same := congrFun (loadAll_paths location) p
  rw [Dotenv.loadAll_of_allReadable h] at same
  exact Operation.exists_of_map_ok same

theorem openSource_of_firstFault {location : Location} {p : Program} {before after : List Path}
    {path : Path} {fault : FileFault} (parts : location.paths = before ++ path :: after)
    (first : Dotenv.FirstFault p before path fault) :
    location.openSource p = ⟨Dotenv.reports p before, .error (.file fault)⟩ := by
  have same := congrFun (loadAll_paths location) p
  rw [parts, Dotenv.loadAll_of_firstFault first] at same
  exact Operation.eq_of_map_error same

theorem fails_iff {location : Location} {p : Program} :
    (∃ e, (location.openSource p).outcome = .error e) ↔
      ¬ Dotenv.AllReadable p location.paths := by
  constructor
  · rintro ⟨e, fails⟩ all
    obtain ⟨source, opens⟩ := openSource_of_allReadable all
    rw [opens] at fails
    cases fails
  · intro some
    obtain all | ⟨before, path, after, fault, parts, first⟩ :=
      Dotenv.allReadable_or_firstFault p location.paths
    · exact absurd all some
    · exact ⟨_, by rw [openSource_of_firstFault parts first]⟩

theorem exists_openSources {location : Location} {p : Program} {source : Source}
    (opens : (location.openSource p).outcome = .ok source) :
    ∃ sources, (openSources location.leaves p).outcome = .ok sources ∧
      source.leaves = sources.flatMap Source.leaves := by
  have same := congrArg Logged.outcome (congrFun (openSource_leaves location) p)
  rw [Operation.outcome_map, Operation.outcome_map, opens] at same
  cases all : (openSources location.leaves p).outcome with
  | error e =>
    rw [all] at same
    cases same
  | ok sources =>
    rw [all] at same
    exact ⟨sources, rfl, Except.ok.inj same⟩

theorem length_of_openSources {locations : List Location} {p : Program} {sources : List Source}
    (opens : (openSources locations p).outcome = .ok sources) :
    sources.length = locations.length := by
  induction locations generalizing p sources with
  | nil =>
    cases opens
    rfl
  | cons location rest ih =>
    obtain ⟨source, -, others⟩ := Operation.exists_of_bind_ok opens
    obtain ⟨more, opened, ends⟩ := Operation.exists_of_bind_ok others
    cases ends
    rw [List.length_cons, List.length_cons, ih opened]

theorem exists_of_missing {location : Location} {p : Program} {before after : List Location}
    {path : Path} {source : Source} (parts : location.leaves = before ++ .dotenv path :: after)
    (missing : (p.write (Dotenv.reports p (before.filterMap path?))).system.Missing path)
    (opens : (location.openSource p).outcome = .ok source) :
    ∃ earlier file later,
      (openSources location.leaves p).outcome = .ok (earlier ++ .dotenv file :: later) ∧
      earlier.length = before.length ∧
      (∀ env key, (Source.dotenv file).get env key = none) ∧
      ∀ env key, source.get env key =
        Source.layered ((earlier ++ later).map (Source.get env key)) := by
  have flat : ∀ leaf ∈ before, leaf.leaves = [leaf] := fun leaf mem =>
    leaves_of_mem (by rw [parts]; exact List.mem_append_left _ mem)
  obtain ⟨sources, all, leaves⟩ := exists_openSources opens
  have opened := all
  rw [parts, openSources_append] at opened
  obtain ⟨earlier, first, others⟩ := Operation.exists_of_bind_ok opened
  obtain ⟨more, second, ends⟩ := Operation.exists_of_bind_ok others
  obtain ⟨given, loaded, rest⟩ := Operation.exists_of_bind_ok second
  obtain ⟨later, -, ends'⟩ := Operation.exists_of_bind_ok rest
  obtain ⟨file, found, ends''⟩ := Operation.exists_of_bind_ok loaded
  cases ends
  cases ends'
  cases ends''
  -- The leaf is opened in the program that has written what those before it report.
  rw [entries_openSources flat first, Dotenv.load_eq, missing.read] at found
  cases found
  refine ⟨earlier, _, later, all, length_of_openSources first, fun _ _ => rfl, fun env key => ?_⟩
  rw [Source.get_eq, leaves, ← Source.leavesAll_eq, ← Source.layered_map_eq]
  simp only [List.map_append, List.map_cons, Source.layered_append, Source.layered_cons]
  rfl

end Location

namespace Program

def Steady (p : Program) (path : Path) : Prop :=
  ∀ entries, (p.write entries).system.read path = p.system.read path

theorem Steady.unreadable_iff {p : Program} {path : Path} (h : p.Steady path)
    (entries : List LogEntry) (fault : FileFault) :
    (p.write entries).system.Unreadable path fault ↔ p.system.Unreadable path fault := by
  rw [← System.read_eq_failed_iff, ← System.read_eq_failed_iff, h entries]

end Program

theorem Dotenv.allReadable_iff_of_steady {p : Program} {paths : List Path}
    (steady : ∀ path ∈ paths, p.Steady path) :
    AllReadable p paths ↔ ∀ path ∈ paths, ∀ fault, ¬ p.system.Unreadable path fault := by
  constructor
  · intro all path mem fault
    obtain ⟨before, after, parts⟩ := List.mem_iff_append.mp mem
    rw [← (steady path mem).unreadable_iff (reports p before)]
    exact all before path after parts fault
  · intro all before path after parts fault
    have mem : path ∈ paths := by
      rw [parts]
      exact List.mem_append_right _ (List.mem_cons_self ..)
    rw [(steady path mem).unreadable_iff]
    exact all path mem fault

/-- An operation stops at a file that cannot be read. What is reported of the files before it is all
that shows in the log. -/
structure Operation.Stops {α : Type} (operation : Operation α) (p : Program)
    (before : List Path) (fault : FileFault) : Prop where
  outcome : operation p = ⟨Dotenv.reports p before, .error (.file fault)⟩
  log : ∀ minimum place, p.LogsTo minimum place →
    ∃ lines, DebugLog.Written minimum ((Dotenv.reports p before).map fun e => (p.time, e)) lines ∧
      (p.perform operation).1.system.files.held place = (p.system.files.held place).append lines

theorem Operation.stops_of_eq {α : Type} {operation : Operation α} {p : Program}
    {before : List Path} {fault : FileFault}
    (h : operation p = ⟨Dotenv.reports p before, .error (.file fault)⟩) :
    operation.Stops p before fault := by
  refine ⟨h, fun minimum place logs => ?_⟩
  rw [Program.perform, h]
  exact logs.held_write _

namespace Location

/-- What opening a location comes to. A file is read when those before it have been, with what was
reported of them in the log. -/
structure Opening (location : Location) (p : Program) : Prop where
  fails_iff : (∃ e, (location.openSource p).outcome = .error e) ↔
    ∃ before path after fault, location.paths = before ++ path :: after ∧
      (p.write (Dotenv.reports p before)).system.Unreadable path fault
  stops : ∀ before path after fault, location.paths = before ++ path :: after →
    Dotenv.FirstFault p before path fault → location.openSource.Stops p before fault ∧
      ∀ mode, (Resolver.resolveOpenAi ⟨location, mode⟩).Stops p before fault ∧
        ∀ deployment, (Resolver.resolveAzure ⟨location, mode⟩ deployment).Stops p before fault
  /-- Of files that logging does not change, this can be said as they are at the start. -/
  steady : (∀ path ∈ location.paths, p.Steady path) →
    ((∃ e, (location.openSource p).outcome = .error e) ↔
      ∃ path ∈ location.paths, ∃ fault, p.system.Unreadable path fault) ∧
    ∀ before path after fault, location.paths = before ++ path :: after →
      (Dotenv.FirstFault p before path fault ↔ p.system.Unreadable path fault ∧
        ∀ earlier ∈ before, ∀ fault, ¬ p.system.Unreadable earlier fault)
  opens : (∀ before path after, location.paths = before ++ path :: after →
    (p.write (Dotenv.reports p before)).system.Missing path ∨
      ∃ t, (p.write (Dotenv.reports p before)).system.HoldsText path t) →
    ∃ source, location.openSource p = ⟨Dotenv.reports p location.paths, .ok source⟩
  /-- A file that does not exist gives a source in which every key is absent; what is found is what the
  other leaves hold. -/
  missing : ∀ before path after source, location.leaves = before ++ .dotenv path :: after →
    (p.write (Dotenv.reports p (before.filterMap path?))).system.Missing path →
    (location.openSource p).outcome = .ok source → ∃ earlier file later,
      (openSources location.leaves p).outcome = .ok (earlier ++ .dotenv file :: later) ∧
      earlier.length = before.length ∧
      (∀ env key, (Source.dotenv file).get env key = none) ∧
      ∀ env key, source.get env key =
        Source.layered ((earlier ++ later).map (Source.get env key))

/-- A location opens unless one of its settings files cannot be read; the first such file is the
error. -/
theorem opens_unless_unreadable (location : Location) (p : Program) : Opening location p := by
  refine ⟨?_, ?_, ?_, ?_, ?_⟩
  · rw [fails_iff]
    simp only [Dotenv.AllReadable, not_forall, not_not, exists_prop, exists_and_left]
  · intro before path after fault parts first
    have stopped := openSource_of_firstFault parts first
    have failed : (location.openSource p).outcome = .error (.file fault) := by rw [stopped]
    refine ⟨Operation.stops_of_eq stopped, fun mode => ⟨Operation.stops_of_eq ?_,
      fun deployment => Operation.stops_of_eq ?_⟩⟩
    · rw [Resolver.resolveOpenAi, Operation.environment_bind, Operation.bind_error failed, stopped]
    · rw [Resolver.resolveAzure, Operation.environment_bind, Operation.bind_error failed, stopped]
  · intro steady
    refine ⟨?_, fun before path after fault parts => ?_⟩
    · rw [fails_iff, Dotenv.allReadable_iff_of_steady steady]
      simp only [not_forall, not_not, exists_prop]
    · rw [parts] at steady
      have firsts : ∀ earlier ∈ before, p.Steady earlier := fun earlier mem =>
        steady earlier (List.mem_append_left _ mem)
      have last : p.Steady path := steady path (List.mem_append_right _ (List.mem_cons_self ..))
      rw [← Dotenv.allReadable_iff_of_steady firsts, ← last.unreadable_iff (Dotenv.reports p before)]
      exact ⟨fun h => ⟨h.unreadable, h.readable⟩, fun h => ⟨h.2, h.1⟩⟩
  · intro each
    refine openSource_of_allReadable fun before path after parts fault unreadable => ?_
    rw [← System.read_eq_failed_iff] at unreadable
    obtain missing | ⟨t, text⟩ := each before path after parts
    · rw [missing.read] at unreadable
      cases unreadable
    · rw [text.read] at unreadable
      cases unreadable
  · intro before path after source parts missing opens
    exact exists_of_missing parts missing opens

/-- A process that logs into its working directory and has not logged yet. -/
def logsBeside : Program where
  system :=
    { environment := (Environment.empty.set "SEMKIT_DEBUG".toList (.text ['1'])).set
        "TMPDIR".toList (.text ['.'])
      files := .empty
      directory := [] }
  log := .unconfigured
  time := .epoch

/-- What is reported of the first file makes the log, and the log is no directory. -/
example : (match logsBeside.system.read (.ofText "semkit-debug.log/x".toList) with
    | .absent => true
    | _ => false) = true ∧
    (openSource (.chain [.dotenv Resolver.defaultFile, .dotenv (.ofText "semkit-debug.log/x".toList)])
      logsBeside).outcome = .error (.file .notDirectory) := by
  exact ⟨rfl, rfl⟩

end Location
end SkillHost
