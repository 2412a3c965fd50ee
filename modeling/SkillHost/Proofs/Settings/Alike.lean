import Mathlib.Data.List.Forall2
import SkillHost.Proofs.Log.Apart
import SkillHost.Proofs.Settings.Leaves

/-! Settings of two programs that differ in values alone. What the programs do is compared step by
step: operations match if they report the same entries and fail alike, and what one of them gives is
related to what the other gives. Locations that differ in values alone are opened alike. -/
namespace SkillHost

inductive Agree {α β : Type} (R : α → β → Prop) :
    Except SettingsError α → Except SettingsError β → Prop where
  | ok {a : α} {b : β} (related : R a b) : Agree R (.ok a) (.ok b)
  | error (e : SettingsError) : Agree R (.error e) (.error e)

structure Matches {α β : Type} (R : α → β → Prop) (x : Logged α) (y : Logged β) : Prop where
  entries : x.entries = y.entries
  outcome : Agree R x.outcome y.outcome

namespace Matches
variable {α α' β β' : Type} {R : α → α' → Prop} {S : β → β' → Prop} {p p' : Program}

theorem pure {a : α} {a' : α'} (h : R a a') :
    Matches R ((pure a : Operation α) p) ((pure a' : Operation α') p') :=
  ⟨rfl, .ok h⟩

theorem fail (e : SettingsError) :
    Matches R ((Operation.fail e : Operation α) p) ((Operation.fail e : Operation α') p') :=
  ⟨rfl, .error e⟩

theorem log (level : LogLevel) (module message : Text) :
    Matches (fun _ _ => True) (Operation.log level module message p)
      (Operation.log level module message p') :=
  ⟨rfl, .ok trivial⟩

theorem bind {x : Operation α} {x' : Operation α'} (h : Matches R (x p) (x' p'))
    {f : α → Operation β} {f' : α' → Operation β'}
    (next : ∀ a a', R a a' →
      Matches S (f a (p.write (x p).entries)) (f' a' (p'.write (x' p').entries))) :
    Matches S ((x >>= f) p) ((x' >>= f') p') := by
  have outcome := h.outcome
  generalize ends : (x p).outcome = o at outcome
  generalize ends' : (x' p').outcome = o' at outcome
  cases outcome with
  | error e =>
    rw [Operation.bind_error ends, Operation.bind_error ends']
    exact ⟨h.entries, .error e⟩
  | ok related =>
    have rest := next _ _ related
    rw [Operation.bind_ok ends, Operation.bind_ok ends']
    exact ⟨congrArg₂ _ h.entries rest.entries, rest.outcome⟩

end Matches

/-- Whether there is a value for a credential key, and not an empty one. -/
def Dotenv.fills (values : Table Text Text) (key : CredentialKey) : Bool :=
  ((values.get? key.settingName).filter fun value => !value.isEmpty).isSome

structure Dotenv.Parsed.Alike (parsed parsed' : Parsed) : Prop where
  size : parsed.values.size = parsed'.values.size
  skipped : parsed.skipped = parsed'.skipped
  fills : ∀ key, Dotenv.fills parsed.values key = Dotenv.fills parsed'.values key

inductive Dotenv.ReadsAlike (env env' : Environment) : ReadOutcome → ReadOutcome → Prop where
  | absent : ReadsAlike env env' .absent .absent
  | failed (fault : FileFault) : ReadsAlike env env' (.failed fault) (.failed fault)
  | contents {t t' : Text} (h : (parse env t).Alike (parse env' t')) :
    ReadsAlike env env' (.contents t) (.contents t')

structure Source.Alike (env env' : Environment) (source source' : Source) : Prop where
  describe : source.describe = source'.describe
  has : ∀ key : CredentialKey, source.has env key.settingName = source'.has env' key.settingName

namespace Location

mutual

/-- Locations that differ in values alone. A leaf is compared as it is when it is opened: the log is
a file too, and may be among those that are read. -/
inductive Alike : Program → Program → Location → Location → Prop where
  | dotenv {p p' : Program} {path : Path}
    (reads : Dotenv.ReadsAlike p.system.environment p'.system.environment
      (p.system.read path) (p'.system.read path)) :
    Alike p p' (.dotenv path) (.dotenv path)
  | environment {p p' : Program}
    (has : ∀ key : CredentialKey, Source.environment.has p.system.environment key.settingName =
      Source.environment.has p'.system.environment key.settingName) :
    Alike p p' .environment .environment
  | source {p p' : Program} {given given' : Source}
    (alike : given.Alike p.system.environment p'.system.environment given') :
    Alike p p' (.source given) (.source given')
  | chain {p p' : Program} {locations locations' : List Location}
    (alike : AlikeAll p p' locations locations') :
    Alike p p' (.chain locations) (.chain locations')

inductive AlikeAll : Program → Program → List Location → List Location → Prop where
  | nil {p p' : Program} : AlikeAll p p' [] []
  | cons {p p' : Program} {location location' : Location} {rest rest' : List Location}
    (first : Alike p p' location location')
    (others : AlikeAll (p.write (location.openSource p).entries)
      (p'.write (location'.openSource p').entries) rest rest') :
    AlikeAll p p' (location :: rest) (location' :: rest')

end

/-- Programs in which the files of some locations read the same, whatever is logged. -/
structure ReadsSame (locations : List Location) (p q : Program) : Prop where
  environment : p.system.environment = q.system.environment
  read : ∀ path, .dotenv path ∈ locations → ∀ entries entries',
    (p.write entries).system.read path = (q.write entries').system.read path

section
variable {locations : List Location} {p q : Program} (h : ReadsSame locations p q)
include h

theorem ReadsSame.mono {fewer : List Location} (sub : fewer ⊆ locations) :
    ReadsSame fewer p q :=
  ⟨h.environment, fun path leaf => h.read path (sub leaf)⟩

theorem ReadsSame.write (entries entries' : List LogEntry) :
    ReadsSame locations (p.write entries) (q.write entries') := by
  refine ⟨?_, fun path leaf more more' => ?_⟩
  · rw [Program.write_environment, Program.write_environment, h.environment]
  · rw [← Program.write_append, ← Program.write_append]
    exact h.read path leaf _ _

end

mutual

theorem Alike.of_readsSame {p p' q q' : Program} {location location' : Location}
    (alike : Alike p p' location location') (same : ReadsSame location.leaves p q)
    (same' : ReadsSame location'.leaves p' q') : Alike q q' location location' :=
  match alike with
  | @Alike.dotenv _ _ path reads => by
    have read := same.read path (by rw [leaves, List.mem_singleton]) [] []
    have read' := same'.read path (by rw [leaves, List.mem_singleton]) [] []
    rw [same.environment, same'.environment] at reads
    simp only [Program.write_nil] at read read'
    rw [read, read'] at reads
    exact .dotenv reads
  | .environment has => by
    rw [same.environment, same'.environment] at has
    exact .environment has
  | .source alike => by
    rw [same.environment, same'.environment] at alike
    exact .source alike
  | .chain alike => .chain (alike.of_readsSame same same')

theorem AlikeAll.of_readsSame {p p' q q' : Program} {locations locations' : List Location}
    (alike : AlikeAll p p' locations locations') (same : ReadsSame (leavesAll locations) p q)
    (same' : ReadsSame (leavesAll locations') p' q') : AlikeAll q q' locations locations' :=
  match alike with
  | .nil => .nil
  | .cons first others => by
    rw [leavesAll] at same same'
    refine .cons (first.of_readsSame (same.mono (List.subset_append_left ..))
      (same'.mono (List.subset_append_left ..))) ?_
    exact others.of_readsSame ((same.mono (List.subset_append_right ..)).write _ _)
      ((same'.mono (List.subset_append_right ..)).write _ _)

end

theorem AlikeAll.cons_of_apart {p p' : Program} {location location' : Location}
    {rest rest' : List Location} (first : Alike p p' location location')
    (others : AlikeAll p p' rest rest')
    (apart : ∀ path, .dotenv path ∈ leavesAll rest → p.Apart path)
    (apart' : ∀ path, .dotenv path ∈ leavesAll rest' → p'.Apart path) :
    AlikeAll p p' (location :: rest) (location' :: rest') := by
  have same {q : Program} {locations : List Location} (entries : List LogEntry)
      (apart : ∀ path, .dotenv path ∈ locations → q.Apart path) :
      ReadsSame locations q (q.write entries) := by
    refine ⟨(Program.write_environment q entries).symm, fun path leaf more more' => ?_⟩
    rw [← Program.write_append, (apart path leaf).read_write, (apart path leaf).read_write]
  exact .cons first (others.of_readsSame (same _ apart) (same _ apart'))

end Location

theorem Dotenv.load_eq (path : Path) (p : Program) :
    load path p = match p.system.read path with
      | .absent =>
        ⟨[⟨.debug, logModule, "no settings file at ".toList ++ path.shown⟩], .ok ⟨some path, .empty⟩⟩
      | .failed fault => ⟨[], .error (.file fault)⟩
      | .contents t =>
        ⟨skipEntries (some path) (parse p.system.environment t) ++
          [⟨.debug, logModule, "loaded ".toList ++
            Text.ofNat (parse p.system.environment t).values.size ++ " keys from ".toList ++
              path.shown⟩], .ok ⟨some path, (parse p.system.environment t).values⟩⟩ := by
  rw [load, Operation.bind_ok rfl]
  simp only [Operation.system, Program.write_nil]
  cases p.system.read path <;> rfl

theorem Dotenv.matches_load {p p' : Program} {path : Path}
    (h : ReadsAlike p.system.environment p'.system.environment
      (p.system.read path) (p'.system.read path)) :
    Matches (fun file file' => file.path = file'.path ∧
        ∀ key, fills file.values key = fills file'.values key)
      (load path p) (load path p') := by
  rw [load_eq, load_eq]
  generalize p.system.read path = read at h
  generalize p'.system.read path = read' at h
  cases h with
  | absent => exact ⟨rfl, .ok ⟨rfl, fun _ => rfl⟩⟩
  | failed fault => exact ⟨rfl, .error _⟩
  | contents alike =>
    refine ⟨?_, .ok ⟨rfl, alike.fills⟩⟩
    simp only [skipEntries, alike.skipped, alike.size]

namespace Source

theorem has_dotenv (env : Environment) (file : Dotenv) (key : CredentialKey) :
    (dotenv file).has env key.settingName = Dotenv.fills file.values key := by
  simp only [has, getNonEmpty, Source.get, Dotenv.fills]

theorem has_chain (env : Environment) (sources : List Source) (key : Text) :
    (chain sources).has env key = sources.any fun source => source.has env key := by
  rw [has, getNonEmpty_eq_filled?, filled?_chain]
  induction sources with
  | nil => rfl
  | cons source rest ih =>
    rw [firstValue_cons, Option.isSome_or, ih, List.any_cons, has, getNonEmpty_eq_filled?]

theorem describe_dotenv (file : Dotenv) : (dotenv file).describe = file.describe := rfl

theorem describe_chain_cons (source : Source) (rest : List Source) :
    (chain (source :: rest)).describe =
      Text.joinWith " or ".toList (describeAll (source :: rest)) := rfl

theorem describeAll_cons (source : Source) (rest : List Source) :
    describeAll (source :: rest) = source.describe :: describeAll rest := rfl

theorem alike_chain {env env' : Environment} {sources sources' : List Source}
    (h : List.Forall₂ (Alike env env') sources sources') :
    (chain sources).Alike env env' (chain sources') := by
  have descriptions : describeAll sources = describeAll sources' := by
    induction h with
    | nil => rfl
    | cons first _ ih => rw [describeAll_cons, describeAll_cons, first.describe, ih]
  refine ⟨?_, fun key => ?_⟩
  · cases h with
    | nil => rfl
    | cons first others => rw [describe_chain_cons, describe_chain_cons, descriptions]
  · rw [has_chain, has_chain]
    clear descriptions
    induction h with
    | nil => rfl
    | cons first _ ih => rw [List.any_cons, List.any_cons, first.has key, ih]

end Source

namespace Location

mutual

theorem matches_openSource {p p' : Program} {location location' : Location}
    (h : Alike p p' location location') :
    Matches (Source.Alike p.system.environment p'.system.environment)
      (location.openSource p) (location'.openSource p') :=
  match h with
  | .dotenv reads => by
    rw [openSource]
    refine (Dotenv.matches_load reads).bind fun file file' same => Matches.pure ⟨?_, fun key => ?_⟩
    · rw [Source.describe_dotenv, Source.describe_dotenv, Dotenv.describe, Dotenv.describe, same.1]
    · rw [Source.has_dotenv, Source.has_dotenv, same.2]
  | .environment has => Matches.pure ⟨rfl, has⟩
  | .source alike => Matches.pure alike
  | .chain alike => by
    rw [openSource]
    exact (matches_openSources alike).bind fun _ _ sources => Matches.pure (Source.alike_chain sources)

theorem matches_openSources {p p' : Program} {locations locations' : List Location}
    (h : AlikeAll p p' locations locations') :
    Matches (List.Forall₂ (Source.Alike p.system.environment p'.system.environment))
      (openSources locations p) (openSources locations' p') :=
  match h with
  | .nil => Matches.pure .nil
  | .cons first others => by
    have rest := matches_openSources others
    rw [Program.write_environment, Program.write_environment] at rest
    rw [openSources]
    refine (matches_openSource first).bind fun _ _ source => ?_
    exact rest.bind fun _ _ sources => Matches.pure (.cons source sources)

end

end Location

end SkillHost
