import SyncProbe.Proofs.CommandLine.Timeouts
import SyncProbe.Proofs.Url.Reading

/-!
# The values of a configuration

A value is checked as it is read, whether it stands on the command line, in the environment or in
the program as a default. `Setting.Valid` is what the checks make sure of. Reading keeps it of all
settings from one argument to the next.

Results:
1. `valid_of_read`: a value that is read for a slot is valid.
2. `Scan.valid_of_read`: all settings of a command line are valid.
3. `valid_of_parse`: so are the endpoint and the idle timeout of a configuration.
-/

namespace SyncProbe.CommandLine

/-! ## Values -/

/-- A value comes from the settings or from the fallback, and both are checked. -/
theorem resolve_ok {α : Type} {set : Option α} {read : Bytes → Except Refusal α} {bytes : Bytes}
    {value : α} {good : α → Prop} (given : ∀ value, set = some value → good value)
    (checked : ∀ value, read bytes = .ok value → good value)
    (resolves : resolve set read bytes = .ok value) : good value := by
  cases set with
  | some other =>
    cases resolves
    exact given value rfl
  | none => exact checked value resolves

variable [Naming]

/-- The program can connect to the URL. -/
structure IsEndpoint (url : Url) : Prop where
  reads : url.IsRead
  scheme : url.scheme = endpointScheme
  host : url.host?.isSome

/-- What is made sure of when a value is read. -/
def Setting.Valid : Setting → Prop
  | .url value => IsEndpoint value
  | .idleTimeout milliseconds => IsTimeout milliseconds
  | .format _ | .inspect => True

theorem isEndpoint_of_readEndpoint {text : String} {url : Url}
    (reads : readEndpoint text = .ok url) : IsEndpoint url := by
  obtain ⟨parsed, parses, checks⟩ := bind_eq_ok_iff.mp reads
  split at checks
  · cases checks
  · next scheme =>
    split at checks
    · cases checks
    · next host =>
      cases checks
      exact ⟨Url.isRead_of_parse (mapError_eq_ok_iff.mp parses), Decidable.not_not.mp scheme,
        Option.isSome_iff_ne_none.mpr (by simpa using host)⟩

theorem isEndpoint_of_readUrl {bytes : Bytes} {url : Url} (reads : readUrl bytes = .ok url) :
    IsEndpoint url := by
  obtain ⟨text, _, reads⟩ := readText_eq_ok_iff.mp reads
  exact isEndpoint_of_readEndpoint reads

theorem valid_of_read {slot : Slot} {bytes : Bytes} {setting : Setting}
    (reads : slot.read bytes = .ok setting) : setting.Valid := by
  cases slot with
  | url =>
    obtain ⟨url, readsUrl, rfl⟩ := map_eq_ok_iff.mp reads
    exact isEndpoint_of_readUrl readsUrl
  | idleTimeout =>
    obtain ⟨milliseconds, readsTimeout, rfl⟩ := map_eq_ok_iff.mp reads
    exact isTimeout_of_readIdleTimeout readsTimeout
  | format =>
    obtain ⟨format, _, rfl⟩ := map_eq_ok_iff.mp reads
    exact trivial

/-! ## Arguments -/

namespace Scan

/-- Every setting so far is valid. -/
def Valid (scan : Scan) : Prop :=
  ∀ setting ∈ scan.settings, setting.Valid

variable {scan next : Scan}

theorem valid_add {setting : Setting} (valid : scan.Valid) (new : setting.Valid) :
    (scan.add setting).Valid := by
  intro other member
  rcases List.mem_append.mp member with member | member
  · exact valid other member
  · rw [List.mem_singleton.mp member]
    exact new

theorem valid_fill {slot : Slot} {value : Bytes} (valid : scan.Valid)
    (fills : scan.fill slot value = .ok next) : next.Valid := by
  obtain ⟨_, _, fills⟩ := bind_eq_ok_iff.mp fills
  obtain ⟨setting, reads, fills⟩ := bind_eq_ok_iff.mp fills
  cases fills
  exact valid_add valid (valid_of_read reads)

theorem valid_settle (valid : scan.Valid) (settles : scan.settle = .ok next) : next.Valid := by
  unfold settle at settles
  split at settles
  · cases settles
    exact valid
  · cases settles
  · have emptied : Scan.Valid { scan with pending := none } := valid
    exact valid_fill emptied settles

theorem valid_takeLong {name : Bytes} {value : Option Bytes} (valid : scan.Valid)
    (takes : scan.takeLong name value = .ok next) : next.Valid := by
  unfold takeLong at takes
  split at takes
  · cases takes
  · obtain ⟨settled, settles, takes⟩ := bind_eq_ok_iff.mp takes
    cases takes
    exact fun setting member => valid_settle valid (mapError_eq_ok_iff.mp settles) setting member
  · obtain ⟨settled, settles, fills⟩ := bind_eq_ok_iff.mp (mapError_eq_ok_iff.mp takes)
    exact valid_fill (valid_settle valid settles) fills
  · cases takes
  · obtain ⟨settled, settles, takes⟩ := bind_eq_ok_iff.mp (mapError_eq_ok_iff.mp takes)
    obtain ⟨_, _, adds⟩ := bind_eq_ok_iff.mp takes
    cases adds
    exact valid_add (valid_settle valid settles) trivial
  · cases takes
  · cases takes

theorem valid_takePositional {value : Bytes} (valid : scan.Valid)
    (takes : scan.takePositional value = .ok next) : next.Valid := by
  unfold takePositional at takes
  split at takes
  · cases takes
  · obtain ⟨settled, settles, takes⟩ := bind_eq_ok_iff.mp takes
    cases takes
    exact fun setting member => valid_settle valid settles setting member

theorem valid_takePlain {value : Bytes} (valid : scan.Valid)
    (takes : scan.takePlain value = .ok next) : next.Valid := by
  unfold takePlain at takes
  split at takes
  · cases takes
    exact fun setting member => valid setting member
  · exact valid_takePositional valid takes

/-- Behind the escape, all arguments are positional. -/
theorem valid_takeAll {arguments : List Bytes} (valid : scan.Valid)
    (takes : arguments.foldlM takePositional scan = .ok next) : next.Valid := by
  induction arguments generalizing scan with
  | nil =>
    cases takes
    exact valid
  | cons argument rest ih =>
    rw [List.foldlM_cons] at takes
    obtain ⟨taken, one, others⟩ := bind_eq_ok_iff.mp takes
    exact ih (valid_takePositional valid one) others

theorem valid_of_read {arguments : List Bytes} (valid : scan.Valid)
    (reads : scan.read arguments = .ok next) : next.Valid := by
  induction arguments generalizing scan with
  | nil => exact valid_settle valid (mapError_eq_ok_iff.mp reads)
  | cons argument rest ih =>
    rw [read] at reads
    split at reads
    · obtain ⟨taken, takes, settles⟩ := bind_eq_ok_iff.mp (mapError_eq_ok_iff.mp reads)
      exact valid_settle (valid_takeAll valid takes) settles
    · obtain ⟨taken, takes, reads⟩ := bind_eq_ok_iff.mp reads
      exact ih (valid_takeLong valid takes) reads
    · cases reads
    · obtain ⟨taken, takes, reads⟩ := bind_eq_ok_iff.mp reads
      exact ih (valid_takePlain valid (mapError_eq_ok_iff.mp takes)) reads

end Scan

/-! ## Configurations -/

theorem valid_of_configure {settings : List Setting} {environment : Environment}
    {configuration : Configuration} (valid : ∀ setting ∈ settings, setting.Valid)
    (configures : configure settings environment = .ok configuration) :
    IsEndpoint configuration.endpoint ∧ IsTimeout configuration.idleTimeout := by
  obtain ⟨endpoint, resolvesUrl, configures⟩ := bind_eq_ok_iff.mp configures
  obtain ⟨idleTimeout, resolvesTimeout, configures⟩ := bind_eq_ok_iff.mp configures
  obtain ⟨format, _, configures⟩ := bind_eq_ok_iff.mp configures
  cases configures
  constructor
  · refine resolve_ok (fun url found => ?_) (fun url reads => isEndpoint_of_readUrl reads)
      resolvesUrl
    obtain ⟨setting, member, sets⟩ := List.exists_of_findSome?_eq_some found
    cases setting with
    | url =>
      cases sets
      exact valid _ member
    | idleTimeout | format | inspect => cases sets
  · refine resolve_ok (fun milliseconds found => ?_)
      (fun milliseconds reads => isTimeout_of_readIdleTimeout reads) resolvesTimeout
    obtain ⟨setting, member, sets⟩ := List.exists_of_findSome?_eq_some found
    cases setting with
    | idleTimeout =>
      cases sets
      exact valid _ member
    | url | format | inspect => cases sets

theorem valid_of_parse {arguments : List Bytes} {environment : Environment}
    {configuration : Configuration} (parses : parse arguments environment = .ok configuration) :
    IsEndpoint configuration.endpoint ∧ IsTimeout configuration.idleTimeout := by
  obtain ⟨scan, reads, configures⟩ := bind_eq_ok_iff.mp parses
  have nothing : Scan.Valid {} := fun setting member => absurd member List.not_mem_nil
  exact valid_of_configure (Scan.valid_of_read nothing reads) (mapError_eq_ok_iff.mp configures)

/-- A probe of this machine, with defaults in all else. -/
def loopback : Configuration where
  endpoint := ⟨"ws", some ⟨"", none, some (.ipv6 [0, 0, 0, 0, 0, 0, 0, 1]), none⟩, .rooted [""],
    none, none⟩
  idleTimeout := 1000
  inspect := false
  format := .plainText

theorem parse_loopback : parse [Utf8.encode "ws://[::1]"] {} = .ok loopback := by
  rfl

end SyncProbe.CommandLine
