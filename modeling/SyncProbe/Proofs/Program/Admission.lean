import SyncProbe.Proofs.CommandLine.Sources
import SyncProbe.Program

/-!
# What reaches a network

A run starts only with a configuration that every check has passed, wherever its values come from.
Any other command line is answered, over every network alike and without an event.

A text is accepted as the idle timeout exactly if it writes a number of 64 bits other than zero, and
the number is the one that is written. This does not depend on where the text stands: joined to its
option between any other items, or in the environment.

Results:
1. `Configuration.sound_of_parse`: a configuration that is read is sound.
2. `Invocation.stops_of_refused`: without one, the program stops before anything happens.
3. `parse_joined_iff`, `parse_held_iff`: which texts are accepted as the idle timeout.
4. `only_sound_configurations_run`: all of this.
-/

namespace SyncProbe

namespace CommandLine

/-! ## The idle timeout in its place -/

section Timeouts

variable {before after items : List Item} {item : Item} {slot : Slot}

theorem given?_eq_none (new : .slot slot ∉ items.map Item.parameter) :
    given? items slot = none := by
  refine List.findSome?_eq_none_iff.mpr fun item among => ?_
  cases item with
  | inspect => rfl
  | filled other spelling value =>
    rw [Item.value?, if_neg]
    rintro rfl
    exact new (List.mem_map_of_mem among)

/-- An item gives other slots nothing. -/
theorem given?_other (passes : item.value? slot = none) :
    given? (before ++ item :: after) slot = given? (before ++ after) slot := by
  unfold given?
  rw [List.findSome?_append, List.findSome?_append, List.findSome?_cons, passes]

/-- An item is found wherever it stands, if no other gives the same slot. -/
theorem given?_same {value : Bytes} (new : .slot slot ∉ (before ++ after).map Item.parameter)
    (gives : item.value? slot = some value) :
    given? (before ++ item :: after) slot = some value := by
  have none : given? (before ++ after) slot = none := given?_eq_none new
  unfold given? at none ⊢
  rw [List.findSome?_append] at none ⊢
  rw [(Option.or_eq_none_iff.mp none).1, List.findSome?_cons, gives]
  rfl

theorem once_insert (once : ((before ++ after).map Item.parameter).Nodup)
    (new : item.parameter ∉ (before ++ after).map Item.parameter) :
    ((before ++ item :: after).map Item.parameter).Nodup := by
  refine (List.Perm.map Item.parameter List.perm_middle).nodup_iff.mpr ?_
  exact List.nodup_cons.mpr ⟨new, once⟩

variable [Naming]

/-- Two command lines that agree in all but the idle timeout give configurations that do. -/
theorem parse_timeout {others : List Item} {environment environment' : Environment}
    {base configuration : Configuration}
    (valid : ∀ item ∈ items, item.Valid) (once : (items.map Item.parameter).Nodup)
    (valid' : ∀ item ∈ others, item.Valid) (once' : (others.map Item.parameter).Nodup)
    (parses : parse (items.flatMap Item.arguments) environment = .ok base)
    (url : source others environment' .url = source items environment .url)
    (format : source others environment' .format = source items environment .format)
    (inspect : others.contains .inspect = items.contains .inspect) :
    parse (others.flatMap Item.arguments) environment' = .ok configuration ↔
      ∃ milliseconds, readIdleTimeout (source others environment' .idleTimeout) =
        .ok milliseconds ∧ configuration = { base with idleTimeout := milliseconds } := by
  rw [parse_items valid once, mapError_eq_ok_iff] at parses
  obtain ⟨endpoint, readsUrl, parses⟩ := bind_eq_ok_iff.mp parses
  obtain ⟨_, _, parses⟩ := bind_eq_ok_iff.mp parses
  obtain ⟨form, readsFormat, parses⟩ := bind_eq_ok_iff.mp parses
  cases parses
  rw [parse_items valid' once', mapError_eq_ok_iff, url, format, inspect, readsUrl, readsFormat]
  constructor
  · intro configures
    obtain ⟨_, same, configures⟩ := bind_eq_ok_iff.mp configures
    obtain ⟨milliseconds, reads, configures⟩ := bind_eq_ok_iff.mp configures
    cases same
    cases configures
    exact ⟨milliseconds, reads, rfl⟩
  · rintro ⟨milliseconds, reads, rfl⟩
    exact bind_eq_ok_iff.mpr ⟨endpoint, rfl, bind_eq_ok_iff.mpr ⟨milliseconds, reads, rfl⟩⟩

variable {environment : Environment} {base configuration : Configuration} {text : Bytes}

/-- Which texts are accepted as the value of the variable. -/
theorem parse_held_iff (valid : ∀ item ∈ items, item.Valid)
    (once : (items.map Item.parameter).Nodup)
    (new : .slot .idleTimeout ∉ items.map Item.parameter)
    (parses : parse (items.flatMap Item.arguments) { environment with idleTimeout := none } =
      .ok base) :
    parse (items.flatMap Item.arguments) { environment with idleTimeout := some text } =
        .ok configuration ↔
      ∃ milliseconds, readIdleTimeout text = .ok milliseconds ∧
        configuration = { base with idleTimeout := milliseconds } := by
  have held : source items { environment with idleTimeout := some text } .idleTimeout = text := by
    unfold source
    rw [given?_eq_none new]
    rfl
  refine (parse_timeout valid once valid once parses ?_ ?_ ?_).trans ?_
  · rfl
  · rfl
  · rfl
  · rw [held]

/-- Which texts are accepted as the value of the option, wherever it stands. -/
theorem parse_joined_iff (valid : ∀ item ∈ before ++ after, item.Valid)
    (once : ((before ++ after).map Item.parameter).Nodup)
    (new : .slot .idleTimeout ∉ (before ++ after).map Item.parameter)
    (parses : parse ((before ++ after).flatMap Item.arguments)
      { environment with idleTimeout := none } = .ok base) :
    parse (before.flatMap Item.arguments ++ (Utf8.encode "--idle-timeout-ms=" ++ text) ::
        after.flatMap Item.arguments) environment = .ok configuration ↔
      ∃ milliseconds, readIdleTimeout text = .ok milliseconds ∧
        configuration = { base with idleTimeout := milliseconds } := by
  have arguments : before.flatMap Item.arguments ++ (Utf8.encode "--idle-timeout-ms=" ++ text) ::
      after.flatMap Item.arguments =
        (before ++ Item.filled .idleTimeout .joined text :: after).flatMap Item.arguments := by
    rw [List.flatMap_append, List.flatMap_cons, arguments_joined rfl]
    rfl
  cases reads : readIdleTimeout text with
  | ok milliseconds =>
    -- With a valid text, the option is one more item.
    have filled : (Item.filled .idleTimeout .joined text).Valid :=
      Option.isSome_iff_exists.mpr
        ⟨_, Item.setting?_filled.mpr (map_eq_ok_iff.mpr ⟨_, reads, rfl⟩)⟩
    have valid' : ∀ item ∈ before ++ Item.filled .idleTimeout .joined text :: after,
        item.Valid := by
      intro item among
      rcases List.mem_cons.mp (List.perm_middle.mem_iff.mp among) with rfl | among
      · exact filled
      · exact valid item among
    have given : source (before ++ Item.filled .idleTimeout .joined text :: after) environment
        .idleTimeout = text := by
      unfold source
      rw [given?_same new rfl]
      rfl
    rw [arguments, parse_timeout valid once valid' (once_insert once new) parses ?_ ?_ ?_, given,
      reads]
    · unfold source
      rw [given?_other rfl]
      rfl
    · unfold source
      rw [given?_other rfl]
      rfl
    · rw [List.contains_append, List.contains_append, List.contains_cons]
      rfl
  | error cause =>
    -- The items before the text are taken up, and then it is refused, whatever follows.
    have fails : Slot.idleTimeout.read text = .error cause := by
      rw [Slot.read, reads]
      rfl
    rw [List.forall_mem_append] at valid
    rw [List.map_append] at once new
    obtain ⟨next, holds, takes⟩ := Scan.read_items (Scan.holds_settings []) valid.1
      (List.nodup_append.mp once).1 fun _ _ => List.not_mem_nil
    have refused := Scan.read_invalid rfl holds fails ?_ (after.flatMap Item.arguments)
    · rw [arguments, List.flatMap_append, List.flatMap_cons, parse, takes, refused]
      constructor
      · intro parses
        cases parses
      · rintro ⟨_, accepts, _⟩
        cases accepts
    · rw [List.nil_append, map_parameter_settings valid.1]
      exact fun inside => new (List.mem_append_left _ inside)

end Timeouts

end CommandLine

/-! ## Runs and answers -/

open CommandLine (Denotes Environment Item IsTimeout Reply parse)

/-- What is made sure of before a network is reached. -/
structure Configuration.Sound (configuration : Configuration) : Prop where
  scheme : configuration.endpoint.scheme = "ws"
  host : ∃ host, configuration.endpoint.host? = some host ∧ host.text ≠ ""
  positive : 1 ≤ configuration.idleTimeout
  bounded : configuration.idleTimeout < UInt64.size

theorem Configuration.sound_of_parse [Naming] {arguments : List Bytes} {environment : Environment}
    {configuration : Configuration} (parses : parse arguments environment = .ok configuration) :
    configuration.Sound := by
  obtain ⟨endpoint, timeout⟩ := CommandLine.valid_of_parse parses
  obtain ⟨host, present⟩ := Option.isSome_iff_exists.mp endpoint.host
  exact ⟨endpoint.scheme, ⟨host, present, endpoint.reads.host_text_ne_empty host present⟩,
    timeout.positive, timeout.bounded⟩

/-- The program only answers: it writes no entry, and its exit code says whether the answer is what
was asked for. -/
structure Execution.Stops (execution : Execution) (reply : Reply) : Prop where
  answered : execution = .answered reply
  silent : execution.entries = []
  exits : ((∃ cause, reply = .refusal cause) ∧ execution.exitCode = some 2) ∨
    ((reply = .version ∨ ∃ extent, reply = .help extent) ∧ execution.exitCode = some 0)

theorem Execution.stops_answered (reply : Reply) : (answered reply).Stops reply := by
  refine ⟨rfl, rfl, ?_⟩
  cases reply with
  | refusal cause => exact .inl ⟨⟨cause, rfl⟩, rfl⟩
  | version => exact .inr ⟨.inl rfl, rfl⟩
  | help extent => exact .inr ⟨.inr ⟨extent, rfl⟩, rfl⟩

namespace Invocation

variable [Naming] {invocation : Invocation}

/-- A run is that of a configuration, and such a configuration is sound. -/
theorem sound_of_ran {route : Route} {format : Format} {course : Course}
    (runs : invocation.run route = .ran format course) :
    ∃ configuration : Configuration, configuration.Sound ∧
      parse invocation.arguments invocation.environment = .ok configuration ∧
      course = configuration.run route := by
  unfold run at runs
  split at runs
  · cases runs
  · next configuration parses =>
    split at runs
    · cases runs
    · cases runs
      exact ⟨configuration, Configuration.sound_of_parse parses, parses, rfl⟩

/-- Without a sound configuration, no network is looked at. -/
theorem stops_of_refused
    (refused : ¬ ∃ configuration : Configuration, configuration.Sound ∧
      parse invocation.arguments invocation.environment = .ok configuration) :
    ∃ reply, ∀ route, (invocation.run route).Stops reply := by
  cases outcome : parse invocation.arguments invocation.environment with
  | ok configuration =>
    exact absurd ⟨configuration, Configuration.sound_of_parse outcome, outcome⟩ refused
  | error reply =>
    refine ⟨reply, fun route => ?_⟩
    rw [run, outcome]
    exact Execution.stops_answered reply

end Invocation

/-- Only sound configurations run: their endpoint is that of a named host, and their idle timeout is
one of 64 bits. Without one, the program only answers. And a text is accepted as the idle timeout
exactly if it is written in decimal digits, maybe behind a plus sign, and is such a number, which is
then the idle timeout; in all else the configuration is the one without the text. -/
theorem only_sound_configurations_run [Naming] :
    (∀ (invocation : Invocation) (route : Route) (format : Format) (course : Course),
      invocation.run route = .ran format course →
      ∃ configuration : Configuration, configuration.Sound ∧
        parse invocation.arguments invocation.environment = .ok configuration ∧
        course = configuration.run route) ∧
    (∀ invocation : Invocation,
      (¬ ∃ configuration : Configuration, configuration.Sound ∧
        parse invocation.arguments invocation.environment = .ok configuration) →
      ∃ reply, ∀ route, (invocation.run route).Stops reply) ∧
    ∀ (before after : List Item) (environment : Environment) (base : Configuration),
      (∀ item ∈ before ++ after, item.Valid) → ((before ++ after).map Item.parameter).Nodup →
      .slot .idleTimeout ∉ (before ++ after).map Item.parameter →
      parse ((before ++ after).flatMap Item.arguments) { environment with idleTimeout := none } =
        .ok base →
      ∀ (text : Bytes) (configuration : Configuration),
        (parse (before.flatMap Item.arguments ++ (Utf8.encode "--idle-timeout-ms=" ++ text) ::
            after.flatMap Item.arguments) environment = .ok configuration ↔
          ∃ milliseconds, (∃ written, text = Utf8.encode written ∧
            Denotes written.toList milliseconds ∧ IsTimeout milliseconds) ∧
            configuration = { base with idleTimeout := milliseconds }) ∧
        (parse ((before ++ after).flatMap Item.arguments)
            { environment with idleTimeout := some text } = .ok configuration ↔
          ∃ milliseconds, (∃ written, text = Utf8.encode written ∧
            Denotes written.toList milliseconds ∧ IsTimeout milliseconds) ∧
            configuration = { base with idleTimeout := milliseconds }) := by
  refine ⟨fun _ _ _ _ => Invocation.sound_of_ran, fun _ => Invocation.stops_of_refused, ?_⟩
  intro before after environment base valid once new parses text configuration
  simp only [← CommandLine.readIdleTimeout_eq_ok_iff]
  exact ⟨CommandLine.parse_joined_iff valid once new parses,
    CommandLine.parse_held_iff valid once new parses⟩

section

attribute [local instance] CommandLine.munichNaming

/-- A probe of a server with a name beyond ASCII. -/
def munichProbe : Invocation where
  arguments := [Utf8.encode "ws://münchen.de"]

/-- What it is started with, with defaults in all else. -/
def munichConfiguration : Configuration :=
  { CommandLine.loopback with endpoint := CommandLine.munichServer }

/-- A probe that does not wait. -/
def hastyProbe : Invocation where
  arguments := [Utf8.encode "--idle-timeout-ms=0"]

/-- A server that is named by the environment. -/
def namedServer : Environment where
  url := some (Utf8.encode "ws://[::1]")

/-- The longest time to wait, with a sign and zeros. -/
def longestText : String :=
  "+0018446744073709551615"

theorem only_sound_configurations_run_longest :
    (munichProbe.run (.blocked .refused) =
        .ran .plainText (munichConfiguration.run (.blocked .refused)) ∧
      ∃ configuration : Configuration, configuration.Sound ∧
        parse munichProbe.arguments munichProbe.environment = .ok configuration ∧
        munichConfiguration.run (.blocked .refused) = configuration.run (.blocked .refused)) ∧
    (∃ reply, ∀ route, (hastyProbe.run route).Stops reply) ∧
    parse [Utf8.encode "--idle-timeout-ms=" ++ Utf8.encode longestText, Utf8.encode "--inspect"]
      namedServer =
        .ok { CommandLine.loopback with inspect := true, idleTimeout := 18446744073709551615 } ∧
    parse [Utf8.encode "--inspect"] { namedServer with
      idleTimeout := some (Utf8.encode longestText) } =
        .ok { CommandLine.loopback with inspect := true, idleTimeout := 18446744073709551615 } := by
  obtain ⟨runs, stops, accepts⟩ := only_sound_configurations_run
  have started : munichProbe.run (.blocked .refused) =
      .ran .plainText (munichConfiguration.run (.blocked .refused)) := rfl
  have refused : ¬ ∃ configuration : Configuration, configuration.Sound ∧
      parse hastyProbe.arguments hastyProbe.environment = .ok configuration := by
    rintro ⟨configuration, _, parses⟩
    cases parses
  have base : parse ([Item.inspect].flatMap Item.arguments) { namedServer with
      idleTimeout := none } = .ok { CommandLine.loopback with inspect := true } := rfl
  have written : ∃ written, Utf8.encode longestText = Utf8.encode written ∧
      Denotes written.toList (18446744073709551615) ∧ IsTimeout (18446744073709551615) :=
    ⟨longestText, rfl, .signed ⟨by decide, List.all_eq_true.mp rfl, rfl⟩, by decide, by decide⟩
  obtain ⟨joined, held⟩ := accepts [] [.inspect] namedServer _ (by decide) (by decide) (by decide)
    base (Utf8.encode longestText)
    { CommandLine.loopback with inspect := true, idleTimeout := 18446744073709551615 }
  exact ⟨⟨started, runs _ _ _ _ started⟩, stops _ refused, joined.mpr ⟨_, written, rfl⟩,
    held.mpr ⟨_, written, rfl⟩⟩

end

end SyncProbe
