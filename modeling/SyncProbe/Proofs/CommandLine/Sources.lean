import SyncProbe.Proofs.CommandLine.Items

/-!
# Where a configuration comes from

Each part of a configuration has up to three sources: the command line, a variable of the
environment, and the default. A source only counts if those before it are silent, and one that does
not count may hold anything.

Results:
1. `parse_items`: a configuration is read from the sources of its parts.
2. `parse_eq_ok_iff`: which configuration comes of valid items, in any order and either spelling.
3. `exists_configuration`, `refusal_of_invalid`: one comes exactly if all variables that count are
   valid.
4. `configuration_resolves`: where each part of a configuration comes from.
-/

namespace SyncProbe.CommandLine

/-! ## Sources -/

section

variable {items : List Item}

/-- The value that the command line gives the slot. -/
def given? (items : List Item) (slot : Slot) : Option Bytes :=
  items.findSome? (·.value? slot)

/-- The value of the slot: from the command line, or else from the environment, or else the
default. -/
def source (items : List Item) (environment : Environment) (slot : Slot) : Bytes :=
  (given? items slot).getD (slot.fallback environment)

/-- The environment matters only for slots that the command line leaves open. -/
theorem source_congr {slot : Slot} {environment other : Environment}
    (same : given? items slot = none → other.value? slot = environment.value? slot) :
    source items other slot = source items environment slot := by
  unfold source Slot.fallback
  cases gives : given? items slot with
  | some value => rfl
  | none => rw [same gives]

/-- A value is what the command line gives, or else what the variable holds, or else the default. -/
inductive Resolves {α : Type} (read : Bytes → Except Refusal α) (default : α) :
    Option Bytes → Option Bytes → α → Prop
  | given {text : Bytes} {held : Option Bytes} {value : α} :
      read text = .ok value → Resolves read default (some text) held value
  | held {text : Bytes} {value : α} :
      read text = .ok value → Resolves read default none (some text) value
  | default : Resolves read default none none default

theorem resolves_iff {α : Type} {read : Bytes → Except Refusal α} {default value : α}
    {gives held : Option Bytes} {fallback : Bytes} (reads : read fallback = .ok default) :
    read (gives.getD (held.getD fallback)) = .ok value ↔
      Resolves read default gives held value := by
  constructor
  · intro resolves
    cases gives with
    | some text => exact .given resolves
    | none =>
      cases held with
      | some text => exact .held resolves
      | none =>
        cases reads.symm.trans resolves
        exact .default
  · intro resolves
    cases resolves with
    | given resolves => exact resolves
    | held resolves => exact resolves
    | default => exact reads

theorem readIdleTimeout_default :
    readIdleTimeout (Utf8.encode Slot.idleTimeout.default) = .ok 1000 :=
  rfl

theorem readFormat_default : readFormat (Utf8.encode Slot.format.default) = .ok .plainText :=
  rfl

/-! ## Configurations -/

variable [Naming]

theorem read_arguments (valid : ∀ item ∈ items, item.Valid)
    (once : (items.map Item.parameter).Nodup) :
    Scan.read {} (items.flatMap Item.arguments) =
      .ok { settings := items.filterMap Item.setting? } := by
  obtain ⟨next, holds, reads⟩ := Scan.read_items (Scan.holds_settings []) valid once
    (fun _ _ => List.not_mem_nil)
  have whole := reads []
  rw [List.append_nil] at whole
  rw [whole, Scan.read, holds]
  rfl

/-- What is read for a slot is read from its source, once the value that is given is valid. -/
theorem resolve_items {α : Type} {slot : Slot} {read : Bytes → Except Refusal α}
    {wrap : α → Setting} {unwrap : Setting → Option α} (fallback : Bytes)
    (reads : ∀ value, slot.read value = wrap <$> read value)
    (unwraps : ∀ value, unwrap (wrap value) = some value)
    (others : ∀ setting : Setting, setting.parameter ≠ .slot slot → unwrap setting = none)
    (valid : ∀ item ∈ items, item.Valid) :
    resolve ((items.filterMap Item.setting?).findSome? unwrap) read fallback =
      read ((given? items slot).getD fallback) := by
  induction items with
  | nil => rfl
  | cons item items ih =>
    have later := ih fun other among => valid other (List.mem_cons_of_mem _ among)
    obtain ⟨setting, sets⟩ := Option.isSome_iff_exists.mp (valid item List.mem_cons_self)
    rw [List.filterMap_cons_some sets, List.findSome?_cons]
    unfold given? at later ⊢
    rw [List.findSome?_cons]
    -- The first item of the slot decides; its value is valid, so reading it once more agrees.
    by_cases same : item.parameter = .slot slot
    · cases item with
      | inspect => cases same
      | filled other spelling value =>
        cases same
        have readsSetting := Item.setting?_filled.mp sets
        rw [reads] at readsSetting
        obtain ⟨result, readsResult, rfl⟩ := map_eq_ok_iff.mp readsSetting
        rw [unwraps, Item.value?, if_pos rfl]
        exact readsResult.symm
    · rw [others setting (by rw [Item.parameter_of_setting? sets]; exact same)]
      have passes : item.value? slot = none := by
        cases item with
        | inspect => rfl
        | filled other spelling value =>
          rw [Item.value?, if_neg fun equal => same (congrArg Parameter.slot equal)]
      rw [passes]
      exact later

theorem resolve_url (fallback : Bytes) (valid : ∀ item ∈ items, item.Valid) :
    resolve ((items.filterMap Item.setting?).findSome? Setting.url?) readUrl fallback =
      readUrl ((given? items .url).getD fallback) := by
  refine resolve_items fallback (fun _ => rfl) (fun _ => rfl) (fun setting other => ?_) valid
  cases setting with
  | url => exact absurd rfl other
  | idleTimeout | format | inspect => rfl

theorem resolve_idleTimeout (fallback : Bytes) (valid : ∀ item ∈ items, item.Valid) :
    resolve ((items.filterMap Item.setting?).findSome? Setting.idleTimeout?) readIdleTimeout
        fallback = readIdleTimeout ((given? items .idleTimeout).getD fallback) := by
  refine resolve_items fallback (fun _ => rfl) (fun _ => rfl) (fun setting other => ?_) valid
  cases setting with
  | idleTimeout => exact absurd rfl other
  | url | format | inspect => rfl

theorem resolve_format (fallback : Bytes) (valid : ∀ item ∈ items, item.Valid) :
    resolve ((items.filterMap Item.setting?).findSome? Setting.format?) readFormat fallback =
      readFormat ((given? items .format).getD fallback) := by
  refine resolve_items fallback (fun _ => rfl) (fun _ => rfl) (fun setting other => ?_) valid
  cases setting with
  | format => exact absurd rfl other
  | url | idleTimeout | inspect => rfl

theorem contains_inspect :
    (items.filterMap Item.setting?).contains .inspect = items.contains .inspect := by
  rw [Bool.eq_iff_iff, List.contains_iff_mem, List.contains_iff_mem, List.mem_filterMap]
  constructor
  · rintro ⟨item, among, sets⟩
    have parameter := Item.parameter_of_setting? sets
    cases item with
    | inspect => exact among
    | filled slot spelling value => cases parameter
  · exact fun among => ⟨.inspect, among, rfl⟩

/-- A command line of valid items is read to the configuration whose values come from the sources of
the slots. -/
theorem parse_items (valid : ∀ item ∈ items, item.Valid)
    (once : (items.map Item.parameter).Nodup) (environment : Environment) :
    parse (items.flatMap Item.arguments) environment = Except.mapError .refusal do
      let endpoint ← readUrl (source items environment .url)
      let idleTimeout ← readIdleTimeout (source items environment .idleTimeout)
      let format ← readFormat (source items environment .format)
      return { endpoint, idleTimeout, inspect := items.contains .inspect, format } := by
  unfold parse
  rw [read_arguments valid once]
  show Except.mapError _ (configure (items.filterMap Item.setting?) environment) = _
  unfold configure
  rw [resolve_url _ valid, resolve_idleTimeout _ valid, resolve_format _ valid, contains_inspect]
  rfl

/-! ## Valid sources -/

/-- A value that items give is valid. -/
theorem read_of_given {slot : Slot} {value : Bytes} (valid : ∀ item ∈ items, item.Valid)
    (gives : given? items slot = some value) : ∃ setting, slot.read value = .ok setting := by
  obtain ⟨item, among, holds⟩ := List.exists_of_findSome?_eq_some gives
  obtain ⟨setting, sets⟩ := Option.isSome_iff_exists.mp (valid item among)
  cases item with
  | inspect => cases holds
  | filled other spelling text =>
    obtain ⟨rfl, same⟩ := Option.ite_none_right_eq_some.mp holds
    cases same
    exact ⟨setting, Item.setting?_filled.mp sets⟩

theorem readUrl_default : readUrl (Utf8.encode Slot.url.default) = .ok Url.localServer := by
  have reads : readEndpoint Slot.url.default = .ok Url.localServer :=
    bind_eq_ok_iff.mpr ⟨_, mapError_eq_ok_iff.mpr Url.parse_localServer, rfl⟩
  exact readText_eq_ok_iff.mpr ⟨_, rfl, reads⟩

/-- The default of a slot is valid. -/
theorem read_default (slot : Slot) :
    ∃ setting, slot.read (Utf8.encode slot.default) = .ok setting := by
  cases slot with
  | url => exact ⟨.url Url.localServer, map_eq_ok_iff.mpr ⟨_, readUrl_default, rfl⟩⟩
  | idleTimeout => exact ⟨.idleTimeout 1000, map_eq_ok_iff.mpr ⟨_, readIdleTimeout_default, rfl⟩⟩
  | format => exact ⟨.format .plainText, map_eq_ok_iff.mpr ⟨_, readFormat_default, rfl⟩⟩

/-- The source of a slot is valid, if the command line gives the slot or its variable is. -/
theorem read_source {slot : Slot} {environment : Environment} (valid : ∀ item ∈ items, item.Valid)
    (reads : ∀ value, given? items slot = none → environment.value? slot = some value →
      ∃ setting, slot.read value = .ok setting) :
    ∃ setting, slot.read (source items environment slot) = .ok setting := by
  unfold source Slot.fallback
  cases gives : given? items slot with
  | some value => exact read_of_given valid gives
  | none =>
    cases held : environment.value? slot with
    | some value => exact reads value gives held
    | none => exact read_default slot

/-- What a configuration is, for valid items: each part is what the command line gives, or else what
the environment holds, or else the default. -/
structure Configures (items : List Item) (environment : Environment)
    (configuration : Configuration) : Prop where
  endpoint : Resolves readUrl Url.localServer (given? items .url) environment.url
    configuration.endpoint
  idleTimeout : Resolves readIdleTimeout 1000 (given? items .idleTimeout) environment.idleTimeout
    configuration.idleTimeout
  inspect : configuration.inspect = true ↔ Item.inspect ∈ items
  format : Resolves readFormat .plainText (given? items .format) none configuration.format

theorem parse_eq_ok_iff (valid : ∀ item ∈ items, item.Valid)
    (once : (items.map Item.parameter).Nodup) {environment : Environment}
    {configuration : Configuration} :
    parse (items.flatMap Item.arguments) environment = .ok configuration ↔
      Configures items environment configuration := by
  rw [parse_items valid once, mapError_eq_ok_iff]
  constructor
  · intro configures
    obtain ⟨endpoint, readsUrl, configures⟩ := bind_eq_ok_iff.mp configures
    obtain ⟨idleTimeout, readsTimeout, configures⟩ := bind_eq_ok_iff.mp configures
    obtain ⟨format, readsFormat, configures⟩ := bind_eq_ok_iff.mp configures
    cases configures
    exact ⟨(resolves_iff readUrl_default).mp readsUrl,
      (resolves_iff readIdleTimeout_default).mp readsTimeout, List.contains_iff_mem,
      (resolves_iff readFormat_default).mp readsFormat⟩
  · rintro ⟨readsUrl, readsTimeout, inspects, readsFormat⟩
    refine bind_eq_ok_iff.mpr ⟨_, (resolves_iff readUrl_default).mpr readsUrl, ?_⟩
    refine bind_eq_ok_iff.mpr
      ⟨_, (resolves_iff readIdleTimeout_default).mpr readsTimeout, ?_⟩
    refine bind_eq_ok_iff.mpr ⟨_, (resolves_iff readFormat_default).mpr readsFormat, ?_⟩
    have flag : items.contains .inspect = configuration.inspect := by
      rw [Bool.eq_iff_iff, List.contains_iff_mem, inspects]
    rw [flag]
    rfl

/-- A configuration only comes of valid variables, where the command line leaves a slot open. -/
theorem read_of_configures {environment : Environment} {configuration : Configuration}
    (configures : Configures items environment configuration) {slot : Slot} {value : Bytes}
    (opened : given? items slot = none) (held : environment.value? slot = some value) :
    ∃ setting, slot.read value = .ok setting := by
  cases slot with
  | url =>
    have resolves := configures.endpoint
    rw [opened, show environment.url = some value from held] at resolves
    cases resolves with
    | held reads => exact ⟨_, map_eq_ok_iff.mpr ⟨_, reads, rfl⟩⟩
  | idleTimeout =>
    have resolves := configures.idleTimeout
    rw [opened, show environment.idleTimeout = some value from held] at resolves
    cases resolves with
    | held reads => exact ⟨_, map_eq_ok_iff.mpr ⟨_, reads, rfl⟩⟩
  | format => cases held

theorem exists_configuration {environment : Environment} (valid : ∀ item ∈ items, item.Valid)
    (once : (items.map Item.parameter).Nodup)
    (reads : ∀ slot value, given? items slot = none → environment.value? slot = some value →
      ∃ setting, slot.read value = .ok setting) :
    ∃ configuration, parse (items.flatMap Item.arguments) environment = .ok configuration := by
  obtain ⟨_, readsUrl⟩ := read_source valid (reads .url)
  obtain ⟨endpoint, readsUrl, _⟩ := map_eq_ok_iff.mp readsUrl
  obtain ⟨_, readsTimeout⟩ := read_source valid (reads .idleTimeout)
  obtain ⟨idleTimeout, readsTimeout, _⟩ := map_eq_ok_iff.mp readsTimeout
  obtain ⟨_, readsFormat⟩ := read_source valid (reads .format)
  obtain ⟨format, readsFormat, _⟩ := map_eq_ok_iff.mp readsFormat
  rw [parse_items valid once, readsUrl, readsTimeout, readsFormat]
  exact ⟨_, rfl⟩

theorem refusal_of_invalid {environment : Environment} {slot : Slot} {value : Bytes}
    (valid : ∀ item ∈ items, item.Valid) (once : (items.map Item.parameter).Nodup)
    (opened : given? items slot = none) (held : environment.value? slot = some value)
    (fails : ∀ setting, slot.read value ≠ .ok setting) :
    ∃ cause, parse (items.flatMap Item.arguments) environment = .error (.refusal cause) := by
  cases outcome : parse (items.flatMap Item.arguments) environment with
  | ok configuration =>
    -- A configuration would hold what the variable reads as, and it reads as nothing.
    have configures := (parse_eq_ok_iff valid once).mp outcome
    obtain ⟨setting, reads⟩ := read_of_configures configures opened held
    exact absurd reads (fails setting)
  | error reply =>
    rw [parse_items valid once] at outcome
    obtain ⟨cause, _, rfl⟩ := mapError_eq_error_iff.mp outcome
    exact ⟨cause, rfl⟩

/-- Where a configuration comes from, for valid items in any order and either spelling. Each value
is the one that the command line gives, or else that of the variable if it is set, or else the
default. A variable does not matter, whatever it holds, if the command line gives its slot; if it
does not, an invalid variable is refused. -/
theorem configuration_resolves (valid : ∀ item ∈ items, item.Valid)
    (once : (items.map Item.parameter).Nodup) (environment : Environment) :
    (∀ configuration, parse (items.flatMap Item.arguments) environment = .ok configuration ↔
      Configures items environment configuration) ∧
    ((∀ slot value, given? items slot = none → environment.value? slot = some value →
        ∃ setting, slot.read value = .ok setting) →
      ∃ configuration, parse (items.flatMap Item.arguments) environment = .ok configuration) ∧
    (∀ slot value, given? items slot = none → environment.value? slot = some value →
      (∀ setting, slot.read value ≠ .ok setting) →
      ∃ cause, parse (items.flatMap Item.arguments) environment = .error (.refusal cause)) ∧
    ∀ other : Environment,
      (∀ slot, given? items slot = none → other.value? slot = environment.value? slot) →
      parse (items.flatMap Item.arguments) other =
        parse (items.flatMap Item.arguments) environment := by
  refine ⟨fun configuration => parse_eq_ok_iff valid once, exists_configuration valid once,
    fun slot value => refusal_of_invalid valid once, fun other same => ?_⟩
  rw [parse_items valid once, parse_items valid once, source_congr (same .url),
    source_congr (same .idleTimeout), source_congr (same .format)]

end

section

/-- A mapping that knows a name beyond ASCII. -/
@[reducible] def munichNaming : Naming :=
  Naming.ascii.extend "münchen.de" "xn--mnchen-3ya.de" rfl rfl

/-- The server at `ws://xn--mnchen-3ya.de/`. -/
def munichServer : Url where
  scheme := "ws"
  authority := some ⟨"", none, some (.domain "xn--mnchen-3ya.de"), none⟩
  path := .rooted [""]
  query := none
  fragment := none

attribute [local instance] munichNaming

/-- Items that leave the idle timeout open. -/
def mixedItems : List Item :=
  [.inspect, .filled .format .apart (Utf8.encode "json"),
    .filled .url .joined (Utf8.encode "ws://münchen.de")]

/-- An environment with a URL that is not even text. -/
def mixedEnvironment : Environment where
  url := some [0xFF]
  idleTimeout := some (Utf8.encode "+0250")

/-- What the items ask for, in that environment. -/
def mixedConfiguration : Configuration where
  endpoint := munichServer
  idleTimeout := 250
  inspect := true
  format := .json

theorem configuration_resolves_mixed :
    ((∀ item ∈ mixedItems, item.Valid) ∧ (mixedItems.map Item.parameter).Nodup) ∧
    parse (mixedItems.flatMap Item.arguments) mixedEnvironment = .ok mixedConfiguration ∧
    (∃ configuration,
      parse (mixedItems.flatMap Item.arguments) mixedEnvironment = .ok configuration) ∧
    parse (mixedItems.flatMap Item.arguments) { mixedEnvironment with url := none } =
      parse (mixedItems.flatMap Item.arguments) mixedEnvironment ∧
    ∃ cause, parse (mixedItems.flatMap Item.arguments) { mixedEnvironment with
      idleTimeout := some [] } = .error (.refusal cause) := by
  have valid : ∀ item ∈ mixedItems, item.Valid := by decide +kernel
  have once : (mixedItems.map Item.parameter).Nodup := by decide
  have reads : readUrl (Utf8.encode "ws://münchen.de") = .ok munichServer := rfl
  obtain ⟨resolves, succeeds, _, shadows⟩ := configuration_resolves valid once mixedEnvironment
  obtain ⟨_, _, refuses, _⟩ := configuration_resolves valid once { mixedEnvironment with
    idleTimeout := some [] }
  refine ⟨⟨valid, once⟩, (resolves _).mpr ⟨.given reads, .held rfl, ?_, .given rfl⟩,
    succeeds fun slot value opened held => ?_, shadows _ fun slot opened => ?_,
    refuses .idleTimeout [] rfl rfl fun setting => ?_⟩
  · decide
  · cases slot with
    | url => cases opened
    | idleTimeout =>
      cases held
      exact ⟨.idleTimeout 250, rfl⟩
    | format => cases held
  · cases slot with
    | url => cases opened
    | idleTimeout | format => rfl
  · intro reads
    cases reads

end

end SyncProbe.CommandLine
