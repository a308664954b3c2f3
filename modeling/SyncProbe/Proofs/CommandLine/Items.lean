import SyncProbe.Proofs.CommandLine.Values

/-!
# Command lines in any order

A command line gives parameters in any order, each option with its value behind an equals sign or in
the next argument. An `Item` is one parameter as it is given. Reading looks at a value only when the
next parameter starts, so what holds between two items is that the pending value, once it is looked
at, completes the settings of the items so far.

Results:
1. `ofArgument_of_read`: no value that is valid looks like an option.
2. `Scan.read_item`: behind an item, its setting is added to those before it.
3. `Scan.read_items`: so it is with items in any order.
-/

namespace SyncProbe

/-! ## Values that look like values -/

theorem Utf8.encode_eq_flatMap (text : String) :
    Utf8.encode text = text.toList.flatMap String.utf8EncodeChar := by
  rw [Utf8.encode, ← String.ofList_toList (s := text), String.toByteArray_ofList,
    String.toList_ofList, List.utf8Encode, List.toList_data_toByteArray]

/-- A text whose bytes start with an ASCII byte starts with that character. -/
theorem Utf8.front_of_encode {text : String} {byte : UInt8} {rest : Bytes} (ascii : byte < 0x80)
    (front : Utf8.encode text = byte :: rest) :
    ∃ c cs, text.toList = c :: cs ∧ c.toNat = byte.toNat := by
  rw [encode_eq_flatMap] at front
  cases chars : text.toList with
  | nil =>
    rw [chars] at front
    cases front
  | cons c cs =>
    rw [chars, List.flatMap_cons] at front
    refine ⟨c, cs, rfl, ?_⟩
    have small : byte.toNat < 0x80 := ascii
    have leads {n : Nat} (first : UInt8.ofNat n = byte) : n % 256 = byte.toNat := by
      rw [← first]
      rfl
    unfold String.utf8EncodeChar at front
    simp only at front
    -- The first byte of a longer spelling is never ASCII.
    split at front
    · have single := leads (List.cons.inj front).1
      show c.val.toNat = byte.toNat
      omega
    · split at front
      · have lead := leads (List.cons.inj front).1
        omega
      · split at front
        · have lead := leads (List.cons.inj front).1
          omega
        · have lead := leads (List.cons.inj front).1
          omega

namespace CommandLine

theorem dash_of_encode {text : String} {rest : Bytes} (front : Utf8.encode text = dash :: rest) :
    ∃ cs, text.toList = '-' :: cs := by
  obtain ⟨c, cs, chars, same⟩ := Utf8.front_of_encode (by decide) front
  have isDash : c = '-' := Char.toNat_inj.mp same
  exact ⟨cs, isDash ▸ chars⟩

theorem name_of_ofName? {name : String} {format : Format}
    (found : Format.ofName? name = some format) : format.name = name := by
  unfold Format.ofName? at found
  simpa using List.find?_some found

/-- No name of a format starts with a dash. -/
theorem readFormat_dash (rest : Bytes) (format : Format) :
    readFormat (dash :: rest) ≠ .ok format := by
  have shown : Utf8.lossy (dash :: rest) = String.ofList ('-' :: Utf8.lossyFrom 0 [] rest) := rfl
  intro reads
  unfold readFormat at reads
  simp only at reads
  split at reads
  · next other found =>
    have chars := congrArg String.toList ((name_of_ofName? found).trans shown)
    rw [String.toList_ofList] at chars
    cases other <;> cases chars
  · split at reads <;> cases reads

/-! ## Items -/

/-- How an option is written with its value. -/
inductive Spelling where
  /-- Behind an equals sign. -/
  | joined
  /-- In the next argument. -/
  | apart
deriving DecidableEq, Repr

/-- A parameter as a command line gives it. -/
inductive Item where
  /-- The URL is positional, and has only one spelling. -/
  | filled (slot : Slot) (spelling : Spelling) (value : Bytes)
  | inspect
deriving DecidableEq, Repr

namespace Item

def parameter : Item → Parameter
  | filled slot _ _ => .slot slot
  | inspect => .inspect

/-- The item on the command line. -/
def arguments : Item → List Bytes
  | filled .url _ value => [value]
  | filled slot .joined value => [Utf8.encode ((Parameter.slot slot).flag ++ "=") ++ value]
  | filled slot .apart value => [Utf8.encode (Parameter.slot slot).flag, value]
  | inspect => [Utf8.encode Parameter.inspect.flag]

/-- The value that the item gives the slot. -/
def value? (slot : Slot) : Item → Option Bytes
  | filled other _ value => if other = slot then some value else none
  | inspect => none

end Item

/-! ## Options -/

theorem arguments_joined {slot : Slot} {option : String} (named : slot.option? = some option)
    (value : Bytes) :
    (Item.filled slot .joined value).arguments =
      [Utf8.encode ((Parameter.slot slot).flag ++ "=") ++ value] := by
  cases slot <;> cases named <;> rfl

theorem arguments_apart {slot : Slot} {option : String} (named : slot.option? = some option)
    (value : Bytes) :
    (Item.filled slot .apart value).arguments =
      [Utf8.encode (Parameter.slot slot).flag, value] := by
  cases slot <;> cases named <;> rfl

theorem ofArgument_joined {slot : Slot} {option : String} (named : slot.option? = some option)
    (value : Bytes) :
    Token.ofArgument (Utf8.encode ((Parameter.slot slot).flag ++ "=") ++ value) =
      .long (Utf8.encode option) (some value) := by
  cases slot <;> cases named <;> rfl

theorem ofArgument_flag {slot : Slot} {option : String} (named : slot.option? = some option) :
    Token.ofArgument (Utf8.encode (Parameter.slot slot).flag) =
      .long (Utf8.encode option) none := by
  cases slot <;> cases named <;> rfl

theorem ofOption?_slot {slot : Slot} {option : String} (named : slot.option? = some option) :
    Parameter.ofOption? (Utf8.lossy (Utf8.encode option)) = some (.slot slot) := by
  cases slot <;> cases named <;> rfl

/-! ## Valid items -/

variable [Naming]

/-- No slot takes a value that starts with a dash. -/
theorem ne_dash_of_read {slot : Slot} {value : Bytes} {setting : Setting}
    (reads : slot.read value = .ok setting) (rest : Bytes) : value ≠ dash :: rest := by
  rintro rfl
  cases slot with
  | url =>
    obtain ⟨url, readsUrl, _⟩ := map_eq_ok_iff.mp reads
    obtain ⟨text, spells, readsText⟩ := readText_eq_ok_iff.mp readsUrl
    obtain ⟨cs, dashed⟩ := dash_of_encode spells.symm
    obtain ⟨parsed, parses, _⟩ := bind_eq_ok_iff.mp readsText
    rw [Url.parse_dash dashed] at parses
    cases parses
  | idleTimeout =>
    obtain ⟨milliseconds, readsTimeout, _⟩ := map_eq_ok_iff.mp reads
    obtain ⟨text, spells, denotes, _⟩ := readIdleTimeout_eq_ok_iff.mp readsTimeout
    obtain ⟨cs, dashed⟩ := dash_of_encode spells.symm
    rw [dashed] at denotes
    cases denotes with
    | plain decimal => exact absurd (decimal.digital '-' List.mem_cons_self) (by decide)
  | format =>
    obtain ⟨format, readsFormat, _⟩ := map_eq_ok_iff.mp reads
    exact readFormat_dash rest format readsFormat

/-- A value that a slot takes does not look like an option. -/
theorem ofArgument_of_read {slot : Slot} {value : Bytes} {setting : Setting}
    (reads : slot.read value = .ok setting) : Token.ofArgument value = .plain value := by
  unfold Token.ofArgument
  split
  · next first second rest =>
    -- All other tokens start with a dash.
    have plain : first ≠ dash := fun equal => ne_dash_of_read reads (second :: rest) (by rw [equal])
    rw [if_pos plain]
  · rfl

namespace Item

/-- What the item sets, if its value is valid. -/
def setting? : Item → Option Setting
  | filled slot _ value => (slot.read value).toOption
  | inspect => some .inspect

/-- The item has a value that its slot takes, if it has one at all. -/
def Valid (item : Item) : Prop :=
  item.setting?.isSome

instance (item : Item) : Decidable item.Valid :=
  inferInstanceAs (Decidable (item.setting?.isSome = true))

theorem setting?_filled {slot : Slot} {spelling : Spelling} {value : Bytes} {setting : Setting} :
    (filled slot spelling value).setting? = some setting ↔ slot.read value = .ok setting := by
  show (slot.read value).toOption = some setting ↔ _
  cases slot.read value with
  | ok other => simp [Except.toOption]
  | error refusal => simp [Except.toOption]

end Item

theorem parameter_of_read {slot : Slot} {value : Bytes} {setting : Setting}
    (reads : slot.read value = .ok setting) : setting.parameter = .slot slot := by
  cases slot <;> obtain ⟨_, _, rfl⟩ := map_eq_ok_iff.mp reads <;> rfl

theorem Item.parameter_of_setting? {item : Item} {setting : Setting}
    (sets : item.setting? = some setting) : setting.parameter = item.parameter := by
  cases item with
  | filled slot spelling value => exact parameter_of_read (setting?_filled.mp sets)
  | inspect =>
    cases sets
    rfl

/-- Valid items set just their parameters. -/
theorem map_parameter_settings {items : List Item} (valid : ∀ item ∈ items, item.Valid) :
    (items.filterMap Item.setting?).map Setting.parameter = items.map Item.parameter := by
  induction items with
  | nil => rfl
  | cons item items ih =>
    obtain ⟨setting, sets⟩ := Option.isSome_iff_exists.mp (valid item List.mem_cons_self)
    have others := ih fun later among => valid later (List.mem_cons_of_mem _ among)
    rw [List.filterMap_cons_some sets, List.map_cons, List.map_cons,
      Item.parameter_of_setting? sets, others]

/-! ## Reading items -/

namespace Scan

variable {scan next : Scan} {settings : List Setting} {slot : Slot} {value : Bytes}
  {setting : Setting}

/-- Once the pending value is looked at, the settings are complete. -/
def Holds (scan : Scan) (settings : List Setting) : Prop :=
  scan.settle = .ok { settings }

/-- A parameter that is not set yet is set. -/
theorem fill_new (new : .slot slot ∉ scan.given) (reads : slot.read value = .ok setting) :
    scan.fill slot value = .ok (scan.add setting) := by
  unfold fill once
  rw [if_neg (by simpa using new), reads]
  rfl

theorem fill_invalid {cause : Refusal} (new : .slot slot ∉ scan.given)
    (fails : slot.read value = .error cause) : scan.fill slot value = .error cause := by
  unfold fill once
  rw [if_neg (by simpa using new), fails]
  rfl

theorem holds_settings (settings : List Setting) : Holds { settings } settings :=
  rfl

theorem holds_pending (new : .slot slot ∉ settings.map Setting.parameter)
    (reads : slot.read value = .ok setting) :
    Holds { settings, pending := some (.holding slot value) } (settings ++ [setting]) :=
  fill_new new reads

/-- Every parameter that is set by then counts as given already. -/
theorem givenAfter_of_holds (holds : scan.Holds settings) :
    scan.givenAfter = settings.map Setting.parameter := by
  obtain ⟨before, pending⟩ := scan
  unfold Holds settle at holds
  unfold givenAfter given
  cases pending with
  | none =>
    cases holds
    rfl
  | some pending =>
    cases pending with
    | awaiting slot => cases holds
    | holding slot value =>
      obtain ⟨_, once, holds⟩ := bind_eq_ok_iff.mp holds
      obtain ⟨setting, reads, holds⟩ := bind_eq_ok_iff.mp holds
      cases holds
      unfold Scan.once given at once
      split at once
      · cases once
      · next new =>
        simp only [new, List.map_append, List.map_cons, List.map_nil, parameter_of_read reads]
        rfl

theorem takePlain_url (holds : scan.Holds settings)
    (new : .slot .url ∉ settings.map Setting.parameter) :
    scan.takePlain value = .ok { settings, pending := some (.holding .url value) } := by
  have first : scan.hasPositional = false := by
    unfold hasPositional
    rw [givenAfter_of_holds holds]
    simpa using new
  unfold takePlain
  split
  · next slot awaiting =>
    unfold Holds settle at holds
    rw [awaiting] at holds
    cases holds
  · unfold takePositional
    rw [first]
    show (scan.settle >>= _) = _
    rw [holds]
    rfl

theorem takeLong_joined {option : String} (named : slot.option? = some option)
    (holds : scan.Holds settings) :
    scan.takeLong (Utf8.encode option) (some value) =
      (Scan.fill { settings } slot value).mapError .refusal := by
  unfold takeLong
  rw [ofOption?_slot named]
  show Except.mapError _ (scan.settle >>= _) = _
  rw [holds]
  rfl

theorem takeLong_flag {option : String} (named : slot.option? = some option)
    (holds : scan.Holds settings) :
    scan.takeLong (Utf8.encode option) none =
      .ok { settings, pending := some (.awaiting slot) } := by
  unfold takeLong
  rw [ofOption?_slot named]
  show (Except.mapError _ scan.settle >>= _) = _
  rw [holds]
  rfl

theorem takeLong_inspect (holds : scan.Holds settings)
    (new : .inspect ∉ settings.map Setting.parameter) :
    scan.takeLong (Utf8.encode "inspect") none =
      .ok { settings := settings ++ [.inspect] } := by
  have flag : Parameter.ofOption? (Utf8.lossy (Utf8.encode "inspect")) = some .inspect := rfl
  unfold takeLong
  rw [flag]
  show Except.mapError _ (scan.settle >>= _) = _
  rw [holds]
  show Except.mapError _ (Scan.once { settings } .inspect >>= _) = _
  unfold once given
  rw [if_neg (by simpa using new)]
  rfl

/-- An option is taken up in either spelling. -/
theorem read_option {option : String} {spelling : Spelling} (named : slot.option? = some option)
    (holds : scan.Holds settings) (reads : slot.read value = .ok setting)
    (new : .slot slot ∉ settings.map Setting.parameter) :
    ∃ next : Scan, next.Holds (settings ++ [setting]) ∧
      ∀ rest, scan.read ((Item.filled slot spelling value).arguments ++ rest) = next.read rest := by
  cases spelling with
  | joined =>
    refine ⟨_, holds_settings _, fun rest => ?_⟩
    rw [arguments_joined named, List.singleton_append, read, ofArgument_joined named]
    show (scan.takeLong _ _ >>= _) = _
    rw [takeLong_joined named holds, fill_new new reads]
    rfl
  | apart =>
    refine ⟨_, holds_pending new reads, fun rest => ?_⟩
    rw [arguments_apart named, List.cons_append, read, ofArgument_flag named]
    show (scan.takeLong _ _ >>= _) = _
    rw [takeLong_flag named holds]
    show Scan.read _ (value :: rest) = _
    rw [read, ofArgument_of_read reads]
    rfl

/-- A value that an option does not take is refused at once, if it is joined to the option. -/
theorem read_invalid {option : String} {cause : Refusal} (named : slot.option? = some option)
    (holds : scan.Holds settings) (fails : slot.read value = .error cause)
    (new : .slot slot ∉ settings.map Setting.parameter) (rest : List Bytes) :
    scan.read ((Item.filled slot .joined value).arguments ++ rest) = .error (.refusal cause) := by
  rw [arguments_joined named, List.singleton_append, read, ofArgument_joined named]
  show (scan.takeLong _ _ >>= _) = _
  rw [takeLong_joined named holds, fill_invalid new fails]
  rfl

/-- An item is taken up: behind it, its setting is added to those before it. -/
theorem read_item {item : Item} (holds : scan.Holds settings) (sets : item.setting? = some setting)
    (new : item.parameter ∉ settings.map Setting.parameter) :
    ∃ next : Scan, next.Holds (settings ++ [setting]) ∧
      ∀ rest, scan.read (item.arguments ++ rest) = next.read rest := by
  cases item with
  | filled slot spelling value =>
    have reads := Item.setting?_filled.mp sets
    cases slot with
    | idleTimeout => exact read_option rfl holds reads new
    | format => exact read_option rfl holds reads new
    | url =>
      refine ⟨_, holds_pending new reads, fun rest => ?_⟩
      rw [Item.arguments, List.singleton_append, read, ofArgument_of_read reads]
      show (Except.mapError _ (scan.takePlain value) >>= _) = _
      rw [takePlain_url holds new]
      rfl
  | inspect =>
    cases sets
    refine ⟨_, holds_settings _, fun rest => ?_⟩
    have token : Token.ofArgument (Utf8.encode Parameter.inspect.flag) =
        .long (Utf8.encode "inspect") none := rfl
    rw [Item.arguments, List.singleton_append, read, token]
    show (scan.takeLong _ _ >>= _) = _
    rw [takeLong_inspect holds new]
    rfl

/-- Items are taken up in any order. -/
theorem read_items {items : List Item} (holds : scan.Holds settings)
    (valid : ∀ item ∈ items, item.Valid) (once : (items.map Item.parameter).Nodup)
    (new : ∀ item ∈ items, item.parameter ∉ settings.map Setting.parameter) :
    ∃ next : Scan, next.Holds (settings ++ items.filterMap Item.setting?) ∧
      ∀ rest, scan.read (items.flatMap Item.arguments ++ rest) = next.read rest := by
  induction items generalizing scan settings with
  | nil =>
    refine ⟨scan, ?_, fun rest => rfl⟩
    rw [List.filterMap_nil, List.append_nil]
    exact holds
  | cons item items ih =>
    obtain ⟨setting, sets⟩ := Option.isSome_iff_exists.mp (valid item List.mem_cons_self)
    -- What is pending behind the item differs with its spelling; only what it comes to is known.
    obtain ⟨middle, holdsMiddle, readsItem⟩ := read_item holds sets (new item List.mem_cons_self)
    obtain ⟨other, once⟩ := List.nodup_cons.mp once
    have newOthers : ∀ later ∈ items,
        later.parameter ∉ (settings ++ [setting]).map Setting.parameter := by
      intro later among given
      rw [List.map_append, List.map_singleton, Item.parameter_of_setting? sets] at given
      rcases List.mem_append.mp given with before | same
      · exact new later (List.mem_cons_of_mem _ among) before
      · rw [← List.mem_singleton.mp same] at other
        exact other (List.mem_map_of_mem among)
    obtain ⟨next, holdsNext, readsItems⟩ := ih holdsMiddle
      (fun later among => valid later (List.mem_cons_of_mem _ among)) once newOthers
    refine ⟨next, ?_, fun rest => ?_⟩
    · rw [List.filterMap_cons_some sets, List.append_cons]
      exact holdsNext
    · rw [List.flatMap_cons, List.append_assoc, readsItem, readsItems]

end Scan

end CommandLine

end SyncProbe
