import SyncProbe.Url.Parser
import SyncProbe.Proofs.Except

/-!
# What is read as a URL

Whatever the text, each part of a URL that is read from it is the outcome of one of the readers of
parts. `IsRead` says so, and what is shown of a URL later is shown for its parts. The host, for one,
is never an empty text. And a text that starts with a dash is no URL, since a scheme starts with a
letter. So the command line can tell a URL from an option.

Results:
1. `Host.text_ne_empty`: only a domain without a name is written as nothing.
2. `Host.parse_of_toAscii?`: a text that has a name is read as that name.
3. `isRead_of_parse`: the parts of a URL that is read.
4. `IsRead.host_text_ne_empty`: the host of a URL that is read is not empty.
5. `parse_dash`: a text that starts with a dash is no URL.
6. `parseAuthority_of_host`, `parse_localServer`: how a plain URL is read, whatever the names.
-/

namespace SyncProbe

/-! ## Hosts -/

namespace Host

theorem text_ne_empty {host : Host} (named : host ≠ .domain "") : host.text ≠ "" := by
  intro empty
  cases host with
  | domain name => exact named (congrArg Host.domain empty)
  | ipv4 address =>
    unfold text ipv4Text at empty
    simp [String.append_eq_empty_iff] at empty
  | ipv6 pieces =>
    unfold text at empty
    simp [String.append_eq_empty_iff] at empty

theorem ipv4_of_joinIpv4 {parts : List Nat} {host : Host} (joins : joinIpv4 parts = .ok host) :
    ∃ address, host = .ipv4 address := by
  unfold joinIpv4 at joins
  simp only at joins
  split at joins
  · cases joins
  · cases joins
    exact ⟨_, rfl⟩

theorem ipv4_of_parseIpv4 {name : List Char} {host : Host} (parses : parseIpv4 name = .ok host) :
    ∃ address, host = .ipv4 address := by
  unfold parseIpv4 at parses
  simp only at parses
  split at parses
  · cases parses
  · split at parses
    · exact ipv4_of_joinIpv4 parses
    · cases parses

theorem ipv6_of_parseBracketed {cs : List Char} {host : Host}
    (parses : parseBracketed cs = .ok host) : ∃ pieces, host = .ipv6 pieces := by
  unfold parseBracketed parseIpv6 at parses
  split at parses
  · split at parses
    · cases parses
      exact ⟨_, rfl⟩
    · cases parses
  · cases parses

variable [Naming]

/-- A text that is read is that of an address, or of a name that can stand in a domain. -/
theorem domain_of_parseName {cs : List Char} {host : Host} (parses : parseName cs = .ok host) :
    (∃ address, host = .ipv4 address) ∨
      ∃ name, name ≠ "" ∧ fitsDomain name = true ∧ host = .domain name := by
  unfold parseName at parses
  split at parses
  · cases parses
  · next name names =>
    obtain ⟨text, _, names⟩ := Option.bind_eq_some_iff.mp names
    split at parses
    · cases parses
    · next filled =>
      split at parses
      · exact .inl (ipv4_of_parseIpv4 parses)
      · cases parses
        refine .inr ⟨name, ?_, Naming.fits names, rfl⟩
        rintro rfl
        exact filled rfl

theorem ne_empty_of_parse {cs : List Char} {host : Host} (parses : parse cs = .ok host) :
    host ≠ .domain "" := by
  unfold parse at parses
  split at parses
  · obtain ⟨pieces, rfl⟩ := ipv6_of_parseBracketed parses
    exact nofun
  · rcases domain_of_parseName parses with ⟨address, rfl⟩ | ⟨name, filled, _, rfl⟩
    · exact nofun
    · exact fun empty => filled (Host.domain.inj empty)

/-- A text that has a name, and is written as it is, is read as that name. -/
theorem parse_of_toAscii? {text name : String} (unbracketed : text.toList.head? ≠ some '[')
    (unescaped : Url.decode (Utf8.encode text) = Utf8.encode text)
    (names : Naming.toAscii? text = some name) (filled : name.isEmpty = false)
    (word : endsInNumber name.toList = false) : parse text.toList = .ok (.domain name) := by
  unfold parse
  split
  · next front =>
    rw [front] at unbracketed
    exact absurd rfl unbracketed
  · unfold parseName
    rw [String.ofList_toList, unescaped, Utf8.decode?_encode, Option.bind_some, names]
    simp only [filled, word, Bool.false_eq_true, if_false]

/-- The host is read, as that of a special scheme or of another one. -/
def IsRead (host : Host) : Prop :=
  ∃ cs, parse cs = .ok host ∨ parseAny cs = .ok host

end Host

namespace Url

/-! ## Parts that are read -/

/-- The three paths that are read: none, segments behind slashes, and text without structure. -/
inductive Path.IsRead : Path → Prop
  | missing : IsRead (.rooted [])
  | rooted (scheme : String) (cs : List Char) : IsRead (.rooted (parseSegments scheme cs))
  | rootless (cs : List Char) : IsRead (.rootless (String.ofList (encode isControl cs)))

theorem isRead_parsePath (scheme : String) (cs : List Char) : (parsePath scheme cs).IsRead := by
  unfold parsePath
  split
  · exact .missing
  · exact .rooted scheme cs

theorem nonempty_eq_some {host kept : Host} (keeps : nonempty host = some kept) :
    kept = host ∧ kept ≠ .domain "" := by
  unfold nonempty at keeps
  split at keeps
  · cases keeps
  · next named =>
    cases keeps
    exact ⟨rfl, named⟩

section

variable [Naming]

/-- The authority has credentials and a host that are read, and its host is not empty. -/
structure Authority.IsRead (authority : Authority) : Prop where
  userinfo : ∃ cs, parseUserinfo cs = (authority.username, authority.password)
  host : ∀ host ∈ authority.host, host.IsRead
  named : ∀ host ∈ authority.host, host ≠ .domain ""

/-- All parts of the URL are read. -/
structure IsRead (url : Url) : Prop where
  scheme : ∃ cs rest, splitScheme? cs = some (url.scheme, rest)
  authority : ∀ authority ∈ url.authority, authority.IsRead
  path : url.path.IsRead
  query : ∀ part ∈ url.query,
    ∃ cs, part = String.ofList (encode (outsideQuery (isSpecial url.scheme)) cs)
  fragment : ∀ part ∈ url.fragment, ∃ cs, part = String.ofList (encode outsideFragment cs)

theorem isRead_of_parseAuthority {scheme : String} {cs : List Char} {authority : Authority}
    (parses : parseAuthority scheme cs = .ok authority) : authority.IsRead := by
  unfold parseAuthority at parses
  simp only at parses
  split at parses
  · cases parses
  · obtain ⟨host, reads, parses⟩ : ∃ host : Host, host.IsRead ∧ _ := by
      split at parses
      · obtain ⟨host, reads, parses⟩ := bind_eq_ok_iff.mp parses
        exact ⟨host, ⟨_, .inl reads⟩, parses⟩
      · obtain ⟨host, reads, parses⟩ := bind_eq_ok_iff.mp parses
        exact ⟨host, ⟨_, .inr reads⟩, parses⟩
    split at parses
    · cases parses
    · obtain ⟨port, _, parses⟩ := bind_eq_ok_iff.mp parses
      split at parses
      · cases parses
      · cases parses
        constructor
        · exact ⟨_, rfl⟩
        · intro kept keeps
          rw [(nonempty_eq_some keeps).1]
          exact reads
        · exact fun kept keeps => (nonempty_eq_some keeps).2

theorem isRead_of_parseLocation {scheme : String} {cs : List Char} {location : Authority × Path}
    (parses : parseLocation scheme cs = .ok location) :
    location.1.IsRead ∧ location.2.IsRead := by
  obtain ⟨authority, parsesAuthority, parses⟩ := bind_eq_ok_iff.mp parses
  cases parses
  exact ⟨isRead_of_parseAuthority parsesAuthority, isRead_parsePath _ _⟩

theorem isRead_of_parseFileHost {cs : List Char} {host : Option Host}
    (parses : parseFileHost cs = .ok host) :
    ∀ kept ∈ host, kept.IsRead ∧ kept ≠ .domain "" := by
  unfold parseFileHost at parses
  split at parses
  · cases parses
    exact nofun
  · obtain ⟨read, parsesHost, parses⟩ := bind_eq_ok_iff.mp parses
    cases parses
    intro kept keeps
    split at keeps
    · cases keeps
    · cases keeps
      exact ⟨⟨_, .inl parsesHost⟩, Host.ne_empty_of_parse parsesHost⟩

/-- The authority of a local file is at most a host. -/
theorem isRead_hostOnly {host : Option Host}
    (reads : ∀ kept ∈ host, kept.IsRead ∧ kept ≠ .domain "") :
    Authority.IsRead ⟨"", none, host, none⟩ :=
  ⟨⟨[], rfl⟩, fun kept keeps => (reads kept keeps).1, fun kept keeps => (reads kept keeps).2⟩

theorem isRead_of_parseFile {cs : List Char} {location : Authority × Path}
    (parses : parseFile cs = .ok location) : location.1.IsRead ∧ location.2.IsRead := by
  unfold parseFile at parses
  simp only at parses
  split at parses
  · split at parses
    · split at parses
      · cases parses
        exact ⟨isRead_hostOnly nofun, isRead_parsePath _ _⟩
      · obtain ⟨host, parsesHost, parses⟩ := bind_eq_ok_iff.mp parses
        cases parses
        refine ⟨isRead_hostOnly fun kept keeps => ?_, isRead_parsePath _ _⟩
        exact isRead_of_parseFileHost parsesHost kept (Option.ite_none_left_eq_some.mp keeps).2
    · cases parses
      exact ⟨isRead_hostOnly nofun, isRead_parsePath "file" (_ :: _)⟩
  · cases parses
    exact ⟨isRead_hostOnly nofun, isRead_parsePath _ _⟩

theorem isRead_of_parseHierarchy {scheme : String} {cs : List Char}
    {hierarchy : Option Authority × Path} (parses : parseHierarchy scheme cs = .ok hierarchy) :
    (∀ authority ∈ hierarchy.1, authority.IsRead) ∧ hierarchy.2.IsRead := by
  -- An authority stands before the path, or there is none.
  have located {location : Authority × Path} (reads : location.1.IsRead ∧ location.2.IsRead) :
      (∀ authority ∈ some location.1, authority.IsRead) ∧ location.2.IsRead := by
    refine ⟨?_, reads.2⟩
    rintro authority ⟨⟩
    exact reads.1
  unfold parseHierarchy at parses
  split at parses
  · obtain ⟨location, locates, parses⟩ := bind_eq_ok_iff.mp parses
    cases parses
    exact located (isRead_of_parseFile locates)
  · split at parses
    · obtain ⟨location, locates, parses⟩ := bind_eq_ok_iff.mp parses
      cases parses
      exact located (isRead_of_parseLocation locates)
    · split at parses
      · obtain ⟨location, locates, parses⟩ := bind_eq_ok_iff.mp parses
        cases parses
        exact located (isRead_of_parseLocation locates)
      · cases parses
        exact ⟨nofun, isRead_parsePath scheme ('/' :: _)⟩
      · cases parses
        exact ⟨nofun, .rootless _⟩

theorem isRead_of_parse {text : String} {url : Url} (parses : parse text = .ok url) :
    url.IsRead := by
  unfold parse at parses
  split at parses
  · cases parses
  · next splits =>
    simp only at parses
    obtain ⟨⟨authority, path⟩, hierarchy, parses⟩ := bind_eq_ok_iff.mp parses
    obtain ⟨readsAuthority, readsPath⟩ := isRead_of_parseHierarchy hierarchy
    cases parses
    constructor
    case scheme => exact ⟨_, _, splits⟩
    case authority => exact readsAuthority
    case path => exact readsPath
    all_goals
      intro part present
      obtain ⟨cs, _, same⟩ := Option.map_eq_some_iff.mp present
      exact ⟨cs, same.symm⟩

/-- The host of a URL that is read is not empty. -/
theorem IsRead.host_text_ne_empty {url : Url} (reads : url.IsRead) :
    ∀ host ∈ url.host?, host.text ≠ "" := by
  intro host has
  obtain ⟨authority, present, holds⟩ := Option.bind_eq_some_iff.mp has
  exact Host.text_ne_empty ((reads.authority authority present).named host holds)

end

/-! ## Schemes -/

/-- A scheme starts with a letter. -/
theorem splitScheme?_dash (cs : List Char) : splitScheme? ('-' :: cs) = none := by
  unfold splitScheme?
  rw [List.takeWhile_cons_of_pos (by decide)]
  simp only
  split
  · next c _ _ front _ =>
    obtain ⟨rfl, _⟩ := List.cons.inj front
    rfl
  · rfl

theorem dropOuterEnd_dash (cs : List Char) :
    dropOuterEnd ('-' :: cs) = '-' :: dropOuterEnd cs := by
  unfold dropOuterEnd
  rw [List.reverse_cons, List.dropWhile_append]
  split
  · next outer =>
    rw [List.isEmpty_iff.mp outer]
    rfl
  · rw [List.reverse_append]
    rfl

theorem relevant_dash {text : String} {cs : List Char} (front : text.toList = '-' :: cs) :
    ∃ rest, relevant text = '-' :: rest := by
  unfold relevant
  rw [front, List.dropWhile_cons_of_neg (by decide), dropOuterEnd_dash,
    List.filter_cons_of_pos (by decide)]
  exact ⟨_, rfl⟩

/-- A text that starts with a dash is no URL. -/
theorem parse_dash [Naming] {text : String} {cs : List Char} (front : text.toList = '-' :: cs) :
    parse text = .error .relative := by
  obtain ⟨rest, dashed⟩ := relevant_dash front
  unfold parse
  rw [dashed, splitScheme?_dash]

/-! ## A plain URL -/

variable [Naming]

/-- An authority of nothing but a host and a port, in a special scheme. -/
theorem parseAuthority_of_host {scheme : String} {cs name rest : List Char} {host : Host}
    {port : Option Nat} (special : isSpecial scheme = true) (bare : splitLastAt? cs = none)
    (splits : splitHost false cs = (name, rest)) (filled : name.isEmpty = false)
    (parses : Host.parse name = .ok host) (named : host ≠ .domain "")
    (parsesPort : parsePort (rest.drop 1) = .ok port) :
    parseAuthority scheme cs = .ok ⟨"", none, some host, shownPort scheme port⟩ := by
  have keeps : nonempty host = some host := if_neg named
  unfold parseAuthority
  rw [bare]
  simp only [Option.getD_none, splits, special, filled, Bool.false_and, Bool.false_eq_true,
    if_false, if_true]
  rw [parses]
  simp only [bind, Except.bind, keeps, parsesPort]
  rfl

/-- The server that is probed if no other is named, at `ws://localhost:9000/`. -/
def localServer : Url where
  scheme := "ws"
  authority := some ⟨"", none, some (.domain "localhost"), some 9000⟩
  path := .rooted [""]
  query := none
  fragment := none

theorem parse_localhost : Host.parse "localhost".toList = .ok (.domain "localhost") := by
  have names : Naming.toAscii? "localhost" = some "localhost" := Naming.plain rfl
  exact Host.parse_of_toAscii? (by decide) rfl names rfl rfl

theorem parseAuthority_localServer :
    parseAuthority "ws" "localhost:9000".toList =
      .ok ⟨"", none, some (.domain "localhost"), some 9000⟩ := by
  have bare : splitLastAt? "localhost:9000".toList = none := rfl
  have splits :
      splitHost false "localhost:9000".toList = ("localhost".toList, ":9000".toList) := rfl
  have port : parsePort (":9000".toList.drop 1) = .ok (some 9000) := rfl
  exact parseAuthority_of_host rfl bare splits rfl parse_localhost (by decide) port

theorem parseLocation_localServer :
    parseLocation "ws" "localhost:9000".toList =
      .ok (⟨"", none, some (.domain "localhost"), some 9000⟩, .rooted [""]) := by
  show (parseAuthority "ws" "localhost:9000".toList >>= _) = _
  rw [parseAuthority_localServer]
  rfl

theorem parseHierarchy_localServer :
    parseHierarchy "ws" "//localhost:9000".toList =
      .ok (some ⟨"", none, some (.domain "localhost"), some 9000⟩, .rooted [""]) := by
  show (parseLocation "ws" "localhost:9000".toList >>= _) = _
  rw [parseLocation_localServer]
  rfl

theorem parse_localServer : parse "ws://localhost:9000" = .ok localServer := by
  have scheme : splitScheme? (relevant "ws://localhost:9000") =
      some ("ws", "//localhost:9000".toList) := rfl
  unfold parse
  rw [scheme]
  show (parseHierarchy "ws" "//localhost:9000".toList >>= _) = _
  rw [parseHierarchy_localServer]
  rfl

end Url

end SyncProbe
