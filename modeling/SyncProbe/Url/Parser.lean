import SyncProbe.Url

/-!
# Reading URLs

`Url.parse` reads a URL of any scheme, as a browser would: blanks around it and line breaks inside
are passed over, letters of scheme and host lose their case, the scheme's own port is dropped, dot
segments are resolved, and each part is percent-encoded where it has to be.
-/

namespace SyncProbe.Url

variable [Naming]

/-! ## Scheme -/

/-- Blanks and controls, which may stand around a URL. -/
def isOuter (c : Char) : Bool :=
  c.toNat ≤ 0x20

def dropOuterEnd (cs : List Char) : List Char :=
  (cs.reverse.dropWhile isOuter).reverse

/-- The characters of a URL that count. -/
def relevant (text : String) : List Char :=
  (dropOuterEnd (text.toList.dropWhile isOuter)).filter
    fun c => ! (c = '\t' || c = '\n' || c = '\r')

def isSchemeChar (c : Char) : Bool :=
  c.isAlphanum || c = '+' || c = '-' || c = '.'

/-- The scheme before the first colon, and what follows it. -/
def splitScheme? (cs : List Char) : Option (String × List Char) :=
  let scheme := cs.takeWhile isSchemeChar
  match scheme, cs.dropWhile isSchemeChar with
  | c :: _, ':' :: rest =>
    if c.isAlpha then some (String.ofList (scheme.map Char.toLower), rest) else none
  | _, _ => none

/-! ## Authority -/

def isSlash (special : Bool) (c : Char) : Bool :=
  c = '/' || (special && c = '\\')

def endsAuthority (special : Bool) (c : Char) : Bool :=
  isSlash special c || c = '?' || c = '#'

/-- The parts before and after the last `@` of a list, if it has one. -/
def splitLastAt? (cs : List Char) : Option (List Char × List Char) :=
  let reversed := cs.reverse
  match reversed.dropWhile (· ≠ '@') with
  | _ :: before => some (before.reverse, (reversed.takeWhile (· ≠ '@')).reverse)
  | [] => none

/-- User name and password. An empty password counts as none. -/
def parseUserinfo (cs : List Char) : String × Option String :=
  let encoded (cs : List Char) : String := String.ofList (encode outsideUserinfo cs)
  let username := encoded (cs.takeWhile (· ≠ ':'))
  match cs.dropWhile (· ≠ ':') with
  | _ :: c :: password => (username, some (encoded (c :: password)))
  | _ => (username, none)

/-- The characters of a host, and what follows it. A colon between brackets belongs to the host. -/
def splitHost : Bool → List Char → List Char × List Char
  | _, [] => ([], [])
  | bracketed, c :: cs =>
    if c = ':' && ! bracketed then ([], c :: cs)
    else
      let bracketed := if c = '[' then true else if c = ']' then false else bracketed
      let (host, rest) := splitHost bracketed cs
      (c :: host, rest)

/-- Reads decimal digits as a port of at most 65535. -/
def parsePort (cs : List Char) : Except UrlError (Option Nat) :=
  if cs.isEmpty then .ok none
  else
    match Host.digits? 10 cs with
    | some port => if port ≤ 65535 then .ok (some port) else .error .invalidPort
    | none => .error .invalidPort

/-- The port that is shown: not the scheme's own. -/
def shownPort (scheme : String) (port : Option Nat) : Option Nat :=
  if port = defaultPort? scheme then none else port

/-- A host that is worth keeping. -/
def nonempty (host : Host) : Option Host :=
  if host = .domain "" then none else some host

/-- Reads the characters of an authority. -/
def parseAuthority (scheme : String) (cs : List Char) : Except UrlError Authority := do
  let special := isSpecial scheme
  let (userinfo, location) := (splitLastAt? cs).getD ([], cs)
  let (username, password) := parseUserinfo userinfo
  let (name, rest) := splitHost false location
  if name.isEmpty && (special || cs = ['@']) then .error .emptyHost
  else
    let host ← if special then Host.parse name else Host.parseAny name
    match nonempty host, rest with
    | none, ':' :: _ => .error .emptyHost
    | host, rest => do
      let port ← parsePort (rest.drop 1)
      let authority : Authority := ⟨username, password, host, shownPort scheme port⟩
      if host.isNone && ! authority.userinfo.isEmpty then .error .emptyHost
      else return authority

/-! ## Path -/

/-- The spellings of a dot in a segment. -/
def dots : List String := [".", "%2e", "%2E"]

def isDot (segment : String) : Bool :=
  dots.contains segment

def isDoubleDot (segment : String) : Bool :=
  dots.any fun first => dots.any fun second => segment == first ++ second

/-- Whether a segment names a drive of a local file system, as it stands in a URL. -/
def isDrive (segment : String) : Bool :=
  match segment.toList with
  | [c, sign] => c.isAlpha && sign = ':'
  | _ => false

/-- Whether characters name a drive, in any spelling. -/
def isDriveLike : List Char → Bool
  | [c, sign] => c.isAlpha && (sign = ':' || sign = '|')
  | _ => false

/-- Steps back by one segment. The drive of a local file stays. -/
def stepBack (file : Bool) (segments : List String) : List String :=
  match segments with
  | [drive] => if file && isDrive drive then [drive] else []
  | _ => segments.dropLast

/-- A segment in encoded form. The first segment of a local file may be a drive. -/
def segmentText (file first : Bool) (cs : List Char) : String :=
  if file && first && isDriveLike cs then String.ofList (cs.take 1 ++ [':'])
  else String.ofList (encode outsidePath cs)

/--
Adds segments to a path, and resolves dot segments. One that stands last leaves an empty segment, so
that the path ends with a slash.
-/
def addSegments (file : Bool) (path : List String) : List (List Char) → List String
  | [] => path
  | cs :: rest =>
    let segment := segmentText file path.isEmpty cs
    let tail := if rest.isEmpty then [""] else []
    if isDoubleDot segment then addSegments file (stepBack file path ++ tail) rest
    else if isDot segment then addSegments file (path ++ tail) rest
    else addSegments file (path ++ [segment]) rest

/-- Leaves out empty segments at the front of a path, but for the last segment. -/
def dropEmpty : List String → List String
  | "" :: segment :: rest => dropEmpty (segment :: rest)
  | segments => segments

/-- Drops one slash from the front of a path. -/
def dropSlash (special : Bool) : List Char → List Char
  | c :: cs => if isSlash special c then cs else c :: cs
  | [] => []

/-- Reads the segments of a rooted path. -/
def parseSegments (scheme : String) (cs : List Char) : List String :=
  let special := isSpecial scheme
  let parts := splitOn (isSlash special) (dropSlash special cs)
  let segments := addSegments (isFile scheme) [] parts
  if isFile scheme then dropEmpty segments else segments

/-- Reads the path behind an authority. It may be missing if the scheme is not special. -/
def parsePath (scheme : String) (cs : List Char) : Path :=
  if cs.isEmpty && ! isSpecial scheme then .rooted [] else .rooted (parseSegments scheme cs)

/-! ## Whole URLs -/

/-- The parts before and after the first character of a kind. That character is dropped. -/
def splitFirst (sign : Char) (cs : List Char) : List Char × Option (List Char) :=
  match cs.dropWhile (· ≠ sign) with
  | _ :: rest => (cs.takeWhile (· ≠ sign), some rest)
  | [] => (cs, none)

/-- A host of a local file, which need not be named if it is this one. -/
def parseFileHost (cs : List Char) : Except UrlError (Option Host) :=
  if cs.isEmpty then .ok none
  else do
    let host ← Host.parse cs
    return if host = .domain "localhost" then none else some host

/-- Reads authority and path of a local file. A drive in the path makes a host pointless. -/
def parseFile (cs : List Char) : Except UrlError (Authority × Path) :=
  let isSlash := isSlash true
  match cs with
  | first :: second :: rest =>
    if isSlash first && isSlash second then
      let name := rest.takeWhile (! isSlash ·)
      if isDriveLike name then .ok (⟨"", none, none, none⟩, parsePath "file" rest)
      else do
        let host ← parseFileHost name
        let path := parsePath "file" (rest.dropWhile (! isSlash ·))
        let onDrive := match path with
          | .rooted (segment :: _) => isDrive segment
          | _ => false
        return (⟨"", none, if onDrive then none else host, none⟩, path)
    else .ok (⟨"", none, none, none⟩, parsePath "file" cs)
  | cs => .ok (⟨"", none, none, none⟩, parsePath "file" cs)

/-- Reads authority and path of another scheme, after the slashes. -/
def parseLocation (scheme : String) (cs : List Char) : Except UrlError (Authority × Path) := do
  let ends := endsAuthority (isSpecial scheme)
  let authority ← parseAuthority scheme (cs.takeWhile (! ends ·))
  return (authority, parsePath scheme (cs.dropWhile (! ends ·)))

/-- Reads what stands between the scheme and the query. -/
def parseHierarchy (scheme : String) (cs : List Char) : Except UrlError (Option Authority × Path) :=
  if isFile scheme then do
    let (authority, path) ← parseFile cs
    return (some authority, path)
  else if isSpecial scheme then do
    let (authority, path) ← parseLocation scheme (cs.dropWhile (isSlash true))
    return (some authority, path)
  else
    match cs with
    | '/' :: '/' :: rest => do
      let (authority, path) ← parseLocation scheme rest
      return (some authority, path)
    | '/' :: _ => .ok (none, parsePath scheme cs)
    | _ => .ok (none, .rootless (String.ofList (encode isControl cs)))

/-- Reads a URL. -/
def parse (text : String) : Except UrlError Url :=
  match splitScheme? (relevant text) with
  | none => .error .relative
  | some (scheme, rest) => do
    let (rest, fragment) := splitFirst '#' rest
    let (rest, query) := splitFirst '?' rest
    let (authority, path) ← parseHierarchy scheme rest
    return {
      scheme, authority, path
      query := query.map fun cs =>
        String.ofList (encode (outsideQuery (isSpecial scheme)) cs)
      fragment := fragment.map fun cs => String.ofList (encode outsideFragment cs) }

end SyncProbe.Url
