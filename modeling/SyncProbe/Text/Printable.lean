/-!
# Text without control sequences

A message may repeat what a user typed, and that may hold characters which a terminal obeys and does
not show. `Text.printable` leaves them out: escape sequences, as far as they reach, and all other
controls but blanks.
-/

namespace SyncProbe.Text

/-- Where a text stands with regard to escape sequences. -/
inductive EscapeState where
  /-- Outside of a sequence. -/
  | ground
  /-- Behind the escape character. -/
  | escape
  /-- Among the intermediate characters of a short sequence. -/
  | intermediate
  /-- Among the parameters of a control sequence. -/
  | parameters
  /-- Inside a command to the operating system, which a bell may end. -/
  | command
  /-- Inside another string, which only a further control ends. -/
  | content
deriving DecidableEq, Repr

def isBlankControl (c : Char) : Bool :=
  c = '\t' || c = '\n' || c = '\x0c' || c = '\r'

def isAsciiControl (c : Char) : Bool :=
  c.toNat < 0x20 || c.toNat = 0x7F

/-- Whether a character lies between two others, both included. -/
def isBetween (low high c : Char) : Bool :=
  low ≤ c && c ≤ high

namespace EscapeState

/-- The state after a character that is no control. -/
def next (state : EscapeState) (c : Char) : EscapeState :=
  match state with
  | ground => ground
  | escape =>
    if c = '[' then parameters
    else if c = ']' then command
    else if ['P', 'X', '^', '_'].contains c then content
    else if isBetween ' ' '/' c then intermediate
    else if isBetween '0' '~' c then ground
    else escape
  | intermediate => if isBetween '0' '~' c then ground else intermediate
  | parameters => if isBetween '@' '~' c then ground else parameters
  | command => command
  | content => content

/-- Whether a blank inside is shown. It ends the sequence then. -/
def showsBlanks : EscapeState → Bool
  | command => false
  | content => false
  | _ => true

/-- The state after a control, and whether that is shown. -/
def control (state : EscapeState) (c : Char) : EscapeState × Bool :=
  if c = '\x1b' then (escape, false)
  else if c = '\x18' || c = '\x1a' then (ground, false)
  else if c = '\x07' && state = command then (ground, false)
  else if isBlankControl c && state.showsBlanks then (ground, true)
  else (state, false)

/-- What is shown of a text. -/
def shown : EscapeState → List Char → List Char
  | _, [] => []
  | state, c :: rest =>
    if isAsciiControl c then
      let (after, visible) := state.control c
      if visible then c :: shown after rest else shown after rest
    else if state = ground then c :: shown ground rest
    else shown (state.next c) rest

end EscapeState

/-- What a terminal shows of a text. -/
def printable (text : String) : String :=
  String.ofList (EscapeState.ground.shown text.toList)

end SyncProbe.Text
