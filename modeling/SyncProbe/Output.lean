import SyncProbe.Failure
import SyncProbe.Report

/-!
# What a program writes

Everything a program writes is an `Entry`: an event, the report, a failure or a plain line. A
`Format` says how entries are written, and each entry ends its line.
-/

namespace SyncProbe

/-- How entries are written. -/
inductive Format where
  /-- One JSON object for each entry. -/
  | json
  /-- Tagged, coloured text, and a table for the report. -/
  | plainText
deriving DecidableEq, Repr

namespace Format

def all : List Format := [json, plainText]

def name : Format → String
  | json => "json"
  | plainText => "plain-text"

def ofName? (name : String) : Option Format :=
  all.find? (·.name == name)

/-- What the format is, in a few words. -/
def help : Format → String
  | json => "One JSON object per line"
  | plainText => "Tagged, coloured text"

end Format

/-- Something that is written. -/
inductive Entry where
  | event (happened : Event)
  | report (observed : Report)
  | failure (cause : Failure)
  | line (said : Line)
deriving DecidableEq, Repr

namespace Entry

def plainText : Entry → String
  | event happened => happened.line.text
  | report observed => observed.table.text
  | failure cause => cause.line.text
  | line said => said.text

def toJson : Entry → Json
  | event happened => happened.toJson
  | report observed => observed.toJson
  | failure cause => cause.toJson
  | line said => said.toJson

/-- An entry as it is written, without the end of its last line. -/
def text (format : Format) (entry : Entry) : String :=
  match format with
  | .json => entry.toJson.text
  | .plainText => entry.plainText

end Entry

end SyncProbe
