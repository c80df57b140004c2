import MiniSql.Engine
import MiniSql.Text.Blank

/-! Scripts as bytes. A script is either evaluated as one text or line by line; in the second case
lines are collected until a semicolon ends them, and an error is written out without ending the
session. -/

namespace MiniSql.Script

def invalidText : Error := .unreadable "stream did not contain valid UTF-8"

def missingFile : Error := .unreadable "No such file or directory (os error 2)"

def decode (bytes : List UInt8) : Except Error String :=
  match String.fromUTF8? ⟨bytes.toArray⟩ with
  | some text => .ok text
  | none => .error invalidText

/-- Evaluates a script as one text. -/
def runWhole (bytes : List UInt8) (catalog : Catalog) : Except Error String × Catalog :=
  match decode bytes with
  | .ok text =>
    let (evaluation, after) := Engine.execute text catalog
    (evaluation.toExcept, after)
  | .error error => (.error error, catalog)

/-- Evaluates a script file, if there is one to read. -/
def runFile (file : Option (List UInt8)) (catalog : Catalog) : Except Error String × Catalog :=
  match file with
  | some bytes => runWhole bytes catalog
  | none => (.error missingFile, catalog)

/-- What is written about an evaluation. -/
def report (evaluation : Evaluation) : String :=
  evaluation.output ++
    match evaluation.error with
    | some error => "error: " ++ error.message ++ "\n"
    | none => ""

/-- A session between two lines: the catalog, the lines that wait for a semicolon, and what has been
written so far. Writing never fails here, and reading only at a line that is no text; other failures of
the streams a session is held on are left to those who hold it. -/
structure Session where
  catalog : Catalog
  pending : String
  written : String

/-- What a line does to a session. -/
inductive Step where
  | continue (session : Session)
  | exit
  | unreadable (error : Error)

namespace Session

def start (catalog : Catalog) : Session := ⟨catalog, "", ""⟩

def isBlank (text : String) : Bool := text.toList.all Text.isBlank

/-- A line that ends the session, provided nothing waits before it. -/
def isExit (line : String) : Bool := String.ofList (Text.trim line.toList) ∈ [".exit", ".quit"]

def endsStatement (text : String) : Bool := (Text.trimEnd text.toList).getLast? == some ';'

/-- Evaluates the lines that wait. -/
def flush (session : Session) : Session :=
  let (evaluation, after) := Engine.execute session.pending session.catalog
  ⟨after, "", session.written ++ report evaluation⟩

def addLine (session : Session) (line : String) : Session :=
  let collected := { session with pending := session.pending ++ line ++ "\n" }
  if endsStatement collected.pending then collected.flush else collected

def finish (session : Session) : Session := if isBlank session.pending then session else session.flush

/-- Takes one line: the session goes on, ends as the line asks, or fails because the line is no text. -/
def step (session : Session) (bytes : List UInt8) : Step :=
  match decode bytes with
  | .error error => .unreadable error
  | .ok line =>
    if isBlank session.pending && isExit line then .exit else .continue (session.addLine line)

/-- Takes lines until one ends the session or none is left. -/
def run (session : Session) : List (List UInt8) → Option Error × Session
  | [] => (none, session.finish)
  | line :: lines =>
    match session.step line with
    | .continue next => run next lines
    | .exit => (none, session)
    | .unreadable error => (some error, session)

end Session

/-- A line without the carriage return in front of its line feed. -/
def dropReturn (line : List UInt8) : List UInt8 := if line.getLast? = some 13 then line.dropLast else line

/-- Lines end at a line feed; the last one need not have it. The bytes of the line being read come
first, latest first. -/
def splitLines : List UInt8 → List UInt8 → List (List UInt8)
  | [], [] => []
  | line, [] => [line.reverse]
  | line, byte :: bytes =>
    if byte = 10 then dropReturn line.reverse :: splitLines [] bytes else splitLines (byte :: line) bytes

def lines (bytes : List UInt8) : List (List UInt8) := splitLines [] bytes

/-- Evaluates a script line by line, for a writer that takes all that is written. -/
def runLines (bytes : List UInt8) (catalog : Catalog) : Option Error × Session :=
  (Session.start catalog).run (lines bytes)

end MiniSql.Script
