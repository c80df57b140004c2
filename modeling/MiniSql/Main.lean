import MiniSql.Script

/-! The command line: evaluates a script file, or statements from standard input as they arrive. -/

namespace MiniSql.Main
open Script

structure Options where
  file : Option String
  verbose : Bool

def Options.read? (options : Options) : List String → Option Options
  | [] => some options
  | "-v" :: arguments => Options.read? { options with verbose := true } arguments
  | "--verbose" :: arguments => Options.read? { options with verbose := true } arguments
  | argument :: arguments =>
    if argument.startsWith "-" || options.file.isSome then none
    else Options.read? { options with file := some argument } arguments

def usage : String := "usage: minisql [-v|--verbose] [FILE]"

/-- The bytes up to the next line feed, which is the last of them, or to the end of the input. -/
partial def readLine (input : IO.FS.Stream) (line : ByteArray) : IO ByteArray := do
  let byte ← input.read 1
  if byte.isEmpty then return line
  else if byte.toList = [10] then return line ++ byte
  else readLine input (line ++ byte)

def write (output : IO.FS.Stream) (session : Session) : IO Session := do
  output.putStr session.written
  output.flush
  return { session with written := "" }

partial def serve (input output : IO.FS.Stream) (session : Session) : IO (Option Error × Session) := do
  let bytes ← readLine input .empty
  match lines bytes.toList with
  | [] => return (none, ← write output session.finish)
  | line :: _ =>
    match session.step line with
    | .continue next => serve input output (← write output next)
    | .exit => return (none, session)
    | .unreadable error => return (some error, session)

def reportTables (catalog : Catalog) : IO Unit :=
  catalog.entries.forM fun entry => IO.eprintln (entry.1 ++ ": " ++ entry.2.rowCount.repr ++ " rows")

def fail (error : Error) : IO UInt32 := do
  IO.eprintln ("Error: " ++ error.message)
  return 1

def runPath (path : String) : IO (Except Error String × Catalog) := do
  let bytes ← (IO.FS.readBinFile path).toBaseIO
  match bytes with
  | .ok bytes => return runFile (some bytes.toList) .empty
  | .error (.noFileOrDirectory ..) => return runFile none .empty
  | .error reason => return (.error (.unreadable reason.toString), .empty)

end MiniSql.Main

open MiniSql MiniSql.Main in
/-- With `-v` the tables left behind are listed on standard error. -/
def main (arguments : List String) : IO UInt32 := do
  match Options.read? ⟨none, false⟩ arguments with
  | none =>
    IO.eprintln usage
    return 2
  | some options =>
    match options.file with
    | some path =>
      let (answer, catalog) ← runPath path
      if options.verbose then reportTables catalog
      match answer with
      | .ok output =>
        IO.print output
        return 0
      | .error error => fail error
    | none =>
      let (error, session) ← serve (← IO.getStdin) (← IO.getStdout) (Script.Session.start .empty)
      if options.verbose then reportTables session.catalog
      match error with
      | some error => fail error
      | none => return 0
