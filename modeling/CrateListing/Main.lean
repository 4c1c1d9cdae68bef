import CrateListing.Command.Disk
import CrateListing.Command.Run
import Std.Time.Zoned

/-!
# The program

The outer layer of the command line program: it reads the crate file, prints
the result or writes it, and prints the log.  All decisions are made by the
library.
-/

namespace CrateListing
namespace Program

/-- A number with leading zeros up to a width. -/
def padded (width : Nat) (n : Int) : String :=
  String.ofList (Decimal.padZeros width (toString n).toList)

/-- The local date and time, as shown in logs. -/
def timeStamp : IO String := do
  let now ← Std.Time.PlainDateTime.now
  let date := String.intercalate "-"
    [padded 4 now.year.toInt, padded 2 now.month.val, padded 2 now.day.val]
  let time := String.intercalate ":"
    [padded 2 now.hour.val, padded 2 now.minute.val, padded 2 now.second.val]
  return date ++ " " ++ time

/-- The number of a system error, whose sign depends on the call that reports it. -/
def errorNumber (code : UInt32) : Nat :=
  if code.toNat < Nat.pow 2 31 then code.toNat else Nat.pow 2 32 - code.toNat

/-- The refusal behind an error of the operating system. -/
def refusal? : IO.Error → Option Refusal
  | .noFileOrDirectory .. => some .missing
  | .inappropriateType _ code _ =>
      if errorNumber code = 20 then some .notDirectory else some .isDirectory
  | .invalidArgument _ code _ => if errorNumber code = 36 then some .nameTooLong else none
  | _ => none

/-- The reason that the operating system gives. -/
def reason (error : IO.Error) : Text :=
  match refusal? error with
  | some refusal => refusal.message
  | none => toString error

/-- The most spaces in a row that the program makes. -/
def mostSpaces : Nat := Nat.pow 2 36

/-- Whether the program makes so many spaces in a row. -/
def hasRoom (count : Nat) : Bool :=
  decide (count < mostSpaces)

/-- The name of a file for the operating system. -/
def fileName (path : RawPath) : String :=
  (String.fromUTF8? ⟨path.bytes.toArray⟩).getD ""

/-- Reads the crate file. -/
def readContent (path : RawPath) : IO (Except ReadError (List UInt8)) := do
  try
    let bytes ← IO.FS.readBinFile (fileName path)
    return .ok bytes.toList
  catch error =>
    match refusal? error with
    | some .missing | some .notDirectory => return .error .missing
    | _ => return .error (.refused (reason error))

/-- Writes bytes to a file. -/
def writeContent (path : RawPath) (bytes : List UInt8) : IO (Except Text Unit) := do
  try
    IO.FS.writeBinFile (fileName path) ⟨bytes.toArray⟩
    return .ok ()
  catch error => return .error (reason error)

/-- Prints a text with escapes for what cannot be encoded. -/
def printTo (stream : IO.FS.Stream) (text : Text) : IO Unit :=
  stream.write ⟨(text.escapeSurrogates.encode.toOption.getD []).toArray⟩

/-- Breaks a run off. -/
def abort {α : Type} (reason : Abort) : IO α := do
  printTo (← IO.getStderr) (reason.message ++ "\n")
  throw (IO.userError "the run was broken off")

/-- Prints what is shown of a log. -/
def printLog (style : Log.Style) (log : List Log.Entry) : IO Unit := do
  printTo (← IO.getStderr) (style.text (← timeStamp) log)

/-- Writes a line to the file for the result. -/
def writeLine (style : Log.Style) (target line : Text) (path : RawPath) : IO UInt32 := do
  let written ← writeContent path (line.encode.toOption.getD [])
  match written, line.encode with
  | .ok (), .error fault => abort (.unencodable fault)
  | _, _ => do
      let (entry, code) := Invocation.conclude target written
      printLog style [entry]
      return code.toUInt32

/-- Shows a text or writes it to the file for the result. -/
def deliver (invocation : Invocation) (text : Text) : IO UInt32 := do
  let line := text ++ "\n"
  match invocation.target? with
  | some target =>
      match (Path.parse target).encode with
      | .ok path => writeLine invocation.logStyle target line path
      | .error fault => abort (.unusablePath fault)
  | none =>
      match line.encode with
      | .ok bytes => do
          (← IO.getStdout).write ⟨bytes.toArray⟩
          return 0
      | .error fault => abort (.unencodable fault)

/-- Runs a command. -/
def run (invocation : Invocation) : IO UInt32 := do
  let content ←
    match (Path.parse invocation.file).encode with
    | .ok path => readContent path
    | .error _ => pure (.error .missing)
  let produced := invocation.produce hasRoom content
  printLog invocation.logStyle produced.log
  match produced.outcome with
  | .error (.status code) => return code.toUInt32
  | .error (.aborted reason) => abort reason
  | .ok text => deliver invocation text

/-- How the program is called. -/
def usage (program : Text) : Text :=
  "usage: " ++ program ++ " [options] command [options] file [name]\n"

end Program
end CrateListing

open CrateListing in
/-- The command line program. -/
def main (words : List String) : IO UInt32 :=
  match Invocation.parse (words.map Text.ofString) with
  | .ok invocation => Program.run invocation
  | .error (.help program) => do
      Program.printTo (← IO.getStdout) (Program.usage program)
      return 0
  | .error (.misuse program problem) => do
      Program.printTo (← IO.getStderr) (Program.usage program)
      Program.printTo (← IO.getStderr) (usageError program problem ++ "\n")
      return 2
