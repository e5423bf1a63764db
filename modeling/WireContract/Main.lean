import Std.Time.DateTime.Timestamp
import WireContract.CommandLine.Run

namespace WireContract
namespace Program

def fileError : IO.Error → FileError
  | .noFileOrDirectory .. => .notFound
  | .alreadyExists .. => .exists
  | .inappropriateType _ code message =>
    if code == 20 then .notDirectory
    else if code == 21 then .isDirectory
    else .other message
  | error => .other (toString error)

def attempt {α : Type} (action : IO α) : IO (Except FileError α) := do
  try
    return .ok (← action)
  catch error => return .error (fileError error)

instance : Files IO where
  isDirectory path := do
    match ← attempt (IO.FS.realPath path) with
    | .ok full => full.isDir
    | .error _ => return false
  isThere path := do
    match ← attempt (IO.FS.realPath path) with
    | .ok _ => return true
    | .error _ => return false
  read path := attempt (IO.FS.readFile path)
  write path text := attempt (IO.FS.writeFile path text)
  makeDirectory path := attempt (IO.FS.createDir path)
  fullName path := attempt do return (← IO.FS.realPath path).fileName

def now : IO Instant := do
  let time ← Std.Time.Timestamp.now
  let nanos := time.toNanosecondsSinceUnixEpoch.val
  return ⟨nanos.fdiv 1000000000, (nanos.fmod 1000000000).toNat⟩

end Program
end WireContract

def main (arguments : List String) : IO UInt32 := do
  let report ← WireContract.Report.ofArguments (← WireContract.Program.now) arguments
  IO.print report.output
  if let some message := report.error then IO.eprintln ("Error: " ++ message)
  return UInt32.ofNat report.exitCode
