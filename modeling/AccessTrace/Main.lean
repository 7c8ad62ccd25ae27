import AccessTrace.Command.Outcome
import Std.Time.Format

namespace AccessTrace.Main

open AccessTrace.Command

def osError (error : IO.Error) : OsError :=
  match error with
  | .noFileOrDirectory .. => .notFound
  | .noSuchThing _ code _ => if code = 6 then .noDevice else .notFound
  | .inappropriateType _ code _ => if code = 20 then .notADirectory else .isADirectory
  | .invalidArgument _ code _ =>
    if code = 36 then .nameTooLong else if code = 40 then .tooManyLinks else .invalidInput
  | .resourceExhausted .. => .noSpace
  | .permissionDenied .. => .permissionDenied
  | _ => .other

def attempt {α : Type} (action : IO α) : IO (Except OsError α) := do
  match ← action.toBaseIO with
  | .ok a => return .ok a
  | .error error => return .error (osError error)

structure LogFile where
  path : Path
  handle : IO.FS.Handle

abbrev Host := ReaderT (IO.Ref (Option LogFile)) IO

def now : IO String := do
  let time := Std.Time.DateTime.ofTimestamp (← Std.Time.Timestamp.now) .UTC
  return time.format "uuuu-MM-dd" ++ "T" ++ time.format "HH:mm:ss.SSSSSS" ++ "Z"

def isSameFile (one other : Path) : IO Bool := do
  match ← attempt (IO.FS.realPath one.text), ← attempt (IO.FS.realPath other.text) with
  | .ok one, .ok other => return one == other
  | _, _ => return false

/-- Opens a file and reads it. A file that opens but cannot be read is an empty source that
fails. -/
def openFile (path : Path) : IO (Except OsError Source) := do
  match ← attempt (IO.FS.Handle.mk path.text .read) with
  | .error error => return .error error
  | .ok handle =>
    match ← attempt handle.readBinToEnd with
    | .ok octets => return .ok { octets := octets.toList }
    | .error error => return .ok { octets := [], failure := some error }

def extendFile (path : Path) (octets : List UInt8) : IO (Except OsError Unit) :=
  attempt do
    let handle ← IO.FS.Handle.mk path.text .append
    handle.write ⟨octets.toArray⟩
    handle.flush

-- Octets without end keep this machine from ever having read them.
instance : Files Host where
  openFile path := liftM (openFile path)
  isEndless _ := return false
  createFile path := liftM (attempt do let _ ← IO.FS.Handle.mk path.text .write)
  extendFile path octets := liftM (extendFile path octets)

instance : Console Host where
  print text := liftM (IO.print text : IO Unit)
  openLog path append := do
    let mode : IO.FS.Mode := if append then .append else .write
    match ← attempt (IO.FS.Handle.mk path.text mode) with
    | .error error => return .error error
    | .ok handle =>
      (← read).set (some { path, handle })
      return .ok ()
  log event := do
    if event.passes .info then IO.eprintln event.line
    if let some file ← (← read).get then
      let octets := Event.entries (← now) [event]
      discard (attempt do
        file.handle.write ⟨octets.toArray⟩
        file.handle.flush)
  logEcho path := do
    if let some file ← (← read).get then
      if ← isSameFile path file.path then return Event.entries (← now)
    return fun _ => []

end AccessTrace.Main

def main (words : List String) : IO UInt32 := do
  let logFile ← IO.mkRef none
  let outcome ← (AccessTrace.Command.runWords (m := AccessTrace.Main.Host) words).run logFile
  IO.eprint outcome.report
  return outcome.code.toUInt32
