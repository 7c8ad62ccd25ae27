import AccessTrace.Command.Outcome

/-!
The program in a small world of its own: one directory, what has been printed, and where is logged
to. Time stands still in it.
-/

namespace AccessTrace.Command

/-- A file that is logged to: at a position that only moves on, or else always at its end. -/
structure LogFile where
  path : Path
  position : Option Nat
  deriving DecidableEq, Repr

structure Workspace where
  directory : Directory := {}
  output : String := ""
  logFile : Option LogFile := none
  deriving DecidableEq, Repr

namespace Workspace

def time : String := "2026-01-01T00:00:00.000000Z"

def onDirectory {α : Type} (action : StateM Directory α) : StateM Workspace α := fun w =>
  let (a, directory) := action.run w.directory
  (a, { w with directory })

def print (text : String) : StateM Workspace Unit :=
  modify fun w => { w with output := w.output ++ text }

def writing (path : Path) (octets : List UInt8)
    (action : StateM Directory (Except OsError Unit)) : StateM Workspace (Except OsError Unit) := do
  if (← get).directory.isOutput path then print (Text.ofUtf8Lossy octets)
  onDirectory action

def openLog (path : Path) (append : Bool) : StateM Workspace (Except OsError Unit) := do
  let opened ← onDirectory (if append then Files.extendFile path [] else Files.createFile path)
  if opened.isOk then
    modify fun w => { w with logFile := some ⟨path, if append then none else some 0⟩ }
  return opened

def writeLog (file : LogFile) (octets : List UInt8) : StateM Workspace Unit := do
  match file.position with
  | none => discard (writing file.path octets (Files.extendFile file.path octets))
  | some position =>
    discard (writing file.path octets
      (Directory.change (Directory.writeAt · file.path position octets)))
    let position := position + octets.length
    modify fun w => { w with logFile := some { file with position } }

def log (event : Event) : StateM Workspace Unit := do
  if let some file := (← get).logFile then
    let octets := Event.entries time [event]
    if !octets.isEmpty then writeLog file octets

def logEcho (path : Path) : StateM Workspace (List Event → List UInt8) := do
  let w ← get
  let isLog := w.logFile.any fun file => w.directory.isSameFile path file.path
  return if isLog then Event.entries time else fun _ => []

instance : Files (StateM Workspace) where
  openFile path := onDirectory (Files.openFile path)
  isEndless path := onDirectory (Files.isEndless path)
  createFile path := onDirectory (Files.createFile path)
  extendFile path octets := writing path octets (Files.extendFile path octets)

instance : Console (StateM Workspace) where
  print := print
  openLog := openLog
  log := log
  logEcho := logEcho

def execute (directory : Directory) (words : List String) : Outcome × Workspace :=
  (runWords (m := StateM Workspace) words).run { directory }

end Workspace

end AccessTrace.Command
