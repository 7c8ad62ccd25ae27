import AccessTrace.Chart
import AccessTrace.Command.Arguments
import AccessTrace.Config.Json
import AccessTrace.Session
import AccessTrace.Snapshot.File

namespace AccessTrace.Command

class Console (m : Type → Type) where
  print : String → m Unit
  /-- Starts to log to a file, which is emptied first or added to. -/
  openLog : Path → Bool → m (Except OsError Unit)
  log : Event → m Unit
  /-- What a file gains by events that are logged: nothing, unless they are logged to it. -/
  logEcho : Path → m (List Event → List UInt8)

inductive CommandError where
  | openConfig (error : OsError)
  | config (error : ConfigReadError)
  | openTrace (path : Path) (error : OsError)
  | parseTrace (path : Path) (error : IngestError)
  | session (error : SessionError)
  | save (error : SaveError)
  | load (error : LoadError)

def CommandError.chain : CommandError → List Link
  | .openConfig error => [.text "Unable to open config file", .os error]
  | .config error => .text "Unable to parse config file" :: error.chain
  | .openTrace path error => [.text s!"Unable to open trace file {path.label}", .os error]
  | .parseTrace path error => .text s!"Unable to parse trace file {path.label}" :: error.chain
  | .session error => error.chain
  | .save error => .text "Unable to save database" :: error.chain
  | .load error => .text "Unable to load database" :: error.chain

def report (chain : List Link) : String :=
  match chain.map Link.message with
  | [] => "Error: \n"
  | [failure] => s!"Error: {failure}\n"
  | [failure, cause] => s!"Error: {failure}\n\nCaused by:\n    {cause}\n"
  | failure :: causes =>
    let numbered := causes.zipIdx.map fun (cause, index) =>
      Text.alignRight 5 ' ' (toString index) ++ s!": {cause}\n"
    s!"Error: {failure}\n\nCaused by:\n" ++ String.join numbered

/-- Why a command does not come to its end. Octets without end exhaust the memory, as they make a
line that never ends. -/
inductive Stop where
  | failed (error : CommandError)
  | crashed (trap : Trap)
  | exhausted

section

variable {m : Type → Type} [Monad m] [Files m] [Console m]

abbrev Run (m : Type → Type) := ExceptT Stop m

def printLine (line : String) : Run m Unit :=
  liftM (Console.print (line ++ "\n") : m Unit)

def logAll (events : List Event) : Run m Unit :=
  events.forM fun event => liftM (Console.log event : m Unit)

def orFail {ε α : Type} (error : ε → CommandError) (result : m (Except ε α)) : Run m α := do
  match ← liftM result with
  | .ok a => return a
  | .error e => throw (.failed (error e))

def loadConfig (file : Option Path) : Run m Config := do
  match file with
  | none => return {}
  | some path =>
    let source ← orFail .openConfig (Files.openFile (m := m) path)
    orFail .config (pure (Config.read source))

def refuseEndless (path : Path) : Run m Unit := do
  if ← liftM (Files.isEndless (m := m) path) then throw .exhausted

/-- A session on the accesses of a trace. A trace that is the log file, too, grows meanwhile. -/
def ingestTrace (path : Path) (config : Config) : Run m Session := do
  let source ← orFail (.openTrace path) (Files.openFile (m := m) path)
  let session ← orFail .session (pure (Session.new config))
  refuseEndless path
  let echo ← liftM (Console.logEcho (m := m) path)
  let (result, events, session) := session.ingestGrowing echo source
  logAll events
  let summary ← orFail (.parseTrace path) (pure result)
  printLine summary.describe
  return session

def openSession (input : Input) (config : Config) : Run m Session := do
  match input with
  | .trace path => ingestTrace path config
  | .database path =>
    let store ← orFail .load (Store.load (m := m) path (.ofPath path))
    logAll [{ level := .info, component := .program, message := "Loaded database"
              fields := [("database_file", path.label), ("accesses", toString store.size)] }]
    orFail .session (pure (Session.ofStore store config))

def noAccesses : String := "No accesses found"

def boundsLines (session : Session) : List String :=
  match session.bounds with
  | some bounds =>
    let low := Text.hex bounds.minAddress.toNat
    let high := Text.hex bounds.maxAddress.toNat
    [s!"Accesses: {session.store.size}", s!"Addresses: {low} - {high}",
      s!"Last cycle: {bounds.maxCycle}"]
  | none => [noAccesses]

def printBounds (session : Session) : Run m Unit :=
  (boundsLines session).forM printLine

namespace ParseArguments

def database (a : ParseArguments) : Path := a.outputFile.getD (a.traceFile.append ".db")

def savedAs (a : ParseArguments) : Format := a.format.getD (.ofPath a.database)

end ParseArguments

def runParse (a : ParseArguments) (config : Config) : Run m Unit := do
  let config := { config with maxLines := a.maxLines <|> config.maxLines }
  let session ← ingestTrace a.traceFile config
  orFail .save (session.store.save (m := m) a.database a.savedAs)
  logAll [{ level := .info, component := .program, message := "Saved database"
            fields := [("output_file", a.database.label), ("format", a.savedAs.label)] }]
  printBounds session

/-- Prints the chart of the window that ends at a cycle. Tells whether there is one. -/
def printWindow (session : Session) (bounds : Bounds) (upper : Cycle) (a : HistArguments) :
    Run m Bool := do
  logAll (session.store.windowEvents upper)
  match session.histogram upper a.kind with
  | .error trap => throw (.crashed trap)
  | .ok none =>
    printLine s!"Cycle {upper} is past the last cycle {bounds.maxCycle}, nothing to show"
    return false
  | .ok (some (window, histogram)) =>
    let chart := Chart.draw window histogram bounds a.barWidth
    chart.lines.forM fun line => printLine line.print
    match chart.trap with
    | some trap => throw (.crashed trap)
    | none => return true

def printSteps (session : Session) (bounds : Bounds) (a : HistArguments) :
    Nat → Cycle → Run m Unit
  | 0, _ => return ()
  | steps + 1, upper => do
    let upper := session.step upper
    printLine ""
    if ← printWindow session bounds upper a then printSteps session bounds a steps upper

/-- Prints the chart of the window that ends at a cycle, and those after it unless it is past the
last cycle. -/
def printFrom (session : Session) (bounds : Bounds) (a : HistArguments) (steps : Nat)
    (upper : Cycle) : Run m Unit := do
  if ← printWindow session bounds upper a then printSteps session bounds a steps upper

def showHist (session : Session) (a : HistArguments) : Run m Unit :=
  match session.bounds with
  | none => printLine noAccesses
  | some bounds => printFrom session bounds a a.steps a.cycle

def HistArguments.configure (a : HistArguments) (config : Config) : Config :=
  { config with
    windowSize := a.windowSize.getD config.windowSize
    histogramBins := a.bins.getD config.histogramBins
    stepCycles := a.stepCycles.getD config.stepCycles }

def runHist (a : HistArguments) (config : Config) : Run m Unit := do
  let session ← openSession a.input (a.configure config)
  showHist session a

def runBounds (input : Input) (config : Config) : Run m Unit := do
  printBounds (← openSession input config)

/-- Starts to log, if there is a file for it. That it cannot be opened is logged and no more. -/
def startLog (a : Arguments) : Run m Unit := do
  if let some path := a.logFile then
    if let .error error ← liftM (Console.openLog (m := m) path a.logFileAppend) then
      logAll [{ level := .warn, component := .program, message := "Unable to open log file"
                fields := [("path", path.label), ("err", error.message)] }]
  logAll [{ level := .debug, component := .arguments, message := s!"Args: {a.label}" }]

def carryOut (command : Subcommand) (config : Config) : Run m Unit :=
  match command with
  | .parse a => runParse a config
  | .hist a => runHist a config
  | .bounds input => runBounds input config

def run (a : Arguments) : Run m Unit := do
  startLog a
  let config ← loadConfig a.configFile
  logAll [{ level := .debug, component := .program, message := "Loaded config"
            fields := [("config", config.label)] }]
  carryOut a.command config

end

end AccessTrace.Command
