import AccessTrace.Location
import AccessTrace.Failure

/-!
Files and what can be done with them. `Files` is what a program needs of its surroundings, and
`Directory` is a small world of its own: the directory that a program runs in, and what lies around
it.
-/

namespace AccessTrace

class Files (m : Type → Type) where
  openFile : Path → m (Except OsError Source)
  /-- Octets come from there without end. -/
  isEndless : Path → m Bool
  createFile : Path → m (Except OsError Unit)
  extendFile : Path → List UInt8 → m (Except OsError Unit)

/-- Octets written over others from a position on. A gap between the end of the others and the
position is filled with zeros. -/
def overwrite (octets : List UInt8) (position : Nat) (written : List UInt8) : List UInt8 :=
  octets.take position ++ List.replicate (position - octets.length) 0 ++ written ++
    octets.drop (position + written.length)

def Device.isEndless : Device → Bool
  | .zero | .full => true
  | .null | .output | .terminal => false

/-- What can be read of a device. Of zeros without end that is as many as tell what they are not: a
configuration or a database. -/
def Device.source : Device → Except OsError Source
  | .null | .output => .ok { octets := [] }
  | .zero | .full => .ok { octets := [0, 0, 0] }
  | .terminal => .error .noDevice

def Device.take (device : Device) (octets : List UInt8) : Except OsError Unit :=
  match device with
  | .null | .zero | .output => .ok ()
  | .full => if octets.isEmpty then .ok () else .error .noSpace
  | .terminal => .error .noDevice

/-- The files of a directory by name, and the tree in which it lies. Files elsewhere go by the way that
leads to them. -/
structure Directory where
  files : List (String × List UInt8) := []
  tree : DirectoryTree := .usual
  deriving DecidableEq, Repr

namespace Directory

def find? (d : Directory) (name : String) : Option (List UInt8) :=
  d.files.lookup name

def put (d : Directory) (name : String) (octets : List UInt8) : Directory :=
  { d with files := (name, octets) :: d.files.filter fun file => file.1 ≠ name }

def missing (d : Directory) (here : Location) (name : String) : OsError :=
  if d.tree.isTooLong here name then .nameTooLong else .notFound

def impasse (d : Directory) : Place → OsError
  | .directory _ | .device _ => .notADirectory
  | .file here name =>
    if (d.find? (here.way name)).isSome then .notADirectory else d.missing here name

def follow (d : Directory) (here : Location) (links : Nat) : List String → Except OsError Place
  | [] => .ok (.directory here)
  | name :: rest =>
    let (place, passed) := d.tree.step here name
    if DirectoryTree.linkLimit < links + passed then .error .tooManyLinks
    else match place with
      | .directory there => d.follow there (links + passed) rest
      | place => if rest.isEmpty then .ok place else .error (d.impasse place)

def resolve (d : Directory) (path : Path) : Except OsError Place :=
  if path.text.toList.contains '\x00' then .error .invalidInput
  else if path.text.isEmpty then .error .notFound
  else if pathLimit < path.text.utf8ByteSize then .error .nameTooLong
  else d.follow (if path.startsInSlash then .root else .own) 0 (path.parts.map String.ofList)

def isOutput (d : Directory) (path : Path) : Bool :=
  match d.resolve path with
  | .ok place => place = .device .output
  | .error _ => false

def isEndless (d : Directory) (path : Path) : Bool :=
  match d.resolve path with
  | .ok (.device device) => device.isEndless
  | _ => false

def isSameFile (d : Directory) (one other : Path) : Bool :=
  match d.resolve one, d.resolve other with
  | .ok (.file here name), .ok (.file there name') => here = there && name = name'
  | _, _ => false

/-- Opens what a path leads to. A directory can be opened but not read. -/
def openFile (d : Directory) (path : Path) : Except OsError Source := do
  match ← d.resolve path with
  | .directory _ => return { octets := [], failure := some .isADirectory }
  | .device device => if path.endsInSlash then throw .notADirectory else device.source
  | .file here name =>
    match d.find? (here.way name) with
    | none => throw (d.missing here name)
    | some octets => if path.endsInSlash then throw .notADirectory else return { octets }

/-- The directory after a file, which may be a new one, has been written: `f` makes its octets from
those before. -/
def update (d : Directory) (path : Path) (f : List UInt8 → List UInt8) :
    Except OsError Directory := do
  let place ← d.resolve path
  if path.endsInSlash then throw .isADirectory
  match place with
  | .directory _ => throw .isADirectory
  | .device device =>
    device.take (f [])
    return d
  | .file here name =>
    if d.tree.isTooLong here name then throw .nameTooLong
    if let some error := d.tree.barrier? here then throw error
    let way := here.way name
    return d.put way (f ((d.find? way).getD []))

def createFile (d : Directory) (path : Path) : Except OsError Directory :=
  d.update path fun _ => []

def extendFile (d : Directory) (path : Path) (octets : List UInt8) : Except OsError Directory :=
  d.update path (· ++ octets)

def writeAt (d : Directory) (path : Path) (position : Nat) (octets : List UInt8) :
    Except OsError Directory :=
  d.update path (overwrite · position octets)

def change (f : Directory → Except OsError Directory) : StateM Directory (Except OsError Unit) :=
  fun d => match f d with
    | .ok d => (.ok (), d)
    | .error error => (.error error, d)

instance : Files (StateM Directory) where
  openFile path := fun d => (d.openFile path, d)
  isEndless path := fun d => (d.isEndless path, d)
  createFile path := change (createFile · path)
  extendFile path octets := change (extendFile · path octets)

end Directory

end AccessTrace
