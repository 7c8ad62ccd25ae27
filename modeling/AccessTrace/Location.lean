import AccessTrace.Failure
import AccessTrace.Path

namespace AccessTrace

def nameLimit : Nat := 255

def pathLimit : Nat := 4095

/-- A directory, by the names that lead down to it from the root, or from so many levels above the
directory that the program runs in. -/
inductive Location where
  | relative (levels : Nat) (names : List String)
  | rooted (names : List String)
  deriving DecidableEq, Repr

/-- What stands for a file without being one. `zero` and `full` hold zeros without end, and nothing
fits into `full`. What `output` takes is printed, and nobody sits at `terminal`. -/
inductive Device where
  | null
  | zero
  | full
  | output
  | terminal
  deriving DecidableEq, Repr

/-- What a path leads to. A file may be one that does not exist. -/
inductive Place where
  | directory (location : Location)
  | device (device : Device)
  | file (location : Location) (name : String)
  deriving DecidableEq, Repr

namespace Location

def root : Location := .rooted []

def own : Location := .relative 0 []

def parent : Location → Location
  | .relative levels [] => .relative (levels + 1) []
  | .relative levels names => .relative levels names.dropLast
  | .rooted names => .rooted names.dropLast

def below : Location → String → Location
  | .relative levels names, name => .relative levels (names ++ [name])
  | .rooted names, name => .rooted (names ++ [name])

def isWithin : Location → Location → Bool
  | .relative levels names, .relative levels' names' => levels = levels' && names'.isPrefixOf names
  | .rooted names, .rooted names' => names'.isPrefixOf names
  | _, _ => false

def way (here : Location) (name : String) : String :=
  match here with
  | .relative levels names =>
    String.join (List.replicate levels "../") ++ "/".intercalate (names ++ [name])
  | .rooted names => String.join ((names ++ [name]).map ("/" ++ ·))

end Location

/-- What there is beside files, told by the ways down to it. Of a name that leads to a directory or
a device it also tells the number of links that are passed, as one may lead on through others. -/
structure DirectoryTree where
  places : List (Location × Place × Nat) := []
  /-- The directories within which no file can be made. -/
  barriers : List (Location × OsError) := []
  /-- The directories within which a name may be of any length. -/
  unlimited : List Location := []
  deriving DecidableEq, Repr

namespace DirectoryTree

def linkLimit : Nat := 40

/-- What a name in a directory leads to. Every name that nothing is known of is that of a file. -/
def step (tree : DirectoryTree) (here : Location) (name : String) : Place × Nat :=
  if name = "." then (.directory here, 0)
  else match tree.places.lookup (here.below name) with
    | some found => found
    | none => if name = ".." then (.directory here.parent, 0) else (.file here name, 0)

def barrier? (tree : DirectoryTree) (here : Location) : Option OsError :=
  (tree.barriers.find? fun barrier => here.isWithin barrier.1).map Prod.snd

def isTooLong (tree : DirectoryTree) (here : Location) (name : String) : Bool :=
  nameLimit < name.utf8ByteSize && !tree.unlimited.any here.isWithin

/-! ### A tree as it is commonly found -/

def usualDirectories : List (List String) :=
  [["boot"], ["dev"], ["dev", "pts"], ["dev", "shm"], ["etc"], ["home"], ["media"], ["mnt"],
    ["opt"], ["proc"], ["proc", "self", "attr"], ["proc", "self", "fd"],
    ["proc", "self", "fdinfo"], ["proc", "self", "map_files"], ["proc", "self", "net"],
    ["proc", "self", "ns"], ["proc", "self", "task"], ["proc", "sys"], ["proc", "sys", "fs"],
    ["proc", "sys", "kernel"], ["proc", "sys", "net"], ["proc", "sys", "vm"], ["root"], ["run"],
    ["run", "lock"], ["srv"], ["sys"], ["sys", "block"], ["sys", "bus"], ["sys", "class"],
    ["sys", "dev"], ["sys", "devices"], ["sys", "firmware"], ["sys", "fs"], ["sys", "kernel"],
    ["sys", "module"], ["sys", "power"], ["tmp"], ["usr"], ["usr", "bin"], ["usr", "games"],
    ["usr", "include"], ["usr", "lib"], ["usr", "lib64"], ["usr", "libexec"], ["usr", "local"],
    ["usr", "local", "bin"], ["usr", "sbin"], ["usr", "share"], ["usr", "src"], ["var"],
    ["var", "backups"], ["var", "cache"], ["var", "lib"], ["var", "local"], ["var", "log"],
    ["var", "mail"], ["var", "opt"], ["var", "spool"], ["var", "tmp"]]

def usualLinks : List (List String × Location × Nat) :=
  [(["bin"], .rooted ["usr", "bin"], 1), (["lib"], .rooted ["usr", "lib"], 1),
    (["lib64"], .rooted ["usr", "lib64"], 1), (["sbin"], .rooted ["usr", "sbin"], 1),
    (["var", "lock"], .rooted ["run", "lock"], 1), (["var", "run"], .rooted ["run"], 1),
    (["proc", "self"], .rooted ["proc", "self"], 1), (["proc", "self", "cwd"], .own, 1),
    (["proc", "self", "root"], .root, 1), (["proc", "net"], .rooted ["proc", "self", "net"], 2),
    (["dev", "fd"], .rooted ["proc", "self", "fd"], 2)]

/-- The input of the program is empty, and what it writes to where errors are told is not kept.
Nobody can tell what octets by chance will be read, so that they are taken for zeros. -/
def usualDevices : List (List String × Device × Nat) :=
  [(["dev", "null"], .null, 0), (["dev", "zero"], .zero, 0), (["dev", "full"], .full, 0),
    (["dev", "random"], .zero, 0), (["dev", "urandom"], .zero, 0), (["dev", "tty"], .terminal, 0),
    (["proc", "self", "fd", "0"], .null, 1), (["proc", "self", "fd", "1"], .output, 1),
    (["proc", "self", "fd", "2"], .null, 1), (["dev", "stdin"], .null, 3),
    (["dev", "stdout"], .output, 3), (["dev", "stderr"], .null, 3)]

def usual : DirectoryTree where
  places :=
    usualDirectories.map (fun names => (.rooted names, .directory (.rooted names), 0)) ++
      usualLinks.map (fun (names, there, links) => (.rooted names, .directory there, links)) ++
      usualDevices.map (fun (names, device, links) => (.rooted names, .device device, links))
  barriers :=
    [(.rooted ["proc"], .notFound), (.rooted ["sys"], .permissionDenied),
      (.rooted ["dev", "pts"], .permissionDenied)]
  unlimited := [.rooted ["proc"], .rooted ["sys"]]

end DirectoryTree

end AccessTrace
