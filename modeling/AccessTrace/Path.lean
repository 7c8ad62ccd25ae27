import AccessTrace.Text.Blank
import AccessTrace.Text.Label

namespace AccessTrace

structure Path where
  text : String
  deriving DecidableEq, Repr, Inhabited

namespace Path

def label (path : Path) : String := Text.quoted path.text

def parts (path : Path) : List (List Char) :=
  (Text.pieces (· = '/') path.text.toList).filter fun part => !part.isEmpty

def startsInSlash (path : Path) : Bool :=
  path.text.toList.head? = some '/'

def endsInSlash (path : Path) : Bool :=
  path.text.toList.getLast? = some '/'

/-- The last name, if it is that of a file; a single dot names nothing. -/
def fileName? (path : Path) : Option (List Char) :=
  ((path.parts.filter (· ≠ ['.'])).getLast?).filter (· ≠ ['.', '.'])

/-- What follows the last dot of the name, unless the name starts with that dot. -/
def extension? (path : Path) : Option (List Char) := do
  let name ← path.fileName?
  let reversed := name.reverse
  let ending := reversed.takeWhile (· ≠ '.')
  if ending.length + 1 < name.length then some ending.reverse else none

def append (path : Path) (ending : String) : Path :=
  ⟨path.text ++ ending⟩

end Path

end AccessTrace
