import AccessTrace.Text.Visible

namespace AccessTrace.Text

def codePoint (c : Char) : List Char :=
  ['\\', 'u', '\x7b'] ++ Nat.toDigits 16 c.toNat ++ ['\x7d']

def quoteChar (c : Char) : List Char :=
  match c with
  | '"' => ['\\', '"']
  | '\\' => ['\\', '\\']
  | '\t' => ['\\', 't']
  | '\r' => ['\\', 'r']
  | '\n' => ['\\', 'n']
  | '\x00' => ['\\', '0']
  | c => if isVisible c then [c] else codePoint c

def quoted (text : String) : String :=
  String.ofList ('"' :: text.toList.flatMap quoteChar ++ ['"'])

def carrying (name content : String) : String :=
  s!"{name}({content})"

def optional {α : Type} (label : α → String) : Option α → String
  | some a => carrying "Some" (label a)
  | none => "None"

def fields (name : String) (entries : List (String × String)) : String :=
  let inner := ", ".intercalate (entries.map fun entry => s!"{entry.1}: {entry.2}")
  name ++ " \x7b " ++ inner ++ " \x7d"

inductive Alignment where
  | left
  | center
  | right
  deriving DecidableEq, Repr

structure Layout where
  width : Nat := 0
  alignment : Alignment := .left
  fill : Char := ' '
  precision : Option Nat := none
  deriving DecidableEq, Repr

/-- The fill before and after a text of the given length; of an odd fill the larger half is after
a centred text. -/
def Layout.margins (layout : Layout) (length : Nat) : Nat × Nat :=
  let space := layout.width - length
  match layout.alignment with
  | .left => (0, space)
  | .center => (space / 2, space - space / 2)
  | .right => (space, 0)

def Layout.place (layout : Layout) (text : String) : String :=
  let kept := match layout.precision with
    | some most => text.toList.take most
    | none => text.toList
  let (before, after) := layout.margins kept.length
  String.ofList (List.replicate before layout.fill ++ kept ++ List.replicate after layout.fill)

def alignRight (width : Nat) (fill : Char) (text : String) : String :=
  ({ width, fill, alignment := .right : Layout }).place text

def hex (n : Nat) : String :=
  "0x" ++ String.ofList (Nat.toDigits 16 n)

def hexWord (w : UInt64) : String :=
  "0x" ++ alignRight 16 '0' (String.ofList (Nat.toDigits 16 w.toNat))

end AccessTrace.Text
