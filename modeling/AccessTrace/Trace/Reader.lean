import AccessTrace.Failure
import AccessTrace.Text.Utf8

/-!
Reading a trace line by line. A line ends at a line feed or with the input; the line feed and one
carriage return before it are no part of the line. Octets that are no text become replacement
characters, so one broken line does not stop the trace.
-/

namespace AccessTrace

def lineFeed : UInt8 := 0x0A
def carriageReturn : UInt8 := 0x0D

structure ReadError where
  line : Nat
  cause : OsError
  deriving DecidableEq, Repr

def ReadError.chain (error : ReadError) : List Link :=
  [.text s!"Unable to read line {error.line}", .os error.cause]

structure LineReader where
  source : Source
  linesRead : Nat := 0
  deriving DecidableEq, Repr

namespace LineReader

def dropReturn (octets : List UInt8) : List UInt8 :=
  if octets.getLast? = some carriageReturn then octets.dropLast else octets

def lineText (octets : List UInt8) : String :=
  Text.ofUtf8Lossy (dropReturn octets)

def cut : List UInt8 → List UInt8 × Option (List UInt8)
  | [] => ([], none)
  | octet :: rest =>
    if octet = lineFeed then ([], some rest)
    else (octet :: (cut rest).1, (cut rest).2)

theorem length_cut {octets after : List UInt8} (h : (cut octets).2 = some after) :
    after.length < octets.length := by
  induction octets with
  | nil => simp [cut] at h
  | cons octet rest ih =>
    rw [cut] at h
    split at h
    · cases h
      simp
    · exact Nat.lt_succ_of_lt (ih h)

/-- Reads one line; `none` at the end of the trace. A line that is broken off by a failing source
is lost. -/
def next? (reader : LineReader) : Except ReadError (Option (String × LineReader)) :=
  let line := reader.linesRead + 1
  match cut reader.source.octets with
  | (octets, some rest) =>
    let source := { reader.source with octets := rest }
    .ok (some (lineText octets, { source, linesRead := line }))
  | (octets, none) =>
    match reader.source.failure with
    | some cause => .error { line, cause }
    | none =>
      if octets.isEmpty then .ok none
      else .ok (some (lineText octets, { source := { octets := [] }, linesRead := line }))

theorem length_next {reader after : LineReader} {line : String}
    (h : reader.next? = .ok (some (line, after))) :
    after.source.octets.length < reader.source.octets.length := by
  unfold next? at h
  split at h
  · next octets rest hcut =>
    cases h
    exact length_cut (by rw [hcut])
  · next octets hcut =>
    split at h
    · cases h
    · split at h
      · cases h
      · next hne =>
        cases h
        cases hs : reader.source.octets with
        | nil => simp [hs, cut] at hcut; simp [hcut] at hne
        | cons octet rest => simp

def readAll (reader : LineReader) : List String × Option ReadError :=
  match _next : reader.next? with
  | .error error => ([], some error)
  | .ok none => ([], none)
  | .ok (some (line, after)) =>
    let (lines, error) := after.readAll
    (line :: lines, error)
termination_by reader.source.octets.length
decreasing_by exact length_next _next

end LineReader

end AccessTrace
