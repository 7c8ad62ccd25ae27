import AccessTrace.Proofs.Session.Chunks
import AccessTrace.Proofs.Snapshot.File
import AccessTrace.Proofs.Trace.Line

namespace AccessTrace

/-- An access that is open, or starts no later than it ends, under a clock that it does not start
after. -/
def Access.InTime (clock : Cycle) (access : Access) : Prop :=
  access.start ≤ access.stop.getD clock

theorem Access.InTime.forward {clock : Cycle} {access : Access} (inTime : access.InTime clock) :
    access.Forward := by
  intro last closed
  rwa [InTime, closed] at inTime

theorem timelyLaw_inTime : TimelyLaw fun clock access => access.InTime clock where
  later {c d a} le inTime := by
    cases closed : a.stop with
    | none =>
      simp only [Access.InTime, closed, Option.getD_none] at inTime ⊢
      exact UInt64.le_trans inTime le
    | some last => simpa only [Access.InTime, closed, Option.getD_some] using inTime
  started c _ _ _ := UInt64.le_refl c
  ended {c a} inTime := by
    cases closed : a.stop with
    | none =>
      rw [Access.endedBy_of_open (Option.isNone_iff_eq_none.mpr closed)]
      simp only [Access.InTime, closed, Option.getD_none] at inTime
      exact inTime
    | some last =>
      have shut : a.isOpen = false := by rw [Access.isOpen, closed, Option.isNone_some]
      rwa [Access.endedBy_of_closed shut]

namespace Session

/-- Whatever parts of a trace come, no access ends before it starts, and the store can be saved and
made again. -/
def Extensible (session : Session) : Prop :=
  ∀ chunks, (∀ a ∈ (session.takeAll chunks).store.accesses, a.Forward) ∧
    (Snapshot.ofStore (session.takeAll chunks).store).toStore =
      .ok (session.takeAll chunks).store

variable {session : Session}

theorem extensible_of_forward (reachable : session.store.Reachable)
    (forward : ∀ chunks, ∀ a ∈ (session.takeAll chunks).store.accesses, a.Forward) :
    session.Extensible := by
  intro chunks
  have indexed := (takeAll_keeps (Q := fun s => s.store.Reachable)
    (fun _ chunk h => reachable_take h chunk) reachable chunks).indexed
  exact ⟨forward chunks, Snapshot.toStore_ofStore indexed (forward chunks)⟩

theorem extensible_of_none (reachable : session.store.Reachable)
    (forward : ∀ a ∈ session.store.accesses, a.Forward)
    (closed : session.config.maxLines = some 0) : session.Extensible := by
  refine extensible_of_forward reachable fun chunks => ?_
  have same := takeAll_keeps (Q := fun s =>
    s.store = session.store ∧ s.config.maxLines = some 0)
    (fun s chunk h => ⟨(store_take_of_none h.2 chunk).trans h.1,
      (congrArg Config.maxLines (config_take s chunk)).trans h.2⟩) ⟨rfl, closed⟩ chunks
  rw [same.1]
  exact forward

theorem extensible_of_obeys (reachable : session.store.Reachable)
    (inTime : session.store.Obeys fun clock access => access.InTime clock) :
    session.Extensible := by
  refine extensible_of_forward reachable fun chunks a ha => ?_
  have kept := takeAll_keeps
    (Q := fun s => s.store.Obeys fun clock access => access.InTime clock)
    (fun _ chunk h => obeys_take timelyLaw_inTime h chunk) inTime chunks
  exact (kept a ha).forward

theorem start_le_of_extensible (extensible : session.Extensible)
    (allowed : session.config.maxLines ≠ some 0) {a : Access} (member : a ∈ session.store.accesses)
    (isOpen : a.isOpen) : a.start ≤ session.store.horizon.getD 0 := by
  have forward := (extensible [.lines [endLine a.id]]).1
  have ended : (session.take (.lines [endLine a.id])).store.get? a.id =
      some (a.close (session.store.horizon.getD 0)) := by
    have isEnd : isEndOf a.id (endLine a.id) := by
      simp [isEndOf, TraceLine.parse_endLine]
    have closes : a.endedBy (some (session.store.horizon.getD 0)) =
        a.close (session.store.horizon.getD 0) :=
      Access.endedBy_of_open isOpen _
    rw [store_take_line allowed, Ingestion.get?_feed, Store.get?_of_mem member, accessStep,
      if_pos isEnd]
    exact congrArg some closes
  exact forward _ (Store.get?_eq_some_iff.mp ended).1 _ rfl

/-- A store that was opened can be extended without harm if and only if no line is taken or all open
accesses start by the horizon. -/
theorem extensible_iff {path : Path} {format : Format} {source : Source} {store : Store}
    {config : Config} (opened : Store.ofSource path format source = .ok store)
    (begun : ofStore store config = .ok session) :
    session.Extensible ↔
      config.maxLines = some 0 ∨ ∀ a ∈ store.accesses, a.isOpen → a.start ≤ store.horizon.getD 0 := by
  obtain ⟨snapshot, -, made⟩ := Store.ofSource_eq_ok_iff.mp opened
  obtain ⟨reachable, -, -, forward⟩ := Snapshot.toStore_spec made
  obtain ⟨rfl, rfl⟩ := ofStore_eq_ok begun
  constructor
  · intro extensible
    by_cases allowed : session.config.maxLines = some 0
    · exact .inl allowed
    · exact .inr fun a member isOpen => start_le_of_extensible extensible allowed member isOpen
  · rintro (closed | early)
    · exact extensible_of_none reachable forward closed
    · refine extensible_of_obeys reachable fun a member => ?_
      cases stop : a.stop with
      | none =>
        have start := early a member (Option.isNone_iff_eq_none.mpr stop)
        simpa only [Access.InTime, stop, Option.getD_none] using start
      | some last =>
        simpa only [Access.InTime, stop, Option.getD_some] using forward a member last stop

def early : Store := (Store.empty.add ⟨⟨1⟩, .load, 16, 100, none⟩).observe 120

def earlyOctets : List UInt8 := [1, 1, 120, 1, 1, 0, 16, 100, 0]

def late : Store := Store.empty.add ⟨⟨1⟩, .load, 16, 100, none⟩

def lateOctets : List UInt8 := [1, 0, 1, 1, 0, 16, 100, 0]

theorem extensible_iff_early :
    Store.ofSource ⟨"accesses.dat"⟩ .binary { octets := earlyOctets } = .ok early ∧
      ofStore early {} = .ok (plainly early) ∧ (plainly early).Extensible := by
  have opened :
      Store.ofSource ⟨"accesses.dat"⟩ .binary { octets := earlyOctets } = .ok early := rfl
  have begun : ofStore early {} = .ok (plainly early) := rfl
  refine ⟨opened, begun, (extensible_iff opened begun).mpr (.inr ?_)⟩
  decide

/-- The access that was opened without a horizon is ended at the cycle zero, and then it is
refused. -/
theorem not_extensible_late :
    Store.ofSource ⟨"accesses.dat"⟩ .binary { octets := lateOctets } = .ok late ∧
      ofStore late {} = .ok (plainly late) ∧
      (Snapshot.ofStore ((plainly late).takeAll [.lines ["end_access name=A-1"]]).store).toStore =
        .error (.backwards ⟨1⟩ 100 0) ∧
      ¬ (plainly late).Extensible := by
  have refused :
      (Snapshot.ofStore ((plainly late).takeAll [.lines ["end_access name=A-1"]]).store).toStore =
        .error (.backwards ⟨1⟩ 100 0) := rfl
  refine ⟨rfl, rfl, refused, fun extensible => ?_⟩
  have again := (extensible [.lines ["end_access name=A-1"]]).2
  rw [refused] at again
  cases again

end Session

end AccessTrace
