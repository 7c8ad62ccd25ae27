import AccessTrace.Proofs.Session.Chunks
import AccessTrace.Proofs.Snapshot.File
import AccessTrace.Proofs.Store.Window

namespace AccessTrace

/-- The access starts and ends by a cycle, and it does not end before it starts. -/
structure Access.Within (cycle : Cycle) (access : Access) : Prop where
  start_le : access.start ≤ cycle
  stop_le : ∀ last, access.stop = some last → access.start ≤ last ∧ last ≤ cycle

theorem timelyLaw_within : TimelyLaw fun clock access => access.Within clock where
  later le within :=
    ⟨UInt64.le_trans within.start_le le, fun last closed =>
      ⟨(within.stop_le last closed).1, UInt64.le_trans (within.stop_le last closed).2 le⟩⟩
  started c _ _ _ := ⟨UInt64.le_refl c, fun last closed => by cases closed⟩
  ended {c a} within := by
    cases isOpen : a.isOpen with
    | true =>
      rw [Access.endedBy_of_open isOpen]
      refine ⟨within.start_le, fun last closed => ?_⟩
      cases closed
      exact ⟨within.start_le, UInt64.le_refl _⟩
    | false => rwa [Access.endedBy_of_closed isOpen]

namespace Session

/-- The sessions that come of an empty one by ingesting parts of a trace, by another configuration
and by saving and loading the store. -/
inductive Reachable : Session → Prop where
  | new {config : Config} {session : Session} (begun : Session.new config = .ok session) :
      Reachable session
  | take {session : Session} (before : Reachable session) (chunk : Chunk) :
      Reachable (session.take chunk)
  | reconfigure {session after : Session} {config : Config} (before : Reachable session)
      (begun : ofStore session.store config = .ok after) : Reachable after
  | reload {session after : Session} {config : Config} {format : Format} {target : Target}
      {octets : List UInt8} {path : Path} {store : Store} (before : Reachable session)
      (fits : format = .binary → session.store.Addressable)
      (saved : (Snapshot.ofStore session.store).write format target = .ok octets)
      (loaded : Store.ofSource path format { octets } = .ok store)
      (begun : ofStore store config = .ok after) : Reachable after

variable {session : Session}

structure Settled (session : Session) : Prop where
  reachable : session.store.Reachable
  within : session.store.Obeys fun clock access => access.Within clock

theorem Settled.forward (settled : session.Settled) : ∀ a ∈ session.store.accesses, a.Forward :=
  fun a member last closed => ((settled.within a member).stop_le last closed).1

theorem Settled.take (settled : session.Settled) (chunk : Chunk) : (session.take chunk).Settled :=
  ⟨reachable_take settled.reachable chunk, obeys_take timelyLaw_within settled.within chunk⟩

theorem Settled.of_store {after : Session} (settled : session.Settled)
    (same : after.store = session.store) : after.Settled := by
  obtain ⟨reachable, within⟩ := settled
  rw [← same] at reachable within
  exact ⟨reachable, within⟩

theorem Reachable.settled (reachable : session.Reachable) : session.Settled := by
  induction reachable with
  | new begun =>
    have empty := (ofStore_eq_ok begun).1
    refine ⟨empty ▸ Store.reachable_empty, ?_⟩
    rw [empty]
    exact fun a member => absurd member Ordered.not_mem_empty
  | take _ chunk settled => exact settled.take chunk
  | reconfigure _ begun settled => exact settled.of_store (ofStore_eq_ok begun).1
  | @reload session after config format target octets path store _ fits saved loaded begun
      settled =>
    have again : Store.ofSource path format { octets } = .ok session.store := by
      rw [Store.write_eq_ok saved]
      exact Store.ofSource_encode settled.reachable.indexed settled.forward fits
    have same : store = session.store := Except.ok.inj (loaded.symm.trans again)
    exact settled.of_store ((ofStore_eq_ok begun).1.trans same)

/-- At any time all accesses start and end by the horizon, none of them before it starts, the last
cycle is not past the horizon, and the store can be saved and loaded in either format. -/
theorem settled_of_reachable (reachable : session.Reachable) :
    (∀ a ∈ session.store.accesses, a.Within (session.store.horizon.getD 0)) ∧
      (∀ bounds, session.bounds = some bounds →
        bounds.maxCycle ≤ session.store.horizon.getD 0) ∧
      session.store.Survives .json ∧
      (session.store.Addressable → session.store.Survives .binary) := by
  have settled := reachable.settled
  have indexed := settled.reachable.indexed
  refine ⟨settled.within, fun bounds known => ?_, ?_, fun addressable => ?_⟩
  · refine Store.maxCycle_le indexed known fun a member => ?_
    have within := settled.within a member
    exact ⟨within.start_le, fun last closed => (within.stop_le last closed).2⟩
  · exact Store.survives indexed settled.forward fun binary => by cases binary
  · exact Store.survives indexed settled.forward fun _ => addressable

/-- A trace in two parts: the source of the second one fails in its third line. -/
def interrupted : Session :=
  ((plainly .empty).take (.lines ["new_access name=A-1 type=load addr=16", "clk 30"])).take
    (.source (.failingAfter (Text.utf8 "end_access name=A-1\nclk 40\nclk 50\n") 30))

def resumedLater : Session :=
  (plainly interrupted.store).take (.lines ["clk 60", "end_access name=A-1"])

theorem settled_of_reachable_resumedLater :
    resumedLater.Reachable ∧
      resumedLater.store.toList = [⟨⟨1⟩, .load, 16, 0, some 30⟩] ∧
      resumedLater.store.horizon = some 60 ∧
      (∀ a ∈ resumedLater.store.accesses, a.Within 60) ∧
      resumedLater.store.Survives .json ∧ resumedLater.store.Survives .binary := by
  have begun : Session.new {} = .ok (plainly .empty) := rfl
  have before : interrupted.Reachable := .take (.take (.new begun) _) _
  have settled := before.settled
  have saved : (Snapshot.ofStore interrupted.store).write .json {} =
      .ok ((Snapshot.ofStore interrupted.store).encode .json) := rfl
  have loaded : Store.ofSource ⟨"accesses.json"⟩ .json
      { octets := (Snapshot.ofStore interrupted.store).encode .json } = .ok interrupted.store :=
    Store.ofSource_encode settled.reachable.indexed settled.forward fun binary => by cases binary
  have again : ofStore interrupted.store {} = .ok (plainly interrupted.store) := rfl
  have reachable : resumedLater.Reachable :=
    .take (.reload before (fun binary => by cases binary) saved loaded again) _
  obtain ⟨within, -, json, binary⟩ := settled_of_reachable reachable
  have horizon : resumedLater.store.horizon = some 60 := by decide +kernel
  have listed : resumedLater.store.toList = [⟨⟨1⟩, .load, 16, 0, some 30⟩] := by decide +kernel
  rw [horizon] at within
  refine ⟨reachable, listed, horizon, within, json, binary ⟨?_, ?_⟩⟩
  · simp only [Snapshot.ofStore, listed]
    decide
  · simp only [Snapshot.ofStore, listed, List.forall_mem_singleton]
    trivial

end Session

end AccessTrace
