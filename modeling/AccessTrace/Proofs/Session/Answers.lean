import AccessTrace.Proofs.Session.Horizon
import AccessTrace.Proofs.Store.Growth

namespace AccessTrace

theorem grows_accessStep (clock : Cycle) (line : String) (id : AccessId) (known : Option Access) :
    Access.Grows clock known (accessStep clock line id known) := by
  cases known with
  | none =>
    simp only [accessStep]
    cases startOf? id line with
    | none => exact .absent
    | some start => exact .started (UInt64.le_refl clock)
  | some access =>
    simp only [accessStep]
    split
    · apply Access.Grows.kept
      intro last ends
      exact UInt64.le_of_eq (Option.some.inj ends)
    · exact .refl (some access)

namespace Ingestion

structure GrownFrom (cycle : Cycle) (before : Store) (ingestion : Ingestion) (store : Store) :
    Prop where
  resumes : ingestion.Resumes store
  late : cycle ≤ ingestion.clock
  grows : before.Grows cycle store

variable {cycle : Cycle} {before store : Store} {ingestion : Ingestion}

theorem GrownFrom.feed (grown : ingestion.GrownFrom cycle before store) (line : String) :
    (ingestion.feed store line).1.GrownFrom cycle before (ingestion.feed store line).2 where
  resumes := grown.resumes.feed line
  late := by
    rw [feed_clock]
    exact UInt64.le_trans grown.late (le_clockStep ingestion.clock line)
  grows := by
    apply grown.grows.trans
    intro id
    rw [get?_feed]
    exact (grows_accessStep ingestion.clock line id (store.get? id)).of_le grown.late

theorem GrownFrom.feedLines (grown : ingestion.GrownFrom cycle before store)
    (lines : List String) :
    (ingestion.feedLines store lines).1.GrownFrom cycle before
      (ingestion.feedLines store lines).2 :=
  feedLines_keeps (P := fun i s => i.GrownFrom cycle before s)
    (fun _ _ line grown => grown.feed line) grown lines

end Ingestion

namespace Session

variable {session : Session}

theorem grownFrom_take {cycle : Cycle} {before : Store}
    (grown : session.ingestion.GrownFrom cycle before session.store) (chunk : Chunk) :
    (session.take chunk).ingestion.GrownFrom cycle before (session.take chunk).store := by
  have after := grown.feedLines (session.taken chunk)
  have late := after.late
  have grows := after.grows
  -- The next ingestion starts at the horizon, which is where the clock of this one stands.
  rw [after.resumes, ← store_take] at late
  rw [← store_take] at grows
  exact ⟨(session.take chunk).resumes, late, grows⟩

theorem grows_takeAll (session : Session) (chunks : List Chunk) :
    session.store.Grows (session.store.horizon.getD 0) (session.takeAll chunks).store := by
  have start : session.ingestion.GrownFrom (session.store.horizon.getD 0) session.store
      session.store := ⟨session.resumes, UInt64.le_refl _, .refl session.store⟩
  exact (takeAll_keeps (Q := fun s => s.ingestion.GrownFrom _ _ s.store)
    (fun _ chunk grown => grownFrom_take grown chunk) start chunks).grows

theorem Settled.takeAll (settled : session.Settled) (chunks : List Chunk) :
    (session.takeAll chunks).Settled :=
  takeAll_keeps (Q := Settled) (fun _ chunk settled => settled.take chunk) settled chunks

theorem Settled.maxCycle_le (settled : session.Settled) {bounds : Bounds}
    (known : session.store.bounds = some bounds) :
    bounds.maxCycle ≤ session.store.horizon.getD 0 := by
  apply Store.maxCycle_le settled.reachable.indexed known
  intro a member
  have within := settled.within a member
  exact ⟨within.start_le, fun last closed => (within.stop_le last closed).2⟩

/-- A query that has an answer keeps it, whatever parts of the trace come later: the window stays
where it is and shows the same addresses. -/
theorem window?_takeAll (reachable : session.Reachable) {upper size : Cycle} {filter : KindFilter}
    (positive : 0 < size) {window : Window}
    (answered : session.store.window? upper size filter = some window) (chunks : List Chunk) :
    ∃ later, (session.takeAll chunks).store.window? upper size filter = some later ∧
      window.Alike later := by
  have settled := reachable.settled
  have settled' := settled.takeAll chunks
  have past : ∀ bounds, session.store.bounds = some bounds →
      bounds.maxCycle ≤ session.store.horizon.getD 0 := fun _ known => settled.maxCycle_le known
  exact (session.grows_takeAll chunks).window? settled.reachable.indexed
    settled'.reachable.indexed past positive answered

def halfway : Session :=
  (plainly .empty).take (.lines ["new_access name=A-1 type=load addr=16", "clk 10",
    "new_access name=A-2 type=store addr=32", "clk 30", "end_access name=A-2",
    "new_access name=A-3 type=load addr=48"])

/-- Parts that end the open accesses, start a new one, repeat ids, set the clock back and fail. -/
def secondHalf : List Chunk :=
  [.lines ["end_access name=A-1", "clk 5", "new_access name=A-2 type=load addr=64"],
    .source (.failingAfter (Text.utf8 "new_access name=A-4 type=load addr=80\nclk 40\nclk 50\n") 48),
    .lines ["end_access name=A-3"]]

theorem window?_takeAll_secondHalf :
    halfway.Reachable ∧ (0 : Cycle) < 20 ∧
      halfway.store.window? 30 20 .all = some ⟨10, 30, .all, [32, 16]⟩ ∧
      (halfway.takeAll secondHalf).store.toList =
        [⟨⟨1⟩, .load, 16, 0, some 30⟩, ⟨⟨2⟩, .store, 32, 10, some 30⟩,
          ⟨⟨3⟩, .load, 48, 30, some 40⟩, ⟨⟨4⟩, .load, 80, 30, none⟩] ∧
      ∃ later, (halfway.takeAll secondHalf).store.window? 30 20 .all = some later ∧
        later.lowerCycle = 10 ∧ later.addresses.Perm [32, 16] := by
  have begun : Session.new {} = .ok (plainly .empty) := rfl
  have reachable : halfway.Reachable := .take (.new begun) _
  have answered : halfway.store.window? 30 20 .all = some ⟨10, 30, .all, [32, 16]⟩ := by
    decide +kernel
  obtain ⟨later, found, alike⟩ :=
    window?_takeAll reachable (by decide : (0 : Cycle) < 20) answered secondHalf
  exact ⟨reachable, by decide, answered, by decide +kernel, later, found, alike.lower_eq,
    alike.addresses_perm⟩

end Session

end AccessTrace
