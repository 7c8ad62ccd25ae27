import AccessTrace.Proofs.Ingest.Run

/-! The meaning of a whole trace, said without running it: where the clock stands at a line, which
line starts an access and which line ends it. Ingesting a trace leaves the store of that meaning. -/

namespace AccessTrace

def cyclesOf (lines : List String) : List Cycle := lines.filterMap cycleOf?

/-- The clock at the line of a position: the latest cycle of those before it, and no earlier one
than where the clock stood at first. -/
def clockAt (clock : Cycle) (lines : List String) (position : Nat) : Cycle :=
  (cyclesOf (lines.take position)).foldl max clock

def horizonAfter (horizon : Option Cycle) (lines : List String) : Option Cycle :=
  (horizon.toList ++ cyclesOf lines).max?

/-- The position of the first line from the given one on that ends the access of an id. -/
def endFrom? (id : AccessId) (lines : List String) (position : Nat) : Option Nat :=
  ((lines.drop position).findIdx? (isEndOf id)).map (position + ·)

/-- The position of the first line that starts an access of an id, with its kind and address. -/
def firstStart? (id : AccessId) (lines : List String) : Option (Nat × AccessKind × Address) := do
  let position ← lines.findIdx? fun line => (startOf? id line).isSome
  let line ← lines[position]?
  let (kind, address) ← startOf? id line
  return (position, kind, address)

/-- The access of an id after a trace. One that is known is kept, and ended by the first line that
ends it if it was open. Another one is that of the first line that starts it, ended by the first
line after that one that ends it. -/
def accessAfter (clock : Cycle) (known : Option Access) (lines : List String) (id : AccessId) :
    Option Access :=
  match known with
  | some access => some (access.endedBy ((endFrom? id lines 0).map (clockAt clock lines)))
  | none => (firstStart? id lines).map fun (position, kind, address) =>
    { id, kind, address, start := clockAt clock lines position
      stop := (endFrom? id lines (position + 1)).map (clockAt clock lines) }

/-- What a store holds after a trace. -/
structure IsReading (before : Store) (lines : List String) (after : Store) : Prop where
  access (id : AccessId) : after.get? id =
    accessAfter (before.horizon.getD 0) (before.get? id) lines id
  horizon : after.horizon = horizonAfter before.horizon lines

variable (clock : Cycle) (line : String) (rest : List String) (id : AccessId)

@[simp] theorem clockAt_zero (lines : List String) : clockAt clock lines 0 = clock := rfl

@[simp] theorem clockAt_cons_succ (position : Nat) :
    clockAt clock (line :: rest) (position + 1) = clockAt (clockStep clock line) rest position := by
  simp only [clockAt, clockStep, cyclesOf, List.take_succ_cons, List.filterMap_cons]
  cases cycleOf? line <;> rfl

theorem clockAt_comp_succ :
    (clockAt clock (line :: rest) ∘ (· + 1)) = clockAt (clockStep clock line) rest :=
  funext fun position => clockAt_cons_succ clock line rest position

theorem endFrom?_zero (lines : List String) :
    endFrom? id lines 0 = lines.findIdx? (isEndOf id) := by
  simp [endFrom?]

theorem endFrom?_cons_zero : endFrom? id (line :: rest) 0 =
    if isEndOf id line then some 0 else (endFrom? id rest 0).map (· + 1) := by
  simp only [endFrom?_zero, List.findIdx?_cons]

theorem endFrom?_cons_succ (position : Nat) :
    endFrom? id (line :: rest) (position + 1) = (endFrom? id rest position).map (· + 1) := by
  simp only [endFrom?, List.drop_succ_cons, Option.map_map]
  congr 1
  funext i
  simp only [Function.comp]
  omega

theorem firstStart?_cons : firstStart? id (line :: rest) =
    match startOf? id line with
    | some (kind, address) => some (0, kind, address)
    | none => (firstStart? id rest).map fun (position, kind, address) =>
      (position + 1, kind, address) := by
  simp only [firstStart?, List.findIdx?_cons]
  cases hstart : startOf? id line with
  | some start => simp [hstart]
  | none =>
    simp only [Option.isSome_none, Bool.false_eq_true, if_false]
    cases rest.findIdx? fun line => (startOf? id line).isSome with
    | none => rfl
    | some position =>
      simp only [Option.map_some, Option.bind_eq_bind, Option.bind_some, List.getElem?_cons_succ]
      cases rest[position]? with
      | none => rfl
      | some later => cases hlater : startOf? id later <;> simp [hlater]

theorem accessAfter_cons (known : Option Access) :
    accessAfter clock known (line :: rest) id =
      accessAfter (clockStep clock line) (accessStep clock line id known) rest id := by
  cases known with
  | some access =>
    simp only [accessAfter, accessStep, endFrom?_cons_zero]
    split
    · simp [Access.endedBy_endedBy]
    · simp [clockAt_comp_succ]
  | none =>
    simp only [accessAfter, accessStep, firstStart?_cons]
    cases startOf? id line with
    | some start => simp [Access.endedBy, endFrom?_cons_succ, clockAt_comp_succ]
    | none => cases firstStart? id rest <;> simp [endFrom?_cons_succ, clockAt_comp_succ]

theorem horizonAfter_cons (horizon : Option Cycle) :
    horizonAfter horizon (line :: rest) = horizonAfter (horizonStep horizon line) rest := by
  simp only [horizonAfter, horizonStep, cyclesOf, List.filterMap_cons]
  cases cycleOf? line with
  | none => rfl
  | some cycle =>
    cases horizon with
    | none => simp [max_of_le]
    | some latest => rfl

theorem horizonAfter_nil (horizon : Option Cycle) : horizonAfter horizon [] = horizon := by
  cases horizon <;> rfl

variable {clock line rest id}

theorem get?_feedLines (ingestion : Ingestion) (store : Store) (lines : List String)
    (id : AccessId) : (ingestion.feedLines store lines).2.get? id =
      accessAfter ingestion.clock (store.get? id) lines id := by
  induction lines generalizing ingestion store with
  | nil => cases h : store.get? id <;> simp [accessAfter, endFrom?, firstStart?, h]
  | cons line rest ih =>
    rw [Ingestion.feedLines_cons, ih, Ingestion.get?_feed, Ingestion.feed_clock, accessAfter_cons]

theorem horizon_feedLines {ingestion : Ingestion} {store : Store}
    (resumes : ingestion.Resumes store) (lines : List String) :
    (ingestion.feedLines store lines).2.horizon = horizonAfter store.horizon lines := by
  induction lines generalizing ingestion store with
  | nil => exact (horizonAfter_nil _).symm
  | cons line rest ih =>
    rw [Ingestion.feedLines_cons, ih (resumes.feed line), Ingestion.horizon_feed resumes,
      horizonAfter_cons]

theorem IsReading.unique {before s t : Store} {lines : List String}
    (hs : IsReading before lines s) (ht : IsReading before lines t) (indexed_s : s.Indexed)
    (indexed_t : t.Indexed) : s = t :=
  indexed_s.eq indexed_t
    (Store.ext_get? fun id => (hs.access id).trans (ht.access id).symm)
    (hs.horizon.trans ht.horizon.symm)

/-- Without a limit, ingesting lines leaves what they mean, and of all stores that there can be no
other one holds that. -/
theorem Session.ingest_isReading {session : Session}
    (unlimited : session.config.maxLines = none) (lines : List String) :
    IsReading session.store lines (session.ingest lines).2.store ∧
      (session.store.Reachable → ∀ store : Store, store.Reachable →
        IsReading session.store lines store → store = (session.ingest lines).2.store) := by
  have ran : (session.ingest lines).2.store =
      (session.ingestion.feedLines session.store lines).2 :=
    congrArg Prod.snd (Ingestion.feedAll_of_unlimited unlimited session.store lines)
  have reading : IsReading session.store lines (session.ingest lines).2.store := by
    rw [ran]
    exact ⟨get?_feedLines _ _ lines, horizon_feedLines session.resumes lines⟩
  refine ⟨reading, fun reachable store reachable' reading' => ?_⟩
  have after : (session.ingest lines).2.store.Reachable := by
    rw [ran]
    exact Ingestion.reachable_feedLines reachable lines
  exact reading'.unique reading reachable'.indexed after.indexed

/-- Ends before starts, repeated starts and ends, a clock that goes back, and broken lines. -/
def tangled : List String :=
  ["end_access name=\"A-2\"", "clk 10", "new_access name=\"A-2\" type=store addr=0x40",
    "clk=x", "c clk=30", "new_access name=\"A-2\" type=load addr=0x50", "end_access name=A-1",
    "clk 25", "end_access name=A-2", "end_access", "clk 40", "end_access name=A-2",
    "new_access name=A-3 type=fetch addr=8", "end_access name=A-1"]

theorem Session.ingest_isReading_tangled :
    resumed.config.maxLines = none ∧
    (resumed.ingest tangled).2.store.get? ⟨1⟩ = some ⟨⟨1⟩, .load, 0x10, 7, some 30⟩ ∧
    (resumed.ingest tangled).2.store.get? ⟨2⟩ = some ⟨⟨2⟩, .store, 0x40, 20, some 30⟩ ∧
    (resumed.ingest tangled).2.store.get? ⟨3⟩ = some ⟨⟨3⟩, .other "fetch", 8, 40, none⟩ ∧
    (resumed.ingest tangled).2.store.horizon = some 40 := by
  have reading := (@ingest_isReading resumed rfl tangled).1
  exact ⟨rfl, (reading.access ⟨1⟩).trans (by decide), (reading.access ⟨2⟩).trans (by decide),
    (reading.access ⟨3⟩).trans (by decide), reading.horizon.trans (by decide)⟩

end AccessTrace
