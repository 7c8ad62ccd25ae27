import AccessTrace.Proofs.Ingest.Run

namespace AccessTrace

inductive Chunk where
  | lines (lines : List String)
  | source (source : Source)

/-- The lines of a part. Of a source that fails it is those before the failure. -/
def Chunk.text : Chunk → List String
  | .lines all => all
  | .source held => (LineReader.readAll { source := held }).1

namespace Session

theorem ofStore_eq_ok {store : Store} {config : Config} {session : Session}
    (begun : ofStore store config = .ok session) :
    session.store = store ∧ session.config = config := by
  unfold ofStore at begun
  split at begun
  · cases begun
  · cases begun
    exact ⟨rfl, rfl⟩

def take (session : Session) : Chunk → Session
  | .lines lines => (session.ingest lines).2
  | .source source => (session.ingestSource source).2

def takeAll (session : Session) (chunks : List Chunk) : Session :=
  chunks.foldl take session

variable {session : Session} {P : Cycle → Access → Prop}

@[simp] theorem config_take (session : Session) (chunk : Chunk) :
    (session.take chunk).config = session.config := by
  cases chunk <;> rfl

/-- The lines of a part that are taken: as many as there is room for. -/
def taken (session : Session) (chunk : Chunk) : List String :=
  chunk.text.take (session.ingestion.room chunk.text.length)

theorem store_take (session : Session) (chunk : Chunk) :
    (session.take chunk).store =
      (session.ingestion.feedLines session.store (session.taken chunk)).2 := by
  have all := congrArg Prod.snd
    (session.ingestion.feedAll_eq_feedLines session.store chunk.text)
  cases chunk with
  | lines lines => exact all
  | source source =>
    have read := session.ingestion.feedReader_eq_feedAll session.store { source }
    exact (congrArg Prod.snd read).trans all

theorem takeAll_keeps {Q : Session → Prop} (step : ∀ s chunk, Q s → Q (s.take chunk))
    (start : Q session) (chunks : List Chunk) : Q (session.takeAll chunks) := by
  induction chunks generalizing session with
  | nil => exact start
  | cons chunk rest ih => exact ih (step session chunk start)

theorem reachable_take (reachable : session.store.Reachable) (chunk : Chunk) :
    (session.take chunk).store.Reachable := by
  rw [store_take]
  exact Ingestion.reachable_feedLines reachable _

theorem obeys_take (law : TimelyLaw P) (obeys : session.store.Obeys P) (chunk : Chunk) :
    (session.take chunk).store.Obeys P := by
  rw [store_take]
  refine (Ingestion.feedLines_keeps (P := fun ingestion store =>
    ingestion.Resumes store ∧ store.Obeys P) ?_ ⟨session.resumes, obeys⟩ _).2
  intro ingestion store line ⟨resumes, obeys⟩
  exact ⟨resumes.feed line, Ingestion.obeys_feed law resumes obeys line⟩

theorem store_take_of_none (closed : session.config.maxLines = some 0) (chunk : Chunk) :
    (session.take chunk).store = session.store := by
  have room : session.ingestion.room chunk.text.length = 0 := by
    simp [Ingestion.room, ingestion, closed]
  rw [store_take, taken, room, List.take_zero, Ingestion.feedLines_nil]

theorem store_take_line (allowed : session.config.maxLines ≠ some 0) (line : String) :
    (session.take (.lines [line])).store = (session.ingestion.feed session.store line).2 := by
  have room : session.ingestion.room 1 = 1 := by
    cases most : session.config.maxLines with
    | none => simp [Ingestion.room, ingestion, most]
    | some most' =>
      have : most' ≠ 0 := fun h => allowed (h ▸ most)
      simp only [Ingestion.room, ingestion, most]
      omega
  rw [store_take]
  simp only [taken, Chunk.text, List.length_cons, List.length_nil, Nat.zero_add, room,
    List.take_one]
  rfl

end Session

end AccessTrace
