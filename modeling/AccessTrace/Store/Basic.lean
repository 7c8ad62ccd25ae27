import AccessTrace.Access
import AccessTrace.Ordered

/-!
The store of all accesses of a trace. Beside the accesses by id it keeps them by the cycle of their
start and, once closed, by the cycle of their end, so that a window of cycles need not walk all of
them. Accesses are never removed.
-/

namespace AccessTrace

instance : StrictOrder AccessId where
  lt a b := a.number < b.number
  decidableLT a b := inferInstanceAs (Decidable (a.number < b.number))
  irrefl a := StrictOrder.irrefl a.number
  trans := StrictOrder.trans (κ := UInt64)
  trichotomy a b := by
    rcases StrictOrder.trichotomy a.number b.number with h | h | h
    · exact .inl h
    · exact .inr (.inl (by cases a; cases b; cases h; rfl))
    · exact .inr (.inr h)

structure Mark where
  cycle : Cycle
  id : AccessId
  deriving DecidableEq, Repr, Inhabited

/-- Marks are ordered by cycle, and by id within a cycle. -/
instance : StrictOrder Mark where
  lt a b := a.cycle < b.cycle ∨ a.cycle = b.cycle ∧ a.id < b.id
  decidableLT a b :=
    inferInstanceAs (Decidable (a.cycle < b.cycle ∨ a.cycle = b.cycle ∧ a.id < b.id))
  irrefl a := by
    rintro (h | ⟨-, h⟩)
    · exact StrictOrder.irrefl _ h
    · exact StrictOrder.irrefl _ h
  trans := by
    rintro a b c (hab | ⟨hab, hab'⟩) (hbc | ⟨hbc, hbc'⟩)
    · exact .inl (StrictOrder.trans hab hbc)
    · exact .inl (hbc ▸ hab)
    · exact .inl (hab ▸ hbc)
    · exact .inr ⟨hab.trans hbc, StrictOrder.trans hab' hbc'⟩
  trichotomy a b := by
    rcases StrictOrder.trichotomy a.cycle b.cycle with h | h | h
    · exact .inl (.inl h)
    · rcases StrictOrder.trichotomy a.id b.id with h' | h' | h'
      · exact .inl (.inr ⟨h, h'⟩)
      · exact .inr (.inl (by cases a; cases b; cases h; cases h'; rfl))
      · exact .inr (.inr (.inr ⟨h.symm, h'⟩))
    · exact .inr (.inr (.inl h))

structure AddressRange where
  lowest : Address
  highest : Address
  deriving DecidableEq, Repr, Inhabited

def AddressRange.single (address : Address) : AddressRange :=
  ⟨address, address⟩

def AddressRange.extend (range : AddressRange) (address : Address) : AddressRange :=
  ⟨min range.lowest address, max range.highest address⟩

structure Store where
  accesses : Ordered Access.id
  byStart : Ordered (id : Mark → Mark)
  byEnd : Ordered (id : Mark → Mark)
  unended : Ordered (id : AccessId → AccessId)
  addresses : Option AddressRange
  /-- The latest cycle that the clock of the trace has shown. It says where a later part of the
  trace continues, and nothing about the accesses. -/
  horizon : Option Cycle
  deriving DecidableEq, Inhabited

namespace Store

def empty : Store :=
  ⟨.empty, .empty, .empty, .empty, none, none⟩

def size (store : Store) : Nat := store.accesses.size

def isEmpty (store : Store) : Bool := store.accesses.toList.isEmpty

def toList (store : Store) : List Access := store.accesses.toList

def get? (store : Store) (id : AccessId) : Option Access :=
  store.accesses.find? id

def insertIfNew (store : Store) (access : Access) : Bool × Store :=
  match store.get? access.id with
  | some _ => (false, store)
  | none =>
    let store := { store with
      accesses := store.accesses.put access
      byStart := store.byStart.put ⟨access.start, access.id⟩
      addresses := some <| match store.addresses with
        | some range => range.extend access.address
        | none => .single access.address }
    (true, match access.stop with
      | some last => { store with byEnd := store.byEnd.put ⟨last, access.id⟩ }
      | none => { store with unended := store.unended.put access.id })

def close (store : Store) (id : AccessId) (cycle : Cycle) : CloseOutcome × Store :=
  match store.get? id with
  | none => (.unknown, store)
  | some access =>
    if access.isOpen then
      (.closed, { store with
        accesses := store.accesses.put (access.close cycle)
        byEnd := store.byEnd.put ⟨cycle, id⟩
        unended := store.unended.erase id })
    else (.alreadyClosed, store)

def observe (store : Store) (cycle : Cycle) : Store :=
  { store with horizon := some <| match store.horizon with
      | some latest => max latest cycle
      | none => cycle }

instance : Recorder Store where
  insertIfNew := insertIfNew
  close := close
  observe := observe

end Store

end AccessTrace
