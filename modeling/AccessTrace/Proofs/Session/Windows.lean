import AccessTrace.Proofs.Snapshot.Rebuild
import AccessTrace.Proofs.Store.Window
import AccessTrace.Session
import Mathlib.Logic.Function.Iterate

/-! Windows that follow one another in steps. As long as a step is no longer than a window, they
show together what one window over all of their cycles would show. -/

namespace AccessTrace

theorem Access.overlaps_iff {access : Access} {lower upper : Cycle} :
    access.overlaps lower upper ↔
      access.start < upper ∧ ∀ last, access.stop = some last → lower < last := by
  unfold overlaps
  cases access.stop <;> simp [and_comm]

namespace Session

variable {session : Session} {filter : KindFilter} {upper : Cycle}

/-- The window that ends at a cycle and those of so many steps after it, up to the first one that is
past the last cycle. -/
def windows (session : Session) (filter : KindFilter) : Nat → Cycle → List Window
  | 0, upper => (session.window? upper filter).toList
  | steps + 1, upper =>
    match session.window? upper filter with
    | none => []
    | some window => window :: windows session filter steps (session.step upper)

section Steps

theorem toNat_step (session : Session) (upper : Cycle) :
    (session.step upper).toNat =
      min (upper.toNat + session.config.stepCycles.toNat) (UInt64.size - 1) := by
  have size : UInt64.size = 2 ^ 64 := rfl
  unfold step
  split
  · have last : (0xFFFFFFFFFFFFFFFF : Cycle).toNat = UInt64.size - 1 := rfl
    omega
  · rw [UInt64.toNat_add]
    omega

theorem le_step (session : Session) (upper : Cycle) : upper ≤ session.step upper := by
  have bound := upper.toNat_lt
  have size : UInt64.size = 2 ^ 64 := rfl
  have after := session.toNat_step upper
  apply UInt64.le_iff_toNat_le.mpr
  omega

theorem le_iterate_step (session : Session) (upper : Cycle) (i : Nat) :
    upper ≤ session.step^[i] upper := by
  induction i with
  | zero => exact UInt64.le_refl upper
  | succ i ih =>
    rw [Function.iterate_succ_apply']
    exact UInt64.le_trans ih (session.le_step _)

end Steps

section Shown

theorem window?_spec {window : Window} (found : session.window? upper filter = some window) :
    window.lowerCycle = monus upper session.config.windowSize ∧ window.upperCycle = upper := by
  obtain ⟨bounds, -, -, rfl⟩ := Store.window?_eq_some_iff.mp found
  exact ⟨rfl, rfl⟩

theorem window?_eq_none_of_le {later : Cycle} (past : session.window? upper filter = none)
    (le : upper ≤ later) : session.window? later filter = none := by
  apply Option.eq_none_iff_forall_ne_some.mpr
  intro window found
  obtain ⟨bounds, known, reached, -⟩ := Store.window?_eq_some_iff.mp found
  have unreached : ¬ bounds.maxCycle < upper := by
    apply UInt64.not_lt.mpr
    exact UInt64.le_trans le reached
  rw [window?, Store.window?_of_bounds known unreached] at past
  cases past

theorem window?_of_lt {bounds : Bounds} (known : session.bounds = some bounds)
    (past : bounds.maxCycle < upper) : session.window? upper filter = none := by
  have known : session.store.bounds = some bounds := known
  simp [window?, Store.window?, known, past]

theorem windows_of_none (past : session.window? upper filter = none) (steps : Nat) :
    session.windows filter steps upper = [] := by
  cases steps <;> simp [windows, past]

theorem getElem?_windows (session : Session) (filter : KindFilter) (steps : Nat) (upper : Cycle)
    (i : Nat) : (session.windows filter steps upper)[i]? =
      if i ≤ steps then session.window? (session.step^[i] upper) filter else none := by
  induction steps generalizing upper i with
  | zero =>
    rw [windows]
    cases i with
    | zero => cases found : session.window? upper filter <;> simp [found]
    | succ i => cases session.window? upper filter <;> simp
  | succ steps ih =>
    cases found : session.window? upper filter with
    | none =>
      have past := window?_eq_none_of_le found (session.le_iterate_step upper i)
      simp [windows_of_none found, past]
    | some window =>
      simp only [windows, found]
      cases i with
      | zero => simp [found]
      | succ i => simp [ih, Function.iterate_succ_apply]

end Shown

section Seams

variable {access : Access} {lower next last : Cycle}

/-- Where a window is followed by one that starts no later than it ends, an access that lasts over
the seam, or that starts and ends past the start of the later one, is in one of them. -/
theorem overlaps_seam (forward : access.Forward)
    (lasting : access.stop ≠ some access.start ∨
      session.config.stepCycles < session.config.windowSize)
    (steady : session.config.stepCycles ≤ session.config.windowSize)
    (step_le : session.step upper ≤ last) :
    access.overlaps (monus upper session.config.windowSize) upper ∨
        access.overlaps (monus (session.step upper) session.config.windowSize) last ↔
      access.overlaps (monus upper session.config.windowSize) last := by
  have before := toNat_monus upper session.config.windowSize
  have after := toNat_monus (session.step upper) session.config.windowSize
  have stepped := session.toNat_step upper
  have grows := UInt64.le_iff_toNat_le.mp (session.le_step upper)
  simp only [Access.overlaps_iff, UInt64.lt_iff_toNat_lt, UInt64.le_iff_toNat_le] at *
  constructor
  · rintro (⟨starts, ends⟩ | ⟨starts, ends⟩)
    · exact ⟨by omega, ends⟩
    · refine ⟨starts, fun stop closed => ?_⟩
      have inside := ends stop closed
      omega
  · rintro ⟨starts, ends⟩
    by_cases early : access.start.toNat < upper.toNat
    · exact .inl ⟨early, ends⟩
    · refine .inr ⟨starts, fun stop closed => ?_⟩
      have inside := ends stop closed
      have ordered := UInt64.le_iff_toNat_le.mp (forward stop closed)
      rcases lasting with lasts | shorter
      · have apart : access.start.toNat ≠ stop.toNat := by
          intro same
          exact lasts (closed.trans (congrArg some (UInt64.toNat_inj.mp same).symm))
        omega
      · omega

theorem le_upperCycle_of_mem {steps : Nat} {window : Window}
    (member : window ∈ session.windows filter steps upper) : upper ≤ window.upperCycle := by
  obtain ⟨i, found⟩ := List.mem_iff_getElem?.mp member
  rw [getElem?_windows] at found
  split at found
  · rw [(window?_spec found).2]
    exact session.le_iterate_step upper i
  · cases found

theorem exists_overlaps_iff (forward : access.Forward)
    (lasting : access.stop ≠ some access.start ∨
      session.config.stepCycles < session.config.windowSize)
    (steady : session.config.stepCycles ≤ session.config.windowSize) {steps : Nat}
    {first final : Window} (starts : (session.windows filter steps upper).head? = some first)
    (ends : (session.windows filter steps upper).getLast? = some final) :
    (∃ window ∈ session.windows filter steps upper,
        access.overlaps window.lowerCycle window.upperCycle) ↔
      access.overlaps first.lowerCycle final.upperCycle := by
  induction steps generalizing upper first with
  | zero =>
    rw [windows] at *
    cases found : session.window? upper filter with
    | none => simp [found] at starts
    | some window =>
      simp only [found, Option.toList_some, List.head?_cons, List.getLast?_singleton,
        Option.some.injEq] at starts ends
      subst starts ends
      simp
  | succ steps ih =>
    cases found : session.window? upper filter with
    | none => simp [windows_of_none found] at starts
    | some window =>
      simp only [windows, found, List.head?_cons, Option.some.injEq] at starts ends ⊢
      subst starts
      cases found' : session.window? (session.step upper) filter with
      | none =>
        simp only [windows_of_none found', List.getLast?_singleton, Option.some.injEq] at ends ⊢
        subst ends
        simp
      | some second =>
        have starts' : (session.windows filter steps (session.step upper)).head? = some second := by
          cases steps <;> simp [windows, found']
        have inhabited : session.windows filter steps (session.step upper) ≠ [] := by
          intro empty
          simp [empty] at starts'
        rw [List.getLast?_cons_of_ne_nil inhabited] at ends
        have reach := le_upperCycle_of_mem (List.mem_of_getLast? ends)
        have seam := overlaps_seam forward lasting steady reach
        obtain ⟨lower_eq, upper_eq⟩ := window?_spec found
        obtain ⟨lower_eq', -⟩ := window?_spec found'
        simp only [List.mem_cons, exists_eq_or_imp, ih starts' ends, lower_eq, upper_eq, lower_eq']
        exact seam

end Seams

end Session

end AccessTrace
