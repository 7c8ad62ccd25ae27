import AccessTrace.Proofs.Command.Opening
import AccessTrace.Proofs.Histogram.Counts
import AccessTrace.Proofs.Store.Window

namespace AccessTrace.Session

open Histogram (maxBins)

variable {session : Session} {upper : Cycle} {filter : KindFilter} {window : Window}

theorem bins_pos (session : Session) : 0 < session.config.histogramBins := by
  have valid := Config.validate_eq_ok_iff.mp session.valid
  exact Nat.pos_of_ne_zero valid.1

theorem histogram_of_ok {histogram : Option Histogram}
    (found : session.window? upper filter = some window)
    (made : Histogram.ofAddresses window.addresses session.config.histogramBins = .ok histogram) :
    session.histogram upper filter = .ok (some (window, histogram)) := by
  simp only [Session.histogram, found, made]

theorem histogram_of_error {trap : Trap} (found : session.window? upper filter = some window)
    (crash : Histogram.ofAddresses window.addresses session.config.histogramBins = .error trap) :
    session.histogram upper filter = .error trap := by
  simp only [Session.histogram, found, crash]

theorem length_addresses (reachable : session.store.Reachable)
    (found : session.window? upper filter = some window) :
    window.addresses.length =
      session.store.toList.countP (Access.isShown window.lowerCycle upper filter) := by
  obtain ⟨-, shows, -⟩ := Store.window?_shows_scan reachable upper session.config.windowSize filter
  have perm := (shows window found).addresses_perm
  rw [perm.length_eq, Store.scan, List.length_map, List.countP_eq_length_filter]

/-- What a session has to answer when it is asked for a histogram. It depends on the number of bins
only if there is something to count, and on the order of the addresses never. -/
structure Answers (session : Session) (upper : Cycle) (filter : KindFilter) (window : Window) :
    Prop where
  empty : window.addresses = [] → session.histogram upper filter = .ok (some (window, none))
  counted : window.addresses ≠ [] → session.config.histogramBins < maxBins →
    ∃ h : Histogram, session.histogram upper filter = .ok (some (window, some h)) ∧
      h.Describes window.addresses session.config.histogramBins ∧
      h.total = session.store.toList.countP (Access.isShown window.lowerCycle upper filter) ∧
      ∀ addresses, addresses.Perm window.addresses →
        Histogram.ofAddresses addresses session.config.histogramBins = .ok (some h)
  vast : window.addresses ≠ [] → maxBins ≤ session.config.histogramBins →
    session.histogram upper filter = .error .capacityOverflow

theorem answers (reachable : session.store.Reachable)
    (found : session.window? upper filter = some window) :
    session.Answers upper filter window := by
  have positive := session.bins_pos
  constructor
  · intro empty
    apply histogram_of_ok found
    rw [empty, Histogram.ofAddresses_nil]
  · intro inhabited fits
    obtain ⟨lowest, highest, range⟩ := Histogram.exists_extremes inhabited
    have describes := Histogram.counted_describes window.addresses lowest highest positive
    have made := Histogram.ofAddresses_of_extremes range positive
    rw [if_neg (Nat.not_le.mpr fits)] at made
    refine ⟨_, histogram_of_ok found made, describes, ?_, fun addresses perm => ?_⟩
    · exact describes.total_eq.trans (length_addresses reachable found)
    · rw [Histogram.ofAddresses_perm perm, made]
  · intro inhabited vast
    obtain ⟨lowest, highest, range⟩ := Histogram.exists_extremes inhabited
    have made := Histogram.ofAddresses_of_extremes range positive
    rw [if_pos vast] at made
    exact histogram_of_error found made

/-- There is no histogram where there is no window. Otherwise there is none if the window is empty;
if not, it counts the accesses that the window shows, each once, unless there are too many bins. -/
theorem histogram_describes_window (reachable : session.store.Reachable) (upper : Cycle)
    (filter : KindFilter) :
    (session.histogram upper filter = .ok none ↔ session.window? upper filter = none) ∧
      ∀ window, session.window? upper filter = some window →
        session.Answers upper filter window := by
  refine ⟨?_, fun window found => answers reachable found⟩
  constructor
  · intro none
    cases found : session.window? upper filter with
    | none => rfl
    | some window =>
      simp only [Session.histogram, found] at none
      split at none
      · cases none
      · cases none
  · intro none
    simp only [Session.histogram, none]

def crowded : Session where
  store := Store.performAll .empty
    [.insert ⟨⟨1⟩, .load, 0x10, 0, none⟩, .insert ⟨⟨2⟩, .load, 0x40, 2, some 4⟩,
      .insert ⟨⟨3⟩, .load, 0x10, 3, none⟩, .insert ⟨⟨4⟩, .store, 0x30, 1, some 5⟩]
  config := { histogramBins := 3 }
  period := ⟨1, 0⟩
  valid := rfl

theorem histogram_describes_window_crowded :
    crowded.store.Reachable ∧
      (∃ h : Histogram,
        crowded.histogram 5 .load = .ok (some (⟨0, 5, .load, [0x10, 0x40, 0x10]⟩, some h)) ∧
          h.Describes [0x10, 0x40, 0x10] 3 ∧ h.total = 3 ∧
          Histogram.ofAddresses [0x10, 0x10, 0x40] 3 = .ok (some h)) ∧
      crowded.histogram 6 .load = .ok none := by
  have reachable : crowded.store.Reachable := ⟨_, rfl⟩
  have found : crowded.window? 5 .load = some ⟨0, 5, .load, [0x10, 0x40, 0x10]⟩ := by
    decide +kernel
  have past : crowded.window? 6 .load = none := by decide +kernel
  obtain ⟨-, answers⟩ := histogram_describes_window reachable 5 .load
  obtain ⟨none_iff, -⟩ := histogram_describes_window reachable 6 .load
  obtain ⟨h, answer, describes, total, alike⟩ := (answers _ found).counted (by simp) (by decide)
  refine ⟨reachable, ⟨h, answer, describes, describes.total_eq, ?_⟩, none_iff.mpr past⟩
  exact alike [0x10, 0x10, 0x40] (by decide)

def vast : Session :=
  { crowded with config := { histogramBins := maxBins }, valid := rfl }

/-- Although the configuration is valid and the window shows accesses, no answer is given. -/
theorem no_histogram_vast :
    vast.store.Reachable ∧ vast.config.validate = .ok vast.period ∧
      ∃ window, vast.window? 5 .load = some window ∧ window.addresses.length = 3 ∧
        ∀ answer, vast.histogram 5 .load ≠ .ok answer := by
  have reachable : vast.store.Reachable := ⟨_, rfl⟩
  have found : vast.window? 5 .load = some ⟨0, 5, .load, [0x10, 0x40, 0x10]⟩ := by decide +kernel
  have crashed := (answers reachable found).vast (by simp) (Nat.le_refl maxBins)
  refine ⟨reachable, vast.valid, _, found, rfl, fun answer given => ?_⟩
  rw [crashed] at given
  cases given

end AccessTrace.Session
