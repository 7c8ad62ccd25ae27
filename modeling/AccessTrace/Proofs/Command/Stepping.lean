import AccessTrace.Proofs.Command.Shown
import AccessTrace.Proofs.Session.Windows

namespace AccessTrace.Command

variable {files : List Path} {d : Directory} {session : Session} {a : HistArguments}
  {bounds : Bounds} {upper : Cycle}

/-- The chart of a window, if it can be drawn to its end. -/
def Draws (session : Session) (bounds : Bounds) (width : Nat) (window : Window)
    (chart : Printout) : Prop :=
  ∃ histogram,
    Histogram.ofAddresses window.addresses session.config.histogramBins = .ok histogram ∧
      chart = Chart.draw window histogram bounds width ∧ chart.trap = none

/-- What is printed in place of a window that ends past the last cycle. -/
def pastLine (bounds : Bounds) (upper : Cycle) : String :=
  s!"Cycle {upper} is past the last cycle {bounds.maxCycle}, nothing to show" ++ "\n"

/-- What is printed after the windows: a line in place of the next one, if more steps are asked
for. -/
def ending (session : Session) (bounds : Bounds) (filter : KindFilter) (steps : Nat)
    (upper : Cycle) : List String :=
  let shown := (session.windows filter steps upper).length
  if shown ≤ steps then [pastLine bounds (session.step^[shown] upper)] else []

theorem does_forM {α : Type} {f : α → Run (StateM Workspace) Unit} {text : α → String}
    (each : ∀ value, Does files d (f value) (.ok ()) (text value)) (all : List α) :
    Does files d (all.forM f) (.ok ()) (String.join (all.map text)) := by
  induction all with
  | nil => exact does_pure ()
  | cons first rest ih =>
    rw [List.map_cons, String.join_cons]
    exact (each first).bind ih

section Steps

variable {steps : Nat} {window : Window} {chart : Printout} {charts : List Printout}

/-- What is drawn of a chart is printed, also where the chart breaks off. -/
theorem does_printWindow {histogram : Option Histogram}
    (answer : session.histogram upper a.kind = .ok (some (window, histogram)))
    (drawn : Chart.draw window histogram bounds a.barWidth = chart) :
    Does files d (printWindow session bounds upper a)
      (match chart.trap with
        | some trap => .error (.crashed trap)
        | none => .ok true) chart.text := by
  apply (does_logAll _).andThen
  simp only [answer, drawn]
  have each (line : PrintedLine) : Does files d (printLine line.print) (.ok ())
      (line.print ++ "\n") := does_printLine line.print
  have printed := does_forM each chart.lines
  cases chart.trap with
  | none => exact printed.thenSilent (does_pure true)
  | some trap => exact printed.thenSilent (does_throw _)

theorem does_printWindow_of_draws (found : session.window? upper a.kind = some window)
    (draws : Draws session bounds a.barWidth window chart) :
    Does files d (printWindow session bounds upper a) (.ok true) chart.text := by
  obtain ⟨histogram, counted, rfl, drawn⟩ := draws
  have answer : session.histogram upper a.kind = .ok (some (window, histogram)) := by
    simp only [Session.histogram, found, counted]
  have shown : Does files d (printWindow session bounds upper a) _ _ := does_printWindow answer rfl
  rwa [drawn] at shown

theorem does_printWindow_of_none (past : session.window? upper a.kind = none) :
    Does files d (printWindow session bounds upper a) (.ok false) (pastLine bounds upper) := by
  have answer : session.histogram upper a.kind = .ok none := by
    simp only [Session.histogram, past]
  apply (does_logAll _).andThen
  simp only [answer]
  apply Does.thenSilent (does_printLine _)
  exact does_pure false

theorem ending_of_none (past : session.window? upper a.kind = none) :
    ending session bounds a.kind steps upper = [pastLine bounds upper] := by
  simp [ending, Session.windows_of_none past]

theorem ending_zero (found : session.window? upper a.kind = some window) :
    ending session bounds a.kind 0 upper = [] := by
  simp [ending, Session.windows, found]

theorem ending_succ (found : session.window? upper a.kind = some window) :
    ending session bounds a.kind (steps + 1) upper =
      ending session bounds a.kind steps (session.step upper) := by
  simp [ending, Session.windows, found]

theorem texts_ne_nil (draws : List.Forall₂ (Draws session bounds a.barWidth)
    (session.windows a.kind steps upper) charts) :
    charts.map Printout.text ++ ending session bounds a.kind steps upper ≠ [] := by
  cases charts with
  | nil =>
    have shown := draws.length_eq
    simp [ending, shown]
  | cons chart rest => simp

theorem does_printFrom_of_none (past : session.window? upper a.kind = none)
    (draws : List.Forall₂ (Draws session bounds a.barWidth)
      (session.windows a.kind steps upper) charts) :
    Does files d (printFrom session bounds a steps upper) (.ok ())
      ("\n".intercalate (charts.map Printout.text ++
        ending session bounds a.kind steps upper)) := by
  rw [Session.windows_of_none past] at draws
  cases draws
  simp only [ending_of_none past, List.map_nil, List.nil_append, String.intercalate_singleton]
  apply (does_printWindow_of_none past).thenSilent
  exact does_pure ()

/-- By induction on the steps that are left; the first window that there is not ends the loop. -/
theorem does_printFrom
    (draws : List.Forall₂ (Draws session bounds a.barWidth)
      (session.windows a.kind steps upper) charts) :
    Does files d (printFrom session bounds a steps upper) (.ok ())
      ("\n".intercalate (charts.map Printout.text ++
        ending session bounds a.kind steps upper)) := by
  induction steps generalizing upper charts with
  | zero =>
    cases found : session.window? upper a.kind with
    | none => exact does_printFrom_of_none found draws
    | some window =>
      simp only [Session.windows, found, Option.toList_some] at draws
      obtain ⟨chart, _, first, ⟨⟩, rfl⟩ := List.forall₂_cons_left_iff.mp draws
      simp only [ending_zero found, List.map_cons, List.map_nil, List.append_nil,
        String.intercalate_singleton]
      apply (does_printWindow_of_draws found first).thenSilent
      exact does_pure ()
  | succ steps ih =>
    cases found : session.window? upper a.kind with
    | none => exact does_printFrom_of_none found draws
    | some window =>
      simp only [Session.windows, found] at draws
      obtain ⟨chart, later, first, rest, rfl⟩ := List.forall₂_cons_left_iff.mp draws
      rw [ending_succ found, List.map_cons, List.cons_append,
        String.intercalate_cons_of_ne_nil (texts_ne_nil rest), String.append_assoc]
      apply (does_printWindow_of_draws found first).bind
      apply (does_printLine "").bind
      exact ih rest

theorem does_showHist (known : session.bounds = some bounds)
    (draws : List.Forall₂ (Draws session bounds a.barWidth)
      (session.windows a.kind a.steps a.cycle) charts) :
    Does files d (showHist session a) (.ok ())
      ("\n".intercalate (charts.map Printout.text ++
        ending session bounds a.kind a.steps a.cycle)) := by
  unfold showHist
  rw [known]
  exact does_printFrom draws

end Steps

/-- The windows that are shown one after the other end at the cycle and so many steps later, up to
the last cycle. An access is in one of them if it is in the window from the start of the first to
the end of the last one, unless it takes no time and the windows leave nothing in common. -/
theorem shows_every_access (known : session.bounds = some bounds)
    (forward : ∀ access ∈ session.store.accesses, access.Forward)
    (steady : session.config.stepCycles ≤ session.config.windowSize) {first final : Window}
    (starts : (session.windows a.kind a.steps a.cycle).head? = some first)
    (ends : (session.windows a.kind a.steps a.cycle).getLast? = some final) :
    (∀ i, (session.windows a.kind a.steps a.cycle)[i]? =
      if i ≤ a.steps ∧ session.step^[i] a.cycle ≤ bounds.maxCycle then
        session.window? (session.step^[i] a.cycle) a.kind
      else none) ∧
    (∀ access ∈ session.store.accesses,
      access.stop ≠ some access.start ∨
          session.config.stepCycles < session.config.windowSize →
        ((∃ window ∈ session.windows a.kind a.steps a.cycle,
            access.isShown window.lowerCycle window.upperCycle a.kind) ↔
          access.isShown first.lowerCycle final.upperCycle a.kind)) ∧
    ∀ files d charts,
      List.Forall₂ (Draws session bounds a.barWidth)
          (session.windows a.kind a.steps a.cycle) charts →
        Does files d (showHist session a) (.ok ())
          ("\n".intercalate (charts.map Printout.text ++
            ending session bounds a.kind a.steps a.cycle)) := by
  refine ⟨fun i => ?_, fun access member lasting => ?_, fun files d charts draws => ?_⟩
  · rw [Session.getElem?_windows]
    by_cases reached : session.step^[i] a.cycle ≤ bounds.maxCycle
    · simp only [reached, and_true]
    · simp [reached, Session.window?_of_lt known (UInt64.not_le.mp reached)]
  · have shared := Session.exists_overlaps_iff (forward access member) lasting steady starts ends
    simp only [← Access.overlaps_and_accepts, Bool.and_eq_true, ← shared]
    constructor
    · rintro ⟨window, shown, overlaps, accepted⟩
      exact ⟨⟨window, shown, overlaps⟩, accepted⟩
    · rintro ⟨⟨window, shown, overlaps⟩, accepted⟩
      exact ⟨window, shown, overlaps, accepted⟩
  · exact does_showHist known draws

/-- Accesses before and after the end of a window, and one that takes no time there. -/
def seamed : Session where
  store := Store.performAll .empty
    [.insert ⟨⟨1⟩, .load, 0x10, 20, some 100⟩, .insert ⟨⟨2⟩, .load, 0x20, 100, some 150⟩,
      .insert ⟨⟨3⟩, .load, 0x30, 100, some 100⟩, .insert ⟨⟨4⟩, .store, 0x40, 250, none⟩]
  config := { windowSize := 100, stepCycles := 100, histogramBins := 2 }
  period := ⟨1, 0⟩
  valid := rfl

def inSteps : HistArguments :=
  { input := .trace ⟨"t"⟩, cycle := 100, kind := .load, steps := 3, barWidth := 4 }

def seamedText : String :=
  "Mem Access Frequency (Cycle 0 - 100), 1 Load accesses\n" ++
    "Addresses: 0x10 - 0x40\nBin Size is 0.00 KB\n" ++
    "0x000000000000000f - 0x0000000000000010 |        0 | \n" ++
    "0x0000000000000010 - 0x0000000000000010 |        1 | ####\n\n" ++
    "Mem Access Frequency (Cycle 100 - 200), 1 Load accesses\n" ++
    "Addresses: 0x10 - 0x40\nBin Size is 0.00 KB\n" ++
    "0x000000000000001f - 0x0000000000000020 |        0 | \n" ++
    "0x0000000000000020 - 0x0000000000000020 |        1 | ####\n\n" ++
    "Cycle 300 is past the last cycle 250, nothing to show\n"

theorem shows_every_access_seamed :
    seamed.bounds = some ⟨0x10, 0x40, 250⟩ ∧
      (∀ access ∈ seamed.store.accesses, access.Forward) ∧
      seamed.config.stepCycles ≤ seamed.config.windowSize ∧
      seamed.windows .load 3 100 = [⟨0, 100, .load, [0x10]⟩, ⟨100, 200, .load, [0x20]⟩] ∧
      (∀ access ∈ seamed.store.accesses, access.stop ≠ some access.start →
        ((∃ window ∈ seamed.windows .load 3 100,
          access.isShown window.lowerCycle window.upperCycle .load) ↔
            access.isShown 0 200 .load)) ∧
      ∀ d, Does [] d (showHist seamed inSteps) (.ok ()) seamedText := by
  have known : seamed.bounds = some ⟨0x10, 0x40, 250⟩ := by decide +kernel
  have forward : ∀ access ∈ seamed.store.accesses, access.Forward := by decide +kernel
  have steady : seamed.config.stepCycles ≤ seamed.config.windowSize := by decide
  have shown : seamed.windows .load 3 100 =
      [⟨0, 100, .load, [0x10]⟩, ⟨100, 200, .load, [0x20]⟩] := by decide +kernel
  have last : ending seamed ⟨0x10, 0x40, 250⟩ .load 3 100 = [pastLine ⟨0x10, 0x40, 250⟩ 300] := by
    simp only [ending, shown]
    rfl
  obtain ⟨-, covers, prints⟩ := shows_every_access (a := inSteps) known forward steady
    (congrArg List.head? shown) (congrArg List.getLast? shown)
  refine ⟨known, forward, steady, shown, fun access member lasts => ?_, fun d => ?_⟩
  · exact covers access member (.inl lasts)
  · obtain ⟨charts, draws, text⟩ : ∃ charts,
        List.Forall₂ (Draws seamed ⟨0x10, 0x40, 250⟩ 4) (seamed.windows .load 3 100) charts ∧
          "\n".intercalate (charts.map Printout.text ++ [pastLine ⟨0x10, 0x40, 250⟩ 300]) =
            seamedText := by
      rw [shown]
      exact ⟨_, .cons ⟨_, rfl, rfl, by decide +kernel⟩
        (.cons ⟨_, rfl, rfl, by decide +kernel⟩ .nil), by decide +kernel⟩
    rw [← text, ← last]
    exact prints [] d charts draws

/-- An access that takes no time is lost between two windows with nothing in common. -/
example : (⟨⟨3⟩, .load, 0x30, 100, some 100⟩ : Access).isShown 0 200 .load ∧
    ∀ window ∈ seamed.windows .load 3 100, window.addresses.all (· ≠ 0x30) := by
  decide +kernel

end AccessTrace.Command
