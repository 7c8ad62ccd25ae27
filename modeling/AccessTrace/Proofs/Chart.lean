import AccessTrace.Chart
import AccessTrace.Proofs.Histogram.Counts

namespace AccessTrace

theorem Printout.write_of_takes {printout : Printout} {target : Target}
    (takes : target.takes printout.size) :
    printout.write target =
      match printout.trap with
      | some trap => .error (.crashed trap)
      | none => .ok printout.text := by
  simp only [write, takes]
  rfl

namespace Chart

variable {width most count : Nat}

section Bars

def Drawable (width most count : Nat) : Prop :=
  count * width < UInt64.size ∧ count * width / max most 1 ≤ maxLength

instance (width most count : Nat) : Decidable (Drawable width most count) :=
  inferInstanceAs (Decidable (_ ∧ _))

def obstacle (width count : Nat) : Trap :=
  if count * width < UInt64.size then .capacityOverflow else .multiplyOverflow

theorem barLength_of_drawable (drawable : Drawable width most count) :
    barLength width most count = .ok (count * width / max most 1) := by
  obtain ⟨word, held⟩ := drawable
  simp only [barLength, if_neg (Nat.not_le.mpr word), if_neg (Nat.not_lt.mpr held)]

theorem barLength_of_not_drawable (tooLong : ¬ Drawable width most count) :
    barLength width most count = .error (obstacle width count) := by
  by_cases word : count * width < UInt64.size
  · have long : maxLength < count * width / max most 1 := by
      apply Nat.lt_of_not_le
      intro held
      exact tooLong ⟨word, held⟩
    simp only [barLength, obstacle, if_neg (Nat.not_le.mpr word), if_pos long, if_pos word]
  · simp only [barLength, obstacle, if_pos (Nat.le_of_not_lt word), if_neg word]

theorem Drawable.of_le (drawable : Drawable width most most) (le : count ≤ most) :
    Drawable width most count := by
  obtain ⟨word, held⟩ := drawable
  have less : count * width ≤ most * width := Nat.mul_le_mul_right width le
  constructor
  · exact Nat.lt_of_le_of_lt less word
  · exact Nat.le_trans (Nat.div_le_div_right less) held

theorem drawable_fullest_iff (positive : 0 < most) :
    Drawable width most most ↔ most * width < UInt64.size ∧ width ≤ maxLength := by
  have share : most * width / max most 1 = width := by
    rw [Nat.max_eq_left positive]
    exact Nat.mul_div_cancel_left width positive
  simp only [Drawable, share]

/-- If the greatest count is one, no product exceeds the width. If it is more, a bar is at most half
of its product, and a text can hold half of a word. -/
theorem obstacle_eq (tooLong : ¬ Drawable width most count) (le : count ≤ most)
    (word : width < UInt64.size) :
    obstacle width count = if most = 1 then .capacityOverflow else .multiplyOverflow := by
  by_cases single : most = 1
  · have product : count * width ≤ most * width := Nat.mul_le_mul_right width le
    rw [single, Nat.one_mul] at product
    simp only [obstacle, if_pos (Nat.lt_of_le_of_lt product word), if_pos single]
  · have product : ¬ count * width < UInt64.size := by
      intro fits
      apply tooLong
      refine ⟨fits, ?_⟩
      rcases Nat.eq_zero_or_pos count with rfl | positive
      · simp
      · have several : 2 ≤ max most 1 := by omega
        have half : UInt64.size = 2 * (maxLength + 1) := rfl
        calc count * width / max most 1
          _ ≤ count * width / 2 := Nat.div_le_div_left several (by decide)
          _ ≤ maxLength := by omega
    simp only [obstacle, if_neg product, if_neg single]

end Bars

section Rows

variable {bin : Bin} {bins drawn rest : List Bin}

def rowText (bin : Bin) : String :=
  let start := Text.hexWord bin.start.toUInt64
  let last := Text.hexWord bin.last.toUInt64
  let count := Text.alignRight 8 ' ' (toString bin.count)
  s!"{start} - {last} | {count} | "

def fullRow (width most : Nat) (bin : Bin) : PrintedLine where
  text := rowText bin
  bar := bin.count * width / max most 1

theorem row_of_drawable (drawable : Drawable width most bin.count) :
    row width most bin = .ok (fullRow width most bin) := by
  simp only [row, barLength_of_drawable drawable]
  rfl

theorem row_of_not_drawable (tooLong : ¬ Drawable width most bin.count) :
    row width most bin = .error (obstacle width bin.count) := by
  simp only [row, barLength_of_not_drawable tooLong]
  rfl

theorem rows_append (drawable : ∀ bin ∈ drawn, Drawable width most bin.count) (rest : List Bin) :
    rows width most (drawn ++ rest) =
      { rows width most rest with
        lines := drawn.map (fullRow width most) ++ (rows width most rest).lines } := by
  induction drawn with
  | nil => rfl
  | cons bin drawn ih =>
    have first := row_of_drawable (drawable bin List.mem_cons_self)
    have later := ih fun bin member => drawable bin (List.mem_cons_of_mem _ member)
    simp only [List.cons_append, rows, first, later, Printout.cons, List.map_cons]

theorem rows_of_drawable (drawable : ∀ bin ∈ bins, Drawable width most bin.count) :
    rows width most bins = { lines := bins.map (fullRow width most) } := by
  have all := rows_append drawable []
  simpa only [rows, List.append_nil] using all

theorem rows_of_obstacle (drawable : ∀ bin ∈ drawn, Drawable width most bin.count)
    (tooLong : ¬ Drawable width most bin.count) :
    rows width most (drawn ++ bin :: rest) =
      { lines := drawn.map (fullRow width most), trap := some (obstacle width bin.count) } := by
  simp only [rows_append drawable, rows, row_of_not_drawable tooLong, List.append_nil]

theorem exists_obstacle (blocked : ∃ bin ∈ bins, ¬ Drawable width most bin.count) :
    ∃ drawn bin rest, bins = drawn ++ bin :: rest ∧
      (∀ earlier ∈ drawn, Drawable width most earlier.count) ∧
      ¬ Drawable width most bin.count := by
  have found : (bins.find? fun bin => ¬ Drawable width most bin.count).isSome := by
    simpa using blocked
  obtain ⟨bin, first⟩ := Option.isSome_iff_exists.mp found
  obtain ⟨tooLong, drawn, rest, parts, before⟩ := List.find?_eq_some_iff_append.mp first
  refine ⟨drawn, bin, rest, parts, ?_, ?_⟩
  · intro earlier member
    simpa using before earlier member
  · simpa using tooLong

end Rows

section Portraits

variable {bin bin' : Bin} {row row' : PrintedLine} {bins : List Bin}

/-- A row that shows a bin. Its bar is in proportion to the count, where the greatest count of all
has a bar of full width. -/
structure Depicts (width most : Nat) (bin : Bin) (row : PrintedLine) : Prop where
  text_eq : row.text = rowText bin
  bar_eq : row.bar = ⌊(bin.count * width : ℚ) / most⌋₊
  bar_le : row.bar ≤ width
  bar_full : bin.count = most → row.bar = width
  bar_empty : bin.count = 0 → row.bar = 0

theorem Depicts.bar_mono (depicts : Depicts width most bin row)
    (depicts' : Depicts width most bin' row') (le : bin.count ≤ bin'.count) :
    row.bar ≤ row'.bar := by
  rw [depicts.bar_eq, depicts'.bar_eq]
  apply Nat.floor_mono
  gcongr

theorem depicts_fullRow (positive : 0 < most) (le : bin.count ≤ most) :
    Depicts width most bin (fullRow width most bin) := by
  have bar : (fullRow width most bin).bar = bin.count * width / most := by
    rw [fullRow, Nat.max_eq_left positive]
  constructor
  · rfl
  · rw [bar, ← Nat.cast_mul, Nat.floor_div_eq_div]
  · rw [bar]
    apply Nat.div_le_of_le_mul
    exact Nat.mul_le_mul_right width le
  · intro full
    rw [bar, full]
    exact Nat.mul_div_cancel_left width positive
  · intro empty
    rw [bar, empty, Nat.zero_mul, Nat.zero_div]

/-- Rows that show some bins, one for each and in their order, where more addresses never have a
shorter bar. -/
structure Portrays (width most : Nat) (bins : List Bin) (rows : List PrintedLine) : Prop where
  each : List.Forall₂ (Depicts width most) bins rows
  bar_mono : ∀ bin row bin' row', (bin, row) ∈ bins.zip rows → (bin', row') ∈ bins.zip rows →
    bin.count ≤ bin'.count → row.bar ≤ row'.bar

theorem portrays_map (positive : 0 < most) (bounded : ∀ bin ∈ bins, bin.count ≤ most) :
    Portrays width most bins (bins.map (fullRow width most)) := by
  have each : List.Forall₂ (Depicts width most) bins (bins.map (fullRow width most)) := by
    apply List.forall₂_map_right_iff.mpr
    apply List.forall₂_same.mpr
    intro bin member
    exact depicts_fullRow positive (bounded bin member)
  constructor
  · exact each
  · intro bin row bin' row' shown shown' le
    obtain ⟨-, depicts⟩ := List.forall₂_iff_zip.mp each
    exact (depicts shown).bar_mono (depicts shown') le

end Portraits

section Main

variable {addresses : List Address} {bins : Nat} {h : Histogram} {window : Window}
  {bounds : Bounds} {chart : Printout}

/-- The chart of a histogram has a row for each bin, and a target that takes so much gets it
whole. -/
def Completes (window : Window) (h : Histogram) (bounds : Bounds) (width : Nat)
    (chart : Printout) : Prop :=
  ∃ rows, Portrays width h.maxCount h.bins rows ∧
    chart = { lines := heading window bounds ++ sizeLine h.binSize :: rows } ∧
    ∀ target : Target, target.takes chart.size → chart.write target = .ok chart.text

/-- The chart of a histogram has rows for the bins up to the first one whose bar is too long. There
it crashes, if its target has not refused it before. -/
def BreaksOff (window : Window) (h : Histogram) (bounds : Bounds) (width : Nat)
    (chart : Printout) (trap : Trap) : Prop :=
  ∃ shown bin rest rows, h.bins = shown ++ bin :: rest ∧
    (∀ earlier ∈ shown, Drawable width h.maxCount earlier.count) ∧
    ¬ Drawable width h.maxCount bin.count ∧
    Portrays width h.maxCount shown rows ∧
    chart = { lines := heading window bounds ++ sizeLine h.binSize :: rows, trap := some trap } ∧
    ∀ target : Target, target.takes chart.size → chart.write target = .error (.crashed trap)

theorem completes_of_drawable (positive : 0 < h.maxCount)
    (drawable : Drawable width h.maxCount h.maxCount) :
    Completes window h bounds width (draw window (some h) bounds width) := by
  have bounded : ∀ bin ∈ h.bins, bin.count ≤ h.maxCount := fun bin => h.count_le_maxCount
  have each : ∀ bin ∈ h.bins, Drawable width h.maxCount bin.count := by
    intro bin member
    exact drawable.of_le (bounded bin member)
  have chart : draw window (some h) bounds width =
      { lines := heading window bounds ++ sizeLine h.binSize ::
          h.bins.map (fullRow width h.maxCount) } := by
    simp only [draw, rows_of_drawable each]
  refine ⟨_, portrays_map positive bounded, chart, ?_⟩
  intro target takes
  rw [Printout.write_of_takes takes, chart]

theorem breaksOff_of_not_drawable (positive : 0 < h.maxCount) (word : width < UInt64.size)
    (tooLong : ¬ Drawable width h.maxCount h.maxCount) :
    BreaksOff window h bounds width (draw window (some h) bounds width)
      (if h.maxCount = 1 then .capacityOverflow else .multiplyOverflow) := by
  have first : ∃ bin ∈ h.bins, ¬ Drawable width h.maxCount bin.count := by
    obtain ⟨fullest, member, full⟩ := h.exists_fullest positive
    exact ⟨fullest, member, by rwa [full]⟩
  obtain ⟨shown, bin, rest, parts, drawable, tooLong⟩ := exists_obstacle first
  have bounded : (∀ earlier ∈ shown, earlier.count ≤ h.maxCount) ∧ bin.count ≤ h.maxCount := by
    constructor
    · intro earlier member
      exact h.count_le_maxCount (parts ▸ List.mem_append_left _ member)
    · exact h.count_le_maxCount (parts ▸ List.mem_append_cons_self)
  have chart : draw window (some h) bounds width =
      { lines := heading window bounds ++ sizeLine h.binSize ::
          shown.map (fullRow width h.maxCount)
        trap := some (if h.maxCount = 1 then .capacityOverflow else .multiplyOverflow) } := by
    simp only [draw, parts, rows_of_obstacle drawable tooLong,
      obstacle_eq tooLong bounded.2 word]
  refine ⟨shown, bin, rest, _, parts, drawable, tooLong, portrays_map positive bounded.1,
    chart, ?_⟩
  intro target takes
  rw [Printout.write_of_takes takes, chart]

/-- A chart is drawn to the end if the count of the fullest bin times the width is a word and the
width is no more than a text can hold. If not, it breaks off, though the rows that it has by then
are as they should be. -/
theorem draw_portrays_histogram (made : Histogram.ofAddresses addresses bins = .ok (some h))
    (window : Window) (bounds : Bounds) (width : UInt64) :
    h.bins.length = bins ∧ (∃ bin ∈ h.bins, bin.count = h.maxCount) ∧
      (h.maxCount * width.toNat < UInt64.size ∧ width.toNat ≤ maxLength →
        Completes window h bounds width.toNat (draw window (some h) bounds width.toNat)) ∧
      (¬ (h.maxCount * width.toNat < UInt64.size ∧ width.toNat ≤ maxLength) →
        BreaksOff window h bounds width.toNat (draw window (some h) bounds width.toNat)
          (if h.maxCount = 1 then .capacityOverflow else .multiplyOverflow)) := by
  obtain ⟨inhabited, describes⟩ := Histogram.describes_of_ofAddresses made
  have positive := describes.maxCount_pos inhabited
  have fullest := h.exists_fullest positive
  rw [← drawable_fullest_iff positive]
  refine ⟨describes.bins_eq, fullest, ?_, ?_⟩
  · exact completes_of_drawable positive
  · exact breaksOff_of_not_drawable positive width.toNat_lt

def lopsided : Window := ⟨0, 100, .load, [0x0, 0x800, 0x0]⟩

theorem draw_portrays_histogram_lopsided :
    ∃ (h : Histogram) (narrow wide : Printout),
      Histogram.ofAddresses lopsided.addresses 2 = .ok (some h) ∧
      h.bins.map Bin.count = [2, 1] ∧
      draw lopsided (some h) ⟨0x0, 0x1000, 200⟩ 5 = narrow ∧
      Completes lopsided h ⟨0x0, 0x1000, 200⟩ 5 narrow ∧
      (narrow.lines.drop 3).map PrintedLine.bar = [5, 2] ∧
      draw lopsided (some h) ⟨0x0, 0x1000, 200⟩ 0x8000000000000000 = wide ∧
      BreaksOff lopsided h ⟨0x0, 0x1000, 200⟩ 0x8000000000000000 wide .multiplyOverflow ∧
      wide.lines.drop 3 = [] := by
  refine ⟨_, _, _, rfl, by decide +kernel, rfl, ?_, by decide +kernel, rfl, ?_, by decide +kernel⟩
  · obtain ⟨-, -, completes, -⟩ := draw_portrays_histogram
      (rfl : Histogram.ofAddresses lopsided.addresses 2 = _) lopsided ⟨0x0, 0x1000, 200⟩ 5
    exact completes (by decide +kernel)
  · obtain ⟨-, -, -, breaksOff⟩ := draw_portrays_histogram
      (rfl : Histogram.ofAddresses lopsided.addresses 2 = _) lopsided ⟨0x0, 0x1000, 200⟩
      0x8000000000000000
    exact breaksOff (by decide +kernel)

/-- A bin with three addresses gets no row, although a text can be as wide as is asked for: three
times this width is no word. For one address and one mark more, it is the text that is too long. -/
theorem draw_unfinished :
    (∃ (h : Histogram) (chart : Printout),
      Histogram.ofAddresses [0x10, 0x10, 0x10] 1 = .ok (some h) ∧ h.bins.map Bin.count = [3] ∧
      draw ⟨0, 100, .all, [0x10, 0x10, 0x10]⟩ (some h) ⟨0x10, 0x10, 100⟩ maxLength = chart ∧
      chart.lines.drop 3 = [] ∧ chart.write {} = .error (.crashed .multiplyOverflow)) ∧
    ∃ (h : Histogram) (chart : Printout),
      Histogram.ofAddresses [0x10] 1 = .ok (some h) ∧ h.bins.map Bin.count = [1] ∧
      draw ⟨0, 100, .all, [0x10]⟩ (some h) ⟨0x10, 0x10, 100⟩ (maxLength + 1) = chart ∧
      chart.lines.drop 3 = [] ∧ chart.write {} = .error (.crashed .capacityOverflow) := by
  constructor
  · refine ⟨_, _, rfl, by decide +kernel, rfl, by decide +kernel, ?_⟩
    exact Printout.write_of_takes rfl
  · refine ⟨_, _, rfl, by decide +kernel, rfl, by decide +kernel, ?_⟩
    exact Printout.write_of_takes rfl

end Main

end Chart

end AccessTrace
