import ImageWorker.Image.Transformer
import Mathlib.Algebra.Order.Field.Basic
import Mathlib.Algebra.Order.Field.Rat
import Mathlib.Algebra.Order.Group.MinMax
import Mathlib.Tactic.FieldSimp
import Mathlib.Tactic.Linarith
import Mathlib.Tactic.Positivity
import Mathlib.Tactic.Ring

/-!
# How large the rasters of a resizing become

Numbers of 53 binary digits are so near to the ratios they stand for that a scaled side differs from
the exact one by less than a pixel, reaches every whole number that the exact one reaches and stays
within every whole number that the exact one stays within. The sides of a box are bounded, but those
of the picture scaled to cover it are the sides of the box only one at a time: the other grows with
the shape of the source.
-/

namespace ImageWorker

namespace Ratio

variable {a b : Ratio} {x : ℚ}

def value (a : Ratio) : ℚ := a.num / a.den

/-- A ratio that stands for a positive number. -/
structure Positive (a : Ratio) : Prop where
  num : 0 < a.num
  den : 0 < a.den

theorem Positive.value_pos (positive : a.Positive) : 0 < a.value :=
  div_pos (Nat.cast_pos.mpr positive.num) (Nat.cast_pos.mpr positive.den)

/-- Nothing is nearer than half of the divisor allows. -/
theorem divideEven_near (n : Nat) {d : Nat} (positive : 0 < d) :
    2 * (divideEven n d * d) ≤ 2 * n + d ∧ 2 * n ≤ 2 * (divideEven n d * d) + d := by
  have cut : d * (n / d) + n % d = n := Nat.div_add_mod n d
  have small : n % d < d := Nat.mod_lt n positive
  have up : (n / d + 1) * d = d * (n / d) + d := by ring
  have stay : n / d * d = d * (n / d) := Nat.mul_comm _ _
  unfold divideEven
  dsimp only
  split
  next far =>
    have half : d ≤ 2 * (n % d) := by
      simp only [Bool.or_eq_true, Bool.and_eq_true, decide_eq_true_eq] at far
      omega
    rw [up]
    omega
  next near =>
    have half : 2 * (n % d) ≤ d := by
      simp only [Bool.or_eq_true, Bool.and_eq_true, decide_eq_true_eq] at near
      omega
    rw [stay]
    omega

/-- A quotient of many digits is cut to 53 of them. -/
theorem spare_digits {n d : Nat} (positive : 0 < d) (large : 2 ^ 53 * d ≤ n) :
    d * 2 ^ ((n / d).log2 - 52) * 2 ^ 52 ≤ n := by
  have quotient : 2 ^ 53 ≤ n / d := (Nat.le_div_iff_mul_le positive).mpr large
  have some : n / d ≠ 0 := by omega
  have digits : 53 ≤ (n / d).log2 := (Nat.le_log2 some).mpr quotient
  calc d * 2 ^ ((n / d).log2 - 52) * 2 ^ 52 = d * 2 ^ (n / d).log2 := by
        rw [Nat.mul_assoc, ← Nat.pow_add, Nat.sub_add_cancel (by omega)]
    _ ≤ d * (n / d) := Nat.mul_le_mul_left d (Nat.log2_self_le some)
    _ ≤ n := Nat.mul_div_le n d

/-- After the shift the quotient has enough digits. -/
theorem shifted_large (positive : a.Positive) :
    2 ^ 53 * (a.den * 2 ^ (a.num.log2 - (54 + a.den.log2))) ≤
      a.num * 2 ^ (54 + a.den.log2 - a.num.log2) := by
  have below : a.den ≤ 2 ^ (a.den.log2 + 1) := Nat.lt_log2_self.le
  have above : 2 ^ a.num.log2 ≤ a.num := Nat.log2_self_le positive.num.ne'
  have same : 53 + (a.den.log2 + 1 + (a.num.log2 - (54 + a.den.log2))) =
      a.num.log2 + (54 + a.den.log2 - a.num.log2) := by omega
  calc 2 ^ 53 * (a.den * 2 ^ (a.num.log2 - (54 + a.den.log2)))
      ≤ 2 ^ 53 * (2 ^ (a.den.log2 + 1) * 2 ^ (a.num.log2 - (54 + a.den.log2))) :=
        Nat.mul_le_mul_left _ (Nat.mul_le_mul_right _ below)
    _ = 2 ^ a.num.log2 * 2 ^ (54 + a.den.log2 - a.num.log2) := by
        rw [← Nat.pow_add, ← Nat.pow_add, ← Nat.pow_add, same]
    _ ≤ a.num * 2 ^ (54 + a.den.log2 - a.num.log2) := Nat.mul_le_mul_right _ above

/-- What is lost to 53 digits. -/
theorem rounded_near (positive : a.Positive) : |a.rounded.value - a.value| ≤ a.value / 2 ^ 53 := by
  have large := shifted_large positive
  unfold rounded
  dsimp only [value]
  generalize 54 + a.den.log2 - a.num.log2 = up at *
  generalize a.num.log2 - (54 + a.den.log2) = down at *
  have den_pos : 0 < a.den * 2 ^ down := Nat.mul_pos positive.den (Nat.two_pow_pos _)
  have digits := spare_digits den_pos large
  generalize (a.num * 2 ^ up / (a.den * 2 ^ down)).log2 - 52 = spare at *
  have unit_pos : 0 < a.den * 2 ^ down * 2 ^ spare := Nat.mul_pos den_pos (Nat.two_pow_pos _)
  obtain ⟨above, under⟩ := divideEven_near (a.num * 2 ^ up) unit_pos
  generalize divideEven (a.num * 2 ^ up) (a.den * 2 ^ down * 2 ^ spare) = m at *
  -- Both values are whole numbers of one part, and the rounded one is a whole number of units.
  have den_ne : (a.den : ℚ) ≠ 0 := Nat.cast_ne_zero.mpr positive.den.ne'
  have part : (0 : ℚ) < 1 / (a.den * 2 ^ up) := by
    have := Nat.cast_pos (α := ℚ) |>.mpr positive.den
    positivity
  have whole : (a.num : ℚ) / a.den = (a.num * 2 ^ up : ℕ) * (1 / (a.den * 2 ^ up)) := by
    push_cast
    field_simp
  have units : ((m * 2 ^ (spare + down) : ℕ) : ℚ) / (2 ^ up : ℕ) =
      (m * (a.den * 2 ^ down * 2 ^ spare) : ℕ) * (1 / (a.den * 2 ^ up)) := by
    push_cast
    field_simp
    ring
  have lost : |((m * (a.den * 2 ^ down * 2 ^ spare) : ℕ) : ℚ) - (a.num * 2 ^ up : ℕ)| ≤
      (a.num * 2 ^ up : ℕ) / 2 ^ 53 := by
    have above' := Nat.cast_le (α := ℚ) |>.mpr above
    have under' := Nat.cast_le (α := ℚ) |>.mpr under
    have digits' := Nat.cast_le (α := ℚ) |>.mpr digits
    rw [abs_le]
    push_cast at above' under' digits' ⊢
    constructor <;> linarith
  rw [whole, units, ← sub_mul, abs_mul, abs_of_pos part]
  calc _ ≤ ((a.num * 2 ^ up : ℕ) / 2 ^ 53 : ℚ) * (1 / (a.den * 2 ^ up)) :=
        mul_le_mul_of_nonneg_right lost part.le
    _ = _ := by ring

theorem rounded_positive (positive : a.Positive) : a.rounded.Positive := by
  refine ⟨Nat.pos_of_ne_zero fun zero => ?_, Nat.two_pow_pos _⟩
  have nothing : a.rounded.value = 0 := by rw [value, zero, Nat.cast_zero, zero_div]
  have near := rounded_near positive
  have some := positive.value_pos
  rw [nothing, zero_sub, abs_neg, abs_of_pos some] at near
  linarith

theorem le_iff (ha : a.Positive) (hb : b.Positive) : a.le b = true ↔ a.value ≤ b.value := by
  have ha' : (0 : ℚ) < a.den := Nat.cast_pos.mpr ha.den
  have hb' : (0 : ℚ) < b.den := Nat.cast_pos.mpr hb.den
  rw [le, decide_eq_true_eq, value, value, div_le_div_iff₀ ha' hb', ← Nat.cast_mul, ← Nat.cast_mul,
    Nat.cast_le]

theorem value_max (ha : a.Positive) (hb : b.Positive) :
    (a.max b).value = Max.max a.value b.value := by
  unfold Ratio.max
  split
  next small => exact (max_eq_right ((le_iff ha hb).mp small)).symm
  next large =>
    rw [le_iff ha hb, not_le] at large
    exact (max_eq_left large.le).symm

theorem max_positive (ha : a.Positive) (hb : b.Positive) : (a.max b).Positive := by
  unfold Ratio.max
  split
  · exact hb
  · exact ha

variable {w h n : Nat} {box : Box}

theorem ofNat_positive {d : Nat} (hn : 0 < n) (hd : 0 < d) : (ofNat n d).Positive :=
  rounded_positive ⟨hn, hd⟩

theorem ofNat_near {d : Nat} (hn : 0 < n) (hd : 0 < d) :
    |(ofNat n d).value - n / d| ≤ n / d / 2 ^ 53 := rounded_near (a := ⟨n, d⟩) ⟨hn, hd⟩

theorem scale_near (ha : a.Positive) (hn : 0 < n) :
    |(a.scale n).value - n * a.value| ≤ n * a.value / 2 ^ 53 := by
  have same : n * a.value = Ratio.value ⟨n * a.num, a.den⟩ := by
    rw [value, value, Nat.cast_mul, mul_div_assoc]
  rw [same]
  exact rounded_near ⟨Nat.mul_pos hn ha.num, ha.den⟩

/-- A picture and a box that have some pixels. -/
structure Drawn (box : Box) (w h : Nat) : Prop where
  width : 0 < w
  height : 0 < h
  box_width : 0 < box.width
  box_height : 0 < box.height

/-- The ratio that a picture is scaled by. -/
def cover (box : Box) (w h : Nat) : Ratio := (ofNat box.width w).max (ofNat box.height h)

def exactCover (box : Box) (w h : Nat) : ℚ := Max.max (box.width / w) (box.height / h)

theorem cover_positive (drawn : Drawn box w h) : (cover box w h).Positive :=
  max_positive (ofNat_positive drawn.box_width drawn.width)
    (ofNat_positive drawn.box_height drawn.height)

theorem exactCover_nonneg (box : Box) (w h : Nat) : 0 ≤ exactCover box w h :=
  le_max_of_le_left (by positivity)

theorem cover_near (drawn : Drawn box w h) :
    |(cover box w h).value - exactCover box w h| ≤ exactCover box w h / 2 ^ 53 := by
  have first := ofNat_near drawn.box_width drawn.width
  have second := ofNat_near drawn.box_height drawn.height
  rw [cover, value_max (ofNat_positive drawn.box_width drawn.width)
    (ofNat_positive drawn.box_height drawn.height), exactCover]
  refine (abs_max_sub_max_le_max _ _ _ _).trans (max_le ?_ ?_)
  · exact first.trans (div_le_div_of_nonneg_right (le_max_left _ _) (by positivity))
  · exact second.trans (div_le_div_of_nonneg_right (le_max_right _ _) (by positivity))

/-- A scaled side before it is rounded to pixels, from the exact one. -/
theorem scale_cover_near (drawn : Drawn box w h) (hn : 0 < n) :
    |((cover box w h).scale n).value - n * exactCover box w h| ≤
      n * exactCover box w h / 2 ^ 51 := by
  have ratio := cover_near drawn
  have product := scale_near (cover_positive drawn) hn
  have positive : (0 : ℚ) < n := Nat.cast_pos.mpr hn
  have times : |n * (cover box w h).value - n * exactCover box w h| ≤
      n * exactCover box w h / 2 ^ 53 := by
    rw [← mul_sub, abs_mul, abs_of_pos positive, mul_div_assoc]
    exact mul_le_mul_of_nonneg_left ratio positive.le
  have some : 0 ≤ n * exactCover box w h := mul_nonneg positive.le (exactCover_nonneg box w h)
  rw [abs_le] at product times ⊢
  constructor <;> linarith

/-- So near that only the last pixel can differ. -/
def Near (a : Ratio) (x : ℚ) : Prop := 0 < a.den ∧ |a.value - x| ≤ 1 / 4

theorem round_bounds (positive : 0 < a.den) :
    (a.round : ℚ) ≤ a.value + 1 / 2 ∧ a.value + 1 / 2 < a.round + 1 := by
  have den_pos : 0 < 2 * a.den := by omega
  have den_pos' : (0 : ℚ) < 2 * a.den := by exact_mod_cast den_pos
  have exact : a.value + 1 / 2 = (2 * a.num + a.den) / (2 * a.den) := by
    rw [value]
    have : (a.den : ℚ) ≠ 0 := Nat.cast_ne_zero.mpr positive.ne'
    field_simp
  rw [exact, le_div_iff₀ den_pos', div_lt_iff₀ den_pos']
  have below : a.round * (2 * a.den) ≤ 2 * a.num + a.den := Nat.div_mul_le_self _ _
  have above : 2 * a.num + a.den < (a.round + 1) * (2 * a.den) :=
    (Nat.div_lt_iff_lt_mul den_pos).mp (Nat.lt_succ_self _)
  exact ⟨by exact_mod_cast below, by exact_mod_cast above⟩

/-- A side rounded to pixels, from the exact one. -/
theorem round_of_near {x : ℚ} (near : Near a x) :
    |(a.round : ℚ) - x| < 1 ∧ (∀ m : Nat, x ≤ m → a.round ≤ m) ∧
      ∀ m : Nat, m ≤ x → m ≤ a.round := by
  obtain ⟨positive, close⟩ := near
  obtain ⟨above, below⟩ := round_bounds positive
  rw [abs_le] at close
  refine ⟨abs_lt.mpr ⟨by linarith, by linarith⟩, fun m bound => ?_, fun m bound => ?_⟩
  · have lt : (a.round : ℚ) < m + 1 := by linarith
    exact Nat.lt_succ_iff.mp (by exact_mod_cast lt)
  · have lt : (m : ℚ) < a.round + 1 := by linarith
    exact Nat.lt_succ_iff.mp (by exact_mod_cast lt)

end Ratio

namespace Box

variable {box : Box} {w h n limit : Nat}

open Ratio

/-- Over the height of a picture this is the width that the picture is scaled to, and over its width
the height. -/
def stretch (box : Box) (w h : Nat) : Nat := max (box.width * h) (box.height * w)

/-- Sides that a picture and a box can have. -/
structure Usable (box : Box) (w h : Nat) : Prop extends Drawn box w h where
  width_le : w ≤ maxSide
  height_le : h ≤ maxSide
  box_width_le : box.width ≤ maxOutputDimension
  box_height_le : box.height ≤ maxOutputDimension

theorem exactCover_mul (drawn : Drawn box w h) :
    exactCover box w h * (w * h) = box.stretch w h := by
  have hw : (w : ℚ) ≠ 0 := Nat.cast_ne_zero.mpr drawn.width.ne'
  have hh : (h : ℚ) ≠ 0 := Nat.cast_ne_zero.mpr drawn.height.ne'
  have first : (box.width : ℚ) / w * (w * h) = (box.width * h : ℕ) := by
    push_cast
    field_simp
  have second : (box.height : ℚ) / h * (w * h) = (box.height * w : ℕ) := by
    push_cast
    field_simp
  rw [exactCover, max_mul_of_nonneg _ _ (by positivity), first, second, stretch, Nat.cast_max]

theorem width_exact (drawn : Drawn box w h) : w * exactCover box w h = box.stretch w h / h := by
  rw [eq_div_iff (Nat.cast_ne_zero.mpr drawn.height.ne'), ← exactCover_mul drawn]
  ring

theorem height_exact (drawn : Drawn box w h) : h * exactCover box w h = box.stretch w h / w := by
  rw [eq_div_iff (Nat.cast_ne_zero.mpr drawn.width.ne'), ← exactCover_mul drawn]
  ring

theorem exactCover_le (usable : Usable box w h) : exactCover box w h ≤ maxOutputDimension := by
  have one_le {m : Nat} (positive : 0 < m) : (1 : ℚ) ≤ m := Nat.one_le_cast.mpr positive
  have whole {m d : Nat} (positive : 0 < d) (bound : m ≤ maxOutputDimension) :
      (m : ℚ) / d ≤ maxOutputDimension :=
    (div_le_self (Nat.cast_nonneg m) (one_le positive)).trans (Nat.cast_le.mpr bound)
  exact max_le (whole usable.width usable.box_width_le) (whole usable.height usable.box_height_le)

theorem side_near (usable : Usable box w h) (some : 0 < n) (bound : n ≤ maxSide) :
    Near ((cover box w h).scale n) (n * exactCover box w h) := by
  have positive : (0 : ℚ) < n := Nat.cast_pos.mpr some
  have size : n * exactCover box w h ≤ (maxSide : ℚ) * maxOutputDimension :=
    mul_le_mul (Nat.cast_le.mpr bound) (exactCover_le usable) (exactCover_nonneg box w h)
      (Nat.cast_nonneg _)
  have numbers : (maxSide : ℚ) * maxOutputDimension / 2 ^ 51 ≤ 1 / 4 := by
    norm_num [maxSide, maxOutputDimension]
  refine ⟨Nat.two_pow_pos _, (scale_cover_near usable.toDrawn some).trans ?_⟩
  exact (div_le_div_of_nonneg_right size (by positivity)).trans numbers

/-- A scaled side in pixels, however large. -/
def scaledSide (box : Box) (w h n : Nat) : Nat := ((cover box w h).scale n).round

/-- What the scaled sides are like: a picture of `stretch / h` by `stretch / w` pixels, but for the
last pixel. -/
structure Scaled (box : Box) (w h : Nat) (size : Box) : Prop where
  width_near : |(size.width : ℚ) - box.stretch w h / h| < 1
  height_near : |(size.height : ℚ) - box.stretch w h / w| < 1
  width_le : ∀ m, box.stretch w h ≤ m * h → size.width ≤ m
  height_le : ∀ m, box.stretch w h ≤ m * w → size.height ≤ m
  le_width : ∀ m, m * h ≤ box.stretch w h → m ≤ size.width
  le_height : ∀ m, m * w ≤ box.stretch w h → m ≤ size.height

theorem scaled_sides (usable : Usable box w h) :
    Scaled box w h ⟨scaledSide box w h w, scaledSide box w h h⟩ := by
  have hw : (0 : ℚ) < w := Nat.cast_pos.mpr usable.width
  have hh : (0 : ℚ) < h := Nat.cast_pos.mpr usable.height
  obtain ⟨wide, wide_le, le_wide⟩ :=
    round_of_near (width_exact usable.toDrawn ▸ side_near usable usable.width usable.width_le)
  obtain ⟨high, high_le, le_high⟩ :=
    round_of_near (height_exact usable.toDrawn ▸ side_near usable usable.height usable.height_le)
  refine ⟨wide, high, fun m bound => wide_le m ?_, fun m bound => high_le m ?_,
    fun m bound => le_wide m ?_, fun m bound => le_high m ?_⟩
  · rw [div_le_iff₀ hh]
    exact_mod_cast bound
  · rw [div_le_iff₀ hw]
    exact_mod_cast bound
  · rw [le_div_iff₀ hh]
    exact_mod_cast bound
  · rw [le_div_iff₀ hw]
    exact_mod_cast bound

/-- A picture that is scaled covers the box. -/
theorem Scaled.covers {size : Box} (scaled : Scaled box w h size) :
    box.width ≤ size.width ∧ box.height ≤ size.height :=
  ⟨scaled.le_width _ (le_max_left _ _), scaled.le_height _ (le_max_right _ _)⟩

/-- Sides within the largest one are not cut. -/
theorem covering_of_le (usable : Usable box w h) (wide : scaledSide box w h w ≤ maxSide)
    (high : scaledSide box w h h ≤ maxSide) :
    box.covering w h = ⟨scaledSide box w h w, scaledSide box w h h⟩ := by
  obtain ⟨covers_width, covers_height⟩ := (scaled_sides usable).covers
  have width_pos : 1 ≤ scaledSide box w h w := Nat.le_trans usable.box_width covers_width
  have height_pos : 1 ≤ scaledSide box w h h := Nat.le_trans usable.box_height covers_height
  have width_eq : max ((cover box w h).scale w).round 1 = scaledSide box w h w :=
    max_eq_left width_pos
  have height_eq : max ((cover box w h).scale h).round 1 = scaledSide box w h h :=
    max_eq_left height_pos
  rw [covering, ← cover, scaled]
  simp only [width_eq, height_eq, if_neg (Nat.not_lt.mpr wide), if_neg (Nat.not_lt.mpr high)]

/-- Otherwise one side is cut to the largest one. -/
theorem covering_of_lt (large : maxSide < scaledSide box w h w ∨ maxSide < scaledSide box w h h) :
    (box.covering w h).width = maxSide ∨ (box.covering w h).height = maxSide := by
  rw [covering, ← cover, scaled]
  split
  next => exact Or.inl rfl
  next wide =>
    split
    next => exact Or.inr rfl
    next high =>
      have width_le : scaledSide box w h w ≤ maxSide :=
        (le_max_left _ 1).trans (Nat.not_lt.mp wide)
      have height_le : scaledSide box w h h ≤ maxSide :=
        (le_max_left _ 1).trans (Nat.not_lt.mp high)
      rcases large with large | large <;> omega

theorem covering_within (usable : Usable box w h) (bound : limit ≤ maxSide)
    (wide : box.stretch w h ≤ limit * h) (high : box.stretch w h ≤ limit * w) :
    Scaled box w h (box.covering w h) ∧ (box.covering w h).width ≤ limit ∧
      (box.covering w h).height ≤ limit := by
  have scaled := scaled_sides usable
  have width_le : scaledSide box w h w ≤ limit := scaled.width_le limit wide
  have height_le : scaledSide box w h h ≤ limit := scaled.height_le limit high
  rw [covering_of_le usable (width_le.trans bound) (height_le.trans bound)]
  exact ⟨scaled, width_le, height_le⟩

theorem covering_beyond (usable : Usable box w h) (bound : limit < maxSide)
    (large : (limit + 1) * h ≤ box.stretch w h ∨ (limit + 1) * w ≤ box.stretch w h) :
    limit < (box.covering w h).width ∨ limit < (box.covering w h).height := by
  have scaled := scaled_sides usable
  by_cases fits : scaledSide box w h w ≤ maxSide ∧ scaledSide box w h h ≤ maxSide
  · rw [covering_of_le usable fits.1 fits.2]
    exact large.imp (scaled.le_width _) (scaled.le_height _)
  · rw [not_and_or, Nat.not_le, Nat.not_le] at fits
    rcases covering_of_lt fits with cut | cut
    · exact Or.inl (cut ▸ bound)
    · exact Or.inr (cut ▸ bound)

/-- What is cut out of a covering picture is the whole box. -/
theorem corner_leaves {size : Box} (width : box.width ≤ size.width)
    (height : box.height ≤ size.height) :
    box.width ≤ size.width - (box.corner size).1 ∧
      box.height ≤ size.height - (box.corner size).2 := by
  unfold corner
  split <;> constructor <;> dsimp only <;> omega

end Box

namespace Picture

variable {p : Picture} {box : Box}

/-- A stretched picture is the old one, or goes through one with the old columns and the new
rows. -/
theorem stretched_cases (p : Picture) (w h : Nat) :
    p.stretched w h = p ∧ p.width = w ∧ p.height = h ∨
      ∃ (channels : Nat) (rows : Raster (List Float32)) (settle : List Float32 → Pixel),
        rows.width = p.width ∧ rows.height = h ∧
          (p.stretched w h).raster = (Resample.horizontally channels rows w).map settle := by
  unfold stretched
  split
  next same =>
    rw [Bool.and_eq_true, decide_eq_true_eq, decide_eq_true_eq] at same
    exact Or.inl ⟨rfl, same⟩
  next => exact Or.inr ⟨_, _, _, rfl, rfl, rfl⟩

theorem sides_stretched (p : Picture) (w h : Nat) :
    (p.stretched w h).width = w ∧ (p.stretched w h).height = h := by
  rcases stretched_cases p w h with ⟨same, sides⟩ | ⟨channels, rows, settle, _, high, made⟩
  · rwa [same]
  · rw [width, height, made]
    exact ⟨rfl, high⟩

theorem sides_covering (p : Picture) (box : Box) :
    (p.covering box).width = (box.covering p.width p.height).width ∧
      (p.covering box).height = (box.covering p.width p.height).height :=
  sides_stretched p _ _

theorem sides_filling (covers : box.width ≤ (p.covering box).width ∧
    box.height ≤ (p.covering box).height) :
    (p.filling box).width = box.width ∧ (p.filling box).height = box.height := by
  let size : Box := ⟨(p.covering box).width, (p.covering box).height⟩
  obtain ⟨wide, high⟩ : box.width ≤ size.width - (box.corner size).1 ∧
      box.height ≤ size.height - (box.corner size).2 := Box.corner_leaves covers.1 covers.2
  exact ⟨min_eq_left wide, min_eq_left high⟩

/-- The sides of all that filling a box makes: the rows are scaled first, then the columns, and then
the box is cut out. -/
def fillingSides (p : Picture) (box : Box) : List Nat :=
  [p.width, (p.covering box).height, (p.covering box).width, (p.covering box).height,
    (p.filling box).width, (p.filling box).height]

theorem usable_of_accepted {parameters : String} (width : 0 < p.width ∧ p.width ≤ Box.maxSide)
    (height : 0 < p.height ∧ p.height ≤ Box.maxSide)
    (accepted : Transformation.parse "RESIZE" parameters = .ok (.resize box)) :
    Box.Usable box p.width p.height := by
  have kind : TransformationKind.parse "RESIZE" = .ok .resize := rfl
  simp only [Transformation.parse, kind] at accepted
  cases read : Transformation.readBox .resize parameters with
  | error why =>
    rw [read] at accepted
    cases accepted
  | ok box' =>
    rw [read] at accepted
    cases accepted
    obtain ⟨_, wide, high⟩ := Transformation.readBox_eq_ok_iff.mp read
    exact ⟨⟨width.1, height.1, wide.1, high.1⟩, width.2, height.2, wide.2, high.2⟩

/-- The rasters of a resizing stay within the limit and the sides of the source if the sides that
the source is scaled to do, and then the result is the box. If one of those is a pixel or more
above, the scaled picture is too. -/
theorem resize_sides (p : Picture) (parameters : String) (box : Box)
    (width : 0 < p.width ∧ p.width ≤ Box.maxSide) (height : 0 < p.height ∧ p.height ≤ Box.maxSide)
    (accepted : Transformation.parse "RESIZE" parameters = .ok (.resize box)) :
    let limit := max maxOutputDimension (max p.width p.height)
    let stretch := box.stretch p.width p.height
    (stretch ≤ limit * p.height → stretch ≤ limit * p.width →
      Box.Scaled box p.width p.height ⟨(p.covering box).width, (p.covering box).height⟩ ∧
      (∀ side ∈ p.fillingSides box, side ≤ limit) ∧
      (p.filling box).width = box.width ∧ (p.filling box).height = box.height) ∧
    (limit < Box.maxSide →
      (limit + 1) * p.height ≤ stretch ∨ (limit + 1) * p.width ≤ stretch →
      ∃ side ∈ p.fillingSides box, limit < side) := by
  intro limit stretch
  have usable := usable_of_accepted width height accepted
  obtain ⟨covering_width, covering_height⟩ := sides_covering p box
  have bound : limit ≤ Box.maxSide := max_le (by decide) (max_le width.2 height.2)
  constructor
  · intro wide high
    obtain ⟨scaled, width_le, height_le⟩ := Box.covering_within usable bound wide high
    have covers := scaled.covers
    rw [← covering_width] at width_le covers
    rw [← covering_height] at height_le covers
    obtain ⟨result_width, result_height⟩ := sides_filling covers
    have source : p.width ≤ limit := (le_max_left _ _).trans (le_max_right _ _)
    refine ⟨?_, ?_, result_width, result_height⟩
    · rwa [covering_width, covering_height]
    · simp only [fillingSides, List.forall_mem_cons, List.not_mem_nil, false_imp_iff, implies_true,
        and_true, result_width, result_height]
      exact ⟨source, height_le, width_le, height_le, covers.1.trans width_le,
        covers.2.trans height_le⟩
  · intro below large
    rcases Box.covering_beyond usable below large with beyond | beyond
    · exact ⟨_, by simp [fillingSides], covering_width ▸ beyond⟩
    · exact ⟨_, by simp [fillingSides], covering_height ▸ beyond⟩

def blank (w h : Nat) : Picture := ⟨⟨.gray, .eight⟩, .ofFn w h fun _ _ _ _ => [0]⟩

theorem resize_sides_of_square :
    Transformation.parse "RESIZE" "\x7b\"width\":3,\"height\":2\x7d" = .ok (.resize ⟨3, 2⟩) ∧
      ∀ side ∈ (blank 4 4).fillingSides ⟨3, 2⟩, side ≤ 10000 := by
  have accepted :
      Transformation.parse "RESIZE" "\x7b\"width\":3,\"height\":2\x7d" = .ok (.resize ⟨3, 2⟩) := by
    rfl
  exact ⟨accepted, ((resize_sides (blank 4 4) _ ⟨3, 2⟩ (by decide) (by decide) accepted).1
    (by decide) (by decide)).2.1⟩

/-- A strip of one column is scaled to twice its height to fill a box of two pixels. -/
theorem resize_of_strip :
    Transformation.parse "RESIZE" "\x7b\"width\":2,\"height\":1\x7d" = .ok (.resize ⟨2, 1⟩) ∧
      ((blank 1 5001).covering ⟨2, 1⟩).height = 10002 ∧
      max maxOutputDimension (max (blank 1 5001).width (blank 1 5001).height) = 10000 := by
  refine ⟨?_, ?_, ?_⟩
  · rfl
  · rw [(sides_covering _ _).2]
    decide +kernel
  · decide +kernel

end Picture

end ImageWorker
