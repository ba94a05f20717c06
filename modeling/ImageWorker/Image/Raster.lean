/-!
# Rasters

A raster is a rectangle of pixels, kept row by row from the top. It is made from a function of the
column and the row, and reading gives that function back, so every operation on rasters is said by
which pixel goes where.
-/

namespace ImageWorker

structure Raster (α : Type) where
  width : Nat
  height : Nat
  /-- The rows one after the other. -/
  pixels : Array α
  size_eq : pixels.size = width * height

namespace Raster

variable {α β : Type}

theorem index_lt {x y w h : Nat} (hx : x < w) (hy : y < h) : y * w + x < w * h :=
  calc
    y * w + x < y * w + w := by omega
    _ = (y + 1) * w := by rw [Nat.succ_mul]
    _ ≤ h * w := Nat.mul_le_mul_right w hy
    _ = w * h := Nat.mul_comm h w

theorem column_lt {i w h : Nat} (hi : i < w * h) : i % w < w := by
  cases w with
  | zero => simp at hi
  | succ w => exact Nat.mod_lt i (Nat.succ_pos w)

theorem row_lt {i w h : Nat} (hi : i < w * h) : i / w < h := Nat.div_lt_of_lt_mul hi

/-- The pixel in a column and a row. -/
def get (r : Raster α) (x y : Nat) (hx : x < r.width) (hy : y < r.height) : α :=
  have : y * r.width + x < r.pixels.size := by rw [r.size_eq]; exact index_lt hx hy
  r.pixels[y * r.width + x]

/-- The pixel in a column and a row, if there is one. -/
def get? (r : Raster α) (x y : Nat) : Option α :=
  if h : x < r.width ∧ y < r.height then some (r.get x y h.1 h.2) else none

theorem get?_eq_some {r : Raster α} {x y : Nat} (hx : x < r.width) (hy : y < r.height) :
    r.get? x y = some (r.get x y hx hy) :=
  dif_pos ⟨hx, hy⟩

def ofFn (w h : Nat) (f : (x y : Nat) → x < w → y < h → α) : Raster α where
  width := w
  height := h
  pixels := Array.ofFn fun i : Fin (w * h) =>
    f (i.val % w) (i.val / w) (column_lt i.isLt) (row_lt i.isLt)
  size_eq := Array.size_ofFn

@[simp] theorem width_ofFn (w h : Nat) (f : (x y : Nat) → x < w → y < h → α) :
    (ofFn w h f).width = w := rfl

@[simp] theorem height_ofFn (w h : Nat) (f : (x y : Nat) → x < w → y < h → α) :
    (ofFn w h f).height = h := rfl

@[simp] theorem get_ofFn (w h : Nat) (f : (x y : Nat) → x < w → y < h → α) (x y : Nat)
    (hx : x < w) (hy : y < h) : (ofFn w h f).get x y hx hy = f x y hx hy := by
  have hm : (y * w + x) % w = x := by rw [Nat.mul_comm, Nat.mul_add_mod, Nat.mod_eq_of_lt hx]
  have hd : (y * w + x) / w = y := by
    rw [Nat.mul_comm, Nat.mul_add_div (by omega), Nat.div_eq_of_lt hx, Nat.add_zero]
  simp [get, ofFn, hm, hd]

/-- Two rasters of one size with the same pixels are equal. -/
theorem ext_get {r s : Raster α} (hw : r.width = s.width) (hh : r.height = s.height)
    (hp : ∀ x y (hx : x < r.width) (hy : y < r.height) (hx' : x < s.width) (hy' : y < s.height),
      r.get x y hx hy = s.get x y hx' hy') : r = s := by
  obtain ⟨w, h, p, hs⟩ := r
  obtain ⟨w', h', p', hs'⟩ := s
  dsimp only at hw hh
  subst w' h'
  have : p = p' := by
    apply Array.ext (hs.trans hs'.symm)
    intro i hi hi'
    have hi₂ : i < w * h := by rw [← hs]; exact hi
    have key := hp (i % w) (i / w) (column_lt hi₂) (row_lt hi₂) (column_lt hi₂) (row_lt hi₂)
    have hidx : i / w * w + i % w = i := by rw [Nat.mul_comm]; exact Nat.div_add_mod i w
    simpa [get, hidx] using key
  subst this
  rfl

def map (f : α → β) (r : Raster α) : Raster β where
  width := r.width
  height := r.height
  pixels := r.pixels.map f
  size_eq := by rw [Array.size_map, r.size_eq]

/-- The part whose top left corner is at a column and a row, cut off at the edges. -/
def crop (r : Raster α) (left top w h : Nat) : Raster α :=
  ofFn (min w (r.width - left)) (min h (r.height - top)) fun x y hx hy =>
    r.get (left + x) (top + y) (by omega) (by omega)

/-- The raster turned clockwise by a right angle. -/
def quarterTurn (r : Raster α) : Raster α :=
  ofFn r.height r.width fun x y hx hy => r.get y (r.height - 1 - x) hy (Nat.sub_one_sub_lt_of_lt hx)

theorem get_quarterTurn (r : Raster α) (x y : Nat) (hx : x < r.height) (hy : y < r.width) :
    r.quarterTurn.get x y hx hy =
      r.get y (r.height - 1 - x) hy (Nat.sub_one_sub_lt_of_lt hx) :=
  get_ofFn _ _ _ x y hx hy

end Raster

end ImageWorker
