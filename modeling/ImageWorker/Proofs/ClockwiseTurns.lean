import ImageWorker.Image.Transformer
import ImageWorker.Proofs.TransformationGrammar
import Mathlib.Algebra.Group.Fin.Basic
import Mathlib.Algebra.Group.TransferInstance
import Mathlib.Dynamics.PeriodicPts.Defs

/-!
# Turns as an action of the integers modulo four

Right angles are counted modulo four, and turns are added with their counts. Of a library it is only
assumed that it turns pictures clockwise, by the angles that its operations are named for: as the
plane is turned about the centre of a picture, what the picture covers and shows moves along. From
this follow the sides of the turned picture and the origin of each of its pixels, whatever the sides
were before, and that a turn after a turn is the turn by the sum of the two.

What is written into a file after the turn, and what the format of the file makes of it, is not
considered here.
-/

namespace ImageWorker

namespace Rotation

/-- The number of right angles. -/
def quarters : Rotation ≃ Fin 4 where
  toFun
    | deg0 => 0
    | deg90 => 1
    | deg180 => 2
    | deg270 => 3
  invFun
    | 0 => deg0
    | 1 => deg90
    | 2 => deg180
    | 3 => deg270
  left_inv a := by cases a <;> rfl
  right_inv := by decide

instance : AddCommGroup Rotation := quarters.addCommGroup

theorem quarters_add (a b : Rotation) : quarters (a + b) = quarters a + quarters b :=
  quarters.apply_symm_apply _

theorem degrees_eq (a : Rotation) : a.degrees = 90 * (quarters a).val := by cases a <;> rfl

/-- Turns are added like their angles. -/
theorem degrees_add (a b : Rotation) : (a + b).degrees = (a.degrees + b.degrees) % 360 := by
  rw [degrees_eq, degrees_eq a, degrees_eq b, quarters_add, Fin.val_add]
  omega

/-- A turn is undone by the rest of a whole turn. -/
theorem degrees_neg (a : Rotation) : (-a).degrees = (360 - a.degrees) % 360 := by
  have whole := degrees_add a (-a)
  rw [add_neg_cancel] at whole
  have none : (0 : Rotation).degrees = 0 := rfl
  have below (b : Rotation) : b.degrees < 360 := by cases b <;> decide
  have := below a
  have := below (-a)
  omega

end Rotation

namespace Raster

variable {α : Type} {m n : Nat} {r s t : Raster α}

/-- The centre of a pixel, in half pixels to the right of the centre of the raster and below it. -/
def place (r : Raster α) (x y : Nat) : Int × Int := (2 * x + 1 - r.width, 2 * y + 1 - r.height)

/-- Whether a place lies on the raster. -/
def Covers (r : Raster α) (p : Int × Int) : Prop := p.1.natAbs ≤ r.width ∧ p.2.natAbs ≤ r.height

/-- Whether a pixel has its centre in a place. -/
def Shows (r : Raster α) (p : Int × Int) (a : α) : Prop :=
  ∃ (x y : Nat) (hx : x < r.width) (hy : y < r.height), r.place x y = p ∧ r.get x y hx hy = a

/-- Where a place comes to lie when the plane is turned clockwise by a right angle. -/
def quarter : Int × Int → Int × Int := fun (right, down) => (-down, right)

/-- One raster is another one after clockwise turns by right angles about the centre. -/
structure Turned (n : Nat) (r s : Raster α) : Prop where
  covers (p : Int × Int) : s.Covers (quarter^[n] p) ↔ r.Covers p
  shows (p : Int × Int) (a : α) : s.Shows (quarter^[n] p) a ↔ r.Shows p a

theorem quarter_surjective : Function.Surjective quarter :=
  fun (a, b) => ⟨(b, -a), by simp [quarter]⟩

theorem quarter_periodic (p : Int × Int) : Function.IsPeriodicPt quarter 4 p := by
  simp [Function.IsPeriodicPt, Function.IsFixedPt, quarter]

theorem get_congr {x x' y y' : Nat} {hx : x < r.width} {hy : y < r.height} {hx' : x' < r.width}
    {hy' : y' < r.height} (column : x = x') (row : y = y') :
    r.get x y hx hy = r.get x' y' hx' hy' := by
  subst column row
  rfl

/-- A raster is made out by the places that it covers and by what it shows in them. -/
theorem eq_of_shows (covers : ∀ p, r.Covers p ↔ s.Covers p)
    (shows : ∀ p a, r.Shows p a → s.Shows p a) : r = s := by
  obtain ⟨width, height⟩ : r.width = s.width ∧ r.height = s.height := by
    have corner := covers (r.width, r.height)
    have corner' := covers (s.width, s.height)
    simp only [Covers, Int.natAbs_natCast] at corner corner'
    omega
  refine ext_get width height fun x y hx hy hx' hy' => ?_
  obtain ⟨column, row, _, _, same, shown⟩ := shows (r.place x y) _ ⟨x, y, hx, hy, rfl, rfl⟩
  simp only [place, Prod.mk.injEq] at same
  rw [← shown]
  exact get_congr (by omega) (by omega)

namespace Turned

theorem refl (r : Raster α) : Turned 0 r r := ⟨fun _ => Iff.rfl, fun _ _ => Iff.rfl⟩

theorem trans (first : Turned m r s) (second : Turned n s t) : Turned (n + m) r t where
  covers p := by rw [Function.iterate_add_apply, second.covers, first.covers]
  shows p a := by rw [Function.iterate_add_apply, second.shows, first.shows]

theorem unique (first : Turned n r s) (second : Turned n r t) : s = t := by
  refine eq_of_shows (fun q => ?_) fun q a shown => ?_ <;>
    obtain ⟨p, rfl⟩ := quarter_surjective.iterate n q
  · rw [first.covers, second.covers]
  · rwa [second.shows, ← first.shows]

/-- Whole turns change nothing. -/
theorem mod (turned : Turned n r s) : Turned (n % 4) r s where
  covers p := by rw [(quarter_periodic p).iterate_mod_apply, turned.covers]
  shows p a := by rw [(quarter_periodic p).iterate_mod_apply, turned.shows]

end Turned

theorem turned_quarterTurn (r : Raster α) : Turned 1 r r.quarterTurn where
  covers := fun (a, b) => by
    simp only [Function.iterate_one, quarter, Covers, Int.natAbs_neg]
    exact and_comm
  shows := fun (a, b) c => by
    simp only [Function.iterate_one, quarter]
    constructor
    · rintro ⟨x, y, hx, hy, lies, rfl⟩
      refine ⟨y, r.height - 1 - x, hy, Nat.sub_one_sub_lt_of_lt hx, ?_,
        (r.get_quarterTurn x y hx hy).symm⟩
      have hx : x < r.height := hx
      simp only [place, quarterTurn, width_ofFn, height_ofFn, Prod.mk.injEq] at lies ⊢
      omega
    · rintro ⟨x, y, hx, hy, lies, rfl⟩
      refine ⟨r.height - 1 - y, x, Nat.sub_one_sub_lt_of_lt hy, hx, ?_, ?_⟩
      · simp only [place, quarterTurn, width_ofFn, height_ofFn, Prod.mk.injEq] at lies ⊢
        omega
      · rw [get_quarterTurn]
        exact get_congr rfl (by omega)

theorem get?_quarterTurn {x y : Nat} (hx : x < r.height) (hy : y < r.width) :
    r.quarterTurn.get? x y = r.get? y (r.height - 1 - x) := by
  rw [get?_eq_some (r := r.quarterTurn) hx hy, get_quarterTurn, get?_eq_some]

theorem get?_quarterTurn_quarterTurn {x y : Nat} (hx : x < r.width) (hy : y < r.height) :
    r.quarterTurn.quarterTurn.get? x y = r.get? (r.width - 1 - x) (r.height - 1 - y) :=
  calc
    r.quarterTurn.quarterTurn.get? x y
      = r.quarterTurn.get? y (r.width - 1 - x) := get?_quarterTurn hx hy
    _ = r.get? (r.width - 1 - x) (r.height - 1 - y) :=
      get?_quarterTurn hy (Nat.sub_one_sub_lt_of_lt hx)

theorem get?_quarterTurn_quarterTurn_quarterTurn {x y : Nat} (hx : x < r.height)
    (hy : y < r.width) :
    r.quarterTurn.quarterTurn.quarterTurn.get? x y = r.get? (r.width - 1 - y) x :=
  calc
    r.quarterTurn.quarterTurn.quarterTurn.get? x y
      = r.quarterTurn.get? (r.height - 1 - x) (r.width - 1 - y) :=
      get?_quarterTurn_quarterTurn (r := r.quarterTurn) hx hy
    _ = r.get? (r.width - 1 - y) (r.height - 1 - (r.height - 1 - x)) :=
      get?_quarterTurn (Nat.sub_one_sub_lt_of_lt hx) (Nat.sub_one_sub_lt_of_lt hy)
    _ = r.get? (r.width - 1 - y) x := by rw [Nat.sub_sub_self (Nat.le_sub_one_of_lt hx)]

/-- What the turns make of a raster: its sides, and where each pixel comes from. -/
structure Clockwise (r : Raster α) (turn : Rotation → Raster α) : Prop where
  still : turn .deg0 = r
  quarter_sides : (turn .deg90).width = r.height ∧ (turn .deg90).height = r.width
  quarter (x y : Nat) (hx : x < r.height) (hy : y < r.width) : (turn .deg90).get? x y =
    some (r.get y (r.height - 1 - x) hy (Nat.sub_one_sub_lt_of_lt hx))
  half_sides : (turn .deg180).width = r.width ∧ (turn .deg180).height = r.height
  half (x y : Nat) (hx : x < r.width) (hy : y < r.height) : (turn .deg180).get? x y =
    some (r.get (r.width - 1 - x) (r.height - 1 - y) (Nat.sub_one_sub_lt_of_lt hx)
      (Nat.sub_one_sub_lt_of_lt hy))
  threeQuarters_sides : (turn .deg270).width = r.height ∧ (turn .deg270).height = r.width
  threeQuarters (x y : Nat) (hx : x < r.height) (hy : y < r.width) : (turn .deg270).get? x y =
    some (r.get (r.width - 1 - y) x (Nat.sub_one_sub_lt_of_lt hy) hx)

theorem clockwise {turn : Rotation → Raster α} (turned : ∀ a, Turned a.quarters.val r (turn a)) :
    r.Clockwise turn := by
  have quarter : turn .deg90 = r.quarterTurn := (turned .deg90).unique r.turned_quarterTurn
  have half : turn .deg180 = r.quarterTurn.quarterTurn :=
    (turned .deg180).unique (r.turned_quarterTurn.trans (turned_quarterTurn _))
  have threeQuarters : turn .deg270 = r.quarterTurn.quarterTurn.quarterTurn :=
    (turned .deg270).unique
      ((r.turned_quarterTurn.trans (turned_quarterTurn _)).trans (turned_quarterTurn _))
  refine ⟨(turned .deg0).unique (.refl r), ?_, fun x y hx hy => ?_, ?_, fun x y hx hy => ?_, ?_,
    fun x y hx hy => ?_⟩
  · rw [quarter]
    exact ⟨rfl, rfl⟩
  · rw [quarter, get?_quarterTurn hx hy, get?_eq_some]
  · rw [half]
    exact ⟨rfl, rfl⟩
  · rw [half, get?_quarterTurn_quarterTurn hx hy, get?_eq_some]
  · rw [threeQuarters]
    exact ⟨rfl, rfl⟩
  · rw [threeQuarters, get?_quarterTurn_quarterTurn_quarterTurn hx hy, get?_eq_some]

end Raster

namespace Picture

variable {m n : Nat} {p q q' : Picture}

/-- One picture is another one after clockwise turns by right angles; the color model is kept. -/
structure Turned (n : Nat) (p q : Picture) : Prop where
  color : q.color = p.color
  raster : Raster.Turned n p.raster q.raster

namespace Turned

theorem refl (p : Picture) : Turned 0 p p := ⟨rfl, .refl p.raster⟩

theorem trans (first : Turned m p q) (second : Turned n q q') : Turned (n + m) p q' :=
  ⟨second.color.trans first.color, first.raster.trans second.raster⟩

theorem mod (turned : Turned n p q) : Turned (n % 4) p q := ⟨turned.color, turned.raster.mod⟩

theorem unique (first : Turned n p q) (second : Turned n p q') : q = q' := by
  obtain ⟨color, raster⟩ := q
  obtain ⟨color', raster'⟩ := q'
  obtain rfl : color = color' := first.color.trans second.color.symm
  obtain rfl : raster = raster' := first.raster.unique second.raster
  rfl

end Turned

theorem turned_quarterTurn (p : Picture) : Turned 1 p p.quarterTurn :=
  ⟨rfl, p.raster.turned_quarterTurn⟩

end Picture

namespace ImageLibrary

/-- What is relied on: a library turns pictures clockwise, by the angles that it names. -/
structure TurnsClockwise (lib : ImageLibrary) : Prop where
  rotate90 (p : Picture) : Picture.Turned 1 p (lib.rotate90 p)
  rotate180 (p : Picture) : Picture.Turned 2 p (lib.rotate180 p)
  rotate270 (p : Picture) : Picture.Turned 3 p (lib.rotate270 p)

theorem pictures_turnsClockwise : pictures.TurnsClockwise where
  rotate90 := Picture.turned_quarterTurn
  rotate180 p := p.turned_quarterTurn.trans (Picture.turned_quarterTurn _)
  rotate270 p :=
    (p.turned_quarterTurn.trans (Picture.turned_quarterTurn _)).trans (Picture.turned_quarterTurn _)

namespace TurnsClockwise

variable {lib : ImageLibrary} (turns : lib.TurnsClockwise) (p : Picture)

include turns

theorem turned_rotate (a : Rotation) : Picture.Turned a.quarters.val p (lib.rotate p a) := by
  cases a with
  | deg0 => exact .refl p
  | deg90 => exact turns.rotate90 p
  | deg180 => exact turns.rotate180 p
  | deg270 => exact turns.rotate270 p

theorem rotate_rotate (a b : Rotation) :
    lib.rotate (lib.rotate p a) b = lib.rotate p (a + b) := by
  have both := ((turns.turned_rotate p a).trans (turns.turned_rotate _ b)).mod
  refine both.unique ?_
  rw [Nat.add_comm, ← Fin.val_add, ← Rotation.quarters_add]
  exact turns.turned_rotate p (a + b)

theorem rotate_rotate_neg (a : Rotation) : lib.rotate (lib.rotate p a) (-a) = p := by
  rw [turns.rotate_rotate, add_neg_cancel]
  rfl

end TurnsClockwise

end ImageLibrary

namespace Transformation

variable {text : String} {members : Members} {t : Transformation}

/-- The angle that is read is the angle of the turn. -/
theorem parse_rotate_eq_ok_iff : parse "ROTATE" text = .ok t ↔
    ∃ angle : Rotation, t = .rotate angle ∧
      readParameters .rotate angleParameters text = .ok (↑angle.degrees, ()) := by
  have named : "ROTATE" = TransformationKind.rotate.name := rfl
  simp only [named, parse_rotate, bind_eq_ok_iff, map_eq_ok_iff, Rotation.ofDegrees_eq_ok_iff]
  constructor
  · rintro ⟨_, read, angle, rfl, rfl⟩
    exact ⟨angle, rfl, read⟩
  · rintro ⟨angle, rfl, read⟩
    exact ⟨_, read, angle, rfl, rfl⟩

theorem Parameters.parse_rotate_eq_ok_iff (given : Parameters text members) :
    parse "ROTATE" text = .ok t ↔ ∃ angle : Rotation, t = .rotate angle ∧
      members.lookup "degree" = some (.integer angle.degrees) := by
  simp only [Transformation.parse_rotate_eq_ok_iff, given.angle_eq_ok_iff, holdsInteger_degrees]

end Transformation

namespace ImageLibrary

open Transformation (Parameters readParameters angleParameters)

/-- With a library that turns pictures clockwise, turns act on pictures by the sum of their angles
modulo a whole turn. A job that asks for a turn gets the one by the angle that its parameters hold,
and this is what is written. -/
theorem turns_clockwise (lib : ImageLibrary) (turns : lib.TurnsClockwise) :
    (∀ p : Picture, p.raster.Clockwise (fun a => (lib.rotate p a).raster) ∧
      ∀ a, (lib.rotate p a).color = p.color) ∧
    (∀ p : Picture, lib.rotate p .deg0 = p) ∧
    (∀ (p : Picture) (a b : Rotation), lib.rotate (lib.rotate p a) b = lib.rotate p (a + b)) ∧
    (∀ (p : Picture) (a : Rotation), lib.rotate (lib.rotate p a) (-a) = p) ∧
    (∀ a b : Rotation, (a + b).degrees = (a.degrees + b.degrees) % 360 ∧
      (-a).degrees = (360 - a.degrees) % 360) ∧
    (∀ text t, Transformation.parse "ROTATE" text = .ok t ↔ ∃ angle : Rotation,
      t = .rotate angle ∧
        readParameters .rotate angleParameters text = .ok (↑angle.degrees, ())) ∧
    (∀ text members, Parameters text members → ∀ t,
      Transformation.parse "ROTATE" text = .ok t ↔ ∃ angle : Rotation, t = .rotate angle ∧
        members.lookup "degree" = some (.integer angle.degrees)) ∧
    ∀ (job : Job) t, job.transformationType = "ROTATE" → job.transformation = .ok t →
      ∃ angle : Rotation, t = .rotate angle ∧
        readParameters .rotate angleParameters (job.transformationParameters.getD "") =
          .ok (↑angle.degrees, ()) ∧
        ∀ content source picture, lib.recognise content = .ok source →
          lib.decode source content = .ok picture →
          lib.transform content t = lib.encoded (lib.rotate picture angle) source := by
  refine ⟨fun p => ⟨Raster.clockwise fun a => (turns.turned_rotate p a).raster,
      fun a => (turns.turned_rotate p a).color⟩, fun _ => rfl, turns.rotate_rotate,
    turns.rotate_rotate_neg, fun a b => ⟨a.degrees_add b, a.degrees_neg⟩,
    fun _ _ => Transformation.parse_rotate_eq_ok_iff,
    fun _ _ given _ => given.parse_rotate_eq_ok_iff, fun job t kind resolved => ?_⟩
  rw [Job.transformation, kind] at resolved
  obtain ⟨angle, rfl, asked⟩ := Transformation.parse_rotate_eq_ok_iff.mp resolved
  exact ⟨angle, rfl, asked, fun _ _ _ recognised decoded => transform_eq recognised decoded⟩

open Transformation (degreeText degreeText_given)

def pair : Picture :=
  ⟨⟨.rgb, .eight⟩, .ofFn 1 2 fun _ y _ _ => if y = 0 then [1, 2, 3] else [4, 5, 6]⟩

def pairFile : Bytes := (Bmp.encode pair).toOption.getD []

theorem turns_clockwise_of_pair :
    (pictures.rotate pair .deg90).raster.get? 0 0 = some [4, 5, 6] ∧
      Transformation.parse "ROTATE" (degreeText "270") = .ok (.rotate .deg270) ∧
      (turnJob "raw/a.png").transformation = .ok (.rotate .deg90) ∧
      ∃ picture, pictures.decode .bmp pairFile = .ok picture ∧
        picture.raster.pixels = #[[1, 2, 3], [4, 5, 6]] ∧
        pictures.transform pairFile (.rotate .deg90) =
          pictures.encoded (pictures.rotate picture .deg90) .bmp := by
  obtain ⟨turned, -, -, -, -, -, asked, done⟩ := turns_clockwise pictures pictures_turnsClockwise
  have given : Parameters (degreeText "270") [("degree", .number "270".toList)] :=
    degreeText_given ⟨by simp, by simp⟩ (by decide)
  have resolved : (turnJob "raw/a.png").transformation = .ok (.rotate .deg90) := rfl
  have recognised : pictures.recognise pairFile = .ok .bmp :=
    eq_ok_of_toOption_eq_some (by decide +kernel)
  have pixels : (pictures.decode .bmp pairFile).toOption.map (·.raster.pixels) =
      some #[[1, 2, 3], [4, 5, 6]] := by decide +kernel
  obtain ⟨picture, decoded, pixels⟩ := Option.map_eq_some_iff.mp pixels
  have decoded : pictures.decode .bmp pairFile = .ok picture := eq_ok_of_toOption_eq_some decoded
  obtain ⟨_, ⟨⟩, _, made⟩ := done (turnJob "raw/a.png") _ rfl resolved
  exact ⟨(turned pair).1.quarter 0 0 (by decide) (by decide),
    (asked _ _ given _).mpr ⟨.deg270, rfl, rfl⟩, resolved, picture, decoded, pixels,
    made _ _ _ recognised decoded⟩

end ImageLibrary

end ImageWorker
