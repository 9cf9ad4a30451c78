import WinInspect.Core.Types
import WinInspect.Data.Loop
import Mathlib.Tactic.Ring

/-!
# The screen

`pixel_search` scans a region of the screen row by row and returns the first pixel
near a colour.  `capture_screen` copies a region into a bitmap of the display's
depth, takes the size of its buffer from the rows of that bitmap, and has the
pixels written to the buffer as rows of 24 bits a pixel.
-/

namespace WinInspect.Win32

/-! ## Pixels -/

/-- What `GetDC(NULL)` gives access to, if it succeeds: `GetPixel`, with nothing for
`CLR_INVALID`. -/
structure Screen where
  dc : Option (Int → Int → Option Color)

/-- `Win32Backend::get_pixel`. -/
def getPixel (screen : Screen) (x y : Int) : Option Color :=
  screen.dc.bind fun pixel => pixel x y

/-- `std::abs(c - target) <= variation` for every channel. -/
def Color.Near (target : Color) (variation : Int) (c : Color) : Prop :=
  |(c.r.toNat : Int) - target.r.toNat| ≤ variation ∧
    |(c.g.toNat : Int) - target.g.toNat| ≤ variation ∧
    |(c.b.toNat : Int) - target.b.toNat| ≤ variation

instance (target : Color) (variation : Int) (c : Color) :
    Decidable (Color.Near target variation c) :=
  inferInstanceAs (Decidable (_ ∧ _ ∧ _))

/-- `Win32Backend::pixel_search`. -/
def pixelSearch (screen : Screen) (region : Rect) (target : Color) (variation : Int) :
    Option (Int × Int) :=
  match screen.dc with
  | none => none
  | some pixel =>
      forRange (fun y =>
        forRange (fun x =>
          match pixel x y with
          | none => none
          | some c => if Color.Near target variation c then some (x, y) else none)
          region.left region.right)
        region.top region.bottom

section

variable (screen : Screen) (region : Rect) (target : Color) (variation : Int)

/-- The half-open region. -/
def Inside (x y : Int) : Prop :=
  region.left ≤ x ∧ x < region.right ∧ region.top ≤ y ∧ y < region.bottom

/-- A pixel that can be read and is near the colour. -/
def Matches (x y : Int) : Prop :=
  ∃ c, getPixel screen x y = some c ∧ Color.Near target variation c

/-- The order of the rows, and in a row from the left. -/
def Precedes (x' y' x y : Int) : Prop :=
  y' < y ∨ y' = y ∧ x' < x

end

section

variable {pixel : Int → Int → Option Color} {region : Rect} {target : Color} {variation : Int}

theorem matches_some_iff {x y : Int} :
    Matches ⟨some pixel⟩ target variation x y ↔
      ∃ c, pixel x y = some c ∧ Color.Near target variation c :=
  Iff.rfl

/-- What the loops do with a pixel. -/
def visit (pixel : Int → Int → Option Color) (target : Color) (variation : Int) (y x : Int) :
    Option (Int × Int) :=
  match pixel x y with
  | none => none
  | some c => if Color.Near target variation c then some (x, y) else none

theorem visit_eq_some_iff {x y : Int} {found : Int × Int} :
    visit pixel target variation y x = some found ↔
      Matches ⟨some pixel⟩ target variation x y ∧ found = (x, y) := by
  rw [matches_some_iff]
  unfold visit
  cases pixel x y with
  | none => simp
  | some c =>
      by_cases near : Color.Near target variation c
      · simp [near, eq_comm]
      · simp [near]

theorem visit_eq_none_iff {x y : Int} :
    visit pixel target variation y x = none ↔ ¬ Matches ⟨some pixel⟩ target variation x y := by
  rw [Option.eq_none_iff_forall_ne_some]
  constructor
  · intro none holds
    exact none _ (visit_eq_some_iff.mpr ⟨holds, rfl⟩)
  · intro fails found returned
    exact fails (visit_eq_some_iff.mp returned).1

/-- The search of a row. -/
theorem row_eq_none_iff {y : Int} :
    forRange (visit pixel target variation y) region.left region.right = none ↔
      ∀ x, region.left ≤ x → x < region.right →
        ¬ Matches ⟨some pixel⟩ target variation x y := by
  rw [forRange_eq_none_iff]
  simp only [visit_eq_none_iff]

theorem row_eq_some_iff {y : Int} {found : Int × Int} :
    forRange (visit pixel target variation y) region.left region.right = some found ↔
      ∃ x, region.left ≤ x ∧ x < region.right ∧ Matches ⟨some pixel⟩ target variation x y ∧
        found = (x, y) ∧ ∀ k, region.left ≤ k → k < x →
          ¬ Matches ⟨some pixel⟩ target variation k y := by
  rw [forRange_eq_some_iff]
  simp only [visit_eq_some_iff, visit_eq_none_iff, and_assoc]

end

/-- The search returns the first match of the region, and nothing if there is none. -/
theorem pixelSearch_first (screen : Screen) (region : Rect) (target : Color) (variation : Int) :
    (∀ x y, pixelSearch screen region target variation = some (x, y) ↔
        Inside region x y ∧ Matches screen target variation x y ∧
          ∀ x' y', Inside region x' y' → Matches screen target variation x' y' →
            ¬ Precedes x' y' x y) ∧
      (pixelSearch screen region target variation = none ↔
        ∀ x y, Inside region x y → ¬ Matches screen target variation x y) := by
  obtain ⟨_ | pixel⟩ := screen
  · have nothing : ∀ x y, ¬ Matches ⟨none⟩ target variation x y := by
      rintro x y ⟨c, ⟨⟩, -⟩
    refine ⟨fun x y => iff_of_false nofun ?_, iff_of_true rfl fun x y _ => nothing x y⟩
    rintro ⟨-, here, -⟩
    exact nothing x y here
  · have rows : pixelSearch ⟨some pixel⟩ region target variation =
        forRange (fun y => forRange (visit pixel target variation y) region.left region.right)
          region.top region.bottom := rfl
    rw [rows]
    constructor
    · intro x y
      rw [forRange_eq_some_iff]
      simp only [row_eq_some_iff, row_eq_none_iff]
      constructor
      · rintro ⟨_, low, high, ⟨_, left, right, here, ⟨⟩, firstInRow⟩, firstRow⟩
        refine ⟨⟨left, right, low, high⟩, here, ?_⟩
        rintro x' y' ⟨left', right', low', high'⟩ match' (above | ⟨rfl, before⟩)
        · exact firstRow y' low' above x' left' right' match'
        · exact firstInRow x' left' before match'
      · rintro ⟨⟨left, right, low, high⟩, here, first⟩
        refine ⟨y, low, high, ⟨x, left, right, here, rfl, ?_⟩, ?_⟩
        · intro x' left' before match'
          exact first x' y ⟨left', before.trans right, low, high⟩ match' (Or.inr ⟨rfl, before⟩)
        · intro y' low' above x' left' right' match'
          exact first x' y' ⟨left', right', low', above.trans high⟩ match' (Or.inl above)
    · rw [forRange_eq_none_iff]
      simp only [row_eq_none_iff]
      constructor
      · rintro none x y ⟨left, right, low, high⟩
        exact none y low high x left right
      · intro none y low high x left right
        exact none x y ⟨left, right, low, high⟩

/-! ## Captures -/

/-- The value of a 32-bit integer. -/
def int32 (n : Int) : Int :=
  Int.bmod n (2 ^ 32)

/-- The bits a pixel has on the display. -/
inductive Depth
  | bpp8 | bpp16 | bpp24 | bpp32

def Depth.bitsPixel : Depth → Int
  | bpp8 => 8
  | bpp16 => 16
  | bpp24 => 24
  | bpp32 => 32

/-- The fields of `BITMAP` that are read. -/
structure Bitmap where
  bmWidth : Int
  bmHeight : Int
  bmWidthBytes : Int

/-- The bytes of a row of a device bitmap, an even number. -/
def deviceRow (depth : Depth) (w : Int) : Int :=
  (w * depth.bitsPixel / 8 + 1) / 2 * 2

/-- What `GetObject` tells of the bitmap that `CreateCompatibleBitmap` makes. -/
def compatibleBitmap (depth : Depth) (w h : Int) : Bitmap where
  bmWidth := w
  bmHeight := h
  bmWidthBytes := int32 (deviceRow depth w)

/-- The bytes of a row of a bitmap file of 24 bits a pixel, a multiple of 4. -/
def dibRow (w : Int) : Int :=
  (3 * w + 3) / 4 * 4

/-- The capture with the header fields and the size of its buffer. -/
structure Capture where
  width : Int
  height : Int
  bfOffBits : Int
  bfSize : Int
  biWidth : Int
  biHeight : Int
  biBitCount : Int
  bufferSize : Int

/-- `Win32Backend::capture_screen`, up to the contents of the buffer. -/
def captureScreen (depth : Depth) (region : Rect) : Option Capture :=
  let w := int32 (region.right - region.left)
  let h := int32 (region.bottom - region.top)
  if w ≤ 0 ∨ h ≤ 0 then none
  else
    let bmp := compatibleBitmap depth w h
    let bfOffBits := 14 + 40
    -- the product is an `int`, the sum a `DWORD`
    let bfSize := (bfOffBits + int32 (bmp.bmWidthBytes * bmp.bmHeight)) % 2 ^ 32
    some
      { width := w, height := h, bfOffBits, bfSize, biWidth := bmp.bmWidth
        biHeight := bmp.bmHeight, biBitCount := 24, bufferSize := bfSize }

/-- What `GetDIBits` writes behind the headers. -/
def Capture.written (capture : Capture) : Int :=
  dibRow capture.biWidth * capture.height

/-- The buffer has room for the pixels. -/
def Capture.Fits (capture : Capture) : Prop :=
  capture.written ≤ capture.bufferSize - capture.bfOffBits

/-- The size in the header is that of the headers and the pixels. -/
def Capture.SizeExact (capture : Capture) : Prop :=
  capture.bfSize = capture.bfOffBits + capture.written

instance (capture : Capture) : Decidable capture.Fits :=
  inferInstanceAs (Decidable (_ ≤ _))

instance (capture : Capture) : Decidable capture.SizeExact :=
  inferInstanceAs (Decidable (_ = _))

/-- The rows of the two bitmaps have one length. -/
def RowsAgree (depth : Depth) (w : Int) : Prop :=
  match depth with
  | .bpp8 | .bpp16 => False
  | .bpp24 => w % 4 = 0 ∨ w % 4 = 1
  | .bpp32 => w ≤ 3

instance (depth : Depth) (w : Int) : Decidable (RowsAgree depth w) :=
  match depth with
  | .bpp8 | .bpp16 => inferInstanceAs (Decidable False)
  | .bpp24 => inferInstanceAs (Decidable (_ ∨ _))
  | .bpp32 => inferInstanceAs (Decidable (_ ≤ _))

theorem int32_modEq (n : Int) : int32 n ≡ n [ZMOD 2 ^ 32] :=
  Int.bmod_emod

theorem deviceRow_eq_iff (depth : Depth) (w : Int) (wide : 0 < w) :
    deviceRow depth w = dibRow w ↔ RowsAgree depth w := by
  cases depth with
  | bpp8 =>
      simp only [deviceRow, dibRow, RowsAgree, Depth.bitsPixel, iff_false]
      omega
  | bpp16 =>
      simp only [deviceRow, dibRow, RowsAgree, Depth.bitsPixel, iff_false]
      omega
  | bpp24 =>
      simp only [deviceRow, dibRow, RowsAgree, Depth.bitsPixel]
      -- the two paddings depend on the width modulo 4
      obtain ⟨q, rfl | rfl | rfl | rfl⟩ :
          ∃ q, w = 4 * q ∨ w = 4 * q + 1 ∨ w = 4 * q + 2 ∨ w = 4 * q + 3 := ⟨w / 4, by omega⟩
      all_goals omega
  | bpp32 =>
      simp only [deviceRow, dibRow, RowsAgree, Depth.bitsPixel]
      omega

/-- Device rows are longer than those of the file by at most a third. -/
theorem three_mul_deviceRow_le (depth : Depth) (w : Int) (wide : 0 < w) :
    3 * deviceRow depth w ≤ 4 * dibRow w := by
  cases depth <;> simp only [deviceRow, dibRow, Depth.bitsPixel] <;> omega

theorem deviceRow_nonneg (depth : Depth) (w : Int) (wide : 0 < w) : 0 ≤ deviceRow depth w := by
  cases depth <;> simp only [deviceRow, Depth.bitsPixel] <;> omega

/-- A size that wraps around is not that of the pixels. -/
theorem emod_eq_iff {a b : Int} (nonneg : 0 ≤ a) (third : 3 * a ≤ 4 * b) :
    (54 + a) % 2 ^ 32 = 54 + b ↔ a = b ∧ 54 + b < 2 ^ 32 := by
  constructor
  · intro exact
    have rest := Int.emod_lt_of_pos (54 + a) (by norm_num : (0 : Int) < 2 ^ 32)
    omega
  · rintro ⟨rfl, small⟩
    exact Int.emod_eq_of_lt (by omega) small

section

variable (depth : Depth) (region : Rect) {w h : Int}
  (width : int32 (region.right - region.left) = w)
  (height : int32 (region.bottom - region.top) = h) (wide : 0 < w) (high : 0 < h)
include width height wide high

/-- The sizes of a capture: that of the device's rows, and that of the rows in the file. -/
theorem captureScreen_sizes :
    ∃ capture, captureScreen depth region = some capture ∧
      capture.bufferSize = capture.bfSize ∧ capture.bfOffBits = 54 ∧
      capture.written = dibRow w * h ∧
      capture.bfSize = (54 + deviceRow depth w * h) % 2 ^ 32 := by
  unfold captureScreen
  dsimp only
  rw [width, height, if_neg (by omega)]
  refine ⟨_, rfl, rfl, rfl, rfl, ?_⟩
  apply Int.ModEq.add_left 54
  exact (int32_modEq _).trans ((int32_modEq _).mul_right h)

omit width height in
theorem sizes_bounds :
    0 ≤ deviceRow depth w * h ∧ 3 * (deviceRow depth w * h) ≤ 4 * (dibRow w * h) := by
  refine ⟨mul_nonneg (deviceRow_nonneg depth w wide) high.le, ?_⟩
  rw [← mul_assoc, ← mul_assoc]
  exact mul_le_mul_of_nonneg_right (three_mul_deviceRow_le depth w wide) high.le

/-- The buffer fits the pixels and the header has their size when the rows of the two bitmaps
agree and the size is below `2 ^ 32`. -/
theorem captureScreen_fits_iff :
    ∃ capture, captureScreen depth region = some capture ∧
      (capture.Fits ∧ capture.SizeExact ↔
        RowsAgree depth w ∧ 54 + dibRow w * h < 2 ^ 32) := by
  obtain ⟨capture, captured, buffer, offset, written, size⟩ :=
    captureScreen_sizes depth region width height wide high
  obtain ⟨nonneg, third⟩ := sizes_bounds depth wide high
  refine ⟨capture, captured, ?_⟩
  have fits : capture.SizeExact → capture.Fits := by
    unfold Capture.SizeExact Capture.Fits
    omega
  rw [and_iff_right_of_imp fits, Capture.SizeExact, offset, written, size,
    emod_eq_iff nonneg third, mul_left_inj' high.ne', deviceRow_eq_iff depth w wide]

end

/-- Two pixels of a display of 24 bits a pixel. -/
theorem not_fits_two_pixels :
    ∃ capture, captureScreen .bpp24 ⟨0, 0, 2, 1⟩ = some capture ∧
      ¬ capture.Fits ∧ ¬ capture.SizeExact :=
  ⟨_, rfl, by decide, by decide⟩

theorem captureScreen_fits_four_pixels :
    ∃ capture, captureScreen .bpp24 ⟨0, 0, 4, 1⟩ = some capture ∧
      capture.Fits ∧ capture.SizeExact := by
  obtain ⟨capture, captured, fits⟩ := captureScreen_fits_iff .bpp24 ⟨0, 0, 4, 1⟩
    (by decide : int32 (4 - 0) = 4) (by decide : int32 (1 - 0) = 1) (by decide) (by decide)
  exact ⟨capture, captured, fits.mpr ⟨by decide, by decide⟩⟩

end WinInspect.Win32
