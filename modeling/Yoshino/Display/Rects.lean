import Mathlib.Data.Nat.Log
import Mathlib.Data.Rat.Floor

/-!
# Rectangles of the display core

Rectangles are computed with in single precision. The operations on floats are a class without laws:
what is proved about the resource manager holds whatever the rounding, and a rectangle can be computed
with rational coordinates where every operation is exact.
-/

namespace Yoshino.Display

/-- The operations on `float` that the resource manager and the composer use. -/
class FloatArith (F : Type) extends Add F, Sub F, Mul F, Div F, LT F, LE F, BEq F where
  decLt : DecidableLT F
  decLe : DecidableLE F
  /-- `FLOAT` of an unsigned number. -/
  ofUInt32 : UInt32 → F
  /-- `FLOAT` of a signed number. -/
  ofInt32 : Int32 → F
  /-- The literal `0.5f`. -/
  half : F
  /-- `UINT32`. -/
  toUInt32 : F → UInt32
  /-- `UINT8`. -/
  toUInt8 : F → UInt8
  /-- `INT`. -/
  toInt32 : F → Int32
  roundf : F → F
  ceilf : F → F
  floorf : F → F
  log2f : F → F

open FloatArith

instance instDecidableLTFloat {F : Type} [FloatArith F] : DecidableLT F := decLt

instance instDecidableLEFloat {F : Type} [FloatArith F] : DecidableLE F := decLe

/-- The machine's single precision. -/
instance : FloatArith Float32 where
  decLt := inferInstance
  decLe := inferInstance
  ofUInt32 := UInt32.toFloat32
  ofInt32 := Int32.toFloat32
  half := 0.5
  toUInt32 := Float32.toUInt32
  toUInt8 := Float32.toUInt8
  toInt32 := Float32.toInt32
  roundf := Float32.round
  ceilf := Float32.ceil
  floorf := Float32.floor
  log2f := Float32.log2

/-- Exact arithmetic. A conversion saturates, a half is rounded away from zero, and the logarithm is
rounded up to a whole number, which is all that `ceilf` leaves of it. -/
instance : FloatArith Rat where
  decLt := inferInstance
  decLe := inferInstance
  ofUInt32 n := n.toNat
  ofInt32 n := n.toInt
  half := 1 / 2
  toUInt32 x := UInt32.ofNat (min x.floor.toNat (UInt32.size - 1))
  toUInt8 x := UInt8.ofNat (min x.floor.toNat (UInt8.size - 1))
  toInt32 x := Int32.ofInt (max (-2 ^ 31) (min (x.num.tdiv x.den) (2 ^ 31 - 1)))
  roundf x := if 0 ≤ x then (x + 1 / 2).floor else (x - 1 / 2).ceil
  ceilf x := x.ceil
  floorf x := x.floor
  log2f x := Nat.clog 2 x.ceil.toNat

variable {F : Type} [FloatArith F]

/-- `FloorToMultipleOf`, for a factor that is a power of two. -/
def floorToMultipleOf (value factor : UInt32) : UInt32 := value &&& ~~~(factor - 1)

/-- `CeilToMultipleOf`. -/
def ceilToMultipleOf (value factor : UInt32) : UInt32 := (value + (factor - 1)) &&& ~~~(factor - 1)

/-- `ROUND_UP_ALIGN_DOWN`. -/
def roundUpAlignDown (value : F) (a : UInt32) : F :=
  ofUInt32 (floorToMultipleOf (toUInt32 (value + half)) a)

/-- `ROUND_UP_ALIGN_UP`. -/
def roundUpAlignUp (value : F) (a : UInt32) : F :=
  ofUInt32 (ceilToMultipleOf (toUInt32 (value + half)) a)

/-- `LayerRect`. -/
structure LayerRect (F : Type) where
  left : F
  top : F
  right : F
  bottom : F

namespace LayerRect

/-- A rectangle as it is constructed. -/
def zero : LayerRect F := ⟨ofUInt32 0, ofUInt32 0, ofUInt32 0, ofUInt32 0⟩

def width (r : LayerRect F) : F := r.right - r.left

def height (r : LayerRect F) : F := r.bottom - r.top

/-- `operator==`. -/
instance : BEq (LayerRect F) where
  beq r r' := r.left == r'.left && r.right == r'.right && r.top == r'.top && r.bottom == r'.bottom

/-- `IsValid`. -/
def isValid (r : LayerRect F) : Bool := r.top < r.bottom && r.left < r.right

/-- `Normalize`. -/
def normalize (alignX alignY : UInt32) (r : LayerRect F) : LayerRect F where
  left := roundUpAlignUp r.left alignX
  right := roundUpAlignDown r.right alignX
  top := roundUpAlignUp r.top alignY
  bottom := roundUpAlignDown r.bottom alignY

end LayerRect

/-- `CalculateCropRects`: whether anything is left of the two rectangles, and what is. -/
def calculateCropRects (scissor crop dst : LayerRect F) : Bool × LayerRect F × LayerRect F :=
  let cutLeft := decide (dst.left < scissor.left)
  let cutRight := decide (scissor.right < dst.right)
  let cutTop := decide (dst.top < scissor.top)
  let cutBottom := decide (scissor.bottom < dst.bottom)
  let leftCutRatio := if cutLeft then (scissor.left - dst.left) / dst.width else ofUInt32 0
  let rightCutRatio := if cutRight then (dst.right - scissor.right) / dst.width else ofUInt32 0
  let topCutRatio := if cutTop then (scissor.top - dst.top) / dst.height else ofUInt32 0
  let bottomCutRatio := if cutBottom then (dst.bottom - scissor.bottom) / dst.height else ofUInt32 0
  if !(cutLeft || cutRight || cutTop || cutBottom) then (true, crop, dst)
  else
    let crop' : LayerRect F := LayerRect.normalize 1 1
      { left := crop.left + crop.width * leftCutRatio
        top := crop.top + crop.height * topCutRatio
        right := crop.right - crop.width * rightCutRatio
        bottom := crop.bottom - crop.height * bottomCutRatio }
    let dst' : LayerRect F := LayerRect.normalize 1 1
      { left := if cutLeft then scissor.left else dst.left
        top := if cutTop then scissor.top else dst.top
        right := if cutRight then scissor.right else dst.right
        bottom := if cutBottom then scissor.bottom else dst.bottom }
    (crop'.isValid && dst'.isValid, crop', dst')

/-- The four rectangles of two pipes. -/
structure SplitRects (F : Type) where
  srcLeft : LayerRect F
  dstLeft : LayerRect F
  srcRight : LayerRect F
  dstRight : LayerRect F

/-- `SplitRect`: the rectangles are split horizontally and evenly into two. -/
def splitRect (srcRect dstRect : LayerRect F) : SplitRects F :=
  let srcWidth := roundUpAlignDown (srcRect.width / ofUInt32 2) 1
  let dstWidth := roundUpAlignDown (dstRect.width * srcWidth / srcRect.width) 1
  { srcLeft := { srcRect with right := srcRect.left + srcWidth }
    srcRight := { srcRect with left := srcRect.left + srcWidth }
    dstLeft := { dstRect with right := dstRect.left + dstWidth }
    dstRight := { dstRect with left := dstRect.left + dstWidth } }

end Yoshino.Display
