import IiifImage.Model.Enums
import IiifImage.Model.Region
import IiifImage.Model.Resize

/-!
# The image interface

The operations that both backends implement and that the image service calls.
An operation returns its own object in the source, so it has no result here.
-/

namespace IiifImage

open Java

/-- The interface `Image`, implemented by objects with fields `σ`. -/
structure ImageMethods (σ : Type) where
  getFormat : Method Throwable σ (Option ImageFormat)
  getHeight : Method Throwable σ ℤ
  getWidth : Method Throwable σ ℤ
  crop : RegionParameters → Method Throwable σ Unit
  scale : ResizeParameters → Method Throwable σ Unit
  rotate : ℤ → Method Throwable σ Unit
  flipHorizontally : Method Throwable σ Unit
  toDepth : ImageBitDepth → Method Throwable σ Unit
  convert : ImageFormat → Method Throwable σ Unit
  performTransformation : Method Throwable σ Unit

namespace ImageMethods

variable {σ : Type}

/-- A method of an image that is accompanied by a log. -/
def beside {α : Type} (method : Method Throwable σ α) :
    Method Throwable (σ × List ResizeParameters) α :=
  method.on Prod.fst (fun image logged => (image, logged.2))

/-- The same image, with every call of `scale` written to a log before it is
carried out. -/
def recordScale (image : ImageMethods σ) :
    ImageMethods (σ × List ResizeParameters) where
  getFormat := beside image.getFormat
  getHeight := beside image.getHeight
  getWidth := beside image.getWidth
  crop region := beside (image.crop region)
  scale target := do
    modify fun logged => (logged.1, logged.2 ++ [target])
    beside (image.scale target)
  rotate degrees := beside (image.rotate degrees)
  flipHorizontally := beside image.flipHorizontally
  toDepth depth := beside (image.toDepth depth)
  convert format := beside (image.convert format)
  performTransformation := beside image.performTransformation

theorem beside_simulates {α : Type} (method : Method Throwable σ α) :
    Method.Simulates Prod.fst (beside method) method := by
  intro logged
  rw [beside, Method.run_on]
  cases ran : EStateM.run method logged.1 <;> rfl

end ImageMethods

end IiifImage
