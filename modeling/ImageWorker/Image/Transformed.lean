import ImageWorker.Message.Transformation
import ImageWorker.Text.Bytes

/-!
# Transformed images
-/

namespace ImageWorker

structure TransformedImage where
  bytes : Bytes
  format : TargetFormat
  width : Nat
  height : Nat
  deriving DecidableEq, Repr

end ImageWorker
