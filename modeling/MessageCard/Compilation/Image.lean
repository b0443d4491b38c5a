import MessageCard.Number.Double

/-!
How images are found and sized.
-/

namespace MessageCard

namespace ImageSize

/-- The least width that an image may be given. -/
def minWidth : Double :=
  Double.ofNat 278

/-- The greatest width that an image may be given. -/
def maxWidth : Double :=
  Double.ofNat 580

/-- The width moved into the bounds. -/
def clampWidth (width : Double) : Double :=
  width.clamp minWidth maxWidth

/-- The side length of an image in a note. -/
def embedded : Nat :=
  16

end ImageSize

/-- The address under which images are served. -/
def imageEndpoint : String :=
  "https://open.feishu.cn/open-apis/block-kit/image/"

/-- The address of the image with a key. -/
def imageLocator (key : String) : String :=
  imageEndpoint ++ key

end MessageCard
