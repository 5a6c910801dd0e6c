import IiifImage.Java.Text

/-!
# Enumerations of the image model

The output formats with the file extensions that name them, and the bit depths.
-/

namespace IiifImage

open Java

inductive ImageFormat where
  | gif
  | jp2
  | jpeg
  | pdf
  | png
  | tif
  | webp
  deriving DecidableEq, Repr

namespace ImageFormat

def values : List ImageFormat := [gif, jp2, jpeg, pdf, png, tif, webp]

def getExtensions : ImageFormat → List JString
  | gif => [['g', 'i', 'f']]
  | jp2 => [['j', 'p', '2'], ['j', 'p', 'e', 'g', '2', '0', '0', '0']]
  | jpeg => [['j', 'p', 'g'], ['j', 'p', 'e', 'g']]
  | pdf => [['p', 'd', 'f']]
  | png => [['p', 'n', 'g']]
  | tif => [['t', 'i', 'f'], ['t', 'i', 'f', 'f']]
  | webp => [['w', 'e', 'b', 'p']]

def name : ImageFormat → JString
  | gif => ['G', 'I', 'F']
  | jp2 => ['J', 'P', '2']
  | jpeg => ['J', 'P', 'E', 'G']
  | pdf => ['P', 'D', 'F']
  | png => ['P', 'N', 'G']
  | tif => ['T', 'I', 'F']
  | webp => ['W', 'E', 'B', 'P']

/-- `getByExtension`: the first format that has the extension in any letter
case. -/
def getByExtension (extension : JString) : Option ImageFormat :=
  values.find? fun format =>
    format.getExtensions.any fun known => Text.equalsIgnoreCase known extension

end ImageFormat

inductive ImageBitDepth where
  | color
  | grayscale
  | bitonal
  deriving DecidableEq, Repr

end IiifImage
