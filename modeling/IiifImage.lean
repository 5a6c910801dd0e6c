import IiifImage.Requests.Printing
import IiifImage.Server.Tiles
import IiifImage.Epeg.Downscaling
import IiifImage.Epeg.Destination
import IiifImage.Epeg.Pixels
import IiifImage.Backend.Conversion
import IiifImage.Backend.CropOrder
import IiifImage.Backend.JpegTranImage
import IiifImage.Backend.Scaling
import IiifImage.Business.Fallback
import IiifImage.Business.ParameterParser
import IiifImage.Business.Sizing
import IiifImage.Crops.Alike
import IiifImage.Crops.Relative
import IiifImage.Lazy.Capabilities
import IiifImage.Lazy.Failure
import IiifImage.Regions.Grammar
import IiifImage.Regions.ImageIo
import IiifImage.Regions.Relative
import IiifImage.Regions.Supported
import IiifImage.Requests.Backends
import IiifImage.Requests.Exceptions
import IiifImage.Requests.FastPath
import IiifImage.Requests.Parameters
import IiifImage.Sizes.Resolution
import IiifImage.Sizes.Rounded
import IiifImage.TurboJpeg.Epeg
import IiifImage.Coefficients.Action
import IiifImage.Coefficients.Refinement
