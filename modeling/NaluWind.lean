import NaluWind.MasterElement.Hex27AreaVector
import NaluWind.MasterElement.Hex27Simd
import NaluWind.MasterElement.Hex27Nanson
import NaluWind.MasterElement.Hex27Weights
import NaluWind.Lidar.FileSystem
import NaluWind.Lidar.NetCdf
import NaluWind.Lidar.Load
import NaluWind.Lidar.LineOfSiteInfo
import NaluWind.Lidar.TextOutput
import NaluWind.Lidar.NcOutput
import NaluWind.Lidar.Output
import NaluWind.Lidar.System
import NaluWind.Lidar.TextFormat
