import WindowsMetafile.Bitmap.DeviceBitmap
import WindowsMetafile.Bitmap.Dib.Channel
import WindowsMetafile.Bitmap.Dib.Decode
import WindowsMetafile.Bitmap.Dib.File
import WindowsMetafile.Bitmap.Dib.RunLength
import WindowsMetafile.Bitmap.Fault
import WindowsMetafile.Bitmap.Pixmap
import WindowsMetafile.Bytes
import WindowsMetafile.Color
import WindowsMetafile.Command.Action
import WindowsMetafile.Command.Decode
import WindowsMetafile.Command.Encode
import WindowsMetafile.Command.Json
import WindowsMetafile.Command.Placement
import WindowsMetafile.CommandLine.Arguments
import WindowsMetafile.CommandLine.Folder
import WindowsMetafile.CommandLine.Host
import WindowsMetafile.CommandLine.PathText
import WindowsMetafile.CommandLine.Run
import WindowsMetafile.Fault
import WindowsMetafile.Frame.Basic
import WindowsMetafile.Frame.Outline
import WindowsMetafile.Frame.Png
import WindowsMetafile.Frame.Raster
import WindowsMetafile.Frame.Render
import WindowsMetafile.Frame.Size
import WindowsMetafile.Geometry.Affine
import WindowsMetafile.Geometry.Basic
import WindowsMetafile.Geometry.Curve
import WindowsMetafile.Geometry.Path
import WindowsMetafile.Geometry.Scale
import WindowsMetafile.Graphics.Brush
import WindowsMetafile.Graphics.Font
import WindowsMetafile.Graphics.Object
import WindowsMetafile.Graphics.ObjectKind
import WindowsMetafile.Graphics.Pen
import WindowsMetafile.Main
import WindowsMetafile.Metafile.Basic
import WindowsMetafile.Metafile.Header
import WindowsMetafile.Metafile.Stream
import WindowsMetafile.Playback.Canvas
import WindowsMetafile.Playback.Context
import WindowsMetafile.Playback.Device
import WindowsMetafile.Playback.Json
import WindowsMetafile.Playback.Player
import WindowsMetafile.Playback.Recording
import WindowsMetafile.Playback.Replay
import WindowsMetafile.Proofs.Accounting
import WindowsMetafile.Proofs.Batches
import WindowsMetafile.Proofs.BitmapDecoding
import WindowsMetafile.Proofs.BitmapFile
import WindowsMetafile.Proofs.Boxes
import WindowsMetafile.Proofs.ClipAlgebra
import WindowsMetafile.Proofs.CountedLength
import WindowsMetafile.Proofs.CountedLists
import WindowsMetafile.Proofs.Course
import WindowsMetafile.Proofs.DeviceImage
import WindowsMetafile.Proofs.DevicePixels
import WindowsMetafile.Proofs.Effect
import WindowsMetafile.Proofs.FirstFailure
import WindowsMetafile.Proofs.FullRun
import WindowsMetafile.Proofs.Grammar
import WindowsMetafile.Proofs.InForce
import WindowsMetafile.Proofs.InPlace
import WindowsMetafile.Proofs.MappingExtents
import WindowsMetafile.Proofs.ObjectCount
import WindowsMetafile.Proofs.ObjectTable
import WindowsMetafile.Proofs.Operation
import WindowsMetafile.Proofs.PaletteEdits
import WindowsMetafile.Proofs.Picture
import WindowsMetafile.Proofs.Polygons
import WindowsMetafile.Proofs.Positions
import WindowsMetafile.Proofs.Reading
import WindowsMetafile.Proofs.Reencoding
import WindowsMetafile.Proofs.RegionFrame
import WindowsMetafile.Proofs.Rereading
import WindowsMetafile.Proofs.Rescaling
import WindowsMetafile.Proofs.Run
import WindowsMetafile.Proofs.SelectedPalette
import WindowsMetafile.Proofs.SessionScale
import WindowsMetafile.Proofs.Stack
import WindowsMetafile.Proofs.StoredRectangles
import WindowsMetafile.Proofs.StraightChannels
import WindowsMetafile.Proofs.Stream
import WindowsMetafile.Proofs.StreamReader
import WindowsMetafile.Proofs.TextNormalForm
import WindowsMetafile.Proofs.TextWithOptions
import WindowsMetafile.Proofs.View
import WindowsMetafile.Proofs.WellFormed
import WindowsMetafile.Proofs.WrittenText
import WindowsMetafile.Record.Access
import WindowsMetafile.Record.Basic
import WindowsMetafile.Record.Cursor
import WindowsMetafile.Record.Field
import WindowsMetafile.Record.Type
import WindowsMetafile.Settings.Basic
import WindowsMetafile.Settings.Read
import WindowsMetafile.Text.Decimal
import WindowsMetafile.Text.Hex
import WindowsMetafile.Text.Json
import WindowsMetafile.Text.JsonReader
import WindowsMetafile.Text.Latin1
import WindowsMetafile.Text.Quoted
import WindowsMetafile.Text.Visible
