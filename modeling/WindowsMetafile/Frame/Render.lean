import WindowsMetafile.Frame.Raster
import WindowsMetafile.Frame.Size

/-!
# Rendering metafiles

## Main definitions

* `Metafile.render` — the frame of a metafile with the report of its replay
-/

namespace WindowsMetafile

/-- The raster that a frame starts with. -/
def Settings.background (settings : Settings) (size : FrameSize) : Raster :=
  .filled size.width size.height ((settings.clear.map Pixel.premultiply).getD .transparent)

/-- The frame of a metafile and the report of its replay. -/
def Metafile.render (metafile : Metafile) (settings : Settings) (decoder : BitmapDecoder) :
    Except Fault (Frame × Report) := do
  let size ← metafile.frameSize settings
  let (outcome, session) := (settings.player size.scale decoder).playIn .fresh metafile.records
  let report ← outcome
  let raster := session.canvas.calls.foldl Raster.drawn (settings.background size)
  return (raster.toFrame size.width size.height, report)

end WindowsMetafile
