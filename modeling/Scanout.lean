import Scanout.Act
import Scanout.Backend
import Scanout.Bytes
import Scanout.Canvas
import Scanout.Canvas.Paint
import Scanout.Canvas.Pattern
import Scanout.Canvas.Script
import Scanout.Canvas.Stroke
import Scanout.Color
import Scanout.Device
import Scanout.Device.Settings
import Scanout.Error
import Scanout.Event
import Scanout.Fingerprint
import Scanout.FourCC
import Scanout.Framebuffer
import Scanout.Framebuffer.Create
import Scanout.Framebuffer.Draw
import Scanout.Handle
import Scanout.Layout
import Scanout.Layout.Arithmetic
import Scanout.Layout.Plane
import Scanout.Monitor
import Scanout.Nv12.Decode
import Scanout.Nv12.Encode
import Scanout.Nv12.Pixel
import Scanout.Nv12.Placement
import Scanout.PixelFormat
import Scanout.Proofs.Alarms
import Scanout.Proofs.Canvas.Clipping
import Scanout.Proofs.Canvas.Patches
import Scanout.Proofs.Canvas.Pixels
import Scanout.Proofs.Effect
import Scanout.Proofs.Framebuffer.AllOrNothing
import Scanout.Proofs.Framebuffer.Apart
import Scanout.Proofs.Framebuffer.Black
import Scanout.Proofs.Framebuffer.Converting
import Scanout.Proofs.Framebuffer.Creating
import Scanout.Proofs.Framebuffer.Drawing
import Scanout.Proofs.Framebuffer.Keeping
import Scanout.Proofs.Framebuffer.Painting
import Scanout.Proofs.Framebuffer.Stretched
import Scanout.Proofs.Framebuffer.Transparency
import Scanout.Proofs.Framebuffer.Usable
import Scanout.Proofs.Host
import Scanout.Proofs.Layout.Compare
import Scanout.Proofs.Layout.Exact
import Scanout.Proofs.Layout.Growth
import Scanout.Proofs.Layout.Linear
import Scanout.Proofs.Layout.Planes
import Scanout.Proofs.Layout.Whole
import Scanout.Proofs.Nv12.Decoding
import Scanout.Proofs.Nv12.Encoding
import Scanout.Proofs.Nv12.InPlace
import Scanout.Proofs.Nv12.Room
import Scanout.Proofs.Outcome
import Scanout.Proofs.Record
import Scanout.Proofs.Replay
import Scanout.Proofs.Samples.Both
import Scanout.Proofs.Samples.Nv12
import Scanout.Proofs.Samples.Painting
import Scanout.Proofs.Samples.Planes
import Scanout.Proofs.Samples.Repainting
import Scanout.Proofs.Session.Balance
import Scanout.Proofs.Session.Bare
import Scanout.Proofs.Session.Books
import Scanout.Proofs.Session.Exclusion
import Scanout.Proofs.Session.Guarded
import Scanout.Proofs.Session.Hosts
import Scanout.Proofs.Session.Ledger
import Scanout.Proofs.Session.Views
import Scanout.Proofs.Stereo
import Scanout.Proofs.Store.Books
import Scanout.Proofs.Store.Copies
import Scanout.Proofs.Store.Requests
import Scanout.Proofs.Store.Rows
import Scanout.Proofs.Store.Seen
import Scanout.Proofs.Store.Zeroing
import Scanout.Proofs.Trace
import Scanout.Proofs.View.Copying
import Scanout.Proofs.View.Damage
import Scanout.Proofs.View.Editing
import Scanout.Proofs.View.Filling
import Scanout.Proofs.View.Held
import Scanout.Proofs.View.Opening
import Scanout.Proofs.View.Orderly
import Scanout.Proofs.View.Releasing
import Scanout.Proofs.View.Unhindered
import Scanout.Proofs.View.Untouched
import Scanout.Session
import Scanout.Session.Command
import Scanout.Session.Step
import Scanout.Stereo
import Scanout.Store
import Scanout.Store.Blit
import Scanout.Store.Describe
import Scanout.Surface
import Scanout.Sweep
import Scanout.Text.Blank
import Scanout.Text.Extending
import Scanout.Text.Ignorable
import Scanout.Text.Numeral
import Scanout.Text.Quoted
import Scanout.Text.Unprintable
import Scanout.Tile
import Scanout.Tiling
import Scanout.View
import Scanout.View.Acquire
import Scanout.View.Release
import Scanout.View.Route
