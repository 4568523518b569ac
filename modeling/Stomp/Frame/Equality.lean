import Stomp.Frame.Basic
import Stomp.Json.Equality

/-!
# Equality of frames

Two plain frames are compared by command, headers and body. Where a map frame takes part, the
structures are compared in place of the bodies, and a plain frame counts as one with a null.
-/

namespace Stomp.Frame

def content (f : Frame) : Json := f.map?.getD .null

def same (f g : Frame) : Bool :=
  f.command == g.command && f.headers.same g.headers &&
    if f.isMap || g.isMap then f.content.same g.content else f.body == g.body

end Stomp.Frame
