import Stomp.Frame.Basic

/-!
# Events of a connection

What the observers of a connection are told about.
-/

namespace Stomp

inductive Event where
  /-- A run of line ends was received. -/
  | emptyLine
  /-- A read brought no data. -/
  | emptyRead
  /-- There was data, but not enough for a frame. -/
  | emptyBuffer
  | received (frame : Frame)
  | sent (frame : Frame)

end Stomp
