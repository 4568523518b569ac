import Stomp.Frame.Basic

/-!
# Frames in messages

A short form for logs, which leaves out what is empty and cuts the body, and a full form.
-/

namespace Stomp.Frame

def shownBytes : Nat := 20

private def shortBody (f : Frame) : Bytes :=
  if shownBytes < f.body.length then f.body.take shownBytes ++ Bytes.ofString "..." else f.body

def info (f : Frame) : String :=
  let headers := if f.headers.entries = [] then [] else ["headers=" ++ f.headers.shown]
  let body := if f.body = [] then [] else ["body=" ++ Quoted.bytes f.shortBody]
  let parts := headers ++ body
  f.command ++ " frame" ++ if parts = [] then "" else " [" ++ ", ".intercalate parts ++ "]"

def kindName (f : Frame) : String := if f.isMap then "StompMap" else "StompFrame"

def shown (f : Frame) : String :=
  f.kindName ++ "(command=" ++ Quoted.text f.command ++ ", headers=" ++ f.headers.shown ++
    ", body=" ++ Quoted.bytes f.body ++ ")"

end Stomp.Frame
