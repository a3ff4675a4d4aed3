import RobotsExclusion.Text.Utf8

/-!
# The content of a robots.txt file

Content comes as text or as bytes. Bytes are read as UTF-8, damaged or not. One byte-order mark in
front is no part of the text in either case.
-/

namespace RobotsExclusion

inductive Content where
  | text (t : Text)
  | bytes (bs : Bytes)

namespace Content

def byteOrderMark : Char := '\uFEFF'

def withoutMark : Text → Text
  | [] => []
  | c :: cs => if c = byteOrderMark then cs else c :: cs

def decoded : Content → Text
  | text t => withoutMark t
  | bytes bs => withoutMark (Utf8.decode bs)

end Content

end RobotsExclusion
