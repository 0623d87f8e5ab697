import TwinView.Errno
import TwinView.Settings.Document

/-!
Settings from a file. The content must be UTF-8 before it is looked at as a document.
-/

namespace TwinView.Settings

inductive FileContent where
  | bytes (content : ByteArray)
  | refused (errno : Int)

def load (path : String) : FileContent → Except SettingsFault Settings
  | .refused errno => .error (.unreadable path (Errno.message errno))
  | .bytes content =>
      match String.fromUTF8? content with
      | none => .error (.unreadable path "stream did not contain valid UTF-8")
      | some text => ofText text.toList

end TwinView.Settings
