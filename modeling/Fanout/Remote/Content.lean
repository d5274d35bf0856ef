import Fanout.Bytes.Base64
import Fanout.Bytes.Utf8
import Fanout.Remote.Error
import Fanout.Text.Blank

/-!
# Contents of files

`decodeContent` is the text of a file that a service sends in base64, with blanks anywhere in it.
-/

namespace Fanout

def unspaced (s : String) : List Char := s.toList.filter fun c => !Text.isBlank c

/-- The text of a content whose encoding is named, or left out. -/
def decodeContent (content encoding : String) : Except RemoteError String :=
  if encoding != "" && encoding != "base64" then
    .error (.undecodable ("unsupported encoding " ++ encoding))
  else match Base64.decode (Utf8.encode (unspaced content)) with
    | .error f => .error (.undecodable f.message)
    | .ok bytes =>
      match Utf8.decode bytes with
      | .error f => .error (.undecodable f.message)
      | .ok cs => .ok (String.ofList cs)

end Fanout
