import BrowserFlow.Json.Reader
import BrowserFlow.Text.Detect

/-!
# Values as bytes

Requests and replies carry values as bytes, which may be in any of the encodings
that a text of the format can be in.
-/

namespace BrowserFlow.Json

inductive BytesRefusal where
  /-- The bytes are no text. -/
  | undecodable (fault : Text.Encoding.Fault)
  | refused (refusal : Refusal)
deriving DecidableEq, Repr

def readBytes (limits : Limits) (bytes : List UInt8) : Except BytesRefusal Json := do
  let cs ← (Text.Encoding.decodeDetected bytes).mapError .undecodable
  (readDecoded limits cs).mapError .refused

end BrowserFlow.Json
