import SignalPods.LibSignal.FfiStrings
import SignalPods.Machine.Ledger

namespace SignalPods.LibSignal

open Machine

/-- What a `const char *` points to, up to its NUL. -/
structure CString where
  bytes : List UInt8
  noNul : 0 ∉ bytes

namespace SwiftStrings

variable (strings : SwiftStrings)

/-- `String(cString:)`. -/
def ofCString (bytes : List UInt8) : String := stringDecoding strings.repair bytes

/-- `Dictionary` with `String` keys, one entry a key. -/
def hasKey (dictionary : List (String × String)) (key : String) : Bool :=
  dictionary.any fun entry => strings.canonical entry.1 = strings.canonical key

def value (dictionary : List (String × String)) (key : String) : Option String :=
  (dictionary.find? fun entry => strings.canonical entry.1 = strings.canonical key).map Prod.snd

end SwiftStrings

structure SignalFfiChatResponse where
  status : UInt16
  message : Option CString
  headers : List (Option CString)
  body : SignalOwnedBuffer

/-- What native code allocated for a response. -/
inductive ResponsePart
  | message | headers | body
  deriving DecidableEq, Repr

def SignalFfiChatResponse.given (raw : SignalFfiChatResponse) : List (ResponsePart × Posting) :=
  (if raw.message.isSome then [(.message, .give)] else []) ++ [(.headers, .give)] ++
    if raw.body.isSome then [(.body, .give)] else []

structure ChatResponse where
  status : UInt16
  message : String
  headers : List (String × String)
  body : List UInt8
  deriving DecidableEq, Repr

namespace ChatResponse

variable (strings : SwiftStrings)

/-- The closure that is mapped over the headers; none where it stops the
process. `58` is the colon. -/
def header (rawHeader : Option CString) : Option (String × String) :=
  match rawHeader with
  | none => none
  | some rawHeader =>
    match rawHeader.bytes.findIdx? (· = 58) with
    | none => none
    | some nameCount =>
      match String.fromUTF8? (rawHeader.bytes.take nameCount).toByteArray with
      | none => none
      | some name => some (name, strings.ofCString (rawHeader.bytes.drop (nameCount + 1)))

/-- `Dictionary(uniqueKeysWithValues:)` stops the process at a key that is
there already. -/
def insertUnique (dictionary : List (String × String)) (entry : String × String) : Option (List (String × String)) :=
  if strings.hasKey dictionary entry.1 then none else some (dictionary ++ [entry])

def headersOf (rawHeaders : List (Option CString)) : Option (List (String × String)) :=
  rawHeaders.foldlM (fun dictionary rawHeader =>
    (header strings rawHeader).bind fun entry => insertUnique strings dictionary entry) []

/-- `Data(consuming:)` keeps the body; `free()` then finds an empty one. -/
def owns (body : SignalOwnedBuffer) (posting : Posting) : List (ResponsePart × Posting) :=
  if body.isSome then [(.body, posting)] else []

/-- `init(consuming:)`, with what it does to the memory. -/
def consuming (rawResponse : SignalFfiChatResponse) : Option (ChatResponse × List (ResponsePart × Posting)) :=
  match rawResponse.message with
  | none => none
  | some message =>
    (headersOf strings rawResponse.headers).map fun headers =>
      ({ status := rawResponse.status
         message := strings.ofCString message.bytes
         headers := headers
         body := rawResponse.body.getD [] },
        [(.message, .use), (.headers, .use)] ++ owns rawResponse.body .retain ++
          [(.message, .release), (.headers, .release)])

end ChatResponse

end SignalPods.LibSignal
