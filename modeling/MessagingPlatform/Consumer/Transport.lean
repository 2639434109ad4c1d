import MessagingPlatform.Contracts.Events

/-! How the RMQ transport of the messaging service hands a message body to a handler. The
server parses the body as JSON and looks the packet's `pattern` up among the registered ones;
a packet without a handler is rejected without requeue. -/
namespace MessagingPlatform.Consumer

inductive Handler where
  | handleTestRabbit
  | handleMessage
deriving DecidableEq

def handlers : List (String × Handler) := [
  ("test-rabbit",.handleTestRabbit),
  (CreateMessageEvent.nameV1,.handleMessage),
  (CreateMessageEvent.nameV2,.handleMessage)]

def isJsonSpace (c : Char) : Bool := c.toNat == 0x20 || c.toNat == 9 || c.toNat == 10 || c.toNat == 13

def hexDigit? (c : Char) : Option Nat :=
  if c.isDigit then some (c.toNat - 0x30)
  else if 0x41 ≤ c.toNat ∧ c.toNat ≤ 0x46 then some (c.toNat - 0x41 + 10)
  else if 0x61 ≤ c.toNat ∧ c.toNat ≤ 0x66 then some (c.toNat - 0x61 + 10)
  else none

def unescaped : List (Nat × Char) :=
  [0x22,0x5C,0x2F].map (fun n => (n,Char.ofNat n)) ++ [(0x62,'\x08'),(0x66,'\x0c'),(0x6E,'\n'),(0x72,'\r'),(0x74,'\t')]

/-- The string literal in a list of characters, its opening quote left out. A surrogate escape spells no
character of a registered pattern, and is not read. -/
def unquote : List Char → Option (List Char)
  | [] => none
  | c :: rest =>
      if c.toNat = 0x22 then if rest.all isJsonSpace then some [] else none
      else if c.toNat < 0x20 then none
      else if c.toNat ≠ 0x5C then (unquote rest).map (fun text => c :: text)
      else match rest with
        | 'u' :: first :: second :: third :: fourth :: rest => do
            let digits ← [first,second,third,fourth].mapM hexDigit?
            let unit := digits.foldl (fun value digit => 16 * value + digit) 0
            if unit.isValidChar then (unquote rest).map (fun text => Char.ofNat unit :: text) else none
        | escaped :: rest => do
            let c ← unescaped.lookup escaped.toNat
            (unquote rest).map (fun text => c :: text)
        | [] => none

/-- The server parses a pattern that is JSON once more. What else than a string it finds has no
registered route. -/
def route (pattern : String) : String :=
  match pattern.toList.dropWhile isJsonSpace with
  | c :: rest => if c.toNat = 0x22 then ((unquote rest).map String.ofList).getD pattern else pattern
  | [] => pattern

/-- The handler and the `data` it is called with. A body with neither a `pattern` nor a `data`
key has an undefined pattern, and a pattern that is not a string is no registered one. -/
def dispatch (body : Body) : Option (Handler × Option Json) :=
  match body.parse.bind (fun packet => packet.get? "pattern") with
  | some (.str pattern) =>
      (handlers.lookup (route pattern)).map (fun handler =>
        (handler,body.parse.bind (fun packet => packet.get? "data")))
  | _ => none

example : handlers.lookup (route "\"CreateMessageEvent.v1\"") = some .handleMessage := by decide +kernel

end MessagingPlatform.Consumer
