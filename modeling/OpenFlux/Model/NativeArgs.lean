import OpenFlux.ForStd.GoFlag

/-!
# The OpenFlux command line

`NativeArgs` turns a stored tunnel payload into the command line of the OpenFlux client.
The flags the app decides on itself come first; copies of them inside the payload, which
may come from a scanned QR code, are dropped.

The filter walks the payload by position and does not know which tokens are values of
other flags.  How OpenFlux reads the result is `GoFlag.parse`.  `redact` writes the command
line for the log; it looks at a token and the one before it.
-/

namespace OpenFlux.NativeArgs

/-- `OWNED_WITH_VALUE`: flags the app always sets itself. -/
def ownedWithValue : List String :=
  ["role", "r", "inbound", "i", "socks5", "s", "encryption-key-file"]

/-- `OWNED_BOOLEAN`. -/
def ownedBoolean : List String := ["client", "exit-node", "tun", "socks5-mode"]

/-- `flagName`: the text behind the leading dashes up to the first `=`; `none` for a token
    without a dash. -/
def flagName (arg : String) : Option String :=
  if arg.toList.head? = some '-' then
    some (String.ofList ((arg.toList.dropWhile (· == '-')).takeWhile (· != '=')))
  else none

/-- `name in OWNED_…` for a name that may be null. -/
def nameIn (name : Option String) (names : List String) : Bool := name.any (· ∈ names)

/-- The loop of `build`: an owned flag goes, together with the token behind it when it
    takes a value and is not written with `=`; every other token stays. -/
def dropOwned : List String → List String
  | [] => []
  | arg :: rest =>
    let name := flagName arg
    if nameIn name ownedBoolean then dropOwned rest
    else if nameIn name ownedWithValue then
      -- the value is in the same token or is the next one, whatever that is
      if '=' ∈ arg.toList then dropOwned rest
      else match rest with
        | [] => []
        | _ :: rest => dropOwned rest
    else arg :: dropOwned rest

/-- The flags the app sets itself. -/
def ownedArgs (socksAddress : String) (keyFile : Option String) : List String :=
  ["--role", "client", "--inbound", "socks5", "--socks5", socksAddress] ++
    match keyFile with
    | some path => ["--encryption-key-file", path]
    | none => []

/-- `NativeArgs.build` -/
def build (payload : List String) (socksAddress : String) (keyFile : Option String) :
    List String :=
  ownedArgs socksAddress keyFile ++ dropOwned payload

/-! ## The command line as it is logged -/

/-- `SECRET_VALUES`: flags whose value stays out of the log. -/
def secretValues : List String := ["maxToken"]

/-- The lambda of `redact`, for a token and the token before it. -/
def redactToken (previous : Option String) (arg : String) : String :=
  if nameIn (flagName arg) secretValues && '=' ∈ arg.toList then
    -- `substringBefore('=')`
    String.ofList (arg.toList.takeWhile (· != '=')) ++ "=***"
  else if nameIn (previous.bind flagName) secretValues then "***"
  else arg

/-- `args.getOrNull(i - 1)`. -/
def previous? (args : List String) : Nat → Option String
  | 0 => none
  | i + 1 => args[i]?

/-- `NativeArgs.redact` -/
def redact (args : List String) : List String :=
  args.mapIdx fun i arg => redactToken (previous? args i) arg

end OpenFlux.NativeArgs
