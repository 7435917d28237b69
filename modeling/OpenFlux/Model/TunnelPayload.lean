import Mathlib.Data.List.Basic

/-!
# The add/edit form and its payload

`TunnelPayload.build` turns the form into the command-line arguments that are stored with a
tunnel, and `parse` fills the form from stored arguments.  `parse` does not read the
arguments in order as OpenFlux does: `value` and `hasFlag` look for one name each, in every
token, and take the first hit.
-/

namespace OpenFlux

/-- `TransportType` -/
inductive TransportType where
  | yandex
  | vyandex
  | max
  | cupsonline
  | mailru
  deriving DecidableEq, Repr

namespace TransportType

/-- The constants in their order. -/
def entries : List TransportType := [yandex, vyandex, max, cupsonline, mailru]

/-- The name of the enum constant. -/
def name : TransportType → String
  | yandex => "yandex"
  | vyandex => "vyandex"
  | max => "max"
  | cupsonline => "cupsonline"
  | mailru => "mailru"

/-- The value of `--transport`. -/
def cliName : TransportType → String
  | yandex => "yandex"
  | vyandex => "vyandex"
  | max => "oneme"
  | cupsonline => "cupsonline"
  | mailru => "mailru"

/-- Every transport but one is given by a URL. -/
def usesUrl (transport : TransportType) : Bool := transport ≠ max

/-- The character up to its case.  Four characters outside ASCII have a case variant in
    ASCII; the others can be left alone, as the names above are ASCII. -/
def foldCase (c : Char) : Char :=
  if c = '\u0130' ∨ c = '\u0131' then 'i'
  else if c = '\u017f' then 's'
  else if c = '\u212a' then 'k'
  else c.toLower

/-- `equals(…, ignoreCase = true)` where one of the two is ASCII. -/
def equalsIgnoreCase (a b : String) : Bool := a.toList.map foldCase = b.toList.map foldCase

/-- `TransportType.from`. -/
def fromRaw (raw : String) : TransportType :=
  (entries.find? fun transport =>
    equalsIgnoreCase transport.name raw || equalsIgnoreCase transport.cliName raw).getD yandex

end TransportType

namespace TunnelPayload

/-- The fields of the tunnel form. -/
structure Form where
  transport : TransportType
  url : String := ""
  maxToken : String := ""
  maxUid : String := ""
  legacyCodec : Bool := false
  debug : Bool := false
  deriving DecidableEq, Repr

/-- The arguments that depend on the transport; `none` when a field it needs is empty. -/
def transportArgs (form : Form) : Option (List String) :=
  if form.transport.usesUrl then
    if form.url = "" then none else some ["--url", form.url]
  else
    if form.maxToken = "" ∨ form.maxUid = "" then none
    else some ["--maxToken", form.maxToken, "--maxUid", form.maxUid]

/-- `TunnelPayload.build` -/
def build (form : Form) : Option (List String) :=
  (transportArgs form).map fun args =>
    ["--role", "client"] ++ ["--transport", form.transport.cliName] ++ args ++
      (if form.legacyCodec then ["--codec", "legacy"] else []) ++
      (if form.debug then ["--debug"] else [])

/-- Value of `--name value` or `--name=value`, with any number of dashes; empty when
    absent. -/
def value : List String → String → String
  | [], _ => ""
  | arg :: rest, name =>
    if arg.toList.head? ≠ some '-' then value rest name
    else
      let flag := arg.toList.dropWhile (· == '-')
      -- the value is the next token, whatever that is
      if flag = name.toList then rest.headD ""
      else if (name.toList ++ ['=']).isPrefixOf flag then
        String.ofList ((flag.dropWhile (· != '=')).drop 1)
      else value rest name

/-- A flag without a value is there, with any number of dashes. -/
def hasFlag (payload : List String) (name : String) : Bool :=
  payload.any fun arg =>
    arg.toList.head? = some '-' && arg.toList.dropWhile (· == '-') = name.toList

/-- `TunnelPayload.parse` -/
def parse (transportType : String) (payload : List String) : Form where
  transport := .fromRaw transportType
  url := value payload "url"
  maxToken := value payload "maxToken"
  maxUid := value payload "maxUid"
  legacyCodec := value payload "codec" = "legacy" || hasFlag payload "legacy"
  debug := hasFlag payload "debug"

end TunnelPayload

end OpenFlux
