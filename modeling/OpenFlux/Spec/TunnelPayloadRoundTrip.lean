import OpenFlux.Model.TunnelPayload
import OpenFlux.Spec.NativeArgsOwned

/-!
# The form comes back from its payload

`value` and `hasFlag` look at every token, so a text field that is spelled as one of the
form's own flags would be taken for that flag.  No other text can be: a token is a hit for a
name only if `flagName` of the token is that name.

## Key results

- `value_cons_of_ne`, `hasFlag_cons_of_ne`: tokens that are skipped
- `parse_build`: `parse` gives back the form that `build` was called with
-/

namespace OpenFlux.TunnelPayload

open NativeArgs

/-! ## Tokens that are skipped -/

section Skip

variable {arg name : String}

/-- `value` goes on behind a token with another name. -/
theorem value_cons_of_ne (hname : '=' ∉ name.toList) (h : flagName arg ≠ some name)
    (rest : List String) : value (arg :: rest) name = value rest name := by
  rw [value]
  split
  · rfl
  · rename_i hdash
    have hdash : arg.toList.head? = some '-' := not_not.mp hdash
    rw [Ne, flagName_eq_some_iff, not_and] at h
    have hne := h hdash
    -- in both spellings the name would be `name`
    have hbare : arg.toList.dropWhile (· == '-') ≠ name.toList := by
      intro heq
      apply hne
      have := takeWhile_name hname []
      simpa [heq] using this
    have hinline : ¬ (name.toList ++ ['=']).isPrefixOf (arg.toList.dropWhile (· == '-')) := by
      intro hprefix
      obtain ⟨v, hv⟩ := List.isPrefixOf_iff_prefix.mp hprefix
      apply hne
      rw [← hv, List.append_assoc, takeWhile_name hname]
      simp
    simp only [if_neg hbare, if_neg hinline]

/-- `hasFlag` goes on behind a token with another name. -/
theorem hasFlag_cons_of_ne (hname : '=' ∉ name.toList) (h : flagName arg ≠ some name)
    (rest : List String) : hasFlag (arg :: rest) name = hasFlag rest name := by
  rw [Ne, flagName_eq_some_iff, not_and] at h
  rw [hasFlag, List.any_cons, hasFlag, Bool.or_eq_right_iff_imp]
  intro hhit
  obtain ⟨hdash, htext⟩ := Bool.and_eq_true_iff.mp hhit
  refine absurd ?_ (h (of_decide_eq_true hdash))
  have := takeWhile_name hname []
  simpa [of_decide_eq_true htext] using this

/-- Tokens with other names in front of a payload are skipped. -/
theorem value_append_of_ne {tokens : List String} (hname : '=' ∉ name.toList)
    (h : ∀ token ∈ tokens, flagName token ≠ some name) (rest : List String) :
    value (tokens ++ rest) name = value rest name := by
  induction tokens with
  | nil => rfl
  | cons token tokens ih =>
    rw [List.cons_append, value_cons_of_ne hname (h token List.mem_cons_self)]
    exact ih fun token' htoken => h token' (List.mem_cons_of_mem _ htoken)

/-- The same for `hasFlag`. -/
theorem hasFlag_append_of_ne {tokens : List String} (hname : '=' ∉ name.toList)
    (h : ∀ token ∈ tokens, flagName token ≠ some name) (rest : List String) :
    hasFlag (tokens ++ rest) name = hasFlag rest name := by
  induction tokens with
  | nil => rfl
  | cons token tokens ih =>
    rw [List.cons_append, hasFlag_cons_of_ne hname (h token List.mem_cons_self)]
    exact ih fun token' htoken => h token' (List.mem_cons_of_mem _ htoken)

end Skip

/-- The flags that `parse` looks for. -/
def formFlags : List String := ["url", "maxToken", "maxUid", "codec", "legacy", "debug"]

/-- None of their names has an `=`. -/
theorem not_mem_of_mem_formFlags {name : String} (h : name ∈ formFlags) :
    '=' ∉ name.toList := by
  revert name
  decide

/-- The token is spelled as one of the flags that `parse` looks for. -/
def spellsFormFlag (token : String) : Bool := (flagName token).any (· ∈ formFlags)

/-- Any other token is found under none of these names. -/
theorem flagName_ne_of_not_spellsFormFlag {token name : String} (h : ¬ spellsFormFlag token)
    (hname : name ∈ formFlags) : flagName token ≠ some name := by
  intro heq
  apply h
  simpa [spellsFormFlag, heq] using hname

/-! ## The parts of a payload -/

/-- The arguments in front of those that depend on the form. -/
def headArgs (transport : TransportType) : List String :=
  ["--role", "client"] ++ ["--transport", transport.cliName]

/-- The arguments for the two switches of the form. -/
def switchArgs (form : Form) : List String :=
  (if form.legacyCodec then ["--codec", "legacy"] else []) ++
    (if form.debug then ["--debug"] else [])

/-- What `build` writes, in three parts. -/
theorem exists_of_build_eq_some {form : Form} {payload : List String}
    (h : build form = some payload) : ∃ args, transportArgs form = some args ∧
      payload = headArgs form.transport ++ (args ++ switchArgs form) := by
  obtain ⟨args, hargs, rfl⟩ := Option.map_eq_some_iff.mp h
  refine ⟨args, hargs, ?_⟩
  simp only [headArgs, switchArgs, List.append_assoc]

/-- `parse` finds nothing in the first part. -/
theorem headArgs_skip (transport : TransportType) {name : String} (hname : name ∈ formFlags) :
    ∀ token ∈ headArgs transport, flagName token ≠ some name := by
  have hskip : ∀ token ∈ headArgs transport, ¬ spellsFormFlag token := by
    cases transport <;> decide
  intro token htoken
  exact flagName_ne_of_not_spellsFormFlag (hskip token htoken) hname

/-- What is found behind the transport's arguments. -/
theorem parse_switchArgs (form : Form) :
    (∀ name ∈ ["url", "maxToken", "maxUid"], value (switchArgs form) name = "") ∧
    (value (switchArgs form) "codec" = if form.legacyCodec then "legacy" else "") ∧
    hasFlag (switchArgs form) "legacy" = false ∧
    hasFlag (switchArgs form) "debug" = form.debug := by
  unfold switchArgs
  cases form.legacyCodec <;> cases form.debug <;> decide

/-- The text fields that the transport uses. -/
def Form.usedFields (form : Form) : List String :=
  if form.transport.usesUrl then [form.url] else [form.maxToken, form.maxUid]

/-- The form without the text fields that the transport does not use. -/
def Form.used (form : Form) : Form :=
  if form.transport.usesUrl then { form with maxToken := "", maxUid := "" }
  else { form with url := "" }

/-- The transport is stored under its own name. -/
theorem fromRaw_name (transport : TransportType) :
    TransportType.fromRaw transport.name = transport := by
  cases transport <;> decide

/-- What `parse` finds where `args` are the transport's arguments, given what it finds in
    them. -/
theorem parse_parts {form : Form} {args : List String}
    (hcodec : ∀ rest, value (args ++ rest) "codec" = value rest "codec")
    (hlegacy : ∀ rest, hasFlag (args ++ rest) "legacy" = hasFlag rest "legacy")
    (hdebug : ∀ rest, hasFlag (args ++ rest) "debug" = hasFlag rest "debug") :
    parse form.transport.name (headArgs form.transport ++ (args ++ switchArgs form)) =
      { form with
        url := value (args ++ switchArgs form) "url"
        maxToken := value (args ++ switchArgs form) "maxToken"
        maxUid := value (args ++ switchArgs form) "maxUid" } := by
  obtain ⟨-, hswitch, hnolegacy, hswitchDebug⟩ := parse_switchArgs form
  -- the head of the arguments names no flag of the form
  have hvalue {name : String} (hname : name ∈ formFlags) (rest : List String) :
      value (headArgs form.transport ++ rest) name = value rest name :=
    value_append_of_ne (not_mem_of_mem_formFlags hname) (headArgs_skip _ hname) rest
  have hflag {name : String} (hname : name ∈ formFlags) (rest : List String) :
      hasFlag (headArgs form.transport ++ rest) name = hasFlag rest name :=
    hasFlag_append_of_ne (not_mem_of_mem_formFlags hname) (headArgs_skip _ hname) rest
  simp only [parse, fromRaw_name, hvalue (show "url" ∈ formFlags by decide),
    hvalue (show "maxToken" ∈ formFlags by decide),
    hvalue (show "maxUid" ∈ formFlags by decide), hvalue (show "codec" ∈ formFlags by decide),
    hflag (show "legacy" ∈ formFlags by decide), hflag (show "debug" ∈ formFlags by decide),
    hcodec, hlegacy, hdebug, hswitch, hnolegacy, hswitchDebug]
  cases form.legacyCodec <;> rfl

/-- Of a flag and its text field, only the name of the flag is found. -/
theorem pair_skip {token field flag name : String} (htoken : flagName token = some flag)
    (hfield : ¬ spellsFormFlag field) (hname : name ∈ formFlags) (hne : name ≠ flag) :
    ∀ token' ∈ [token, field], flagName token' ≠ some name := by
  intro token' hmem
  obtain rfl | hmem := List.mem_cons.mp hmem
  · rw [htoken]
    simpa using Ne.symm hne
  · obtain rfl := List.mem_singleton.mp hmem
    exact flagName_ne_of_not_spellsFormFlag hfield hname

/-- A flag that is found has the next token as its value. -/
theorem value_pair {token name : String} (field : String) (rest : List String)
    (hdash : token.toList.head? = some '-')
    (htext : token.toList.dropWhile (· == '-') = name.toList) :
    value ([token, field] ++ rest) name = field := by
  rw [List.cons_append, value]
  simp [hdash, htext]

/-- A transport with an address. -/
theorem parse_build_url {form : Form} (husesUrl : form.transport.usesUrl)
    (hfield : ¬ spellsFormFlag form.url) :
    parse form.transport.name
        (headArgs form.transport ++ (["--url", form.url] ++ switchArgs form)) =
      form.used := by
  have hswitch := (parse_switchArgs form).1
  -- every other name is found behind the pair only
  have hskip {name : String} (hname : name ∈ formFlags) (hne : name ≠ "url") :=
    pair_skip (show flagName "--url" = some "url" by decide) hfield hname hne
  have hvalue {name : String} (hname : name ∈ formFlags) (hne : name ≠ "url") :=
    value_append_of_ne (not_mem_of_mem_formFlags hname) (hskip hname hne)
  have hflag {name : String} (hname : name ∈ formFlags) (hne : name ≠ "url") :=
    hasFlag_append_of_ne (not_mem_of_mem_formFlags hname) (hskip hname hne)
  rw [parse_parts (hvalue (by decide) (by decide)) (hflag (by decide) (by decide))
    (hflag (by decide) (by decide)), value_pair form.url _ (by decide) (by decide),
    hvalue (show "maxToken" ∈ formFlags by decide) (by decide), hswitch "maxToken" (by simp),
    hvalue (show "maxUid" ∈ formFlags by decide) (by decide), hswitch "maxUid" (by simp),
    Form.used, if_pos husesUrl]

/-- The transport with a token and a user. -/
theorem parse_build_max {form : Form} (husesUrl : ¬ form.transport.usesUrl)
    (htoken : ¬ spellsFormFlag form.maxToken) (huid : ¬ spellsFormFlag form.maxUid) :
    parse form.transport.name (headArgs form.transport ++
        (["--maxToken", form.maxToken, "--maxUid", form.maxUid] ++ switchArgs form)) =
      form.used := by
  have hswitch := (parse_switchArgs form).1
  -- neither the flag nor its value is taken for another flag of the form
  have hskipToken {name : String} (hname : name ∈ formFlags) (hne : name ≠ "maxToken") :=
    pair_skip (show flagName "--maxToken" = some "maxToken" by decide) htoken hname hne
  have hskipUid {name : String} (hname : name ∈ formFlags) (hne : name ≠ "maxUid") :=
    pair_skip (show flagName "--maxUid" = some "maxUid" by decide) huid hname hne
  have hsplit (rest : List String) :
      ["--maxToken", form.maxToken, "--maxUid", form.maxUid] ++ rest =
        ["--maxToken", form.maxToken] ++ (["--maxUid", form.maxUid] ++ rest) := rfl
  -- the other names are found in neither pair
  have hvalue {name : String} (hname : name ∈ formFlags) (hne : name ≠ "maxToken")
      (hne' : name ≠ "maxUid") (rest : List String) :
      value (["--maxToken", form.maxToken, "--maxUid", form.maxUid] ++ rest) name =
        value rest name := by
    have hfree := not_mem_of_mem_formFlags hname
    rw [hsplit, value_append_of_ne hfree (hskipToken hname hne),
      value_append_of_ne hfree (hskipUid hname hne')]
  have hflag {name : String} (hname : name ∈ formFlags) (hne : name ≠ "maxToken")
      (hne' : name ≠ "maxUid") (rest : List String) :
      hasFlag (["--maxToken", form.maxToken, "--maxUid", form.maxUid] ++ rest) name =
        hasFlag rest name := by
    have hfree := not_mem_of_mem_formFlags hname
    rw [hsplit, hasFlag_append_of_ne hfree (hskipToken hname hne),
      hasFlag_append_of_ne hfree (hskipUid hname hne')]
  -- the url is in no token, the token in the first pair and the uid in the second
  rw [parse_parts (hvalue (by decide) (by decide) (by decide))
    (hflag (by decide) (by decide) (by decide)) (hflag (by decide) (by decide) (by decide)),
    hvalue (by decide) (by decide) (by decide), hswitch "url" (by simp), hsplit,
    value_pair form.maxToken _ (by decide) (by decide),
    value_append_of_ne (by decide) (hskipToken (by decide) (by decide)),
    value_pair form.maxUid _ (by decide) (by decide), Form.used, if_neg husesUrl]

/-! ## Main result -/

/-- For every form that `build` accepts and whose used text fields are not spelled as flags
    of the form, `parse` gives the form back, with the unused text fields empty. -/
theorem parse_build (form : Form) (payload : List String) (hbuild : build form = some payload)
    (hfields : ∀ field ∈ form.usedFields, ¬ spellsFormFlag field) :
    parse form.transport.name payload = form.used := by
  obtain ⟨args, hargs, rfl⟩ := exists_of_build_eq_some hbuild
  rw [transportArgs] at hargs
  rw [Form.usedFields] at hfields
  split at hargs
  · rename_i husesUrl
    rw [if_pos husesUrl] at hfields
    split at hargs
    · -- `build` accepts no form with an empty field
      cases hargs
    · obtain rfl := Option.some.inj hargs
      exact parse_build_url husesUrl (hfields form.url (by simp))
  · rename_i husesUrl
    rw [if_neg husesUrl] at hfields
    split at hargs
    · cases hargs
    · obtain rfl := Option.some.inj hargs
      exact parse_build_max husesUrl (hfields form.maxToken (by simp))
        (hfields form.maxUid (by simp))

/-- A form whose text fields look like flags of another program. -/
theorem parse_build_dashes :
    parse "max" ["--role", "client", "--transport", "oneme", "--maxToken", "--url2=x",
        "--maxUid", "-", "--codec", "legacy", "--debug"] =
      { transport := .max, maxToken := "--url2=x", maxUid := "-", legacyCodec := true,
        debug := true } :=
  parse_build
    { transport := .max
      url := "unused"
      maxToken := "--url2=x"
      maxUid := "-"
      legacyCodec := true
      debug := true } _ (by decide) (by decide)

end OpenFlux.TunnelPayload
