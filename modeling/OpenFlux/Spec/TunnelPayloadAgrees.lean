import OpenFlux.Spec.NativeArgsOwned
import OpenFlux.Spec.TunnelPayloadRoundTrip

/-!
# Does the edit form show what OpenFlux will use?

OpenFlux reads its arguments with `GoFlag.parse`: by position, and the last assignment
wins.  `TunnelPayload.parse` takes the first hit in any token and knows boolean flags only
without `=`.  So on a payload that `GoFlag.parse` accepts completely a text field shows the
first value assigned, or else what stands behind a value that is spelled as the flag and comes
before it (`misread`).  A switch shows whether the flag stands anywhere without `=`.

## Key results

- `value_of_accepts`, `hasFlag_of_accepts`: what the form reads from accepted arguments
- `form_agrees_iff`: for which of them the fields of the form are the final values
- `form_disagrees`: a flag given twice, and a boolean flag with `=`
-/

namespace OpenFlux.TunnelPayload

open GoFlag NativeArgs

/-! ## The property -/

/-- The flags of a payload: those of the form as strings and switches, and the owned ones as
    `NativeArgs` classifies them. -/
def payloadFlags : FlagSet := fun name =>
  if name ∈ ["transport", "url", "maxToken", "maxUid", "codec"] ++ ownedWithValue then
    some .string
  else if name ∈ ["debug", "legacy"] ++ ownedBoolean then some .boolean
  else none

/-- A boolean flag is true after parsing. -/
def isTrue (p : Parsed) (name : String) : Prop := (p.final name).bind parseBool = some true

/-- The form shows the final values. -/
structure Agrees (form : Form) (p : Parsed) : Prop where
  url : form.url = (p.final "url").getD ""
  maxToken : form.maxToken = (p.final "maxToken").getD ""
  maxUid : form.maxUid = (p.final "maxUid").getD ""
  legacyCodec : form.legacyCodec ↔ p.final "codec" = some "legacy" ∨ isTrue p "legacy"
  debug : form.debug ↔ isTrue p "debug"

/-! ## What the form takes from accepted arguments -/

/-- The text behind the first `=` of a token, or else the next argument. -/
def textBehind (token : String) (rest : List String) : String :=
  if '=' ∈ token.toList then String.ofList ((token.toList.dropWhile (· != '=')).drop 1)
  else rest.headD ""

/-- The text behind the first value that is spelled as the flag `name`, if that comes before
    the flag itself. -/
def misread (fs : FlagSet) (name : String) : List String → Option String
  | [] => none
  | arg :: args =>
    match lex arg with
    | .flag other value =>
      if other = name then none
      else
        match value, fs other with
        | none, some (.value _) =>
          match args with
          | [] => none
          | v :: args =>
            if flagName v = some name then some (textBehind v args) else misread fs name args
        | _, _ => misread fs name args
    | _ => none

/-- The boolean flags that are given without `=`. -/
def bareFlags (fs : FlagSet) : List String → List String
  | [] => []
  | arg :: args =>
    match lex arg with
    | .flag _ (some _) => bareFlags fs args
    | .flag name none =>
      match fs name with
      | some .boolean => name :: bareFlags fs args
      | _ =>
        match args with
        | [] => []
        | _ :: args => bareFlags fs args
    | _ => []

/-- The flag stands somewhere without `=`, or a value is spelled like that. -/
def standsBare (fs : FlagSet) (name : String) (payload : List String) : Prop :=
  name ∈ bareFlags fs payload ∨
    ∃ a ∈ operands fs payload, flagName a.2 = some name ∧ '=' ∉ a.2.toList

instance (p : Parsed) (name : String) : Decidable (isTrue p name) :=
  inferInstanceAs (Decidable (_ = _))

instance (fs : FlagSet) (name : String) (payload : List String) :
    Decidable (standsBare fs name payload) :=
  inferInstanceAs (Decidable (_ ∨ _))

/-! ## The condition on payloads -/

/-- What stands behind a value that is taken for the flag is the last value assigned, and where
    there is no such value, the first and the last value assigned are the same. -/
structure ShowsText (payload : List String) (name : String) : Prop where
  misread : ∀ text, misread payloadFlags name payload = some text →
    text = ((GoFlag.parse payloadFlags payload).final name).getD ""
  first : TunnelPayload.misread payloadFlags name payload = none →
    ((GoFlag.parse payloadFlags payload).values name).head? =
      (GoFlag.parse payloadFlags payload).final name

/-- No value is taken for the flag. -/
theorem ShowsText.of_first {payload : List String} {name : String}
    (hmisread : TunnelPayload.misread payloadFlags name payload = none)
    (hfirst : ((GoFlag.parse payloadFlags payload).values name).head? =
      (GoFlag.parse payloadFlags payload).final name) : ShowsText payload name where
  misread text htext := by cases hmisread.symm.trans htext
  first _ := hfirst

/-- The text that counts for `codec`: behind a value that is taken for the flag, or else the
    first one assigned. -/
def codecShown (payload : List String) : String :=
  (misread payloadFlags "codec" payload).getD
    (((GoFlag.parse payloadFlags payload).values "codec").headD "")

/-- The text fields are shown, and the switches are on exactly where the flags that stand bare
    make them so. -/
structure ShowsFinal (payload : List String) : Prop where
  text : ∀ name ∈ ["url", "maxToken", "maxUid"], ShowsText payload name
  legacyCodec : codecShown payload = "legacy" ∨ standsBare payloadFlags "legacy" payload ↔
    (GoFlag.parse payloadFlags payload).final "codec" = some "legacy" ∨
      isTrue (GoFlag.parse payloadFlags payload) "legacy"
  debug : standsBare payloadFlags "debug" payload ↔
    isTrue (GoFlag.parse payloadFlags payload) "debug"

/-! ## Tokens that are hits -/

section Hits

variable {fs : FlagSet} {arg other name value : String} {accepts : String → Bool}

/-- Dashes in front do not move the first `=`. -/
theorem dropWhile_dashes (cs : List Char) :
    (cs.dropWhile (· == '-')).dropWhile (· != '=') = cs.dropWhile (· != '=') := by
  have hsplit := List.takeWhile_append_dropWhile (p := (· == '-')) (l := cs)
  conv_rhs => rw [← hsplit]
  rw [List.dropWhile_append_of_pos]
  intro c hc
  have hdash := List.mem_takeWhile_imp hc
  rw [beq_iff_eq.mp hdash]
  rfl

/-- At a token with its name, `value` takes the text behind it. -/
theorem value_of_flagName (h : flagName arg = some name) (rest : List String) :
    TunnelPayload.value (arg :: rest) name = textBehind arg rest := by
  obtain ⟨hdash, hname⟩ := flagName_eq_some_iff.mp h
  -- what is behind the dashes is the name and the rest from the first `=` on
  have hsplit := List.takeWhile_append_dropWhile (p := (· != '='))
    (l := arg.toList.dropWhile (· == '-'))
  rw [hname, dropWhile_dashes] at hsplit
  rw [TunnelPayload.value, if_neg (not_not.mpr hdash)]
  dsimp only
  cases hrest : arg.toList.dropWhile (· != '=') with
  | nil =>
    -- no `=` at all
    have hnone : '=' ∉ arg.toList := by
      intro hmem
      simpa using List.dropWhile_eq_nil_iff.mp hrest '=' hmem
    rw [hrest, List.append_nil] at hsplit
    rw [if_pos hsplit.symm, textBehind, if_neg hnone]
  -- the rest begins with the `=`
  | cons c text =>
    have hc : c = '=' := by
      have hhead := List.head?_dropWhile_not (· != '=') arg.toList
      rw [hrest] at hhead
      simpa using hhead
    subst hc
    have hmem : '=' ∈ arg.toList := (List.dropWhile_suffix _).subset (hrest ▸ List.mem_cons_self)
    rw [hrest] at hsplit
    have hne : arg.toList.dropWhile (· == '-') ≠ name.toList := by
      rw [← hsplit]
      simp
    have hprefix : (name.toList ++ ['=']).isPrefixOf (arg.toList.dropWhile (· == '-')) := by
      rw [← hsplit, List.isPrefixOf_iff_prefix]
      exact ⟨text, by simp⟩
    rw [if_neg hne, if_pos hprefix, textBehind, if_pos hmem, dropWhile_dashes]

/-- `hasFlag` is about the tokens with the name and no `=`. -/
theorem hasFlag_cons (hfree : '=' ∉ name.toList) (rest : List String) :
    hasFlag (arg :: rest) name ↔
      flagName arg = some name ∧ '=' ∉ arg.toList ∨ hasFlag rest name := by
  rw [hasFlag, List.any_cons, Bool.or_eq_true, ← hasFlag, Bool.and_eq_true, decide_eq_true_iff,
    decide_eq_true_iff, flagName_eq_some_iff, and_assoc]
  refine or_congr_left (and_congr_right fun _ => ?_)
  -- there is no `=` among the dashes
  have hmem : '=' ∈ arg.toList ↔ '=' ∈ arg.toList.dropWhile (· == '-') := by
    have hsplit := List.takeWhile_append_dropWhile (p := (· == '-')) (l := arg.toList)
    conv_lhs => rw [← hsplit, List.mem_append]
    refine or_iff_right fun hdash => ?_
    simpa using List.mem_takeWhile_imp hdash
  rw [hmem]
  constructor
  · intro hname
    have htake := takeWhile_name hfree []
    rw [List.append_nil, List.takeWhile_nil, List.append_nil] at htake
    rw [hname]
    exact ⟨htake, hfree⟩
  · -- without an `=` the name goes up to the end
    rintro ⟨hname, hnone⟩
    rw [← hname, eq_comm, List.takeWhile_eq_self_iff]
    intro c hc
    simp only [bne_iff_ne, ne_eq]
    rintro rfl
    exact hnone hc

/-- The flag itself comes first. -/
theorem misread_self {v : Option String} (args : List String) (hlex : lex arg = .flag name v) :
    misread fs name (arg :: args) = none := by
  rw [misread.eq_def]
  simp only [hlex, if_true]

/-- Another flag in one argument is passed over. -/
theorem misread_inline (args : List String) (hlex : lex arg = .flag other (some value))
    (hne : other ≠ name) : misread fs name (arg :: args) = misread fs name args := by
  rw [misread.eq_def]
  simp only [hlex, if_neg hne]

/-- Another switch is passed over. -/
theorem misread_bare (args : List String) (hlex : lex arg = .flag other none)
    (hfs : fs other = some .boolean) (hne : other ≠ name) :
    misread fs name (arg :: args) = misread fs name args := by
  rw [misread.eq_def]
  simp only [hlex, if_neg hne, hfs]

/-- The value of another flag may be taken for the flag. -/
theorem misread_operand (args : List String) (hlex : lex arg = .flag other none)
    (hfs : fs other = some (.value accepts)) (hne : other ≠ name) :
    misread fs name (arg :: value :: args) =
      if flagName value = some name then some (textBehind value args)
      else misread fs name args := by
  rw [misread.eq_def]
  simp only [hlex, if_neg hne, hfs]

/-- A flag with `=` does not stand bare. -/
theorem bareFlags_inline (args : List String) (hlex : lex arg = .flag other (some value)) :
    bareFlags fs (arg :: args) = bareFlags fs args := by
  rw [bareFlags.eq_def]
  simp only [hlex]

/-- A switch without `=` does. -/
theorem bareFlags_bare (args : List String) (hlex : lex arg = .flag other none)
    (hfs : fs other = some .boolean) :
    bareFlags fs (arg :: args) = other :: bareFlags fs args := by
  rw [bareFlags.eq_def]
  simp only [hlex, hfs]

/-- A flag with its value is passed over. -/
theorem bareFlags_operand (args : List String) (hlex : lex arg = .flag other none)
    (hfs : fs other = some (.value accepts)) :
    bareFlags fs (arg :: value :: args) = bareFlags fs args := by
  rw [bareFlags.eq_def]
  simp only [hlex, hfs]

end Hits

/-! ## Reading accepted arguments -/

section Accepts

variable {fs : FlagSet} {payload : List String} {as : List (String × String)} {name : String}

/-- `value` finds what stands behind a value that is taken for the flag, or else the first value
    assigned to it. -/
theorem value_of_accepts (h : Accepts fs payload as) (hfree : '=' ∉ name.toList)
    (hkind : fs name ≠ some .boolean) :
    value payload name = (misread fs name payload).getD
      (((⟨as, .exhausted⟩ : Parsed).values name).headD "") := by
  induction h with
  | nil => rfl
  | @bare arg other args as hlex hother _ ih =>
    -- another flag, as this one is not boolean
    have hne : other ≠ name := by
      rintro rfl
      exact hkind hother
    rw [value_cons_of_ne hfree (by simpa [flagName_of_lex hlex] using hne),
      misread_bare args hlex hother hne, Parsed.values_cons_of_ne as _ _ hne, ih]
  | @inline arg other v kind args as hlex _ _ _ ih =>
    by_cases hne : other = name
    · subst hne
      have hmem := (mem_of_lex_flag hlex).mpr rfl
      obtain ⟨-, hnone, htext⟩ := lex_flag_text hlex
      -- the text behind the first `=` is the value
      have hafter : arg.toList.dropWhile (· != '=') = '=' :: v.toList := by
        have hskip : ∀ c ∈ other.toList, (c != '=') = true := by
          intro c hc
          simp only [bne_iff_ne, ne_eq]
          rintro rfl
          exact hnone hc
        rw [← dropWhile_dashes, htext, List.dropWhile_append_of_pos hskip]
        simp
      rw [Parsed.values_cons_self, misread_self args hlex,
        value_of_flagName (flagName_of_lex hlex), textBehind, if_pos hmem, hafter]
      simp
    · rw [value_cons_of_ne hfree (by simpa [flagName_of_lex hlex] using hne),
        misread_inline args hlex hne, Parsed.values_cons_of_ne as _ _ hne, ih]
  | @operand arg other v accepts args as hlex hother _ _ ih =>
    by_cases hne : other = name
    · subst hne
      have hnone : '=' ∉ arg.toList := mt (mem_of_lex_flag hlex).mp (by simp)
      rw [Parsed.values_cons_self, misread_self _ hlex,
        value_of_flagName (flagName_of_lex hlex), textBehind, if_neg hnone]
      rfl
    · rw [value_cons_of_ne hfree (by simpa [flagName_of_lex hlex] using hne),
        misread_operand args hlex hother hne, Parsed.values_cons_of_ne as _ _ hne]
      -- the value is a hit or is passed over
      split
      · rename_i hhit
        rw [value_of_flagName hhit]
        rfl
      · rename_i hmiss
        rw [value_cons_of_ne hfree hmiss, ih]

/-- `hasFlag` finds a boolean flag that stands without `=`. -/
theorem hasFlag_of_accepts (h : Accepts fs payload as) (hfree : '=' ∉ name.toList)
    (hkind : fs name = some .boolean) : hasFlag payload name ↔ standsBare fs name payload := by
  unfold standsBare
  induction h with
  | nil => simp [hasFlag, bareFlags, operands]
  | @bare arg other args as hlex hother _ ih =>
    have hnone : '=' ∉ arg.toList := mt (mem_of_lex_flag hlex).mp (by simp)
    rw [hasFlag_cons hfree, flagName_of_lex hlex, bareFlags_bare args hlex hother,
      operands_bare args hlex hother, List.mem_cons, or_assoc, ← ih, Option.some_inj,
      and_iff_left hnone, eq_comm]
  | @inline arg other v kind args as hlex _ _ _ ih =>
    have hmem : '=' ∈ arg.toList := (mem_of_lex_flag hlex).mpr rfl
    rw [hasFlag_cons hfree, bareFlags_inline args hlex, operands_inline fs args hlex, ← ih]
    exact or_iff_right fun hhit => hhit.2 hmem
  | @operand arg other v accepts args as hlex hother _ _ ih =>
    -- the flag takes a value, so it is another one
    have hne : flagName arg ≠ some name := by
      rw [flagName_of_lex hlex]
      intro heq
      rw [← Option.some.inj heq, hother] at hkind
      cases hkind
    rw [hasFlag_cons hfree, hasFlag_cons hfree, bareFlags_operand args hlex hother,
      operands_operand v args hlex hother, or_iff_right fun hhit => hne hhit.1, ih]
    simp only [List.mem_cons, exists_eq_or_imp]
    exact or_left_comm

end Accepts

/-! ## Main result -/

section Fields

variable {payload : List String} {name : String}

/-- The text fields of the form are declared as strings. -/
theorem payloadFlags_ne_boolean (hname : name ∈ ["url", "maxToken", "maxUid", "codec"]) :
    payloadFlags name ≠ some .boolean := by
  rw [payloadFlags, if_pos (List.mem_append_left _ (List.mem_cons_of_mem _ hname))]
  simp [Kind.string]

/-- What the form shows for a text field. -/
theorem value_eq (haccept : (GoFlag.parse payloadFlags payload).stop = .exhausted)
    (hname : name ∈ ["url", "maxToken", "maxUid", "codec"]) :
    value payload name = (misread payloadFlags name payload).getD
      (((GoFlag.parse payloadFlags payload).values name).headD "") := by
  have hform : name ∈ formFlags := by
    revert name
    decide
  have haccepts := stop_eq_exhausted_iff.mp haccept
  rw [value_of_accepts haccepts (not_mem_of_mem_formFlags hform) (payloadFlags_ne_boolean hname),
    ← haccepts.parse_eq]

/-- A text field shows the final value exactly where `ShowsText` holds. -/
theorem value_eq_final_iff (haccept : (GoFlag.parse payloadFlags payload).stop = .exhausted)
    (hname : name ∈ ["url", "maxToken", "maxUid"]) :
    value payload name = ((GoFlag.parse payloadFlags payload).final name).getD "" ↔
      ShowsText payload name := by
  rw [value_eq haccept (List.mem_append_left ["codec"] hname)]
  cases hmisread : misread payloadFlags name payload with
  | some text =>
    constructor
    · intro heq
      refine ⟨fun text' htext => ?_, fun hnone => by cases hmisread.symm.trans hnone⟩
      rw [← Option.some.inj (hmisread.symm.trans htext)]
      exact heq
    · intro h
      exact h.misread text hmisread
  | none =>
    -- both are there or neither is
    have hdefault : ((GoFlag.parse payloadFlags payload).values name).headD "" =
          ((GoFlag.parse payloadFlags payload).final name).getD "" ↔
        ((GoFlag.parse payloadFlags payload).values name).head? =
          (GoFlag.parse payloadFlags payload).final name := by
      rw [Parsed.final]
      cases (GoFlag.parse payloadFlags payload).values name with
      | nil => simp
      | cons v vs => simp [List.getLast?_cons]
    rw [Option.getD_none, hdefault]
    exact ⟨.of_first hmisread, fun h => h.first hmisread⟩

/-- What the form shows for a switch. -/
theorem hasFlag_iff (haccept : (GoFlag.parse payloadFlags payload).stop = .exhausted)
    (hname : name ∈ ["legacy", "debug"]) :
    hasFlag payload name ↔ standsBare payloadFlags name payload := by
  have hform : name ∈ formFlags := by
    revert name
    decide
  have hkind : payloadFlags name = some .boolean := by
    fin_cases hname <;> rfl
  exact hasFlag_of_accepts (stop_eq_exhausted_iff.mp haccept) (not_mem_of_mem_formFlags hform) hkind

end Fields

/-- For every stored transport type and every payload that is accepted completely: the form
    shows the values that OpenFlux ends up with exactly where `ShowsFinal` holds. -/
theorem form_agrees_iff (transportType : String) (payload : List String)
    (haccept : (GoFlag.parse payloadFlags payload).stop = .exhausted) :
    Agrees (TunnelPayload.parse transportType payload) (GoFlag.parse payloadFlags payload) ↔
      ShowsFinal payload := by
  -- the two spellings of the codec are shown in one switch
  have hcodec : (TunnelPayload.parse transportType payload).legacyCodec ↔
      codecShown payload = "legacy" ∨ standsBare payloadFlags "legacy" payload := by
    rw [← hasFlag_iff haccept (by simp), codecShown, ← value_eq haccept (by simp)]
    simp [TunnelPayload.parse]
  have hdebug : (TunnelPayload.parse transportType payload).debug ↔
      standsBare payloadFlags "debug" payload := hasFlag_iff haccept (by simp)
  constructor
  · intro h
    refine ⟨?_, hcodec.symm.trans h.legacyCodec, hdebug.symm.trans h.debug⟩
    intro name hname
    apply (value_eq_final_iff haccept hname).mp
    fin_cases hname
    · exact h.url
    · exact h.maxToken
    · exact h.maxUid
  · intro h
    exact
      { url := (value_eq_final_iff haccept (by simp)).mpr (h.text "url" (by simp))
        maxToken := (value_eq_final_iff haccept (by simp)).mpr (h.text "maxToken" (by simp))
        maxUid := (value_eq_final_iff haccept (by simp)).mpr (h.text "maxUid" (by simp))
        legacyCodec := hcodec.trans h.legacyCodec
        debug := hdebug.trans h.debug }

/-- Two codecs neither of which is `legacy`, a switch that is off, and one that is on and is
    also found in a value. -/
theorem form_agrees_mixed :
    Agrees
      (TunnelPayload.parse "yandex" ["--legacy=false", "-url=a=b", "--codec", "x", "--codec", "y",
        "--role", "--debug", "--debug=true"])
      (GoFlag.parse payloadFlags ["--legacy=false", "-url=a=b", "--codec", "x", "--codec", "y",
        "--role", "--debug", "--debug=true"]) := by
  refine (form_agrees_iff "yandex" _ (by decide +kernel)).mpr
    ⟨?_, by decide +kernel, by decide +kernel⟩
  intro name hname
  fin_cases hname
  · exact .of_first (by decide +kernel) (by decide +kernel)
  · exact .of_first (by decide +kernel) (by decide +kernel)
  · exact .of_first (by decide +kernel) (by decide +kernel)

/-- The first of two addresses is shown and the last one used, and `--debug=true` shows as
    switched off. -/
theorem form_disagrees :
    (GoFlag.parse payloadFlags ["--url", "a", "--url", "b", "--debug=true"]).stop = .exhausted ∧
    (TunnelPayload.parse "yandex" ["--url", "a", "--url", "b", "--debug=true"]).url = "a" ∧
    (GoFlag.parse payloadFlags ["--url", "a", "--url", "b", "--debug=true"]).final "url" =
      some "b" ∧
    (TunnelPayload.parse "yandex" ["--url", "a", "--url", "b", "--debug=true"]).debug = false ∧
    isTrue (GoFlag.parse payloadFlags ["--url", "a", "--url", "b", "--debug=true"]) "debug" ∧
    ¬ Agrees (TunnelPayload.parse "yandex" ["--url", "a", "--url", "b", "--debug=true"])
      (GoFlag.parse payloadFlags ["--url", "a", "--url", "b", "--debug=true"]) := by
  -- both `url` and `debug` differ
  have htrue :
      isTrue (GoFlag.parse payloadFlags ["--url", "a", "--url", "b", "--debug=true"]) "debug" := by
    show _ = _
    decide
  refine ⟨by decide, by decide, by decide, by decide, htrue, ?_⟩
  intro hagrees
  have hdebug := hagrees.debug.mpr htrue
  exact absurd hdebug (by decide)

end OpenFlux.TunnelPayload
