import Mathlib.Tactic.FinCases
import OpenFlux.Model.NativeArgs

/-!
# The payload cannot override the app's own flags

`GoFlag.parse` reads names by position while `NativeArgs.dropOwned` looks at every token.
The two meet in one fact: whatever token `parse` takes for a flag, its name is
`NativeArgs.flagName` of that token.  So it does not matter how dropping a token pairs up
its neighbours: no token that is left can name an owned flag.

## Key results

- `flagName_of_lex`: `flag`'s name of a token is `flagName`
- `dropOwned_not_owned`: no token left by `dropOwned` spells an owned name
- `build_final_values`: what the owned flags hold after parsing `build`'s result
-/

namespace OpenFlux.NativeArgs

open GoFlag

/-- A name in one of the two owned sets. -/
def Owned (name : String) : Prop := name ∈ ownedWithValue ∨ name ∈ ownedBoolean

instance : DecidablePred Owned := fun name =>
  inferInstanceAs (Decidable (name ∈ ownedWithValue ∨ name ∈ ownedBoolean))

/-- The OpenFlux binary declares the owned flags as `NativeArgs` classifies them.  Every
    other name may be declared in any way, or not at all. -/
structure DeclaresOwned (fs : FlagSet) : Prop where
  withValue : ∀ name ∈ ownedWithValue, fs name = some .string
  boolean : ∀ name ∈ ownedBoolean, fs name = some .boolean

/-- The text behind the dashes of a token that starts with one. -/
theorem flagName_eq_some_iff {arg name : String} :
    flagName arg = some name ↔ arg.toList.head? = some '-' ∧
      (arg.toList.dropWhile (· == '-')).takeWhile (· != '=') = name.toList := by
  rw [flagName]
  split
  · rename_i hdash
    simp [hdash, String.ext_iff]
  · rename_i hdash
    simp [hdash]

/-- A name without `=` is what comes before the first `=`. -/
theorem takeWhile_name {name : String} (hname : '=' ∉ name.toList) (rest : List Char) :
    (name.toList ++ rest).takeWhile (· != '=') = name.toList ++ rest.takeWhile (· != '=') := by
  apply List.takeWhile_append_of_pos
  intro c hc
  simp only [bne_iff_ne, ne_eq]
  rintro rfl
  exact hname hc

/-- `flagName` finds the name that `lex` reads. -/
theorem flagName_of_lex {arg name : String} {value : Option String}
    (h : lex arg = .flag name value) : flagName arg = some name := by
  obtain ⟨hdash, rfl⟩ := lex_flag h
  simp [flagName, hdash]

/-! ## The filter -/

/-- No token that `dropOwned` keeps spells an owned name. -/
theorem dropOwned_not_owned {payload : List String} {arg name : String}
    (hmem : arg ∈ dropOwned payload) (hname : flagName arg = some name) : ¬ Owned name := by
  fun_induction dropOwned payload with
  | case1 => simp at hmem
  | case2 _ _ _ _ ih => exact ih hmem
  | case3 _ _ _ _ _ _ ih => exact ih hmem
  | case4 => simp at hmem
  | case5 _ _ _ _ _ _ _ ih => exact ih hmem
  | case6 arg' rest name' hbool hvalue ih =>
    obtain rfl | hmem := List.mem_cons.mp hmem
    · -- the kept token itself: neither test of the loop held for it
      rintro (h | h)
      · exact hvalue (by simp [name', hname, nameIn, h])
      · exact hbool (by simp [name', hname, nameIn, h])
    · exact ih hmem

/-- Parsing what the filter left assigns no owned flag. -/
theorem parse_dropOwned_values (fs : FlagSet) (payload : List String) {name : String}
    (h : Owned name) : (parse fs (dropOwned payload)).values name = [] := by
  apply Parsed.values_eq_nil
  intro a ha heq
  -- an assignment comes from a token that spells its name
  obtain ⟨arg, hmem, value, hlex⟩ := exists_lex_of_mem_assigned ha
  exact dropOwned_not_owned hmem (flagName_of_lex hlex) (heq ▸ h)

/-! ## The whole command line -/

/-- The assignments `parse` makes while it reads the app's own arguments. -/
def ownedAssignments (socksAddress : String) (keyFile : Option String) :
    List (String × String) :=
  [("role", "client"), ("inbound", "socks5"), ("socks5", socksAddress)] ++
    match keyFile with
    | some path => [("encryption-key-file", path)]
    | none => []

/-- The app's own arguments are read pairwise, whatever follows them. -/
theorem parse_ownedArgs {fs : FlagSet} (hfs : DeclaresOwned fs) (socksAddress : String)
    (keyFile : Option String) (rest : List String) :
    (parse fs (ownedArgs socksAddress keyFile ++ rest)).assigned =
      ownedAssignments socksAddress keyFile ++ (parse fs rest).assigned := by
  -- every flag of the app takes the next argument
  have hrole := hfs.withValue "role" (by decide)
  have hinbound := hfs.withValue "inbound" (by decide)
  have hsocks5 := hfs.withValue "socks5" (by decide)
  have hkey := hfs.withValue "encryption-key-file" (by decide)
  cases keyFile with
  | none =>
    simp only [ownedArgs, ownedAssignments, List.append_nil, List.cons_append, List.nil_append]
    rw [parse_string_pair _ _ (by decide) hrole, parse_string_pair _ _ (by decide) hinbound,
      parse_string_pair _ _ (by decide) hsocks5]
    rfl
  | some path =>
    simp only [ownedArgs, ownedAssignments, List.cons_append, List.nil_append]
    rw [parse_string_pair _ _ (by decide) hrole, parse_string_pair _ _ (by decide) hinbound,
      parse_string_pair _ _ (by decide) hsocks5, parse_string_pair _ _ (by decide) hkey]
    rfl

/-- An owned flag holds what the app's own arguments assign to it. -/
theorem build_values {fs : FlagSet} (hfs : DeclaresOwned fs) (payload : List String)
    (socksAddress : String) (keyFile : Option String) {name : String} (h : Owned name) :
    (parse fs (build payload socksAddress keyFile)).values name =
      ((ownedAssignments socksAddress keyFile).filter (·.1 = name)).map Prod.snd := by
  have hrest := parse_dropOwned_values fs payload h
  simp only [Parsed.values] at hrest
  rw [Parsed.values, build, parse_ownedArgs hfs, List.filter_append, List.map_append, hrest,
    List.append_nil]

/-- Whatever the stored payload is, OpenFlux runs as a client with a SOCKS5 inbound on
    the address and with the key file the app chose, and no alias and no boolean that
    could contradict that is ever assigned. -/
theorem build_final_values (fs : FlagSet) (hfs : DeclaresOwned fs) (payload : List String)
    (socksAddress : String) (keyFile : Option String) :
    let p := parse fs (build payload socksAddress keyFile)
    p.final "role" = some "client" ∧
    p.final "inbound" = some "socks5" ∧
    p.final "socks5" = some socksAddress ∧
    p.final "encryption-key-file" = keyFile ∧
    ∀ name ∈ ["r", "i", "s", "client", "exit-node", "tun", "socks5-mode"],
      p.values name = [] := by
  intro p
  have hvalues : ∀ {name}, Owned name → p.values name =
      ((ownedAssignments socksAddress keyFile).filter (·.1 = name)).map Prod.snd :=
    fun h => build_values hfs payload socksAddress keyFile h
  -- the payload assigns nothing to an owned flag, so only the app's own arguments count
  refine ⟨?_, ?_, ?_, ?_, ?_⟩
  · rw [Parsed.final, hvalues (by decide)]
    cases keyFile <;> rfl
  · rw [Parsed.final, hvalues (by decide)]
    cases keyFile <;> rfl
  · rw [Parsed.final, hvalues (by decide)]
    cases keyFile <;> rfl
  · rw [Parsed.final, hvalues (by decide)]
    cases keyFile <;> rfl
  · intro name hname
    fin_cases hname <;> (rw [hvalues (by decide)]; cases keyFile <;> rfl)

/-- A flag set with the owned flags and the ones `TunnelPayload` writes. -/
def clientFlags : FlagSet := fun name =>
  if name ∈ ownedBoolean ++ ["debug"] then some .boolean
  else if name ∈ ownedWithValue ++ ["transport", "url", "codec"] then some .string
  else none

/-- These flags are declared as `NativeArgs` classifies them. -/
theorem clientFlags_declaresOwned : DeclaresOwned clientFlags where
  withValue := by
    intro name h
    fin_cases h <;> rfl
  boolean := by
    intro name h
    fin_cases h <;> rfl

/-- A payload that tries to turn the client into an exit node, once with the value hidden
    behind a flag that is dropped. -/
theorem build_final_values_hostile :
    let p := parse clientFlags (build ["-s", "--url", "--role=exit", "--exit-node", "-r"]
      "127.0.0.1:4000" (some "/data/key"))
    p.final "role" = some "client" ∧
    p.final "inbound" = some "socks5" ∧
    p.final "socks5" = some "127.0.0.1:4000" ∧
    p.final "encryption-key-file" = some "/data/key" ∧
    ∀ name ∈ ["r", "i", "s", "client", "exit-node", "tun", "socks5-mode"],
      p.values name = [] :=
  build_final_values clientFlags clientFlags_declaresOwned _ _ _

end OpenFlux.NativeArgs
