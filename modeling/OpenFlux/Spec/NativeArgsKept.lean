import OpenFlux.Spec.NativeArgsOwned

/-!
# The rest of the payload reaches OpenFlux unchanged

`dropOwned` removes one or two tokens at a time without parsing.  On a payload that
`GoFlag.parse` accepts completely the removal stays aligned with the parse: an owned flag
goes together with the value that `parse` gives to it, and of a flag that is not owned both
tokens stay, as long as its value does not look like an owned flag.

## Key results

- `accepts_dropOwned`: what is left is accepted, with the assignments to other flags
- `build_keeps_payload`: so `build` assigns to every other flag what the payload assigns
-/

namespace OpenFlux.NativeArgs

open GoFlag

/-- The token is spelled as an owned flag. -/
def spellsOwned (token : String) : Bool := (flagName token).any (decide <| Owned ·)

/-- A token is spelled as the flag that it names. -/
theorem spellsOwned_iff {token name : String} (h : flagName token = some name) :
    spellsOwned token ↔ Owned name := by
  simp [spellsOwned, h]

/-! ## The loop of `build` -/

/-- A token that is not spelled as an owned flag stays. -/
theorem dropOwned_keep {arg : String} (rest : List String) (h : ¬ spellsOwned arg) :
    dropOwned (arg :: rest) = arg :: dropOwned rest := by
  have hbool : ¬ nameIn (flagName arg) ownedBoolean := by
    intro hin
    obtain ⟨name, hname, hmem⟩ := (Option.any_eq_true _ _).mp hin
    exact h ((spellsOwned_iff hname).mpr (.inr (of_decide_eq_true hmem)))
  have hvalue : ¬ nameIn (flagName arg) ownedWithValue := by
    intro hin
    obtain ⟨name, hname, hmem⟩ := (Option.any_eq_true _ _).mp hin
    exact h ((spellsOwned_iff hname).mpr (.inl (of_decide_eq_true hmem)))
  rw [dropOwned.eq_def]
  simp only [if_neg hbool, if_neg hvalue]

/-- An owned boolean flag goes alone. -/
theorem dropOwned_boolean {arg name : String} (rest : List String)
    (hname : flagName arg = some name) (h : name ∈ ownedBoolean) :
    dropOwned (arg :: rest) = dropOwned rest := by
  rw [dropOwned.eq_def]
  simp only [hname, nameIn, Option.any_some, h, decide_true, if_true]

/-- No flag is in both sets. -/
theorem not_mem_ownedBoolean {name : String} (h : name ∈ ownedWithValue) :
    name ∉ ownedBoolean := by
  revert name
  decide

/-- An owned flag goes alone if its value is attached. -/
theorem dropOwned_inline {arg name : String} (rest : List String)
    (hname : flagName arg = some name) (h : Owned name) (heq : '=' ∈ arg.toList) :
    dropOwned (arg :: rest) = dropOwned rest := by
  obtain h | h := h
  · rw [dropOwned.eq_def]
    simp only [hname, nameIn, Option.any_some, not_mem_ownedBoolean h, h, heq, decide_true,
      decide_false, if_true]
    rfl
  · exact dropOwned_boolean rest hname h

/-- Otherwise it takes the next token with it. -/
theorem dropOwned_pair {arg name : String} (value : String) (rest : List String)
    (hname : flagName arg = some name) (h : name ∈ ownedWithValue) (heq : '=' ∉ arg.toList) :
    dropOwned (arg :: value :: rest) = dropOwned rest := by
  rw [dropOwned.eq_def]
  simp only [hname, nameIn, Option.any_some, not_mem_ownedBoolean h, h, heq, decide_true,
    decide_false, if_true, if_false]
  rfl

/-! ## Alignment with the parse -/

/-- Dropping the owned flags from an accepted payload leaves an accepted payload, with the
    assignments to the other flags. -/
theorem accepts_dropOwned {fs : FlagSet} (hfs : DeclaresOwned fs) {payload : List String}
    {as : List (String × String)} (h : Accepts fs payload as)
    (hvalues : ∀ a ∈ operands fs payload, ¬ Owned a.1 → ¬ spellsOwned a.2) :
    Accepts fs (dropOwned payload) (as.filter fun a => ¬ Owned a.1) := by
  induction h with
  | nil => exact .nil
  | @bare arg name args as hlex hkind _ ih =>
    have hname := flagName_of_lex hlex
    rw [operands_bare args hlex hkind] at hvalues
    by_cases howned : Owned name
    · -- an owned flag without a value is boolean
      have hbool : name ∈ ownedBoolean := by
        obtain hvalue | hbool := howned
        · rw [hfs.withValue name hvalue] at hkind
          cases hkind
        · exact hbool
      rw [dropOwned_boolean args hname hbool, List.filter_cons_of_neg (by simpa using howned)]
      exact ih hvalues
    · rw [dropOwned_keep args (mt (spellsOwned_iff hname).mp howned),
        List.filter_cons_of_pos (by simpa using howned)]
      exact .bare hlex hkind (ih hvalues)
  | @inline arg name value kind args as hlex hkind htakes _ ih =>
    have hname := flagName_of_lex hlex
    rw [operands_inline fs args hlex] at hvalues
    by_cases howned : Owned name
    · -- whatever the flag is, it goes alone
      rw [dropOwned_inline args hname howned ((mem_of_lex_flag hlex).mpr rfl),
        List.filter_cons_of_neg (by simpa using howned)]
      exact ih hvalues
    · rw [dropOwned_keep args (mt (spellsOwned_iff hname).mp howned),
        List.filter_cons_of_pos (by simpa using howned)]
      exact .inline hlex hkind htakes (ih hvalues)
  | @operand arg name value accepts args as hlex hkind htakes _ ih =>
    have hname := flagName_of_lex hlex
    rw [operands_operand value args hlex hkind] at hvalues
    have hrest := ih fun a ha => hvalues a (List.mem_cons_of_mem _ ha)
    by_cases howned : Owned name
    · -- an owned flag with a value goes with it, whatever the value looks like
      have hvalue : name ∈ ownedWithValue := by
        obtain hvalue | hbool := howned
        · exact hvalue
        · rw [hfs.boolean name hbool] at hkind
          cases hkind
      have heq : '=' ∉ arg.toList := by
        rw [mem_of_lex_flag hlex]
        simp
      rw [dropOwned_pair value args hname hvalue heq,
        List.filter_cons_of_neg (by simpa using howned)]
      exact hrest
    · -- the flag stays, and so does its value
      have hkeep := hvalues (name, value) List.mem_cons_self howned
      rw [dropOwned_keep _ (mt (spellsOwned_iff hname).mp howned), dropOwned_keep args hkeep,
        List.filter_cons_of_pos (by simpa using howned)]
      exact .operand hlex hkind htakes hrest

/-- The app's own arguments are accepted in front of accepted ones. -/
theorem accepts_ownedArgs {fs : FlagSet} (hfs : DeclaresOwned fs) (socksAddress : String)
    (keyFile : Option String) {rest : List String} {as : List (String × String)}
    (h : Accepts fs rest as) :
    Accepts fs (ownedArgs socksAddress keyFile ++ rest)
      (ownedAssignments socksAddress keyFile ++ as) := by
  have hrole := hfs.withValue "role" (by decide)
  have hinbound := hfs.withValue "inbound" (by decide)
  have hsocks5 := hfs.withValue "socks5" (by decide)
  have hkey := hfs.withValue "encryption-key-file" (by decide)
  -- pair by pair, in the order of the arguments
  apply Accepts.operand (by decide) hrole rfl
  apply Accepts.operand (by decide) hinbound rfl
  apply Accepts.operand (by decide) hsocks5 rfl
  cases keyFile with
  | none => exact h
  | some path => exact .operand (by decide) hkey rfl h

/-- The app's own arguments assign to owned flags only. -/
theorem filter_ownedAssignments (socksAddress : String) (keyFile : Option String)
    {name : String} (h : ¬ Owned name) :
    (ownedAssignments socksAddress keyFile).filter (·.1 = name) = [] := by
  rw [List.filter_eq_nil_iff]
  intro a ha heq
  refine h (of_decide_eq_true heq ▸ ?_)
  -- the app assigns to flags of its own only
  have hnames : ∀ n ∈ ["role", "inbound", "socks5", "encryption-key-file"], Owned n := by
    decide
  apply hnames
  cases keyFile <;>
    simp only [ownedAssignments, List.append_nil, List.cons_append, List.nil_append,
      List.mem_cons, List.not_mem_nil, or_false] at ha
  · obtain rfl | rfl | rfl := ha <;> simp
  · obtain rfl | rfl | rfl | rfl := ha <;> simp

/-- For every flag set that declares the owned flags as `NativeArgs` classifies them, and
    every payload that it accepts completely and in which no value of another flag is spelled
    as an owned flag: `build`'s result is accepted completely, and assigns to every flag that
    is not owned the values that the payload assigns. -/
theorem build_keeps_payload (fs : FlagSet) (hfs : DeclaresOwned fs) (payload : List String)
    (socksAddress : String) (keyFile : Option String)
    (haccept : (parse fs payload).stop = .exhausted)
    (hvalues : ∀ a ∈ operands fs payload, ¬ Owned a.1 → ¬ spellsOwned a.2) :
    (parse fs (build payload socksAddress keyFile)).stop = .exhausted ∧
    ∀ name, ¬ Owned name →
      (parse fs (build payload socksAddress keyFile)).values name =
        (parse fs payload).values name := by
  have hpayload := stop_eq_exhausted_iff.mp haccept
  have hrest := accepts_dropOwned hfs hpayload hvalues
  have hbuild := (accepts_ownedArgs hfs socksAddress keyFile hrest).parse_eq
  rw [build, hbuild]
  refine ⟨rfl, ?_⟩
  intro name hname
  rw [Parsed.values, Parsed.values, List.filter_append,
    filter_ownedAssignments socksAddress keyFile hname, List.nil_append, List.filter_filter]
  -- `build` has dropped assignments to other flags only
  congr 1
  apply List.filter_congr
  intro a _
  by_cases heq : a.1 = name
  · simp [heq, hname]
  · simp [heq]

/-- A payload whose owned flags have values that look like other flags. -/
theorem build_keeps_payload_mixed :
    (parse clientFlags (build ["--role", "--debug", "--url", "-d", "-r=x", "--debug", "--tun"]
      "127.0.0.1:4000" none)).stop = .exhausted ∧
    ∀ name, ¬ Owned name →
      (parse clientFlags (build ["--role", "--debug", "--url", "-d", "-r=x", "--debug", "--tun"]
        "127.0.0.1:4000" none)).values name =
      (parse clientFlags ["--role", "--debug", "--url", "-d", "-r=x", "--debug", "--tun"]).values
        name :=
  build_keeps_payload clientFlags clientFlags_declaresOwned _ _ _ (by decide) (by decide)

end OpenFlux.NativeArgs
