import OpenFlux.Spec.NativeArgsOwned

/-!
# The logged command line does not show the token

What `redact` writes for a token depends on that token and on the one before it.  A secret
stands in one of two places: as the token behind `--maxToken`, where only "is it a
`maxToken` flag itself" is still visible, or behind the `=` of the flag's own token.

## Key results

- `redactToken_follows`, `redactToken_inline`: the two places
- `redactFrom_congr`: how much of a token its successor's redaction sees
- `redact_hides_token`: two command lines that differ in the secret are logged alike, and
  nothing of a value is left in the log of a command line that `build` made
-/

namespace OpenFlux.NativeArgs

/-! ## One token -/

/-- `maxToken` is the only secret. -/
theorem nameIn_secretValues {name : Option String} :
    nameIn name secretValues = true ↔ name = some "maxToken" := by
  cases name <;> simp [nameIn, secretValues]

/-- The dashes in front of a name. -/
theorem eq_dash_of_mem {c : Char} {l : List Char} (h : c ∈ l.takeWhile (· == '-')) : c = '-' := by
  have hdash := List.mem_takeWhile_imp h
  exact eq_of_beq hdash

/-- Behind a `maxToken` flag every other token is replaced. -/
theorem redactToken_follows {previous : Option String} {arg : String}
    (hprev : previous.bind flagName = some "maxToken") (harg : flagName arg ≠ some "maxToken") :
    redactToken previous arg = "***" := by
  have hprev := nameIn_secretValues.mpr hprev
  have harg := mt nameIn_secretValues.mp harg
  simp [redactToken, hprev, harg]

/-- A `maxToken=…` token loses what stands behind its `=`. -/
theorem redactToken_before {arg : String} (previous : Option String)
    (harg : flagName arg = some "maxToken") (heq : '=' ∈ arg.toList) :
    redactToken previous arg = String.ofList (arg.toList.takeWhile (· != '=')) ++ "=***" := by
  have hsecret := nameIn_secretValues.mpr harg
  simp [redactToken, hsecret, heq]

/-- The dashes and the name are all that is left of a `maxToken=…` token. -/
theorem redactToken_inline {arg : String} (previous : Option String)
    (harg : flagName arg = some "maxToken") (heq : '=' ∈ arg.toList) :
    redactToken previous arg =
      String.ofList (arg.toList.takeWhile (· == '-')) ++ "maxToken=***" := by
  have hname := (flagName_eq_some_iff.mp harg).2
  -- the first `=` stands behind the dashes and the name
  have hdashes : ∀ c ∈ arg.toList.takeWhile (· == '-'), (c != '=') = true := by
    intro c hc
    simp [eq_dash_of_mem hc]
  have hbefore : arg.toList.takeWhile (· != '=') =
      arg.toList.takeWhile (· == '-') ++ "maxToken".toList := by
    rw [← hname, ← List.takeWhile_append_of_pos hdashes, List.takeWhile_append_dropWhile]
  rw [redactToken_before previous harg heq, hbefore, String.ofList_append,
    String.ofList_toList, String.append_assoc]
  rfl

/-- A token that is logged as it is stands behind no `maxToken` flag and carries no value of
    one itself. -/
theorem redactToken_cases (previous : Option String) (arg : String) :
    (flagName arg = some "maxToken" ∧ '=' ∈ arg.toList) ∨
    redactToken previous arg = "***" ∨
    (redactToken previous arg = arg ∧ previous.bind flagName ≠ some "maxToken" ∧
      ¬ (flagName arg = some "maxToken" ∧ '=' ∈ arg.toList)) := by
  unfold redactToken
  simp only [Bool.and_eq_true, decide_eq_true_eq, nameIn_secretValues]
  split
  · -- the flag with its value in one token, the token behind the flag, and any other
    left
    assumption
  · split
    · simp
    · rename_i hinline hprev
      exact .inr (.inr ⟨rfl, hprev, hinline⟩)

/-- The stars are no flag. -/
theorem flagName_stars : flagName "***" = none := by
  simp [flagName]

/-- What is logged for a `maxToken=…` token is still spelled as that flag. -/
theorem flagName_redactToken_inline {arg : String} (previous : Option String)
    (harg : flagName arg = some "maxToken") (heq : '=' ∈ arg.toList) :
    flagName (redactToken previous arg) = some "maxToken" := by
  have hdash := (flagName_eq_some_iff.mp harg).1
  rw [redactToken_inline previous harg heq, flagName_eq_some_iff]
  simp only [String.toList_append, String.toList_ofList]
  constructor
  · obtain ⟨rest, hrest⟩ := List.head?_eq_some_iff.mp hdash
    simp [hrest]
  · -- the dashes are kept as they were
    have hdashes : ∀ c ∈ arg.toList.takeWhile (· == '-'), (c == '-') = true := by
      intro c hc
      simp [eq_dash_of_mem hc]
    rw [List.dropWhile_append_of_pos hdashes]
    decide

/-- A logged token that is spelled as a `maxToken` flag was one before. -/
theorem flagName_of_redactToken {previous : Option String} {arg : String}
    (h : flagName (redactToken previous arg) = some "maxToken") :
    flagName arg = some "maxToken" := by
  obtain ⟨harg, -⟩ | hstars | ⟨hself, -⟩ := redactToken_cases previous arg
  · exact harg
  · simp [hstars, flagName_stars] at h
  · rwa [hself] at h

/-- A flag keeps its name when a value is attached. -/
theorem flagName_attach {f : String} (hname : flagName f = some "maxToken") (heq : '=' ∉ f.toList)
    (s : String) : flagName (f ++ "=" ++ s) = some "maxToken" := by
  obtain ⟨hdash, hbare⟩ := flagName_eq_some_iff.mp hname
  -- without an `=` the name is all that stands behind the dashes
  have hrest : f.toList.dropWhile (· == '-') = "maxToken".toList := by
    rw [← hbare, eq_comm, List.takeWhile_eq_self_iff]
    intro c hc
    simp only [bne_iff_ne, ne_eq]
    rintro rfl
    exact heq ((List.dropWhile_suffix _).subset hc)
  rw [flagName_eq_some_iff]
  constructor
  · simp [hdash]
  · have hdrop : (f ++ "=" ++ s).toList.dropWhile (· == '-') =
        "maxToken".toList ++ '=' :: s.toList := by
      simp only [String.toList_append, List.append_assoc, List.dropWhile_append, hrest]
      rfl
    rw [hdrop, takeWhile_name (by decide)]
    simp

/-! ## The whole line -/

/-- `redact` on a list that stands behind the token `previous`. -/
def redactFrom (previous : Option String) : List String → List String
  | [] => []
  | arg :: rest => redactToken previous arg :: redactFrom (some arg) rest

/-- A token of the log depends on the token in its place and on the one before. -/
theorem getElem?_redact (args : List String) (i : Nat) :
    (redact args)[i]? = args[i]?.map (redactToken (previous? args i)) := by
  simp [redact, List.getElem?_mapIdx]

/-- The same for a list that stands behind a token. -/
theorem getElem?_redactFrom (previous : Option String) (args : List String) (i : Nat) :
    (redactFrom previous args)[i]? =
      args[i]?.map (redactToken (if i = 0 then previous else previous? args i)) := by
  induction args generalizing previous i with
  | nil => simp [redactFrom]
  | cons arg rest ih =>
    cases i with
    | zero => simp [redactFrom]
    | succ i =>
      simp only [redactFrom, List.getElem?_cons_succ, ih]
      -- only the token right behind `arg` has it as its predecessor
      cases i <;> simp [previous?]

/-- The whole line stands behind nothing. -/
theorem redact_eq_redactFrom (args : List String) : redact args = redactFrom none args := by
  apply List.ext_getElem?
  intro i
  rw [getElem?_redact, getElem?_redactFrom]
  cases i <;> simp [previous?]

/-- All that the rest of the line sees of a token is whether it is a secret's flag. -/
theorem redactFrom_congr {p q : Option String}
    (h : nameIn (p.bind flagName) secretValues = nameIn (q.bind flagName) secretValues)
    (args : List String) : redactFrom p args = redactFrom q args := by
  cases args with
  | nil => rfl
  | cons arg rest => simp only [redactFrom, redactToken, h]

/-- Two lines that are logged alike behind any token are logged alike behind any text. -/
theorem redactFrom_append_congr {l l' : List String}
    (h : ∀ previous, redactFrom previous l = redactFrom previous l')
    (pre : List String) (previous : Option String) :
    redactFrom previous (pre ++ l) = redactFrom previous (pre ++ l') := by
  induction pre generalizing previous with
  | nil => exact h previous
  | cons arg pre ih => simp only [List.cons_append, redactFrom, ih]

section Secret

variable {f : String} (hname : flagName f = some "maxToken")
include hname

/-- The secret in a token of its own. -/
theorem redact_separate {s₁ s₂ : String} (h₁ : flagName s₁ ≠ some "maxToken")
    (h₂ : flagName s₂ ≠ some "maxToken") (pre post : List String) :
    redact (pre ++ [f, s₁] ++ post) = redact (pre ++ [f, s₂] ++ post) := by
  have hprev : (some f).bind flagName = some "maxToken" := hname
  -- neither secret hides the token behind it
  have hsame : nameIn ((some s₁).bind flagName) secretValues =
      nameIn ((some s₂).bind flagName) secretValues := by
    rw [Bool.eq_iff_iff, nameIn_secretValues, nameIn_secretValues]
    simp [h₁, h₂]
  simp only [redact_eq_redactFrom, List.append_assoc]
  apply redactFrom_append_congr
  intro previous
  simp only [List.cons_append, List.nil_append, redactFrom]
  rw [redactToken_follows hprev h₁, redactToken_follows hprev h₂, redactFrom_congr hsame]

/-- The secret attached to its flag. -/
theorem redact_attached (heq : '=' ∉ f.toList) (s₁ s₂ : String) (pre post : List String) :
    redact (pre ++ [f ++ "=" ++ s₁] ++ post) = redact (pre ++ [f ++ "=" ++ s₂] ++ post) := by
  have hattach := flagName_attach hname heq
  -- the whole token is replaced by a text without the secret
  have htoken : ∀ previous s, redactToken previous (f ++ "=" ++ s) = f ++ "=***" := by
    intro previous s
    have hbefore : (f ++ "=" ++ s).toList.takeWhile (· != '=') = f.toList := by
      rw [String.append_assoc, String.toList_append, takeWhile_name heq]
      simp
    rw [redactToken_before previous (hattach s) (by simp), hbefore, String.ofList_toList]
  have hsame : nameIn ((some (f ++ "=" ++ s₁)).bind flagName) secretValues =
      nameIn ((some (f ++ "=" ++ s₂)).bind flagName) secretValues := by
    simp only [Option.bind_some, hattach]
  simp only [redact_eq_redactFrom, List.append_assoc]
  apply redactFrom_append_congr
  intro previous
  simp only [List.cons_append, List.nil_append, redactFrom, htoken]
  rw [redactFrom_congr hsame]

end Secret

/-- Nothing of a token's value is left in the log of `args`.  The first two fields find the
    tokens in `args`, the last two in the log itself. -/
structure HidesToken (args : List String) : Prop where
  follows : ∀ (i : Nat) f t, args[i]? = some f → flagName f = some "maxToken" →
    args[i + 1]? = some t → flagName t ≠ some "maxToken" → (redact args)[i + 1]? = some "***"
  inline : ∀ (i : Nat) t, args[i]? = some t → flagName t = some "maxToken" → '=' ∈ t.toList →
    (redact args)[i]? =
      some (String.ofList (t.toList.takeWhile (· == '-')) ++ "maxToken=***")
  logFollows : ∀ (i : Nat) f t, (redact args)[i]? = some f → flagName f = some "maxToken" →
    (redact args)[i + 1]? = some t → flagName t ≠ some "maxToken" → t = "***"
  logInline : ∀ t ∈ redact args, flagName t = some "maxToken" → '=' ∈ t.toList →
    ∃ dashes, (∀ c ∈ dashes, c = '-') ∧ t = String.ofList dashes ++ "maxToken=***"

/-- `redact` hides the tokens of every line. -/
theorem hidesToken (args : List String) : HidesToken args where
  follows := by
    intro i f t hf hname ht hother
    have hprev : (previous? args (i + 1)).bind flagName = some "maxToken" := by
      simp [previous?, hf, hname]
    rw [getElem?_redact, ht, Option.map_some, redactToken_follows hprev hother]
  inline := by
    intro i t ht hname heq
    rw [getElem?_redact, ht, Option.map_some, redactToken_inline _ hname heq]
  logFollows := by
    intro i f t hf hname ht hother
    simp only [getElem?_redact, Option.map_eq_some_iff] at hf ht
    obtain ⟨flag, hflag, rfl⟩ := hf
    obtain ⟨arg, harg, rfl⟩ := ht
    -- the flag in the log was a flag in `args`, so its successor was replaced
    have hprev : (previous? args (i + 1)).bind flagName = some "maxToken" := by
      simp [previous?, hflag, flagName_of_redactToken hname]
    -- an inline flag stays a flag, stars are no flag, and anything else stays as it is
    obtain ⟨harg, heq⟩ | hstars | ⟨-, hnot, -⟩ := redactToken_cases (previous? args (i + 1)) arg
    · exact absurd (flagName_redactToken_inline _ harg heq) hother
    · exact hstars
    · exact absurd hprev hnot
  logInline := by
    intro t ht hname heq
    obtain ⟨i, hi⟩ := List.mem_iff_getElem?.mp ht
    simp only [getElem?_redact, Option.map_eq_some_iff] at hi
    obtain ⟨arg, -, rfl⟩ := hi
    obtain ⟨harg, heq'⟩ | hstars | ⟨hself, -, hnot⟩ := redactToken_cases (previous? args i) arg
    · refine ⟨_, ?_, redactToken_inline _ harg heq'⟩
      intro c hc
      exact eq_dash_of_mem hc
    · simp [hstars, flagName_stars] at hname
    · rw [hself] at hname heq
      exact absurd ⟨hname, heq⟩ hnot

/-- The log of the command line does not reveal the token. -/
theorem redact_hides_token :
    (∀ f, flagName f = some "maxToken" → '=' ∉ f.toList → ∀ s₁ s₂ pre post,
      (flagName s₁ ≠ some "maxToken" → flagName s₂ ≠ some "maxToken" →
        redact (pre ++ [f, s₁] ++ post) = redact (pre ++ [f, s₂] ++ post)) ∧
      redact (pre ++ [f ++ "=" ++ s₁] ++ post) = redact (pre ++ [f ++ "=" ++ s₂] ++ post)) ∧
    ∀ payload socksAddress keyFile, HidesToken (build payload socksAddress keyFile) := by
  constructor
  · intro f hname heq s₁ s₂ pre post
    exact ⟨fun h₁ h₂ => redact_separate hname h₁ h₂ pre post,
      redact_attached hname heq s₁ s₂ pre post⟩
  · intro payload socksAddress keyFile
    exact hidesToken _

/-- A token that starts with a dash, one with `=` inside, and a payload in which dropping
    `--tun` moves the token next to its flag. -/
theorem redact_hides_token_dashes :
    redact ["--url", "u", "-maxToken", "--s=1"] = redact ["--url", "u", "-maxToken", "x"] ∧
    redact ["--maxToken=a=b", "-v"] = redact ["--maxToken=", "-v"] ∧
    (redact (build ["--maxToken", "--tun", "abc"] "127.0.0.1:4000" none))[7]? =
      some "***" := by
  obtain ⟨hrun, hbuild⟩ := redact_hides_token
  refine ⟨?_, ?_, ?_⟩
  · exact (hrun "-maxToken" (by decide) (by decide) "--s=1" "x" ["--url", "u"] []).1
      (by decide) (by decide)
  · exact (hrun "--maxToken" (by decide) (by decide) "a=b" "" [] ["-v"]).2
  · exact (hbuild ["--maxToken", "--tun", "abc"] "127.0.0.1:4000" none).follows 6 "--maxToken"
      "abc" (by decide) (by decide) (by decide) (by decide)

end OpenFlux.NativeArgs
