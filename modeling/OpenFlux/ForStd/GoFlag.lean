import Mathlib.Data.List.TakeWhile

/-!
# The Go `flag` package

A model of `flag.FlagSet.Parse`.  Parsing reads one argument at a time:

* an argument with one or two leading dashes names a flag, up to the first `=`;
* a boolean flag takes a value only after `=` (otherwise it is set to `true`), every
  other flag takes the text after `=` or else the whole next argument;
* parsing stops at the first argument that is not a flag, after a bare `--`, and at the
  first error; what was assigned before that stays assigned.

`parse` returns every assignment in the order it is made, so that "the last assignment
wins" is `Parsed.final`.  Which flags exist is the parameter `FlagSet`; nothing here
depends on a particular program.
-/

namespace GoFlag

/-- How a flag is declared.  `accepts` is whether `Value.Set` takes the text. -/
inductive Kind where
  | value (accepts : String → Bool)
  | boolean

/-- A flag declared with `flag.String`: its `Set` never fails. -/
def Kind.string : Kind := .value fun _ => true

/-- The declared flags by name. -/
abbrev FlagSet := String → Option Kind

/-- What a single argument is, before the declared flags are looked at. -/
inductive Token where
  | positional
  | terminator
  | malformed
  | flag (name : String) (value : Option String)
  deriving DecidableEq, Repr

/-- The part of an argument behind its dashes.  An `=` cannot come first, so the search
    for it starts at the second character. -/
def lexName : List Char → Token
  | [] => .malformed
  | c :: cs =>
    if c = '-' ∨ c = '=' then .malformed
    else match cs.dropWhile (· != '=') with
      | [] => .flag (String.ofList (c :: cs)) none
      | _ :: v => .flag (String.ofList (c :: cs.takeWhile (· != '='))) (some (String.ofList v))

/-- One or two dashes in front of a name; a dash alone is no flag. -/
def lexChars : List Char → Token
  | ['-', '-'] => .terminator
  | '-' :: '-' :: name => lexName name
  | ['-'] => .positional
  | '-' :: name => lexName name
  | _ => .positional

/-- What an argument is. -/
def lex (arg : String) : Token := lexChars arg.toList

/-- `strconv.ParseBool`. -/
def parseBool (s : String) : Option Bool :=
  if s ∈ ["1", "t", "T", "true", "TRUE", "True"] then some true
  else if s ∈ ["0", "f", "F", "false", "FALSE", "False"] then some false
  else none

/-- The errors of `FlagSet.Parse`. -/
inductive Error where
  | badSyntax (arg : String)
  | help
  | notDefined (name : String)
  | needsArgument (name : String)
  | invalidBoolean (value name : String)
  | invalidValue (value name : String)
  deriving DecidableEq, Repr

/-- Why parsing ended: all arguments consumed, a non-flag argument, a bare `--`, or an
    error. -/
inductive Stop where
  | exhausted
  | positional (rest : List String)
  | terminated (rest : List String)
  | error (e : Error)
  deriving DecidableEq, Repr

/-- The assignments made, in order, and why parsing ended. -/
structure Parsed where
  assigned : List (String × String)
  stop : Stop
  deriving DecidableEq, Repr

namespace Parsed

/-- One assignment in front of those that follow. -/
def cons (name value : String) (p : Parsed) : Parsed :=
  { p with assigned := (name, value) :: p.assigned }

/-- The values assigned to `name`, in order. -/
def values (p : Parsed) (name : String) : List String :=
  (p.assigned.filter (·.1 = name)).map Prod.snd

/-- The value `name` has after parsing: the last one assigned, `none` when it never was. -/
def final (p : Parsed) (name : String) : Option String := (p.values name).getLast?

/-- An assignment to `name` comes first among its values. -/
theorem values_cons_self (as : List (String × String)) (stop : Stop) (name value : String) :
    (⟨(name, value) :: as, stop⟩ : Parsed).values name =
      value :: (⟨as, stop⟩ : Parsed).values name := by
  simp [values]

/-- An assignment to another name is not among the values. -/
theorem values_cons_of_ne (as : List (String × String)) (stop : Stop) {name other : String}
    (value : String) (h : other ≠ name) :
    (⟨(other, value) :: as, stop⟩ : Parsed).values name =
      (⟨as, stop⟩ : Parsed).values name := by
  simp [values, h]

/-- A name that no assignment mentions has no values. -/
theorem values_eq_nil {p : Parsed} {name : String}
    (h : ∀ a ∈ p.assigned, a.1 ≠ name) : p.values name = [] := by
  simp only [values, List.map_eq_nil_iff, List.filter_eq_nil_iff, decide_eq_true_eq]
  exact h

end Parsed

/-- The error for a name that is not declared; `-help` and `-h` print the usage instead. -/
def undefinedFlag (name : String) : Error :=
  if name = "help" ∨ name = "h" then .help else .notDefined name

/-- `FlagSet.Parse`: `parseOne` repeated until it stops. -/
def parse (fs : FlagSet) : List String → Parsed
  | [] => ⟨[], .exhausted⟩
  | arg :: args =>
    match lex arg with
    | .positional => ⟨[], .positional (arg :: args)⟩
    | .terminator => ⟨[], .terminated args⟩
    | .malformed => ⟨[], .error (.badSyntax arg)⟩
    | .flag name value =>
      match fs name with
      | none => ⟨[], .error (undefinedFlag name)⟩
      | some .boolean =>
        -- a boolean flag never takes the next argument
        let v := value.getD "true"
        if (parseBool v).isSome then (parse fs args).cons name v
        else ⟨[], .error (.invalidBoolean v name)⟩
      | some (.value accepts) =>
        match value with
        | some v =>
          if accepts v then (parse fs args).cons name v
          else ⟨[], .error (.invalidValue v name)⟩
        | none =>
          match args with
          | [] => ⟨[], .error (.needsArgument name)⟩
          -- the value is the next argument, also if that looks like a flag
          | v :: args =>
            if accepts v then (parse fs args).cons name v
            else ⟨[], .error (.invalidValue v name)⟩

/-- A declared string flag in the two-argument spelling assigns its second argument. -/
theorem parse_string_pair {fs : FlagSet} {arg name : String} (v : String) (args : List String)
    (hlex : lex arg = .flag name none) (hfs : fs name = some .string) :
    parse fs (arg :: v :: args) = (parse fs args).cons name v := by
  rw [parse]
  simp only [hlex, hfs, Kind.string, if_true]

/-! ## Where assignments come from -/

/-- An assignment of `p.cons name value` is the new one or one of `p`. -/
private theorem mem_cons_assigned {p : Parsed} {name value : String} {a : String × String}
    (h : a ∈ (p.cons name value).assigned) : a = (name, value) ∨ a ∈ p.assigned :=
  List.mem_cons.mp h

/-- Every assignment comes from an argument that spells the name of the flag. -/
theorem exists_lex_of_mem_assigned {fs : FlagSet} {args : List String} {a : String × String}
    (h : a ∈ (parse fs args).assigned) :
    ∃ arg ∈ args, ∃ value, lex arg = .flag a.1 value := by
  fun_induction parse fs args with
  | case6 arg args name value hlex _ _ _ ih
  | case8 arg args name _ _ _ _ hlex ih =>
    -- a flag that keeps the following arguments
    obtain rfl | h := mem_cons_assigned h
    · exact ⟨arg, List.mem_cons_self, _, hlex⟩
    · obtain ⟨arg', hmem, hv⟩ := ih h
      exact ⟨arg', List.mem_cons_of_mem _ hmem, hv⟩
  | case11 arg name _ _ v args _ hlex ih =>
    -- a flag that takes the next argument as its value
    obtain rfl | h := mem_cons_assigned h
    · exact ⟨arg, List.mem_cons_self, _, hlex⟩
    · obtain ⟨arg', hmem, hv⟩ := ih h
      exact ⟨arg', List.mem_cons_of_mem _ (List.mem_cons_of_mem _ hmem), hv⟩
  | _ => simp at h

/-! ## Arguments that are accepted completely -/

/-- `Value.Set` takes the text. -/
def Kind.takes : Kind → String → Bool
  | .value accepts, v => accepts v
  | .boolean, v => (parseBool v).isSome

/-- All of the arguments are consumed, as flags and as values of flags, with these
    assignments. -/
inductive Accepts (fs : FlagSet) : List String → List (String × String) → Prop
  | nil : Accepts fs [] []
  /-- a boolean flag without `=` -/
  | bare {arg name : String} {args : List String} {as : List (String × String)} :
      lex arg = .flag name none → fs name = some .boolean → Accepts fs args as →
      Accepts fs (arg :: args) ((name, "true") :: as)
  /-- `-name=value` -/
  | inline {arg name value : String} {kind : Kind} {args : List String}
      {as : List (String × String)} :
      lex arg = .flag name (some value) → fs name = some kind → kind.takes value →
      Accepts fs args as → Accepts fs (arg :: args) ((name, value) :: as)
  /-- `-name value` -/
  | operand {arg name value : String} {accepts : String → Bool} {args : List String}
      {as : List (String × String)} :
      lex arg = .flag name none → fs name = some (.value accepts) → accepts value →
      Accepts fs args as → Accepts fs (arg :: value :: args) ((name, value) :: as)

/-- Arguments that are accepted are parsed to the end. -/
theorem Accepts.parse_eq {fs : FlagSet} {args : List String} {as : List (String × String)}
    (h : Accepts fs args as) : parse fs args = ⟨as, .exhausted⟩ := by
  induction h with
  | nil => rfl
  -- a boolean flag on its own is set
  | bare hlex hfs _ ih =>
    rw [parse]
    simp only [hlex, hfs, Option.getD_none, ih]
    rfl
  -- `-name=value`, for a boolean as for any other flag
  | @inline arg name value kind args as hlex hfs htakes _ ih =>
    rw [parse]
    cases kind with
    | boolean =>
      have htakes : (parseBool value).isSome := htakes
      simp only [hlex, hfs, Option.getD_some, htakes, if_true, ih]
      rfl
    | value accepts =>
      have htakes : accepts value := htakes
      simp only [hlex, hfs, htakes, if_true, ih]
      rfl
  -- the value is the next argument
  | operand hlex hfs htakes _ ih =>
    rw [parse]
    simp only [hlex, hfs, htakes, if_true, ih]
    rfl

/-- `parse` consumes all of its arguments exactly where they are accepted. -/
theorem stop_eq_exhausted_iff {fs : FlagSet} {args : List String} :
    (parse fs args).stop = .exhausted ↔ Accepts fs args (parse fs args).assigned := by
  constructor
  · intro h
    fun_induction parse fs args with
    -- along the recursion of `parse`: each case that goes on has its rule
    | case1 => exact .nil
    | case6 arg args name value hlex hfs v hv ih =>
      cases value with
      | none => exact .bare hlex hfs (ih h)
      | some v => exact .inline hlex hfs hv (ih h)
    | case8 arg args name accepts hfs v hv hlex ih => exact .inline hlex hfs hv (ih h)
    | case11 arg name accepts hfs v args hv hlex ih => exact .operand hlex hfs hv (ih h)
    | _ => cases h
  · intro h
    rw [h.parse_eq]

/-- The arguments that are read as values of the flag in front of them, with its name. -/
def operands (fs : FlagSet) : List String → List (String × String)
  | [] => []
  | arg :: args =>
    match lex arg with
    | .flag _ (some _) => operands fs args
    | .flag name none =>
      match fs name with
      | some (.value _) =>
        match args with
        | [] => []
        | v :: args => (name, v) :: operands fs args
      | _ => operands fs args
    | _ => []

/-- An argument with `=` leaves the next one alone. -/
theorem operands_inline (fs : FlagSet) {arg name value : String} (args : List String)
    (hlex : lex arg = .flag name (some value)) :
    operands fs (arg :: args) = operands fs args := by
  rw [operands]
  simp only [hlex]

/-- A boolean flag leaves the next argument alone. -/
theorem operands_bare {fs : FlagSet} {arg name : String} (args : List String)
    (hlex : lex arg = .flag name none) (hfs : fs name = some .boolean) :
    operands fs (arg :: args) = operands fs args := by
  rw [operands]
  simp only [hlex, hfs]

/-- A flag that is not boolean takes the next argument. -/
theorem operands_operand {fs : FlagSet} {arg name : String} {accepts : String → Bool}
    (value : String) (args : List String) (hlex : lex arg = .flag name none)
    (hfs : fs name = some (.value accepts)) :
    operands fs (arg :: value :: args) = (name, value) :: operands fs args := by
  rw [operands]
  simp only [hlex, hfs]

/-! ## The text of flag arguments -/

/-- The text that `lexName` reads is the name, and the value behind the first `=`. -/
private theorem lexName_text {cs : List Char} {name : String} {value : Option String}
    (h : lexName cs = .flag name value) :
    cs.dropWhile (· == '-') = cs ∧
      cs = name.toList ++ (value.elim [] fun v => '=' :: v.toList) ∧ '=' ∉ name.toList := by
  cases cs with
  | nil => cases h
  | cons c cs =>
    simp only [lexName] at h
    split at h
    · cases h
    · rename_i hc
      obtain ⟨hne, hne'⟩ := not_or.mp hc
      have hdash : (c :: cs).dropWhile (· == '-') = c :: cs := by simp [hne]
      have hsplit := List.takeWhile_append_dropWhile (p := (· != '=')) (l := cs)
      -- the name ends before the first `=`
      have hfree : '=' ∉ c :: cs.takeWhile (· != '=') := by
        intro hmem
        obtain heq | hmem := List.mem_cons.mp hmem
        · exact hne' heq.symm
        · have := List.mem_takeWhile_imp hmem
          simp at this
      split at h
      · -- no `=` at all
        rename_i hnil
        obtain ⟨rfl, rfl⟩ := Token.flag.inj h
        rw [hnil, List.append_nil] at hsplit
        rw [hsplit] at hfree
        exact ⟨hdash, by simp, by simpa using hfree⟩
      · -- the value is what is behind the first `=`
        rename_i d v hcons
        obtain ⟨rfl, rfl⟩ := Token.flag.inj h
        have hd : d = '=' := by
          have := List.head_dropWhile_not (p := (· != '=')) (l := cs) (by simp [hcons])
          simpa [hcons] using this
        rw [hcons, hd] at hsplit
        exact ⟨hdash, by simp [hsplit], by simpa using hfree⟩

/-- A flag argument is dashes, the name, and the value behind the first `=`. -/
theorem lex_flag_text {arg name : String} {value : Option String}
    (h : lex arg = .flag name value) :
    arg.toList.head? = some '-' ∧ '=' ∉ name.toList ∧
    arg.toList.dropWhile (· == '-') =
      name.toList ++ (value.elim [] fun v => '=' :: v.toList) := by
  rw [lex, lexChars.eq_def] at h
  split at h
  · cases h
  · -- two dashes
    rename_i cs hcs heq
    obtain ⟨hdash, htext, hfree⟩ := lexName_text h
    refine ⟨by rw [heq]; rfl, hfree, ?_⟩
    rw [heq, ← htext]
    simpa using hdash
  · cases h
  · -- one dash
    rename_i cs _ _ heq
    obtain ⟨hdash, htext, hfree⟩ := lexName_text h
    refine ⟨by rw [heq]; rfl, hfree, ?_⟩
    rw [heq, ← htext]
    simpa using hdash
  · cases h

/-- A flag argument starts with a dash, and its name is the text behind all its leading
    dashes up to the first `=`. -/
theorem lex_flag {arg name : String} {value : Option String} (h : lex arg = .flag name value) :
    arg.toList.head? = some '-' ∧
    name = String.ofList ((arg.toList.dropWhile (· == '-')).takeWhile (· != '=')) := by
  obtain ⟨hhead, hfree, htext⟩ := lex_flag_text h
  refine ⟨hhead, ?_⟩
  have hname : ∀ c ∈ name.toList, (c != '=') = true := by
    intro c hc
    simp only [bne_iff_ne, ne_eq]
    rintro rfl
    exact hfree hc
  rw [htext, List.takeWhile_append_of_pos hname]
  cases value <;> simp

/-- The value is in the argument itself exactly where the argument has an `=`. -/
theorem mem_of_lex_flag {arg name : String} {value : Option String}
    (h : lex arg = .flag name value) : '=' ∈ arg.toList ↔ value.isSome := by
  obtain ⟨-, hfree, htext⟩ := lex_flag_text h
  have hsplit := List.takeWhile_append_dropWhile (p := (· == '-')) (l := arg.toList)
  -- what is in front of the name is dashes
  have hdashes : '=' ∉ arg.toList.takeWhile (· == '-') := by
    intro hmem
    have := List.mem_takeWhile_imp hmem
    simp at this
  rw [← hsplit, htext, List.mem_append, List.mem_append]
  cases value with
  | none => simp [hdashes, hfree]
  | some v => simp

end GoFlag
