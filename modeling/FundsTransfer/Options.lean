/-!
# Options

The service has a title and a level of logging, which may be set in the environment.  The names of
variables are compared without regard to letter case, and of several that agree the last one counts.

Main definitions:

- `Options`: the options and their defaults.
- `Options.ofEnvironment`: the options that an environment sets.
- `Options.lastValue?`: the value that an environment gives to a variable.

Main results:

- Theorem `Options.set_congr`: the letter case of a name has no bearing.
- Theorem `Options.ofEnvironment_eq`: each option has the last value that the environment gives to its
  variable, or its default.
-/

namespace FundsTransfer

/-- The options of the service. -/
structure Options where
  title : String := "Payment Instructions API"
  logLevel : String := "INFO"
deriving DecidableEq, Repr

namespace Options

/-- The options after one variable of the environment; most variables have no bearing on them. -/
def set (options : Options) (name value : String) : Options :=
  let name := name.map Char.toUpper
  if name = "PAYMENTS_APP_NAME" then { options with title := value }
  else if name = "PAYMENTS_LOG_LEVEL" then { options with logLevel := value }
  else options

/-- The options that an environment sets. -/
def ofEnvironment (environment : List (String × String)) : Options :=
  environment.foldl (fun options (name, value) => options.set name value) {}

/-- Names that differ in letter case set the same option. -/
theorem set_congr {name other : String} (hname : name.map Char.toUpper = other.map Char.toUpper)
    (options : Options) (value : String) : options.set name value = options.set other value := by
  simp only [set, hname]

/-! ## The variable that counts -/

/-- The value of the last variable with a name, which is given in capitals. -/
def lastValue? (name : String) (environment : List (String × String)) : Option String :=
  (environment.reverse.find? fun entry => entry.1.map Char.toUpper == name).map Prod.snd

/-- A variable at the end hides those of its name in front of it, and no other. -/
theorem lastValue?_concat (name : String) (environment : List (String × String))
    (entry : String × String) :
    lastValue? name (environment ++ [entry]) =
      if entry.1.map Char.toUpper = name then some entry.2 else lastValue? name environment := by
  by_cases hname : entry.1.map Char.toUpper = name
  · simp [lastValue?, hname]
  · simp [lastValue?, hname]

/-- One more variable is set after all others. -/
theorem ofEnvironment_concat (environment : List (String × String)) (entry : String × String) :
    ofEnvironment (environment ++ [entry]) = (ofEnvironment environment).set entry.1 entry.2 := by
  simp [ofEnvironment]

/-- Each option has the last value that the environment gives to its variable, or its default. -/
theorem ofEnvironment_eq (environment : List (String × String)) :
    ofEnvironment environment =
      { title := (lastValue? "PAYMENTS_APP_NAME" environment).getD "Payment Instructions API"
        logLevel := (lastValue? "PAYMENTS_LOG_LEVEL" environment).getD "INFO" } := by
  -- The induction is on the environment from its end, where the variable stands that counts.
  rw [← environment.reverse_reverse]
  induction environment.reverse with
  | nil => rfl
  | cons entry rest ih =>
    rw [List.reverse_cons, ofEnvironment_concat, ih, lastValue?_concat, lastValue?_concat, set]
    by_cases htitle : entry.1.map Char.toUpper = "PAYMENTS_APP_NAME"
    · simp [htitle]
    · by_cases hlevel : entry.1.map Char.toUpper = "PAYMENTS_LOG_LEVEL" <;> simp [htitle, hlevel]

end Options

end FundsTransfer
