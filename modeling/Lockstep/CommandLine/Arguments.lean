import Lockstep.Number.Numeral

/-!
The arguments of the program. An option is given by its long name or its letter. Its value follows in
the next argument, after an equals sign, or right after the letter; letters of options without a value
may stand together. No option may be given twice, and arguments that belong to no option are refused.
-/

namespace Lockstep

/-- The options of the program. -/
inductive OptionName where
  | seed
  | scenario
  | seeds
  | timeout
  | tickDuration
  | enableVisualization
  | layout
  | exitEarly
  | rerun
  | verbose
  | json
  | exportPath
  | help
deriving DecidableEq, Repr

namespace OptionName

def all : List OptionName :=
  [seed, scenario, seeds, timeout, tickDuration, enableVisualization, layout, exitEarly, rerun,
    verbose, json, exportPath, help]

def long : OptionName → String
  | seed => "seed"
  | scenario => "scenario"
  | seeds => "seeds"
  | timeout => "timeout"
  | tickDuration => "tick-duration"
  | enableVisualization => "enable-visualization"
  | layout => "layout"
  | exitEarly => "exit-early"
  | rerun => "rerun"
  | verbose => "verbose"
  | json => "json"
  | exportPath => "export"
  | help => "help"

def letter? : OptionName → Option Char
  | seed => some 's'
  | scenario => some 'S'
  | timeout => some 't'
  | verbose => some 'v'
  | help => some 'h'
  | _ => none

def takesValue : OptionName → Bool
  | seed => true
  | scenario => true
  | seeds => true
  | timeout => true
  | tickDuration => true
  | layout => true
  | exportPath => true
  | _ => false

def ofLong? (name : List Char) : Option OptionName :=
  all.find? fun o => o.long.toList == name

def ofLetter? (c : Char) : Option OptionName :=
  all.find? fun o => o.letter? == some c

/-- The placeholder for the value of an option. -/
def placeholder (o : OptionName) : String :=
  String.ofList (o.long.toList.map fun c => if c == '-' then '_' else c.toUpper)

def usage (o : OptionName) : String :=
  if o.takesValue then s!"--{o.long} <{o.placeholder}>" else s!"--{o.long}"

end OptionName

/-- What the arguments ask for. -/
structure Settings where
  seed : UInt64 := 42
  scenario : String := "all"
  seeds : Nat := 1
  timeout : Float := 3.0
  tickDuration : Float := 1.0 / 60.0
  enableVisualization : Bool := false
  layout : Option String := none
  exitEarly : Bool := false
  rerun : Bool := false
  verbose : Bool := false
  json : Bool := false
  exportPath : Option String := none

/-- Why arguments do not yield settings. Asking for help is one of the reasons. -/
inductive ArgumentError where
  | unexpected (argument : String)
  | repeated (o : OptionName)
  | missingValue (o : OptionName)
  | unneededValue (o : OptionName) (value : String)
  | invalidValue (o : OptionName) (value : String)
  | help
deriving DecidableEq

def ArgumentError.message : ArgumentError → String
  | unexpected argument => s!"unexpected argument '{argument}' found"
  | repeated o => s!"the argument '{o.usage}' cannot be used multiple times"
  | missingValue o => s!"a value is required for '{o.usage}' but none was supplied"
  | unneededValue o value => s!"unexpected value '{value}' for '{o.usage}' found; no more were expected"
  | invalidValue o value => s!"invalid value '{value}' for '{o.usage}'"
  | help => "help requested"

namespace Settings

/-- Puts the value of an option into the settings, `none` if the value does not suit it. -/
def put? (s : Settings) (o : OptionName) (value : String) : Option Settings :=
  match o with
  | .seed => (nat? UInt64.size value).map fun n => { s with seed := UInt64.ofNat n }
  | .scenario => some { s with scenario := value }
  | .seeds => (nat? UInt64.size value).map fun n => { s with seeds := n }
  | .timeout => (float? value).map fun x => { s with timeout := x }
  | .tickDuration => (float? value).map fun x => { s with tickDuration := x }
  | .enableVisualization => some { s with enableVisualization := true }
  | .layout => some { s with layout := some value }
  | .exitEarly => some { s with exitEarly := true }
  | .rerun => some { s with rerun := true }
  | .verbose => some { s with verbose := true }
  | .json => some { s with json := true }
  | .exportPath => some { s with exportPath := some value }
  | .help => some s

end Settings

/-- The settings while the arguments are read: the options given so far, the one whose value comes
next, and whether options are over. -/
structure ArgumentState where
  settings : Settings := {}
  given : List OptionName := []
  pending : Option OptionName := none
  optionsOver : Bool := false

namespace ArgumentState

/-- Enters an option with its value, empty for an option that takes none. -/
def enter (s : ArgumentState) (o : OptionName) (value : String) :
    Except ArgumentError ArgumentState :=
  match s.pending with
  | some p => .error (.missingValue p)
  | none =>
    if o = .help then .error .help
    else if o ∈ s.given then .error (.repeated o)
    else match s.settings.put? o value with
      | some settings => .ok { s with settings, given := o :: s.given }
      | none => .error (.invalidValue o value)

/-- Enters an option whose value is the next argument. -/
def await (s : ArgumentState) (o : OptionName) : Except ArgumentError ArgumentState :=
  match s.pending with
  | some p => .error (.missingValue p)
  | none => .ok { s with pending := some o }

/-- An option by its long name, with the part after an equals sign if there is one. -/
def longOption (s : ArgumentState) (name : List Char) (value : Option (List Char)) :
    Except ArgumentError ArgumentState :=
  match OptionName.ofLong? name with
  | none => .error (.unexpected ("--" ++ String.ofList name))
  | some o =>
    match o.takesValue, value with
    | true, some value => s.enter o (String.ofList value)
    | true, none => s.await o
    | false, some value => .error (.unneededValue o (String.ofList value))
    | false, none => s.enter o ""

/-- Options by their letters. The first one that takes a value takes the rest of the letters. -/
def letters (s : ArgumentState) : List Char → Except ArgumentError ArgumentState
  | [] => .ok s
  | c :: rest =>
    match OptionName.ofLetter? c with
    | none => .error (.unexpected ("-" ++ String.ofList [c]))
    | some o =>
      if o.takesValue then
        match rest with
        | [] => s.await o
        | '=' :: value => s.enter o (String.ofList value)
        | value => s.enter o (String.ofList value)
      else
        match s.enter o "" with
        | .error e => .error e
        | .ok s => s.letters rest

/-- An argument that is no option: the value that is waited for, or one too many. -/
def bare (s : ArgumentState) (argument : String) : Except ArgumentError ArgumentState :=
  match s.pending with
  | some o => { s with pending := none }.enter o argument
  | none => .error (.unexpected argument)

def next (s : ArgumentState) (argument : String) : Except ArgumentError ArgumentState :=
  if s.optionsOver then
    match s.pending with
    | some o => .error (.missingValue o)
    | none => .error (.unexpected argument)
  else
    match argument.toList with
    | ['-', '-'] => .ok { s with optionsOver := true }
    | '-' :: '-' :: name =>
      let flag := name.takeWhile (· != '=')
      match name.drop flag.length with
      | _ :: value => s.longOption flag (some value)
      | [] => s.longOption flag none
    | '-' :: c :: rest => s.letters (c :: rest)
    | _ => s.bare argument

end ArgumentState

/-- The settings of a list of arguments. -/
def Settings.ofArguments (arguments : List String) : Except ArgumentError Settings :=
  match arguments.foldlM ArgumentState.next {} with
  | .error e => .error e
  | .ok s =>
    match s.pending with
    | some o => .error (.missingValue o)
    | none => .ok s.settings

end Lockstep
