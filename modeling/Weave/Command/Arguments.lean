import Weave.Text.Basic

/-!
# Command line arguments

The arguments of the program are options, a verb, and then the options and the operands of the
verb.  They are read from left to right, and the first that does not fit ends the reading.  Some
options may stand on either side of the verb.

Without a verb in front, the first operand is the file of a `render`.
-/

namespace Weave.Command

/-! ## Verbs and options -/

/-- What the program can be told to do. -/
inductive Verb where
  | render
  | index
  | extract
  | annotate
  | test
  deriving DecidableEq, Repr, Inhabited

/-- The options, each of some verbs or of all. -/
inductive Opt where
  | noColor
  | verbose
  | config
  | help
  | version
  | json
  | corpus
  | projectRoot
  | stripDocstrings
  | solutions
  | stripDocstring
  | category
  | listCategories
  deriving DecidableEq, Repr, Inhabited

/-- What stands behind an option. -/
inductive Opt.Argument where
  | none
  /-- A path, which is not empty. -/
  | path
  | text
  deriving DecidableEq, Repr, Inhabited

namespace Opt

/-- The name of an option behind its two dashes. -/
def name : Opt → Text
  | noColor => "no-color"
  | verbose => "verbose"
  | config => "config"
  | help => "help"
  | version => "version"
  | json => "json"
  | corpus => "corpus"
  | projectRoot => "project-root"
  | stripDocstrings => "strip-docstrings"
  | solutions => "solutions"
  | stripDocstring => "strip-docstring"
  | category => "category"
  | listCategories => "list-categories"

/-- The letter that stands for an option behind one dash. -/
def letter? : Opt → Option Char
  | verbose => some 'v'
  | help => some 'h'
  | version => some 'V'
  | category => some 'c'
  | _ => none

/-- What stands behind an option. -/
def argument : Opt → Argument
  | config => .path
  | corpus => .path
  | projectRoot => .path
  | category => .text
  | _ => .none

/-- Whether an option may be given more than once. -/
def repeats : Opt → Bool
  | verbose => true
  | category => true
  | _ => false

/-- The options that may stand on either side of the verb. -/
def shared : List Opt := [noColor, verbose, config, help]

end Opt

namespace Verb

/-- The verbs by their names. -/
def names : List (Text × Verb) :=
  [("render".toList, render), ("index".toList, index), ("extract".toList, extract),
    ("annotate".toList, annotate), ("test".toList, test)]

/-- The options behind a verb. -/
def options : Verb → List Opt
  | render => Opt.shared ++ [.json, .corpus, .projectRoot, .stripDocstrings]
  | index => Opt.shared ++ [.corpus, .solutions]
  | extract => Opt.shared ++ [.stripDocstring]
  | annotate => Opt.shared ++ [.corpus]
  | test => Opt.shared ++ [.category, .listCategories]

/-- The number of operands of a verb. -/
def operandCount : Verb → Nat
  | render => 1
  | index => 0
  | extract => 2
  | annotate => 1
  | test => 1

end Verb

/-! ## Reading -/

/-- Why the arguments do not tell the program to do something. -/
inductive Interruption where
  | misuse
  | help
  | version
  deriving DecidableEq, Repr, Inhabited

/-- The options and operands that were read. -/
structure Given where
  options : List (Opt × Text)
  operands : List Text
  deriving DecidableEq, Repr, Inhabited

namespace Given

/-- Nothing has been read. -/
def none : Given := ⟨[], []⟩

/-- Whether an option was given. -/
def has (given : Given) (opt : Opt) : Bool := given.options.any (·.1 == opt)

/-- The values of an option, in order. -/
def values (given : Given) (opt : Opt) : List Text :=
  (given.options.filter (·.1 == opt)).map (·.2)

/-- The value of an option. -/
def value? (given : Given) (opt : Opt) : Option Text := (given.values opt).getLast?

/-- Adds an option with its value, which is empty when the option takes none. -/
def set (given : Given) (opt : Opt) (value : Text) : Except Interruption Given :=
  if opt = .help then .error .help
  else if opt = .version then .error .version
  else if given.has opt ∧ ¬opt.repeats then .error .misuse
  else if opt.argument = .path ∧ value.isEmpty then .error .misuse
  else .ok { given with options := given.options ++ [(opt, value)] }

/-- Adds an operand. -/
def addOperand (given : Given) (operand : Text) : Given :=
  { given with operands := given.operands ++ [operand] }

/-- Reads an option behind its two dashes.  The answer names the option if its value has to
follow. -/
def readName (given : Given) (known : List Opt) (arg : Text) :
    Except Interruption (Given × Option Opt) :=
  let (name, value) : Text × Option Text :=
    match Text.splitFirst? "=" arg with
    | some (name, value) => (name, some value)
    | Option.none => (arg, Option.none)
  match known.find? (·.name == name), value with
  | Option.none, _ => .error .misuse
  | some opt, some value =>
    if opt.argument = .none then .error .misuse
    else (given.set opt value).map fun given => (given, Option.none)
  | some opt, Option.none =>
    if opt.argument = .none then (given.set opt []).map fun given => (given, Option.none)
    else .ok (given, some opt)

/-- Reads the letters of options behind one dash.  The first option that takes a value takes the
rest of the letters, or else the answer names it. -/
def readLetters (given : Given) (known : List Opt) :
    Text → Except Interruption (Given × Option Opt)
  | [] => .ok (given, Option.none)
  | c :: rest =>
    match known.find? (·.letter? == some c) with
    | Option.none => .error .misuse
    | some opt =>
      if opt.argument = .none then
        (given.set opt []).bind fun given => readLetters given known rest
      else
        match rest with
        | [] => .ok (given, some opt)
        | '=' :: value => (given.set opt value).map fun given => (given, Option.none)
        | value => (given.set opt value).map fun given => (given, Option.none)

end Given

/-- Whether an argument is written as an option. -/
def isOption (arg : Text) : Bool := arg.startsWith "-" && arg != "-"

/-- Reads the options in front of the verb, and answers what follows them.  An option may lack its
value from the arguments before. -/
def readShared (pending : Option Opt) (given : Given) :
    List Text → Except Interruption (Given × List Text)
  | [] => if pending.isSome then .error .misuse else .ok (given, [])
  | arg :: args =>
    match pending with
    | some opt =>
      if isOption arg then .error .misuse
      else (given.set opt arg).bind fun given => readShared none given args
    | none =>
      if arg = "--" then .error .misuse
      else if !isOption arg then .ok (given, arg :: args)
      else
        let known := .version :: Opt.shared
        let read :=
          match Text.dropPrefix? "--" arg with
          | some name => given.readName known name
          | none => given.readLetters known (arg.drop 1)
        read.bind fun (given, pending) => readShared pending given args

/-- Reads the options and operands of a verb.  An option may lack its value from the arguments
before.  Behind two dashes everything is an operand. -/
def readVerb (verb : Verb) (pending : Option Opt) (given : Given) :
    List Text → Except Interruption Given
  | [] => if pending.isSome then .error .misuse else .ok given
  | arg :: args =>
    match pending with
    | some opt =>
      if isOption arg then .error .misuse
      else (given.set opt arg).bind fun given => readVerb verb none given args
    | none =>
      if arg = "--" then .ok (args.foldl Given.addOperand given)
      else if !isOption arg then
        if given.operands.length < verb.operandCount then
          readVerb verb none (given.addOperand arg) args
        else .error .misuse
      else
        let read :=
          match Text.dropPrefix? "--" arg with
          | some name => given.readName verb.options name
          | none => given.readLetters verb.options (arg.drop 1)
        read.bind fun (given, pending) => readVerb verb pending given args

/-- The arguments with a verb.  The first one that is no option, and no value of a separate
`--config`, is taken for a verb or for the file of a `render`. -/
def insertVerb (afterConfig : Bool) : List Text → List Text
  | [] => []
  | arg :: args =>
    if arg.startsWith "-" ∨ afterConfig then arg :: insertVerb (arg == "--config") args
    else if arg = "help" ∨ (Verb.names.lookup arg).isSome then arg :: args
    else "render".toList :: arg :: args

/-! ## Invocations -/

/-- A document that is to be rendered. -/
structure Rendering where
  file : Text
  json : Bool
  /-- The corpus, if it is not to be the configured one. -/
  corpus : Option Text
  /-- The base of fence paths, if it is not to be the configured one. -/
  projectRoot : Option Text
  stripDocstrings : Bool
  deriving DecidableEq, Repr, Inhabited

/-- A verb with its operands and options. -/
inductive Action where
  | render (rendering : Rendering)
  | index (corpus : Option Text) (solutions : Bool)
  | extract (file symbol : Text) (stripDocstring : Bool)
  | annotate (file : Text) (corpus : Option Text)
  | test (path : Text) (categories : List Text) (listCategories : Bool)
  deriving DecidableEq, Repr, Inhabited

/-- The action of a verb with what was given behind it, unless operands are missing or too many. -/
def Action.ofGiven? (verb : Verb) (given : Given) : Option Action :=
  match verb, given.operands with
  | .render, [file] =>
    some (.render ⟨file, given.has .json, given.value? .corpus, given.value? .projectRoot,
      given.has .stripDocstrings⟩)
  | .index, [] => some (.index (given.value? .corpus) (given.has .solutions))
  | .extract, [file, symbol] => some (.extract file symbol (given.has .stripDocstring))
  | .annotate, [file] => some (.annotate file (given.value? .corpus))
  | .test, [path] => some (.test path (given.values .category) (given.has .listCategories))
  | _, _ => none

/-- What the arguments tell the program to do. -/
structure Invocation where
  colored : Bool
  /-- The path of the configuration file. -/
  config : Text
  action : Action
  deriving DecidableEq, Repr, Inhabited

/-- The configuration file that is read unless another one is named. -/
def standardConfigFile : Text := "codedoc.toml"

/-- The invocation of a verb.  Behind the verb a configuration file is named with more weight. -/
def Invocation.ofVerb (verb : Verb) (outer : Given) (args : List Text) :
    Except Interruption Invocation := do
  let given ← readVerb verb none .none args
  match Action.ofGiven? verb given with
  | none => throw .misuse
  | some action =>
    return {
      colored := !(outer.has .noColor || given.has .noColor)
      config := ((given.value? .config).or (outer.value? .config)).getD standardConfigFile
      action }

/-- Whether the arguments of `help` name at most one verb. -/
def namesHelpTopic : List Text → Bool
  | [] => true
  | [topic] => topic == "help" || (Verb.names.lookup topic).isSome
  | _ => false

/-- The invocation in the arguments. -/
def Invocation.ofArguments (args : List Text) : Except Interruption Invocation := do
  match ← readShared none .none (insertVerb false args) with
  | (_, []) => throw .misuse
  | (outer, name :: args) =>
    if name = "help" then throw (if namesHelpTopic args then .help else .misuse)
    else
      match Verb.names.lookup name with
      | some verb => Invocation.ofVerb verb outer args
      | none => throw .misuse

end Weave.Command
