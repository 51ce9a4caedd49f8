import LicenseAudit.Path.Basic
import LicenseAudit.Text.Numeral

/-!
# Command lines

What can be asked for on the command line, and how it is written.

* `Arguments` — a command with all its options;
* `Options` — options as they stand at one level, before the command or behind it. An option
  that takes a value is given at most once a level; behind the command it overrides the one
  before (`Options.over`);
* `Request` — what a command line asks for: a run, the version or help;
* `readCommandLine` — the request that a list of words writes down.

An option that takes a value is followed by it, or joined to it: `--year 2020`, `--year=2020`,
`-j 4`, `-j=4` and `-j4`. One-letter options may share a word. A word after `--` is never an
option.
-/

namespace LicenseAudit

/-- When output is coloured. -/
inductive ColorMode where
  /-- Where it goes to a terminal. -/
  | auto
  | never
  | always
deriving DecidableEq

/-- What a run does. -/
inductive Command where
  | lint
  | fix (target : String)
deriving DecidableEq

/-- The options of one level. -/
structure Options where
  root? : Option Path := none
  notice? : Option Path := none
  config? : Option Path := none
  noConfig : Bool := false
  year? : Option Int := none
  jobs? : Option Nat := none
  verbosity : Nat := 0
  quiet : Bool := false
  colors? : Option ColorMode := none
  reportPath? : Option Path := none
deriving DecidableEq

/-- The first of two that is present. -/
def firstOf {α : Type} (a b : Option α) : Option α := a.or b

/-- Options behind a command, over those before it. -/
def Options.over (inner outer : Options) : Options where
  root? := firstOf inner.root? outer.root?
  notice? := firstOf inner.notice? outer.notice?
  config? := firstOf inner.config? outer.config?
  noConfig := inner.noConfig || outer.noConfig
  year? := firstOf inner.year? outer.year?
  jobs? := firstOf inner.jobs? outer.jobs?
  verbosity := if inner.verbosity = 0 then outer.verbosity else inner.verbosity
  quiet := inner.quiet || outer.quiet
  colors? := firstOf inner.colors? outer.colors?
  reportPath? := firstOf inner.reportPath? outer.reportPath?

/-- A command with its options. -/
structure Arguments where
  options : Options
  command : Command
deriving DecidableEq

/-- What is wrong with a command line. -/
inductive UsageError where
  | unknownOption (word : String)
  | unexpectedWord (word : String)
  | repeatedOption (option : String)
  | missingValue (option : String)
  | unexpectedValue (option : String)
  | badValue (option value : String)
  | quietAndVerbose
  | missingCommand
  | missingTarget
deriving DecidableEq

/-- What is wrong with a command line, as a text. -/
def UsageError.message : UsageError → String
  | unknownOption word => "unknown option '" ++ word ++ "'"
  | unexpectedWord word => "unexpected word '" ++ word ++ "'"
  | repeatedOption option => "option '--" ++ option ++ "' is given more than once"
  | missingValue option => "option '--" ++ option ++ "' needs a value"
  | unexpectedValue option => "option '--" ++ option ++ "' takes no value"
  | badValue option value => "'" ++ value ++ "' is no value of option '--" ++ option ++ "'"
  | quietAndVerbose => "options '--quiet' and '--verbose' exclude each other"
  | missingCommand => "a command is needed: lint or fix"
  | missingTarget => "fix needs a target"

/-- What a command line asks for. -/
inductive Request where
  | run (arguments : Arguments)
  | version
  | help
deriving DecidableEq

/-! ## Values of options -/

/-- The number that an optional sign and decimal digits write down. -/
def decimalInteger? (text : String) : Option Int :=
  let (negative, digits) := match text.toList with
    | '-' :: rest => (true, rest)
    | '+' :: rest => (false, rest)
    | digits => (false, digits)
  if digits.isEmpty || !digits.all Char.isDigit then none
  else
    let n := Text.decimalValue digits
    some (if negative then -(n : Int) else n)

/-- The number that a text writes down, if it lies between two bounds. -/
def integerBetween? (low high : Int) (text : String) : Option Int :=
  match decimalInteger? text with
  | some n => if low ≤ n && n ≤ high then some n else none
  | none => none

/-- A path; the empty text is none. -/
def pathValue? (text : String) : Option Path := if text.isEmpty then none else some ⟨text⟩

/-- A year of 32 bits. -/
def yearValue? (text : String) : Option Int :=
  integerBetween? (-Int.pow 2 31) (Int.pow 2 31 - 1) text

/-- A number of jobs. -/
def jobsValue? (text : String) : Option Nat := (integerBetween? 1 65535 text).map Int.toNat

/-- A word that says when output is coloured. -/
def colorsValue? : String → Option ColorMode
  | "auto" => some .auto
  | "never" => some .never
  | "always" => some .always
  | _ => none

/-! ## Options by name -/

/-- The options that take a value. -/
inductive ValueOption where
  | root
  | notice
  | config
  | year
  | jobs
  | colors
  | reportJson
deriving DecidableEq

/-- The options that stand alone. -/
inductive FlagOption where
  | noConfig
  | verbose
  | quiet
  | help
  | version
deriving DecidableEq

/-- Any option. -/
inductive AnyOption where
  | value (o : ValueOption)
  | flag (o : FlagOption)
deriving DecidableEq

/-- The long name of an option with a value. -/
def ValueOption.name : ValueOption → String
  | root => "root"
  | notice => "notice"
  | config => "config"
  | year => "year"
  | jobs => "jobs"
  | colors => "colors"
  | reportJson => "report-json"

/-- The long name of an option without value. -/
def FlagOption.name : FlagOption → String
  | noConfig => "no-config"
  | verbose => "verbose"
  | quiet => "quiet"
  | help => "help"
  | version => "version"

/-- All options with a value. -/
def valueOptions : List ValueOption :=
  [.root, .notice, .config, .year, .jobs, .colors, .reportJson]

/-- All options without value. Only before a command the version can be asked for. -/
def flagOptions (behindCommand : Bool) : List FlagOption :=
  [.noConfig, .verbose, .quiet, .help] ++ if behindCommand then [] else [.version]

/-- The option with a long name. -/
def longOption? (behindCommand : Bool) (name : String) : Option AnyOption :=
  ((valueOptions.find? (·.name == name)).map AnyOption.value).or
    (((flagOptions behindCommand).find? (·.name == name)).map AnyOption.flag)

/-- The option with a one-letter name. -/
def shortOption? (behindCommand : Bool) : Char → Option AnyOption
  | 'j' => some (.value .jobs)
  | 'v' => some (.flag .verbose)
  | 'q' => some (.flag .quiet)
  | 'h' => some (.flag .help)
  | 'V' => if behindCommand then none else some (.flag .version)
  | _ => none

/-- Stores a value that was read, unless there is one already. -/
def storeOnce {α : Type} (o : ValueOption) (text : String) (old? new? : Option α) :
    Except UsageError (Option α) :=
  match old?, new? with
  | _, none => .error (.badValue o.name text)
  | some _, some _ => .error (.repeatedOption o.name)
  | none, some a => .ok (some a)

namespace Options

/-- Gives an option its value. -/
def setValue (s : Options) (o : ValueOption) (text : String) : Except UsageError Options := do
  match o with
  | .root => return { s with root? := ← storeOnce o text s.root? (pathValue? text) }
  | .notice => return { s with notice? := ← storeOnce o text s.notice? (pathValue? text) }
  | .config => return { s with config? := ← storeOnce o text s.config? (pathValue? text) }
  | .year => return { s with year? := ← storeOnce o text s.year? (yearValue? text) }
  | .jobs => return { s with jobs? := ← storeOnce o text s.jobs? (jobsValue? text) }
  | .colors => return { s with colors? := ← storeOnce o text s.colors? (colorsValue? text) }
  | .reportJson =>
    return { s with reportPath? := ← storeOnce o text s.reportPath? (pathValue? text) }

/-- Whether quiet and verbose output are asked for at once. -/
def isContradictory (s : Options) : Bool := s.quiet && 0 < s.verbosity

end Options

/-! ## Reading words -/

/-- The commands by name. -/
inductive CommandName where
  | lint
  | fix
  | help
deriving DecidableEq

/-- The command with a name. -/
def commandNamed? : String → Option CommandName
  | "lint" => some .lint
  | "fix" => some .fix
  | "help" => some .help
  | _ => none

/-- What is known after some words: the command, the options before it and behind it, the
option that waits for its value, whether all further words are operands, and the operands. -/
structure WordState where
  command? : Option CommandName
  outer : Options
  inner : Options
  waiting? : Option ValueOption
  onlyOperands : Bool
  operands : List String

/-- Why reading stops before the last word. -/
inductive Stop where
  | answered (r : Request)
  | failed (e : UsageError)
deriving DecidableEq

namespace WordState

/-- Before the first word. -/
def start : WordState := ⟨none, {}, {}, none, false, []⟩

/-- Whether the command was read. -/
def behindCommand (s : WordState) : Bool := s.command?.isSome

/-- The options of the level that is being read. -/
def options (s : WordState) : Options := if s.behindCommand then s.inner else s.outer

/-- Changes the options of the level that is being read. -/
def withOptions (s : WordState) (o : Options) : WordState :=
  if s.behindCommand then { s with inner := o } else { s with outer := o }

/-- Gives an option its value. -/
def give (s : WordState) (o : ValueOption) (text : String) : Except Stop WordState :=
  match s.options.setValue o text with
  | .ok options => .ok { s.withOptions options with waiting? := none }
  | .error e => .error (.failed e)

/-- Ends the wait for a value: only the option for colours can do without one. -/
def settle (s : WordState) : Except Stop WordState :=
  match s.waiting? with
  | none => .ok s
  | some .colors => s.give .colors "always"
  | some o => .error (.failed (.missingValue o.name))

/-- Sets an option without value. Options other than `--verbose` may not be repeated. -/
def raise (s : WordState) : FlagOption → Except Stop WordState
  | .help => .error (.answered .help)
  | .version => .error (.answered .version)
  | .verbose => .ok (s.withOptions { s.options with verbosity := s.options.verbosity + 1 })
  | .quiet =>
    if s.options.quiet then .error (.failed (.repeatedOption FlagOption.quiet.name))
    else .ok (s.withOptions { s.options with quiet := true })
  | .noConfig =>
    if s.options.noConfig then .error (.failed (.repeatedOption FlagOption.noConfig.name))
    else .ok (s.withOptions { s.options with noConfig := true })

/-- Reads a long option, given without its hyphens. -/
def readLong (s : WordState) (text : List Char) : Except Stop WordState :=
  let name := String.ofList (text.takeWhile (· != '='))
  let value? := match text.dropWhile (· != '=') with
    | _ :: value => some (String.ofList value)
    | [] => none
  match longOption? s.behindCommand name, value? with
  | none, _ => .error (.failed (.unknownOption ("--" ++ name)))
  | some (.flag o), none => s.raise o
  | some (.flag o), some _ => .error (.failed (.unexpectedValue o.name))
  | some (.value o), some value => s.give o value
  | some (.value o), none => .ok { s with waiting? := some o }

/-- The value that is joined to a one-letter option, with or without an equals sign. -/
def joinedValue? : List Char → Option String
  | [] => none
  | '=' :: value => some (String.ofList value)
  | value => some (String.ofList value)

/-- Reads one-letter options, given without the hyphen. -/
def readShort (s : WordState) : List Char → Except Stop WordState
  | [] => .ok s
  | c :: rest =>
    match shortOption? s.behindCommand c with
    | none => .error (.failed (.unknownOption (String.ofList ['-', c])))
    | some (.flag o) =>
      match s.raise o with
      | .ok s => readShort s rest
      | .error stop => .error stop
    | some (.value o) =>
      match joinedValue? rest with
      | some value => s.give o value
      | none => .ok { s with waiting? := some o }

/-- Takes a word as an operand of the command. -/
def takeOperand (s : WordState) (word : String) : Except Stop WordState :=
  let refused : Except Stop WordState := .error (.failed (.unexpectedWord word))
  match s.command?, s.operands with
  | some .fix, [] => .ok { s with operands := [word] }
  | some .help, [] =>
    if (commandNamed? word).isSome then .ok { s with operands := [word] } else refused
  | _, _ => refused

/-- Reads a word that is no option. -/
def readPlain (s : WordState) (word : String) : Except Stop WordState :=
  match s.waiting? with
  | some o => s.give o word
  | none =>
    match s.command?, commandNamed? word with
    | none, some command => .ok { s with command? := some command }
    | _, _ => s.takeOperand word

/-- Reads one word. -/
def step (s : WordState) (word : String) : Except Stop WordState :=
  if s.onlyOperands || s.command? = some .help then s.takeOperand word
  else match word.toList with
    | ['-', '-'] => return { ← s.settle with onlyOperands := true }
    | '-' :: '-' :: text => do readLong (← s.settle) text
    | '-' :: c :: rest => do readShort (← s.settle) (c :: rest)
    | _ => s.readPlain word

/-- What is asked for once all words are read. -/
def finish (s : WordState) : Except UsageError Request :=
  let asked (command : Command) : Except UsageError Request :=
    if s.outer.isContradictory || s.inner.isContradictory then .error .quietAndVerbose
    else .ok (.run ⟨s.inner.over s.outer, command⟩)
  match s.command?, s.operands with
  | none, _ => .error .missingCommand
  | some .help, _ => .ok .help
  | some .lint, _ => asked .lint
  | some .fix, target :: _ => asked (.fix target)
  | some .fix, [] => .error .missingTarget

end WordState

/-- The request that the words of a command line write down. -/
def readCommandLine (words : List String) : Except UsageError Request :=
  match words.foldlM WordState.step WordState.start >>= WordState.settle with
  | .ok s => s.finish
  | .error (.answered request) => .ok request
  | .error (.failed e) => .error e

end LicenseAudit
