import QuestionBank.Command.Path
import QuestionBank.Number.Reader
import QuestionBank.Text.Digit
import QuestionBank.Text.Quoted

/-!
# Options of the command

The command takes one input and options. A long option may be cut short as long as
it stays the only one with that beginning. A value follows its option, or stands
behind an equals sign, or right behind a short option. Of several values of one
option the last counts. A double hyphen ends the options.
-/

namespace QuestionBank.Command

open QuestionBank.Text

/-- An option of the command. -/
inductive Flag where
  | help
  | output
  | template
  | lang
  | workers
  | report
  | strict
  | verbose
  | version
  deriving DecidableEq

namespace Flag

/-- All options. -/
def all : List Flag :=
  [help, output, template, lang, workers, report, strict, verbose, version]

/-- The spellings of an option. -/
def spellings : Flag → List String
  | help => ["-h", "--help"]
  | output => ["-o", "--output"]
  | template => ["--variables"]
  | lang => ["--lang"]
  | workers => ["--workers"]
  | report => ["--report"]
  | strict => ["--strict"]
  | verbose => ["-v", "--verbose"]
  | version => ["--version"]

/-- The name of an option in messages. -/
def name (f : Flag) : String := "/".intercalate f.spellings

/-- Tells whether an option has a value. -/
def takesValue : Flag → Bool
  | output | template | lang | workers | report => true
  | help | strict | verbose | version => false

/-- Every spelling with its option. -/
def spelled : List (String × Flag) := all.flatMap fun f => f.spellings.map fun s => (s, f)

/-- The option with a spelling. -/
def ofSpelling? (s : String) : Option Flag := spelled.lookup s

end Flag

/-- What is wrong with the arguments. -/
inductive UsageError where
  | ambiguous (argument : String) (matching : List String)
  | valueExpected (flag : Flag)
  | valueIgnored (flag : Flag) (value : String)
  | notAnInteger (value : String)
  | inputRequired
  | unrecognized (arguments : List String)
  | inputMissing (path : String)
  | templateMissing (path : String)
  | templateDirectory (path : String)
  | templateNotObject (path : String)
  | templateUnreadable (reason : String)
  | setting (reason : String)
  deriving DecidableEq

/-- The wording of a usage error. -/
def UsageError.message : UsageError → String
  | ambiguous argument matching =>
    "ambiguous option: " ++ argument ++ " could match " ++ ", ".intercalate matching
  | valueExpected flag => "argument " ++ flag.name ++ ": expected one argument"
  | valueIgnored flag value =>
    "argument " ++ flag.name ++ ": ignored explicit argument " ++ quoted value
  | notAnInteger value => "argument --workers: invalid int value: " ++ quoted value
  | inputRequired => "the following arguments are required: input"
  | unrecognized arguments => "unrecognized arguments: " ++ " ".intercalate arguments
  | inputMissing path => "input file not found: " ++ path
  | templateMissing path => "Template variables file not found: " ++ path
  | templateDirectory path => "[Errno 21] Is a directory: " ++ quoted path
  | templateNotObject path => "Template variables must be a JSON object: " ++ path
  | templateUnreadable reason => reason
  | setting reason => reason

/-- What the arguments ask for. -/
structure Options where
  input : Option String := none
  output : Option String := none
  template : Option String := none
  lang : String := "en"
  workers : Int := 1
  report : Option String := none
  strict : Bool := false
  verbose : Bool := false
  deriving DecidableEq

/-- What ends the reading of arguments. -/
inductive Halt where
  | help
  | version
  | error (e : UsageError)
  deriving DecidableEq

/-! ## Kinds of arguments -/

/-- An argument. An option that is not known has no flag; `short` tells whether it is
spelled with one hyphen. -/
inductive Argument where
  | word (s : String)
  | option (flag : Flag) (short : Bool) (value : Option String)
  | unknown (s : String)
  | divider

/-- Splits a text at its first equals sign. -/
def splitEquals? (s : String) : Option (String × String) :=
  let name := s.toList.takeWhile (· != '=')
  if name.length = s.length then none
  else some (String.ofList name, String.ofList (s.toList.drop (name.length + 1)))

/-- Tells whether a spelling has one hyphen. -/
def isShort (s : String) : Bool := (s.toList.drop 1).head? != some '-'

/-- Tells whether a text is a negative number. -/
def isNegativeNumber (s : String) : Bool :=
  match s.toList with
  | '-' :: r =>
    let r := if r.getLast? = some '\n' then r.dropLast else r
    let whole := r.takeWhile isDecimal
    match r.drop whole.length with
    | [] => !whole.isEmpty
    | '.' :: fraction => !fraction.isEmpty && fraction.all isDecimal
    | _ => false
  | _ => false

/-- The options that an argument may stand for: spelling, flag and value. -/
def candidates (s : String) : List (String × Flag × Option String) :=
  if isShort s then
    Flag.spelled.filterMap fun (spelling, flag) =>
      if spelling.toList = s.toList.take 2 then
        some (spelling, flag, some (String.ofList (s.toList.drop 2)))
      else if s.toList.isPrefixOf spelling.toList then some (spelling, flag, none)
      else none
  else
    let (beginning, value) := match splitEquals? s with
      | some (name, value) => (name, some value)
      | none => (s, none)
    Flag.spelled.filterMap fun (spelling, flag) =>
      if beginning.toList.isPrefixOf spelling.toList then some (spelling, flag, value) else none

/-- The option that an argument with an equals sign spells in full. -/
def spelledWithValue? (s : String) : Option Argument :=
  match splitEquals? s with
  | some (name, value) =>
    (Flag.ofSpelling? name).map fun flag => .option flag (isShort name) (some value)
  | none => none

/-- The kind of an argument that begins with a hyphen. -/
def hyphenated (s : String) : Except UsageError Argument :=
  match Flag.ofSpelling? s with
  | some flag => .ok (.option flag (isShort s) none)
  | none =>
    if s.length = 1 then .ok (.word s)
    else
      match spelledWithValue? s with
      | some argument => .ok argument
      | none =>
        match candidates s with
        | [(spelling, flag, value)] => .ok (.option flag (isShort spelling) value)
        | [] => .ok (if isNegativeNumber s || s.toList.contains ' ' then .word s else .unknown s)
        | several => .error (.ambiguous s (several.map Prod.fst))

/-- The kinds of arguments. -/
def classify : List String → Except UsageError (List Argument)
  | [] => .ok []
  | s :: r =>
    if s = "--" then .ok (.divider :: r.map .word)
    else
      match if s.toList.head? = some '-' then hyphenated s else .ok (.word s) with
      | .error e => .error e
      | .ok argument => (classify r).map (argument :: ·)

/-! ## Reading -/

/-- Sets an option that has no value. -/
def Options.switch (o : Options) : Flag → Except Halt Options
  | .help => .error .help
  | .version => .error .version
  | .strict => .ok { o with strict := true }
  | .verbose => .ok { o with verbose := true }
  | _ => .ok o

/-- Sets an option to a value. -/
def Options.set (o : Options) (value : String) : Flag → Except Halt Options
  | .output => .ok { o with output := some (plainPath value) }
  | .template => .ok { o with template := some (plainPath value) }
  | .lang => .ok { o with lang := value }
  | .report => .ok { o with report := some (plainPath value) }
  | .workers =>
    match Number.readInt? value with
    | some n => .ok { o with workers := n }
    | none => .error (.error (.notAnInteger value))
  | _ => .ok o

/-- The options behind short options that have no value, as in `-vo`: those to switch on,
and the last one with its value. -/
def bundle (flag : Flag) (value : List Char) :
    Except UsageError (List Flag × Flag × Option String) :=
  if flag.takesValue then .ok ([], flag, some (String.ofList value))
  else
    match value with
    | [] => .error (.valueIgnored flag "")
    | c :: r =>
      match Flag.ofSpelling? (String.ofList ['-', c]) with
      | none => .error (.valueIgnored flag (String.ofList value))
      | some next =>
        if r.isEmpty then .ok ([flag], next, none)
        else (bundle next r).map fun (switched, last) => (flag :: switched, last)

/-- The options that one argument names: those to switch on, and the last one with its
value. -/
def named (flag : Flag) (short : Bool) :
    Option String → Except UsageError (List Flag × Flag × Option String)
  | none => .ok ([], flag, none)
  | some value =>
    if flag.takesValue then .ok ([], flag, some value)
    else if short then bundle flag value.toList
    else .error (.valueIgnored flag value)

/-- Switches on several options. -/
def Options.switchAll (o : Options) (flags : List Flag) : Except Halt Options :=
  flags.foldlM Options.switch o

/-- Reads arguments behind the last option: words, and perhaps a divider. -/
def readWords (o : Options) (unread : List String) : List Argument → Options × List String
  | [] => (o, unread)
  | .word s :: .divider :: r =>
    if o.input.isNone then readWords { o with input := some (plainPath s) } unread r
    else readWords o (unread ++ [s, "--"]) r
  | .divider :: .word s :: r =>
    if o.input.isNone then readWords { o with input := some (plainPath s) } unread r
    else readWords o (unread ++ ["--", s]) r
  | .word s :: r =>
    if o.input.isNone then readWords { o with input := some (plainPath s) } unread r
    else readWords o (unread ++ [s]) r
  | .divider :: r => readWords o (unread ++ ["--"]) r
  | _ :: r => readWords o unread r

/-- Tells whether an argument is an option. -/
def Argument.isOption : Argument → Bool
  | option .. => true
  | unknown _ => true
  | _ => false

/-- Reads arguments in order; `unread` holds those that mean nothing. -/
def readArguments (o : Options) (unread : List String) :
    List Argument → Except Halt (Options × List String)
  | [] => .ok (o, unread)
  | .unknown s :: r => readArguments o (unread ++ [s]) r
  | .word s :: r =>
    if !r.any Argument.isOption then .ok (readWords o unread (.word s :: r))
    else if o.input.isNone then readArguments { o with input := some (plainPath s) } unread r
    else readArguments o (unread ++ [s]) r
  | .divider :: r => .ok (readWords o unread (.divider :: r))
  | .option flag short value :: r =>
    match named flag short value with
    | .error e => .error (.error e)
    | .ok (switched, last, value) =>
      match value, r with
      | some value, r =>
        match o.switchAll switched with
        | .error h => .error h
        | .ok o =>
          match o.set value last with
          | .error h => .error h
          | .ok o => readArguments o unread r
      | none, .word s :: rest =>
        if last.takesValue then
          match o.switchAll switched with
          | .error h => .error h
          | .ok o =>
            match o.set s last with
            | .error h => .error h
            | .ok o => readArguments o unread rest
        else
          match o.switchAll (switched ++ [last]) with
          | .error h => .error h
          | .ok o => readArguments o unread (.word s :: rest)
      | none, r =>
        if last.takesValue then .error (.error (.valueExpected last))
        else
          match o.switchAll (switched ++ [last]) with
          | .error h => .error h
          | .ok o => readArguments o unread r

/-- What arguments ask for. There must be an input, and no argument without meaning. -/
def Options.ofArguments (arguments : List String) : Except Halt Options :=
  match classify arguments with
  | .error e => .error (.error e)
  | .ok kinds =>
    match readArguments {} [] kinds with
    | .error h => .error h
    | .ok (o, unread) =>
      if o.input.isNone then .error (.error .inputRequired)
      else if !unread.isEmpty then .error (.error (.unrecognized unread))
      else .ok o

end QuestionBank.Command
