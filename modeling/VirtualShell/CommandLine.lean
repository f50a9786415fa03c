import VirtualShell.Text.Integer
import VirtualShell.Text.Pieces

/-!
Contract: what the arguments of the program ask for.

Owns:
- `Flag` and its spellings, and `CommandLine`, what the flags have set.
- `Reading`, what each argument is taken for before any of them is carried out.
- `CommandLine.read`, the settings, or `Refusal`, why the program ends at once.

The rules:
- A flag is spelled out, or abbreviated if it starts with two dashes and only one
  flag starts so. A value stands behind an equals sign, right behind a flag of one
  letter, or in the next argument.
- An argument that starts with a dash is no value, unless it is a single dash, a
  negative number, or no flag and has a space in it.
- All abbreviations are judged first. Then the flags are carried out in order, the
  later one in place of the earlier one, up to the first that ends the program.
  Arguments that belong to no flag are complained about last.
-/

namespace VirtualShell

/-- What can be asked for. -/
inductive Flag where
  | help
  | command
  | cwd
  | callDepth
  | commandCount
  | loopPasses
deriving DecidableEq, Repr

/-- What the flags have set. -/
structure CommandLine where
  command : Option String
  cwd : Option String
  callDepth : Option Int
  commandCount : Option Int
  loopPasses : Option Int
deriving DecidableEq, Repr

/-- Why the program ends at once: it was asked how it is used, or it was misused. -/
inductive Refusal where
  | help
  | misuse
deriving DecidableEq, Repr

/-- The exit code that a refusal ends with. -/
def Refusal.exitCode : Refusal → Nat
  | .help => 0
  | .misuse => 2

/-- What an argument has behind its flag: nothing, a text behind an equals sign, or a
text right behind the flag. -/
inductive Attachment where
  | nothing
  | assigned (text : List Char)
  | joined (text : List Char)
deriving DecidableEq, Repr

/-- What an argument is taken for. -/
inductive Reading where
  | value
  | separator
  | unknown
  | flag (flag : Flag) (attachment : Attachment)
deriving DecidableEq, Repr

namespace Flag

/-- The ways to spell a flag out. -/
def spellings : List (String × Flag) :=
  [("-h", help), ("--help", help), ("-c", command), ("--cwd", cwd),
    ("--max-call-depth", callDepth), ("--max-command-count", commandCount),
    ("--max-loop-iterations", loopPasses)]

/-- The flag that is spelled out so. -/
def ofSpelling? (spelling : List Char) : Option Flag :=
  (spellings.find? fun entry => entry.1.toList == spelling).map Prod.snd

/-- The flags that have a spelling that starts so. -/
def abbreviatedBy (opening : List Char) : List Flag :=
  (spellings.filter fun entry => opening.isPrefixOf entry.1.toList).map Prod.snd

end Flag

namespace Reading

/-- Whether a text is a negative number; a line break behind it does not matter. -/
def isNegativeNumber : List Char → Bool
  | '-' :: magnitude =>
      let bare := if magnitude.getLast? = some '\n' then magnitude.dropLast else magnitude
      match Text.cutAt '.' bare with
      | some (whole, fraction) =>
          whole.all Text.isDecimal && !fraction.isEmpty && fraction.all Text.isDecimal
      | none => !bare.isEmpty && bare.all Text.isDecimal
  | _ => false

/-- What an argument is taken for that starts with a dash and is no flag. -/
def ofDashed (argument : List Char) : Reading :=
  if isNegativeNumber argument || argument.contains ' ' then .value else .unknown

/-- What an argument is taken for that starts with two dashes and spells out no flag. -/
def ofAbbreviation (argument : List Char) : Except Refusal Reading :=
  let (opening, attachment) := match Text.cutAt '=' argument with
    | some (opening, text) => (opening, Attachment.assigned text)
    | none => (argument, .nothing)
  match Flag.abbreviatedBy opening with
  | [] => .ok (ofDashed argument)
  | [found] => .ok (.flag found attachment)
  | _ => .error .misuse

/-- What an argument is taken for that spells out no flag, not even before an equals
sign. -/
def ofInexact : List Char → Except Refusal Reading
  | '-' :: '-' :: rest => ofAbbreviation ('-' :: '-' :: rest)
  | '-' :: letter :: rest =>
      match Flag.ofSpelling? ['-', letter] with
      | some found => .ok (.flag found (.joined rest))
      | none => .ok (ofDashed ('-' :: letter :: rest))
  | _ => .ok .value

/-- What an argument is taken for that does not stand behind a separator. -/
def ofArgument (argument : List Char) : Except Refusal Reading :=
  if argument.head? != some '-' then .ok .value
  else
    match Flag.ofSpelling? argument with
    | some found => .ok (.flag found .nothing)
    | none =>
        match Text.cutAt '=' argument with
        | some (opening, text) =>
            match Flag.ofSpelling? opening with
            | some found => .ok (.flag found (.assigned text))
            | none => ofInexact argument
        | none => ofInexact argument

/-- What each argument is taken for. Behind two dashes alone, everything is a value. -/
def all : List String → Except Refusal (List (String × Reading))
  | [] => .ok []
  | "--" :: rest => .ok (("--", .separator) :: rest.map fun argument => (argument, .value))
  | argument :: rest => do
      let reading ← ofArgument argument.toList
      let readings ← all rest
      return (argument, reading) :: readings

end Reading

namespace CommandLine

/-- The settings when no flag is given. -/
def empty : CommandLine := ⟨none, none, none, none, none⟩

/-- A value that should be an integer. -/
def readCap (value : String) : Except Refusal (Option Int) :=
  match Text.readInteger value with
  | .ok cap => .ok (some cap)
  | .error _ => .error .misuse

/-- The settings after one more flag with a value. -/
def set (settings : CommandLine) (flag : Flag) (value : String) :
    Except Refusal CommandLine :=
  match flag with
  | .help => .error .help
  | .command => .ok { settings with command := some value }
  | .cwd => .ok { settings with cwd := some value }
  | .callDepth => do return { settings with callDepth := ← readCap value }
  | .commandCount => do return { settings with commandCount := ← readCap value }
  | .loopPasses => do return { settings with loopPasses := ← readCap value }

/-- Whether the next argument is a value. -/
def valueFollows : List (String × Reading) → Bool
  | (_, .value) :: _ => true
  | _ => false

/-- The end of a program that is asked for help in an argument which goes on behind that
flag: what follows are flags of one letter, and one of them may need a value. -/
def refusalBehindHelp (rest : List (String × Reading)) : List Char → Refusal
  | '-' :: _ => .misuse
  | ['h'] => .help
  | 'h' :: '=' :: _ => .misuse
  | 'h' :: more => refusalBehindHelp rest more
  | ['c'] => if valueFollows rest then .help else .misuse
  | _ => .help

/-- The end of a program that is asked for help. -/
def refusalForHelp (rest : List (String × Reading)) : Attachment → Refusal
  | .nothing => .help
  | .assigned _ => .misuse
  | .joined text => refusalBehindHelp rest text

/-- The settings once all flags are carried out. `strays` says that there have been
arguments which belong to no flag. -/
def carryOut (settings : CommandLine) (strays : Bool) :
    List (String × Reading) → Except Refusal CommandLine
  | [] => if strays then .error .misuse else .ok settings
  | (_, .flag .help attachment) :: rest => .error (refusalForHelp rest attachment)
  | (_, .flag flag (.assigned text)) :: rest => do
      carryOut (← settings.set flag (String.ofList text)) strays rest
  | (_, .flag flag (.joined text)) :: rest => do
      carryOut (← settings.set flag (String.ofList text)) strays rest
  | (_, .flag flag .nothing) :: (value, .value) :: rest => do
      carryOut (← settings.set flag value) strays rest
  | (_, .flag _ .nothing) :: _ => .error .misuse
  | _ :: rest => carryOut settings true rest

/-- What some arguments ask for. -/
def read (arguments : List String) : Except Refusal CommandLine := do
  carryOut empty false (← Reading.all arguments)

end CommandLine

end VirtualShell
