import HumidifierBridge.Text.Decimal

/-!
# The command line

`Invocation.ofArguments` reads the arguments from left to right. The first that asks for help or for
the version, or that cannot be used, decides. An option is given at most once, its value in the same
argument after an equals sign, or in the next one; there it must not look like an option.
-/

namespace HumidifierBridge

/-- What the program is to work with. -/
structure Options where
  configPath : String := "venta.toml"
  /-- How much to log; this goes before what the configuration says. -/
  debugLevel : Option UInt8 := none
  deriving DecidableEq

/-- What the command line asks for. -/
inductive Invocation where
  | run (options : Options)
  | help
  | version
  | unusable (complaint : String)
  deriving DecidableEq

/-- What the options so far give. -/
structure GivenOptions where
  configPath : Option String := none
  debugLevel : Option UInt8 := none
  deriving DecidableEq

namespace Invocation

/-- The options with a value. -/
inductive ValueOption where
  | configPath
  | debugLevel
  deriving DecidableEq

/-- The option of a name. -/
def ValueOption.ofName? : List Char → Option ValueOption
  | ['c', 'f', 'g', 'f', 'i', 'l', 'e'] => some .configPath
  | ['d', 'e', 'b', 'u', 'g', 'l', 'e', 'v', 'e', 'l'] => some .debugLevel
  | _ => none

/-- The level that a value gives, from 0 to 255. -/
def level? (value : List Char) : Option UInt8 :=
  (Decimal.signed? value).bind fun n =>
    if 0 ≤ n ∧ n < 256 then some (UInt8.ofNat n.toNat) else none

/-- Takes the value of an option that was not given before. -/
def give (given : GivenOptions) (o : ValueOption) (value : List Char) : Option GivenOptions :=
  match o with
  | .configPath =>
    if given.configPath.isSome || value.isEmpty then none
    else some { given with configPath := some (String.ofList value) }
  | .debugLevel =>
    if given.debugLevel.isSome then none
    else (level? value).map fun level => { given with debugLevel := some level }

/-- Does an argument look like an option? A single dash does not. -/
def looksLikeOption : List Char → Bool
  | '-' :: _ :: _ => true
  | _ => false

/-- What one argument says, apart from the value that may follow it. -/
inductive Meaning where
  | help
  | version
  /-- An option whose value is the next argument. -/
  | option (o : ValueOption)
  /-- An option with its value. -/
  | optionValue (o : ValueOption) (value : List Char)
  /-- All further arguments are no options. -/
  | rest
  | unusable
  deriving DecidableEq

/-- The name before an equals sign, and what comes after it, if there is one. -/
def splitEquals : List Char → List Char × Option (List Char)
  | [] => ([], none)
  | '=' :: value => ([], some value)
  | c :: text => ((c :: (splitEquals text).1), (splitEquals text).2)

/-- The meaning of an argument that starts with two dashes, after those. -/
def meaningOfLong (text : List Char) : Meaning :=
  match splitEquals text with
  | (name, none) =>
    if name = [] then .rest
    else if name = "help".toList then .help
    else if name = "version".toList then .version
    else match ValueOption.ofName? name with
      | some o => .option o
      | none => .unusable
  | (name, some value) =>
    match ValueOption.ofName? name with
    | some o => .optionValue o value
    | none => .unusable

/-- The meaning of an argument. -/
def meaning : List Char → Meaning
  | '-' :: '-' :: text => meaningOfLong text
  | '-' :: 'h' :: _ => .help
  | '-' :: 'V' :: _ => .version
  | _ => .unusable

/-- The options that come of those given. -/
def options (given : GivenOptions) : Options :=
  let default : Options := {}
  { configPath := given.configPath.getD default.configPath, debugLevel := given.debugLevel }

/-- The invocation of the arguments that are left, given what came before. -/
def read (given : GivenOptions) : List String → Invocation
  | [] => .run (options given)
  | argument :: rest =>
    let unusable := .unusable ("cannot use the argument '" ++ argument ++ "'")
    match meaning argument.toList with
    | .help => .help
    | .version => .version
    | .unusable => unusable
    | .rest => if rest.isEmpty then .run (options given) else unusable
    | .optionValue o value =>
      match give given o value with
      | some given => read given rest
      | none => unusable
    | .option o =>
      match rest with
      | [] => unusable
      | value :: rest =>
        if looksLikeOption value.toList then unusable
        else match give given o value.toList with
          | some given => read given rest
          | none => unusable

/-- What the command line asks for. -/
def ofArguments (arguments : List String) : Invocation := read {} arguments

end Invocation

/-- The text that explains the command line. -/
def helpText : String :=
  "Bridge a Venta humidifier into a digitalSTROM vDC host as a virtual device\n" ++
  "\n" ++
  "Usage: venta-vdc [OPTIONS]\n" ++
  "\n" ++
  "Options:\n" ++
  "      --cfgfile <PATH>  Configuration file, created as a template if missing " ++
  "[default: venta.toml]\n" ++
  "      --debuglevel <N>  Syslog style verbosity (0-10), overrides \x60debug\x60 " ++
  "from the file\n" ++
  "  -h, --help            Print help\n" ++
  "  -V, --version         Print version\n"

/-- The text that tells the version. -/
def versionText : String := "venta_vdc 0.1.0\n"

end HumidifierBridge
