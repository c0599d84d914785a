import RoleVault.Settings.Load

/-!
Contract: the words of a command line.

Owns: the commands of the administration tool and reading one from words.

Does not own: carrying a command out (`RoleVault.CommandLine.Program`).

Words are read from the left, and the first that does not fit ends the reading.  The option
`--config` may stand before or after the name of the command; an environment variable stands in for
it where it is missing.
-/

namespace RoleVault.CommandLine

open RoleVault.Settings (Environment)

inductive Command where
  | version
  | migrate
  | setup (force : Bool)
  | addOperator (name : String) (displayName : Option String)
  | sealUser (name : String)
  | sealAll
  | login (name : String) (minutes : Option Nat)
  | whoami
  | checkConfig
deriving DecidableEq, Repr

/-- A command, and the file of settings that it is told to use. -/
structure Arguments where
  config : Option String
  command : Command
deriving DecidableEq, Repr

inductive Stop where
  | help
  | version
  | misuse
deriving DecidableEq, Repr

/-- What a command expects after its name, beside `--config`. -/
structure Shape where
  name : String
  /-- Whether it expects the name of a user. -/
  named : Bool := false
  flags : List String := []
  options : List String := []
deriving DecidableEq, Repr

def shapes : List Shape := [
  ⟨"version", false, [], []⟩,
  ⟨"migrate", false, [], []⟩,
  ⟨"setup", false, ["force"], []⟩,
  ⟨"add-operator", true, [], ["display-name"]⟩,
  ⟨"seal-user", true, [], []⟩,
  ⟨"seal-all", false, [], []⟩,
  ⟨"login", true, [], ["ttl-minutes"]⟩,
  ⟨"whoami", false, [], []⟩,
  ⟨"check-config", false, [], []⟩]

/-! ## Words -/

inductive Word where
  /-- Two hyphens: all that follows are plain words. -/
  | divider
  /-- A name after two hyphens, and a value after an equals sign. -/
  | long (name : String) (value : Option String)
  /-- Letters after one hyphen. -/
  | short (letters : List Char)
  | plain (text : String)
deriving DecidableEq, Repr

/-- The texts before and after the first equals sign. -/
def splitValue (chars : List Char) : String × Option String :=
  let name := String.ofList (chars.takeWhile (· != '='))
  match chars.dropWhile (· != '=') with
  | [] => (name, none)
  | _ :: value => (name, some (String.ofList value))

/-- What a word is; a single hyphen is a plain word. -/
def Word.of (text : String) : Word :=
  match text.toList with
  | ['-', '-'] => .divider
  | '-' :: '-' :: rest =>
    let (name, value) := splitValue rest
    .long name value
  | ['-'] => .plain text
  | '-' :: letters => .short letters
  | _ => .plain text

/-! ## Options -/

/-- What was read so far. -/
structure Gathered where
  name : Option String := none
  flags : List String := []
  values : List (String × String) := []
deriving DecidableEq, Repr

/-- Whether a value suits an option: a path is not empty, and minutes are a number. -/
def suits (option value : String) : Bool :=
  if option = "config" then !value.isEmpty
  else if option = "ttl-minutes" then (Environment.parseCount? value).isSome
  else true

def Gathered.withValue (gathered : Gathered) (option value : String) : Except Stop Gathered :=
  if (gathered.values.lookup option).isNone && suits option value then
    .ok { gathered with values := (option, value) :: gathered.values }
  else .error .misuse

def Gathered.withFlag (gathered : Gathered) (flag : String) : Except Stop Gathered :=
  if gathered.flags.contains flag then .error .misuse
  else .ok { gathered with flags := flag :: gathered.flags }

/-- The name of the user, if one is expected and there is none yet. -/
def Gathered.withName (gathered : Gathered) (shape : Shape) (name : String) :
    Except Stop Gathered :=
  if shape.named && gathered.name.isNone then .ok { gathered with name := some name }
  else .error .misuse

def gatherPlain (shape : Shape) : List String → Gathered → Except Stop Gathered
  | [], gathered => .ok gathered
  | word :: rest, gathered => do gatherPlain shape rest (← gathered.withName shape word)

/-- The words after the name of a command; `pending` is an option whose value comes next. -/
def gather (shape : Shape) : (pending : Option String) → List String → Gathered →
    Except Stop Gathered
  | none, [], gathered => .ok gathered
  | some _, [], _ => .error .misuse
  | some option, word :: rest, gathered =>
    match Word.of word with
    | .plain value => do gather shape none rest (← gathered.withValue option value)
    | _ => .error .misuse
  | none, word :: rest, gathered =>
    match Word.of word with
    | .divider => gatherPlain shape rest gathered
    | .plain text => do gather shape none rest (← gathered.withName shape text)
    | .short ('h' :: _) => .error .help
    | .short _ => .error .misuse
    | .long name (some value) =>
      if name = "config" || shape.options.contains name then do
        gather shape none rest (← gathered.withValue name value)
      else .error .misuse
    | .long name none =>
      if name = "config" || shape.options.contains name then gather shape (some name) rest gathered
      else if name = "help" then .error .help
      else if shape.flags.contains name then do gather shape none rest (← gathered.withFlag name)
      else .error .misuse

/-- The words after `help`: the name of a command or none. -/
def helpOn : List String → Stop
  | [] => .help
  | [name] => if name = "help" || shapes.any (·.name == name) then .help else .misuse
  | _ => .misuse

/-- What stands before the name of a command: nothing, `--config` with its value still to come, or
with its value. -/
inductive Front where
  | empty
  | awaiting
  | config (value : String)
deriving DecidableEq, Repr

/-- The value of `--config`, if it is given once and suits. -/
def Front.withValue (front : Front) (value : String) : Except Stop Front :=
  match front with
  | config _ => .error .misuse
  | _ => if suits "config" value then .ok (config value) else .error .misuse

/-- The value of `--config` before the name of the command. -/
def Front.value? : Front → Option String
  | config value => some value
  | _ => none

/-- The words of a whole command line: the value of `--config` before the command, the shape of the
command, and what stands after its name. -/
def gatherAll : Front → List String → Except Stop (Option String × Shape × Gathered)
  | _, [] => .error .misuse
  | .awaiting, word :: rest =>
    match Word.of word with
    | .plain value => do gatherAll (← Front.withValue .awaiting value) rest
    | _ => .error .misuse
  | front, word :: rest =>
    match Word.of word with
    | .divider => .error .misuse
    | .short ('h' :: _) => .error .help
    | .short ('V' :: _) => .error .version
    | .short _ => .error .misuse
    | .plain text =>
      match shapes.find? (·.name == text) with
      | some shape => do return (front.value?, shape, ← gather shape none rest {})
      | none => .error (if text = "help" then helpOn rest else .misuse)
    | .long "config" (some value) => do gatherAll (← front.withValue value) rest
    | .long "config" none => if front = .empty then gatherAll .awaiting rest else .error .misuse
    | .long "help" none => .error .help
    | .long "version" none => .error .version
    | .long _ _ => .error .misuse

/-! ## Commands -/

def Command.of? (shape : Shape) (gathered : Gathered) : Option Command :=
  let minutes := (gathered.values.lookup "ttl-minutes").bind Environment.parseCount?
  match shape.name, gathered.name with
  | "version", none => some .version
  | "migrate", none => some .migrate
  | "setup", none => some (.setup (gathered.flags.contains "force"))
  | "add-operator", some name => some (.addOperator name (gathered.values.lookup "display-name"))
  | "seal-user", some name => some (.sealUser name)
  | "seal-all", none => some .sealAll
  | "login", some name => some (.login name minutes)
  | "whoami", none => some .whoami
  | "check-config", none => some .checkConfig
  | _, _ => none

/-- The environment variable that stands in for `--config`. -/
def configVariable : String := "WARDEN_SERVER_CONFIG"

/-- The file of settings: the word after the command goes before the one in front of it, and both go
before the variable.  An empty variable is of no use, and stands in at both places. -/
def chooseConfig (environment : Environment) (before after : Option String) :
    Except Stop (Option String) :=
  match environment.entries.lookup configVariable with
  | some [] => if before.isSome && after.isSome then .ok after else .error .misuse
  | some content => .ok ((after.or before).or (some (Text.Utf8.decodeLossy content)))
  | none => .ok (after.or before)

def Arguments.parse (environment : Environment) (words : List String) : Except Stop Arguments := do
  let (before, shape, gathered) ← gatherAll .empty words
  match Command.of? shape gathered with
  | none => throw .misuse
  | some command =>
    return ⟨← chooseConfig environment before (gathered.values.lookup "config"), command⟩

end RoleVault.CommandLine
