import Tagging.Options.Basic
import Tagging.Text.Basic

/-!
# The command line

Options are set by words on the command line, and, where those leave them alone, by variables of
the environment. The words are read from left to right. The value of an option is looked at when
the next option comes, or at the end, so a word that makes no sense is found before a value that
makes none.
-/

namespace Tagging

/-- What is wrong with a command line. -/
inductive UsageError where
  | unknownArgument
  /-- A value is missing, or is none of those that there are. -/
  | invalidValue
  /-- A value cannot be read. -/
  | valueValidation
  /-- An option that has one value is given twice. -/
  | argumentConflict
  /-- An option that takes no value has one. -/
  | tooManyValues
  /-- Nothing is wrong, but help is asked for instead. -/
  | displayHelp
  deriving DecidableEq, Repr

/-- The error in words. -/
def UsageError.message : UsageError → String
  | unknownArgument => "unexpected argument"
  | invalidValue => "a value is required"
  | valueValidation => "invalid value"
  | argumentConflict => "an argument cannot be used multiple times"
  | tooManyValues => "unexpected value"
  | displayHelp => "Document tagging service with object-level access control"

namespace Options

/-- The name of something that can be set. -/
inductive Key where
  | address
  | dataDirectory
  | secret
  | checksExpiry
  | trustsHeaders
  | admins
  | grants
  | pageSize
  | logFilter
  deriving DecidableEq, Repr

namespace Key

/-- All names, in the order in which the environment is looked at. -/
def all : List Key :=
  [address, dataDirectory, secret, checksExpiry, trustsHeaders, admins, grants, pageSize, logFilter]

/-- The word for it on the command line, behind two hyphens. -/
def word : Key → String
  | address => "addr"
  | dataDirectory => "data-dir"
  | secret => "jwt-secret"
  | checksExpiry => "jwt-validate-exp"
  | trustsHeaders => "trust-user-header"
  | admins => "admin"
  | grants => "grant"
  | pageSize => "page-size"
  | logFilter => "log"

/-- The variable for it in the environment. -/
def environmentName : Key → String
  | address => "TAG_HUB_ADDR"
  | dataDirectory => "TAG_HUB_DATA_DIR"
  | secret => "TAG_HUB_JWT_SECRET"
  | checksExpiry => "TAG_HUB_JWT_VALIDATE_EXP"
  | trustsHeaders => "TAG_HUB_TRUST_USER_HEADER"
  | admins => "TAG_HUB_ADMINS"
  | grants => "TAG_HUB_GLOBAL_GRANTS"
  | pageSize => "TAG_HUB_PAGE_SIZE"
  | logFilter => "TAG_HUB_LOG"

/-- It is set by being named, and takes no value on the command line. -/
def isFlag : Key → Bool
  | checksExpiry | trustsHeaders => true
  | _ => false

/-- It may be given several times. -/
def isList : Key → Bool
  | admins | grants => true
  | _ => false

/-- The name that a word stands for. -/
def ofWord? (text : String) : Option Key :=
  all.find? (·.word = text)

end Key

/-- The entries of a value with commas between them. -/
def splitValue (value : String) : List String :=
  (Text.splitAll ',' value.toList).map String.ofList

/-- The value of a flag. -/
def flag? (value : String) : Except UsageError Bool :=
  if value = "true" then .ok true
  else if value = "false" then .ok false
  else .error .invalidValue

/-- A value that can be read. -/
def valid {α : Type} : Option α → Except UsageError α
  | some value => .ok value
  | none => .error .valueValidation

/-- Sets an option to a value. A list gets the entries of the value in addition. -/
def set (options : Options) (value : String) : Key → Except UsageError Options
  | .address => do .ok { options with address := ← valid (Address.ofString? value) }
  | .dataDirectory =>
    if value = "" then .error .invalidValue
    else .ok { options with dataDirectory := some value }
  | .secret => .ok { options with secret := some value }
  | .checksExpiry => do .ok { options with checksExpiry := ← flag? value }
  | .trustsHeaders => do .ok { options with trustsHeaders := ← flag? value }
  | .admins => .ok { options with admins := options.admins ++ splitValue value }
  | .grants => .ok { options with grants := options.grants ++ splitValue value }
  | .pageSize => do .ok { options with pageSize := ← valid (Text.unsigned64? value.toList) }
  | .logFilter => .ok { options with logFilter := value }

/-- What has been made of the words so far. -/
structure Reading where
  options : Options
  /-- What has been set. -/
  given : List Key
  /-- The option named last, with its value if that has come, not yet looked at. -/
  pending : Option (Key × Option String)

namespace Reading

/-- Nothing has been read. -/
def start : Reading := ⟨.default, [], none⟩

/-- Takes an option with its value. -/
def accept (reading : Reading) (key : Key) : Option String → Except UsageError Reading
  | none => .error .invalidValue
  | some value =>
    if !key.isList && reading.given.contains key then .error .argumentConflict
    else do
      .ok { reading with options := ← reading.options.set value key, given := key :: reading.given }

/-- Takes the option named last. -/
def settle (reading : Reading) : Except UsageError Reading :=
  match reading.pending with
  | none => .ok reading
  | some (key, value) => { reading with pending := none }.accept key value

/-- Reads a word behind two hyphens, with the value attached to it, if any. -/
def option (reading : Reading) (word : String) (value : Option String) :
    Except UsageError Reading :=
  if word = "help" then
    if value.isSome then .error .tooManyValues
    else do
      let _ ← reading.settle
      .error .displayHelp
  else
    match Key.ofWord? word with
    | none => .error .unknownArgument
    | some key =>
      if key.isFlag then
        if value.isSome then .error .tooManyValues
        else do (← reading.settle).accept key (some "true")
      else
        match value with
        | some value => do (← reading.settle).accept key (some value)
        | none => do .ok { ← reading.settle with pending := some (key, none) }

/-- Reads letters behind one hyphen. The only one with a meaning asks for help. -/
def letters (reading : Reading) (text : List Char) : Except UsageError Reading :=
  if text.head? = some 'h' then do
    let _ ← reading.settle
    .error .displayHelp
  else .error .unknownArgument

/-- Reads a word that can only be the value of the option before it. -/
def value (reading : Reading) (text : String) : Except UsageError Reading :=
  match reading.pending with
  | some (key, none) => .ok { reading with pending := some (key, some text) }
  | _ => .error .unknownArgument

/-- Reads a word other than two hyphens. -/
def word (reading : Reading) (text : String) : Except UsageError Reading :=
  match text.toList with
  | '-' :: '-' :: named =>
    match Text.splitFirst? '=' named with
    | some (name, attached) => reading.option (String.ofList name) (some (String.ofList attached))
    | none => reading.option (String.ofList named) none
  | '-' :: c :: more => reading.letters (c :: more)
  | _ => reading.value text

/-- Reads words. Two hyphens end the options, and nothing may come after them. -/
def words (reading : Reading) : List String → Except UsageError Reading
  | [] => reading.settle
  | text :: rest =>
    if text = "--" then if rest = [] then reading.settle else .error .unknownArgument
    else do (← reading.word text).words rest

/-- Takes an option from the environment if it has not been set. -/
def inherit (environment : String → Option String) (reading : Reading) (key : Key) :
    Except UsageError Reading :=
  match environment key.environmentName with
  | some value =>
    if reading.given.contains key then .ok reading else reading.accept key (some value)
  | none => .ok reading

end Reading

/-- The options that the words of a command line, without the name of the program, and an
environment set. -/
def read (words : List String) (environment : String → Option String) :
    Except UsageError Options := do
  let reading ← Reading.start.words words
  let reading ← Key.all.foldlM (Reading.inherit environment) reading
  .ok reading.options

end Options

end Tagging
