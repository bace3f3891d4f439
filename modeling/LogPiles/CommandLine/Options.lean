import LogPiles.Text.Numeral

/-!
# Options on a command line

An option is a flag or carries a value.  A value follows its option as the next
word or behind an equals sign, and it follows a short name also directly.  A
word that looks like an option is not taken for a value, except that an option
may admit negative numbers.  Every option is given at most once, nothing but
options is accepted, and `--` ends the line.
-/

namespace LogPiles.CommandLine

/-- What is made of some words. -/
inductive Parsed (α : Type) where
  | value (value : α)
  /-- Help was asked for before anything was found wrong. -/
  | help
  | refused
  deriving DecidableEq

/-- An option, and how it changes the settings. -/
inductive Switch (σ : Type) where
  | flag (name : String) (turnOn : σ → σ)
  | option (name : String) (short? : Option Char) (negative : Bool)
      (read : List Char → σ → Option σ)

namespace Switch

variable {σ : Type}

/-- The long name of an option. -/
def name : Switch σ → String
  | flag name _ => name
  | option name _ _ _ => name

/-- Whether an option has this short name. -/
def hasShort (short : Char) : Switch σ → Bool
  | flag _ _ => false
  | option _ short? _ _ => short? == some short

end Switch

/-- Whether a word is a minus and some digits. -/
def isNegativeNumber : List Char → Bool
  | '-' :: digits => (Text.digits? digits).isSome
  | _ => false

/-- Whether a word is taken for an option: it has a dash and more. -/
def looksLikeOption : List Char → Bool
  | '-' :: _ :: _ => true
  | _ => false

/-- A word that may follow an option as its value. -/
def isValue (negative : Bool) (word : List Char) : Bool :=
  !looksLikeOption word || (negative && isNegativeNumber word)

/-- Splits a word at its first equals sign. -/
def splitAtEquals (word : List Char) : List Char × Option (List Char) :=
  match word.dropWhile (· != '=') with
  | [] => (word, none)
  | _ :: value => (word.takeWhile (· != '='), some value)

/-- Takes one equals sign off the front of a word. -/
def dropEquals : List Char → List Char
  | '=' :: value => value
  | word => word

/-- Settings, and the options that were given so far. -/
structure Settings (σ : Type) where
  values : σ
  given : List String := []

variable {σ : Type}

/-- Turns on a flag. -/
def Settings.turnOn (name : String) (turnOn : σ → σ) (settings : Settings σ) :
    Option (Settings σ) :=
  if name ∈ settings.given then none
  else some ⟨turnOn settings.values, name :: settings.given⟩

/-- Sets an option to a value. -/
def Settings.assign (name : String) (read : List Char → σ → Option σ) (value : List Char)
    (settings : Settings σ) : Option (Settings σ) :=
  if name ∈ settings.given then none
  else (read value settings.values).map fun values => ⟨values, name :: settings.given⟩

/-- How a word acts on the settings. -/
inductive Action (σ : Type) where
  /-- The word is complete in itself. -/
  | apply (next : Settings σ → Option (Settings σ))
  /-- The word needs the next one. -/
  | await (negative : Bool) (next : List Char → Settings σ → Option (Settings σ))
  | help
  | refuse

/-- What a long name does, with or without a value attached. -/
def longAction (switches : List (Switch σ)) (word : List Char) : Action σ :=
  let (name, attached?) := splitAtEquals word
  let name := String.ofList name
  match switches.find? (·.name == name), attached? with
  | some (.flag name turnOn), none => .apply (Settings.turnOn name turnOn)
  | some (.flag _ _), some _ => .refuse
  | some (.option name _ _ read), some value => .apply (Settings.assign name read value)
  | some (.option name _ negative read), none => .await negative (Settings.assign name read)
  | none, none => if name = "help" then .help else .refuse
  | none, some _ => .refuse

/-- What a short name does, with or without a value attached. -/
def shortAction (switches : List (Switch σ)) (short : Char) (attached : List Char) :
    Action σ :=
  match switches.find? (·.hasShort short), attached with
  | some (.option name _ negative read), [] => .await negative (Settings.assign name read)
  | some (.option name _ _ read), value =>
    .apply (Settings.assign name read (dropEquals value))
  | _, _ => if short = 'h' then .help else .refuse

/-- What a word does. -/
def wordAction (switches : List (Switch σ)) : List Char → Action σ
  | '-' :: '-' :: word => longAction switches word
  | '-' :: short :: attached => shortAction switches short attached
  | _ => .refuse

/-- Reads the words of a command line from left to right. -/
def readWords (switches : List (Switch σ)) :
    List (List Char) → Settings σ → Parsed (Settings σ)
  | [], settings => .value settings
  | ['-', '-'] :: rest, settings => if rest.isEmpty then .value settings else .refused
  | word :: rest, settings =>
    match wordAction switches word with
    | .refuse => .refused
    | .help => .help
    | .apply next =>
      match next settings with
      | none => .refused
      | some settings => readWords switches rest settings
    | .await negative next =>
      match rest with
      | [] => .refused
      | value :: rest =>
        if isValue negative value then
          match next value settings with
          | none => .refused
          | some settings => readWords switches rest settings
        else
          .refused

end LogPiles.CommandLine
