/-
Options on a command line: how they are declared, and how words are read as options with their
values and as arguments.

A long option may have its value attached with `=`; short ones may stand together behind one dash,
the last of them with its value attached. After `--` every word is an argument.
-/
import SampleTypes.Text.Lines
import SampleTypes.Text.Quoted

namespace SampleTypes.CommandLine

/-! ## Declared options -/

/-- An option; `κ` tells options apart. -/
structure OptionSpec (κ : Type) where
  key : κ
  names : List String
  /-- Names that switch the option off. -/
  contraryNames : List String := []
  /-- Stands for the value, if the option takes one. -/
  placeholder : Option String := none
  help : String

/-- What an option is set to. -/
inductive Setting where
  | on
  | off
  | text (s : String)
  deriving DecidableEq, Repr

/-- An option that is given. -/
structure Given (κ : Type) where
  key : κ
  setting : Setting

/-! ## Mistakes -/

/-- A mistake in a command line. -/
inductive Mistake where
  | noSuchOption (name : String)
  | needsValue (name : String)
  | takesNoValue (name : String)
  | noSuchCommand (name : String)
  | missingArgument (placeholder : String)
  | extraArguments (arguments : List String)
  /-- The value of an option with these names cannot be used; `reason` says why. -/
  | badValue (names : List String) (reason : String)
  deriving DecidableEq, Repr

namespace Mistake

/-- The words for a mistake. -/
def message : Mistake → String
  | .noSuchOption name => "No such option " ++ Text.quoted name ++ "."
  | .needsValue name => "Option " ++ Text.quoted name ++ " requires an argument."
  | .takesNoValue name => "Option " ++ Text.quoted name ++ " does not take a value."
  | .noSuchCommand name => "No such command " ++ Text.quoted name ++ "."
  | .missingArgument placeholder => "Missing argument '" ++ placeholder ++ "'."
  | .extraArguments [argument] => "Got unexpected extra argument (" ++ argument ++ ")"
  | .extraArguments arguments =>
    "Got unexpected extra arguments (" ++ Text.join " " arguments ++ ")"
  | .badValue names reason =>
    "Invalid value for " ++ Text.join " / " (names.map (fun name => "'" ++ name ++ "'")) ++ ": " ++
      reason

/-- The usage of the command is shown with the mistake. -/
def showsUsage : Mistake → Bool
  | .needsValue _ | .takesNoValue _ => false
  | _ => true

end Mistake

/-! ## Reading one word -/

variable {κ : Type}

/-- The option of a name, and what the name sets it to if it takes no value. -/
def findOption? (specs : List (OptionSpec κ)) (name : String) : Option (OptionSpec κ × Setting) :=
  specs.findSome? (fun spec =>
    if name ∈ spec.names then some (spec, .on)
    else if name ∈ spec.contraryNames then some (spec, .off)
    else none)

/-- What a word gives: options, and the name and key of one whose value is the next word. -/
structure Reading (κ : Type) where
  given : List (Given κ) := []
  awaiting : Option (String × κ) := none

/-- Reads short options that stand together. -/
def readShort (specs : List (OptionSpec κ)) : List Char → Except Mistake (Reading κ)
  | [] => .ok {}
  | c :: rest =>
    let name := String.ofList ['-', c]
    match findOption? specs name with
    | none => .error (.noSuchOption name)
    | some (spec, setting) =>
      if spec.placeholder.isSome then
        if rest.isEmpty then .ok { awaiting := some (name, spec.key) }
        else .ok { given := [⟨spec.key, .text (String.ofList rest)⟩] }
      else
        match readShort specs rest with
        | .error mistake => .error mistake
        | .ok later => .ok { later with given := ⟨spec.key, setting⟩ :: later.given }

/-- The name in a word, and the value that is attached to it. -/
def splitValue (word : List Char) : String × Option String :=
  let name := String.ofList (word.takeWhile (· != '='))
  match word.dropWhile (· != '=') with
  | [] => (name, none)
  | _ :: value => (name, some (String.ofList value))

/-- Reads a word that starts with a dash. -/
def readWord (specs : List (OptionSpec κ)) (word : List Char) : Except Mistake (Reading κ) :=
  let (name, value) := splitValue word
  if ['-', '-'].isPrefixOf name.toList then
    match findOption? specs name, value with
    | none, _ => .error (.noSuchOption name)
    | some (spec, setting), none =>
      if spec.placeholder.isSome then .ok { awaiting := some (name, spec.key) }
      else .ok { given := [⟨spec.key, setting⟩] }
    | some (spec, _), some value =>
      if spec.placeholder.isSome then .ok { given := [⟨spec.key, .text value⟩] }
      else .error (.takesNoValue name)
  else readShort specs (word.drop 1)

/-! ## Reading all words -/

/-- A word that is read as options. -/
def isOption (word : String) : Bool :=
  match word.toList with
  | '-' :: _ :: _ => true
  | _ => false

/-- The options that words give, and the words that are arguments. -/
structure Parsed (κ : Type) where
  given : List (Given κ) := []
  arguments : List String := []

/-- Options in front of those of later words. -/
def Parsed.after (given : List (Given κ)) (p : Parsed κ) : Parsed κ :=
  { p with given := given ++ p.given }

/-- Reads words. Options may follow arguments where they are `mixed`; else the first argument ends
the options. -/
def parse (specs : List (OptionSpec κ)) (mixed : Bool) : List String → Except Mistake (Parsed κ)
  | [] => .ok {}
  | word :: rest =>
    if word = "--" then .ok { arguments := rest }
    else if isOption word then
      match readWord specs word.toList with
      | .error mistake => .error mistake
      | .ok reading =>
        match reading.awaiting, rest with
        | none, rest => (parse specs mixed rest).map (Parsed.after reading.given)
        | some (name, _), [] => .error (.needsValue name)
        | some (_, key), value :: rest =>
          (parse specs mixed rest).map (Parsed.after (reading.given ++ [⟨key, .text value⟩]))
    else if mixed then
      (parse specs mixed rest).map (fun p => { p with arguments := word :: p.arguments })
    else .ok { arguments := word :: rest }

namespace Parsed

variable [DecidableEq κ]

/-- What the options of a key are set to, in order. -/
def settings (p : Parsed κ) (key : κ) : List Setting :=
  (p.given.filter (fun g => g.key = key)).map Given.setting

/-- An option is given. -/
def has (p : Parsed κ) (key : κ) : Bool :=
  !(p.settings key).isEmpty

/-- The number of times that an option is given. -/
def count (p : Parsed κ) (key : κ) : Nat :=
  (p.settings key).length

/-- An option that can be switched on and off: the last word counts. -/
def switch? (p : Parsed κ) (key : κ) : Option Bool :=
  (p.settings key).getLast?.map (· == .on)

/-- The values of an option in order. -/
def texts (p : Parsed κ) (key : κ) : List String :=
  (p.settings key).filterMap (fun setting => match setting with
    | .text s => some s
    | _ => none)

/-- The value of an option: the last one counts. -/
def text? (p : Parsed κ) (key : κ) : Option String :=
  (p.texts key).getLast?

/-- The keys of the given options in the order in which they first occur. -/
def order (p : Parsed κ) : List κ :=
  (p.given.map Given.key).eraseDups

end Parsed

end SampleTypes.CommandLine
