/-!
# Command lines

The arguments of a program: options with a value, questions about the program itself, and
plain words.

## Main Definitions

* `OptionSpec`: an option with a value
* `OptionSet`: the options that may stand at some place
* `Arguments`: the options found, and the words after them
* `OptionSet.read`: tell options and words apart, up to the first word
* `OptionSet.readAll`: all options and words
* `Ending`: what a program leaves behind

## Design Notes

Arguments are read from left to right, and the first that is wrong or asks a question ends
the reading. An argument that starts with a dash is never taken for the value of the option
before it, unless it is the dash alone. Behind two dashes on their own, all arguments are
words.
-/

namespace LoginThrottle

/-- An option with a value. -/
structure OptionSpec where
  name : String
  short : Option Char
  /-- Whether the value may be empty. -/
  mayBeEmpty : Bool
  deriving DecidableEq, Repr

/-- Why reading arguments ends early. -/
inductive Halt
  /-- The arguments are not understood. -/
  | usage
  | help
  | version
  deriving DecidableEq, Repr

/-- The options that may stand at some place. Help is always to be had there. -/
structure OptionSet where
  options : List OptionSpec
  /-- Whether the version can be asked for. -/
  tellsVersion : Bool
  deriving DecidableEq, Repr

/-- The options found, and the words after them. -/
structure Arguments where
  options : List (String × String)
  /-- Whether two dashes stand in front of the words, so that none of them is an option. -/
  escaped : Bool
  words : List String
  deriving DecidableEq, Repr

namespace Arguments

/-- The value of an option. -/
def value? (arguments : Arguments) (name : String) : Option String :=
  arguments.options.lookup name

end Arguments

namespace OptionSet

/-- Whether an argument looks like an option. -/
def looksLikeOption (argument : String) : Bool :=
  match argument.toList with
  | '-' :: _ :: _ => true
  | _ => false

/-- The question that a long name asks about the program. -/
def question? (set : OptionSet) (name : String) : Option Halt :=
  if name = "help" then some .help
  else if name = "version" && set.tellsVersion then some .version
  else none

/-- The question that a letter asks about the program. -/
def shortQuestion? (set : OptionSet) (letter : Char) : Option Halt :=
  if letter = 'h' then some .help
  else if letter = 'V' && set.tellsVersion then some .version
  else none

/-- Notes the value of an option. None may be given twice. -/
def note (option : OptionSpec) (value : String) (found : List (String × String)) :
    Except Halt (List (String × String)) :=
  if (value.isEmpty && !option.mayBeEmpty) || (found.lookup option.name).isSome then
    .error .usage
  else
    .ok ((option.name, value) :: found)

/-- An option, with its value if that is part of the same argument. -/
structure Occurrence where
  option : OptionSpec
  value : Option String

/-- The option that an argument with two dashes names, from behind the dashes. -/
def long? (set : OptionSet) (text : List Char) : Except Halt Occurrence :=
  let name := String.ofList (text.takeWhile (· ≠ '='))
  let attached :=
    match text.dropWhile (· ≠ '=') with
    | [] => none
    | _ :: value => some (String.ofList value)
  match set.options.find? fun option => option.name == name with
  | some option => .ok ⟨option, attached⟩
  | none =>
    match set.question? name, attached with
    | some halt, none => .error halt
    | _, _ => .error .usage

/-- The option that an argument with one dash names by its letter, from behind the dash. -/
def short? (set : OptionSet) (letter : Char) (text : List Char) : Except Halt Occurrence :=
  match set.options.find? fun option => option.short == some letter with
  | some option =>
    match text with
    | [] => .ok ⟨option, none⟩
    | '=' :: value => .ok ⟨option, some (String.ofList value)⟩
    | value => .ok ⟨option, some (String.ofList value)⟩
  | none => .error ((set.shortQuestion? letter).getD .usage)

/-- The option that an argument names. -/
def occurrence (set : OptionSet) (argument : String) : Except Halt Occurrence :=
  match argument.toList with
  | '-' :: '-' :: text => set.long? text
  | '-' :: letter :: text => set.short? letter text
  | _ => .error .usage

/-- Reads arguments up to the first word. -/
def readFrom (set : OptionSet) (found : List (String × String)) :
    List String → Except Halt Arguments
  | [] => .ok ⟨found, false, []⟩
  | argument :: rest =>
    if argument = "--" then
      .ok ⟨found, true, rest⟩
    else if looksLikeOption argument then
      match set.occurrence argument with
      | .error halt => .error halt
      | .ok ⟨option, some value⟩ =>
        match note option value found with
        | .error halt => .error halt
        | .ok found => readFrom set found rest
      | .ok ⟨option, none⟩ =>
        match rest with
        | [] => .error .usage
        | value :: rest =>
          if looksLikeOption value then .error .usage
          else
            match note option value found with
            | .error halt => .error halt
            | .ok found => readFrom set found rest
    else
      .ok ⟨found, false, argument :: rest⟩

/-- Tells options and words apart, up to the first word. -/
def read (set : OptionSet) (arguments : List String) : Except Halt Arguments :=
  set.readFrom [] arguments

/-- Reads arguments to their end, among them at most `most` words. -/
def readAllFrom (set : OptionSet) (found : List (String × String)) (most : Nat)
    (arguments : List String) : Except Halt Arguments :=
  match set.readFrom found arguments with
  | .error halt => .error halt
  | .ok read =>
    if read.escaped then
      if read.words.length ≤ most then .ok read else .error .usage
    else
      match most, read.words with
      | _, [] => .ok read
      | 0, _ :: _ => .error .usage
      | most + 1, word :: rest =>
        (readAllFrom set read.options most rest).map fun later =>
          { later with words := word :: later.words }

/-- All options and words, of which there are at most `most`. -/
def readAll (set : OptionSet) (most : Nat) (arguments : List String) :
    Except Halt Arguments :=
  set.readAllFrom [] most arguments

end OptionSet

/-- The version of the programs. -/
def programVersion : String := "0.1.0"

/-- What a program leaves behind. -/
structure Ending where
  exitCode : Nat
  stdout : String
  stderr : String
  deriving DecidableEq, Repr

namespace Ending

/-- The ending of a program whose arguments are not understood. -/
def usage : Ending := ⟨2, "", ""⟩

/-- The ending of a program that prints a text and is done. -/
def printed (text : String) : Ending := ⟨0, text, ""⟩

/-- The ending of a program that fails. -/
def failed (message : String) : Ending := ⟨1, "", "Error: " ++ message⟩

end Ending

end LoginThrottle
