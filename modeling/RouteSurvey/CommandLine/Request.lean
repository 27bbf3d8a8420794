import RouteSurvey.Files.Path

/-! # Requests

What a user asks for on the command line. Words are read from left to right. A value is
looked at only when the next word or the end of the line shows that it is complete, so a
word that is not known is refused before an earlier value that is not allowed.
-/

namespace RouteSurvey.CommandLine

/-- What a user asks for. -/
structure Request where
  input : Path
  outputDirectory? : Option Path := none
  config? : Option Path := none
  fileName? : Option String := none
  verbose : Bool := false
deriving DecidableEq, Repr

/-- A reason not to carry out a command line. -/
inductive UsageError where
  | help
  | version
  /-- A word that is not known, or one value too many -/
  | unknownWord
  /-- A value is missing, or must not be empty -/
  | invalidValue
  /-- A value for a switch that has none -/
  | unneededValue
  /-- The same switch twice -/
  | repeated
  | inputMissing
deriving DecidableEq, Repr

/-- A place for a value. -/
inductive Slot where
  | input | outputDirectory | config | fileName
deriving DecidableEq, Repr

/-- What a word with a leading hyphen can stand for. -/
inductive Switch where
  | takes (slot : Slot)
  | verbose | help | version
deriving DecidableEq, Repr

namespace Switch

/-- The switch of a long name. -/
def ofName? : String → Option Switch
  | "output-dir" => some (takes .outputDirectory)
  | "config" => some (takes .config)
  | "file-name" => some (takes .fileName)
  | "verbose" => some verbose
  | "help" => some help
  | "version" => some version
  | _ => none

/-- The switch of a single letter. -/
def ofLetter? : Char → Option Switch
  | 'o' => some (takes .outputDirectory)
  | 'c' => some (takes .config)
  | 'v' => some verbose
  | 'h' => some help
  | 'V' => some version
  | _ => none

end Switch

/-- What the words so far have given. -/
structure Progress where
  values : List (Slot × String) := []
  verbose : Bool := false
  /-- A slot whose value, if there is one already, has not been looked at -/
  pending? : Option (Slot × Option String) := none
  /-- A word without a hyphen has been taken as the input -/
  hasInput : Bool := false
  /-- Hyphens have no meaning any more -/
  plain : Bool := false

namespace Progress

/-- Puts a value into its slot. -/
def store (slot : Slot) (value : String) (progress : Progress) : Except UsageError Progress :=
  if (progress.values.lookup slot).isSome then .error .repeated
  else if value = "" ∧ slot ≠ .fileName then .error .invalidValue
  else .ok { progress with values := (slot, value) :: progress.values }

/-- Looks at the pending value. -/
def settle (progress : Progress) : Except UsageError Progress :=
  match progress.pending? with
  | none => .ok progress
  | some (_, none) => .error .invalidValue
  | some (slot, some value) => { progress with pending? := none }.store slot value

/-- Waits for the value of a slot. -/
def await (slot : Slot) (progress : Progress) : Except UsageError Progress := do
  return { ← progress.settle with pending? := some (slot, none) }

/-- Takes a value that stands in the same word as its switch. -/
def take (slot : Slot) (value : String) (progress : Progress) : Except UsageError Progress := do
  (← progress.settle).store slot value

/-- Turns on a switch that has no value. -/
def turnOn (error? : Option UsageError) (progress : Progress) : Except UsageError Progress := do
  let progress ← progress.settle
  match error? with
  | some error => .error error
  | none => if progress.verbose then .error .repeated else .ok { progress with verbose := true }

/-- Reads a long name, with a value behind it if there is an equals sign. -/
def long (name : String) (value? : Option String) (progress : Progress) :
    Except UsageError Progress :=
  match Switch.ofName? name, value? with
  | none, _ => .error .unknownWord
  | some (.takes slot), some value => progress.take slot value
  | some (.takes slot), none => progress.await slot
  | some _, some _ => .error .unneededValue
  | some .verbose, none => progress.turnOn none
  | some .help, none => progress.turnOn (some .help)
  | some .version, none => progress.turnOn (some .version)

/-- Reads letters. One that takes a value takes the letters behind it, and an equals sign
before these does not count. -/
def letters : List Char → Progress → Except UsageError Progress
  | [], progress => .ok progress
  | letter :: rest, progress =>
    match Switch.ofLetter? letter with
    | none => .error .unknownWord
    | some (.takes slot) =>
      match rest with
      | [] => progress.await slot
      | '=' :: value => progress.take slot (String.ofList value)
      | value => progress.take slot (String.ofList value)
    | some .verbose => do letters rest (← progress.turnOn none)
    | some .help => progress.turnOn (some .help)
    | some .version => progress.turnOn (some .version)

/-- Reads a word without a leading hyphen. There can be only one. -/
def positional (word : String) (progress : Progress) : Except UsageError Progress := do
  if progress.hasInput then .error .unknownWord
  else return { ← progress.settle with pending? := some (.input, some word), hasInput := true }

/-- The name in a long word, and the value behind the first equals sign. -/
def splitValue (cs : List Char) : String × Option String :=
  match cs.dropWhile (· ≠ '=') with
  | [] => (String.ofList cs, none)
  | _ :: value => (String.ofList (cs.takeWhile (· ≠ '=')), some (String.ofList value))

/-- Reads a word. -/
def read (word : String) (progress : Progress) : Except UsageError Progress :=
  if progress.plain then progress.positional word
  else
    match word.toList with
    | ['-', '-'] => .ok { progress with plain := true }
    | '-' :: '-' :: rest => progress.long (splitValue rest).1 (splitValue rest).2
    | '-' :: letter :: rest => progress.letters (letter :: rest)
    | _ =>
      match progress.pending? with
      | some (slot, none) => .ok { progress with pending? := some (slot, some word) }
      | _ => progress.positional word

/-- Reads words in order. -/
def readAll : List String → Progress → Except UsageError Progress
  | [], progress => progress.settle
  | word :: rest, progress => do readAll rest (← progress.read word)

/-- The request that the words amount to. -/
def request (progress : Progress) : Except UsageError Request :=
  match progress.values.lookup .input with
  | none => .error .inputMissing
  | some input => .ok {
      input := ⟨input⟩
      outputDirectory? := (progress.values.lookup .outputDirectory).map Path.mk
      config? := (progress.values.lookup .config).map Path.mk
      fileName? := progress.values.lookup .fileName
      verbose := progress.verbose }

end Progress

/-- Reads the words of a command line. -/
def Request.ofWords (words : List String) : Except UsageError Request := do
  (← Progress.readAll words {}).request

end RouteSurvey.CommandLine
