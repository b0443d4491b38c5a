/-!
Reading the words of a command line by a grammar: switches with long and short names, with or
without values, and words that stand for themselves.  A value that follows its switch as a word
is judged only when the reading goes on, so that a later unknown word is reported first.
-/

namespace MessageCard

/-- What help may be about. -/
inductive Topic
  | program
  | compile
  | test
  | help
deriving DecidableEq, Repr

/-- Why a command line is not carried out. -/
inductive UsageError
  | help (topic : Topic)
  | version
  | nothingGiven
  | noCommand
  | unknownCommand (word : String)
  | unknownArgument (word : String)
  | missingArgument (name : String)
  | missingValue (name : String)
  | badValue (name value : String)
  | badChoice (name value : String)
  | unwantedValue (name : String)
  | repeated (name : String)
deriving DecidableEq, Repr

/-- A reading of words that may fail. -/
abbrev Usage (α : Type) := Except UsageError α

/-- What a switch does to the draft of a command. -/
inductive SwitchEffect (σ : Type)
  | help
  | version
  | flag (set : σ → Option σ)
  | value (take : σ → String → Usage σ)

/-- A switch: its names and its effect. -/
structure Switch (σ : Type) where
  long : String
  short : Option Char
  effect : SwitchEffect σ

/-- What the words of a command may be: its switches, and words that stand for themselves, of
which a draft holds only so many. -/
structure Grammar (σ : Type) where
  topic : Topic
  switches : List (Switch σ)
  hasRoom : σ → Bool
  place : σ → String → σ

/-- A switch whose value is not judged yet, or has not come yet. -/
structure PendingValue (σ : Type) where
  name : String
  take : σ → String → Usage σ
  value : Option String

/-- How far the reading of words has come. -/
structure Progress (σ : Type) where
  draft : σ
  pending : Option (PendingValue σ)

namespace Progress

variable {σ : Type}

/-- Nothing is pending. -/
def settled (draft : σ) : Progress σ :=
  { draft, pending := none }

/-- The draft with the value that was pending. -/
def settle (progress : Progress σ) : Usage σ :=
  match progress.pending with
  | none => .ok progress.draft
  | some { name, take := _, value := none } => .error (.missingValue name)
  | some { name := _, take, value := some value } => take progress.draft value

/-- The progress with a value that a switch waits for; none when no switch waits. -/
def give? (progress : Progress σ) (value : String) : Option (Progress σ) :=
  match progress.pending with
  | some { name, take, value := none } =>
      some { progress with pending := some { name, take, value := some value } }
  | _ => none

end Progress

namespace Grammar

variable {σ : Type}

/-- Applies a switch, to which a value may be attached. -/
def apply (grammar : Grammar σ) (switch : Switch σ) (attached : Option String)
    (progress : Progress σ) : Usage (Progress σ) :=
  match switch.effect, attached with
  | .value take, some value => do
      let draft ← progress.settle
      return .settled (← take draft value)
  | .value take, none => do
      let draft ← progress.settle
      return { draft, pending := some { name := switch.long, take, value := none } }
  | _, some _ => .error (.unwantedValue switch.long)
  | .help, none => do
      let _ ← progress.settle
      .error (.help grammar.topic)
  | .version, none => do
      let _ ← progress.settle
      .error .version
  | .flag set, none => do
      let draft ← progress.settle
      match set draft with
      | some draft => return .settled draft
      | none => .error (.repeated switch.long)

/-- Splits a long name from the value behind an equals sign. -/
def splitLong (text : List Char) : String × Option String :=
  let name := text.takeWhile (· != '=')
  match text.dropWhile (· != '=') with
  | [] => (String.ofList name, none)
  | _ :: value => (String.ofList name, some (String.ofList value))

/-- Reads a long name, after its two dashes. -/
def readLong (grammar : Grammar σ) (text : List Char) (progress : Progress σ)
    : Usage (Progress σ) :=
  let (name, attached) := splitLong text
  match grammar.switches.find? (·.long == name) with
  | some switch => grammar.apply switch attached progress
  | none => .error (.unknownArgument ("--" ++ name))

/-- The value attached to a short name; an equals sign before it is dropped. -/
def attachedValue : List Char → Option String
  | [] => none
  | '=' :: value => some (String.ofList value)
  | value => some (String.ofList value)

/-- Reads short names, after their dash.  What follows the name of a switch with a value is its
value. -/
def readShort (grammar : Grammar σ) : List Char → Progress σ → Usage (Progress σ)
  | [], progress => .ok progress
  | c :: rest, progress =>
      match grammar.switches.find? (·.short == some c) with
      | none => .error (.unknownArgument (String.ofList ['-', c]))
      | some switch =>
          match switch.effect with
          | .value _ => grammar.apply switch (attachedValue rest) progress
          | _ => do grammar.readShort rest (← grammar.apply switch none progress)

/-- Reads a word as switches; none when it is not written like one. -/
def readSwitch? (grammar : Grammar σ) (word : String) (progress : Progress σ)
    : Option (Usage (Progress σ)) :=
  match word.toList with
  | '-' :: '-' :: text => some (grammar.readLong text progress)
  | ['-'] => none
  | '-' :: text => some (grammar.readShort text progress)
  | _ => none

/-- Reads a word that stands for itself. -/
def readWord (grammar : Grammar σ) (word : String) (progress : Progress σ)
    : Usage (Progress σ) :=
  if grammar.hasRoom progress.draft then do
    let draft ← progress.settle
    return .settled (grammar.place draft word)
  else .error (.unknownArgument word)

/-- Reads words of which none is a switch. -/
def readPlain (grammar : Grammar σ) : List String → Progress σ → Usage σ
  | [], progress => progress.settle
  | word :: rest, progress => do grammar.readPlain rest (← grammar.readWord word progress)

/-- Reads words.  After two dashes alone, no word is a switch. -/
def read (grammar : Grammar σ) : List String → Progress σ → Usage σ
  | [], progress => progress.settle
  | word :: rest, progress =>
      if word = "--" then grammar.readPlain rest progress
      else
        match grammar.readSwitch? word progress with
        | some reading => do grammar.read rest (← reading)
        | none =>
            match progress.give? word with
            | some progress => grammar.read rest progress
            | none => do grammar.read rest (← grammar.readWord word progress)

end Grammar

end MessageCard
