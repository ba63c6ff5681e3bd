import BenchJob.CommandLine.Help
import BenchJob.CommandLine.Word

/-!
# Command lines

A command line starts with the name of a command, followed by its options. Behind two dashes, the
commands that run or plan a job take any words as arguments of the app.

The value of a flag stands behind an equals sign or is the next word. A flag is settled, with its
value stored, as soon as its value is known to be complete: at once behind an equals sign, and
otherwise at the next option, at the first word behind the two dashes, or at the end. A word that
may not stand where it stands is noticed before the flag in front of it is settled.

## Main definitions

- `Pending`, `Pending.settle`: a flag whose value may still come.
- `readOptions`: the settings of a command's options.
- `Command.ofWords`: the command of a command line, or why nothing is done.
-/

namespace BenchJob

open Text (Bytes)

/-- A flag that is not yet settled, with its value if it has come. -/
structure Pending where
  flag : Flag
  value : Option Bytes
  deriving Repr, DecidableEq

structure Partial where
  options : StepOptions
  pending : Option Pending
  deriving Repr, DecidableEq

namespace CommandLine

/-- Store the value of a flag. The name of a file may not be empty, and any other value has to be
text. -/
def store (o : StepOptions) (flag : Flag) (value : Bytes) : Except Stop StepOptions :=
  if o.has flag then .error (.repeated flag)
  else match flag with
    | .config =>
      if value.isEmpty then .error (.missingValue flag)
      else .ok { o with configFile := some value }
    | .field f =>
      match Text.decode? value with
      | some text => .ok { o with flags := o.flags.set f (some text) }
      | none => .error .notText

/-- Settle the pending flag, which has to have its value by now. -/
def settle (p : Partial) : Except Stop StepOptions :=
  match p.pending with
  | none => .ok p.options
  | some ⟨flag, none⟩ => .error (.missingValue flag)
  | some ⟨flag, some value⟩ => store p.options flag value

def stopAt (p : Partial) (stop : Stop) : Stop :=
  match settle p with
  | .ok _ => stop
  | .error earlier => earlier

def flagOf? (topic : Topic) (name : Bytes) : Option Flag :=
  topic.flags.find? fun flag => Text.encode flag.name == name

def isNamed (name : Bytes) (option : String) : Bool := name == Text.encode option

def switch (p : Partial) (name : String) (value : Option Bytes) (stop : Stop) : Stop :=
  match value with
  | some value => .unwantedValue (Text.decodeLossy value) ("--" ++ name)
  | none => stopAt p stop

def takesArgs : Topic → Bool
  | .run | .plan => true
  | .top | .overrides | .help => false

/-- The texts of words, all of which have to be well formed. -/
def texts : List Bytes → Option (List String)
  | [] => some []
  | word :: rest =>
    match Text.decode? word, texts rest with
    | some text, some others => some (text :: others)
    | _, _ => none

def readArgs (topic : Topic) (p : Partial) (words : List Bytes) : Except Stop StepOptions :=
  match words with
  | [] => settle p
  | word :: _ =>
    if takesArgs topic then
      match settle p with
      | .error stop => .error stop
      | .ok o =>
        match texts words with
        | some args => .ok { o with flags := { o.flags with benchArgs := args } }
        | none => .error .notText
    else .error (.unexpected (Text.decodeLossy word))

def readOptions (topic : Topic) (p : Partial) : List Bytes → Except Stop StepOptions
  | [] => settle p
  | word :: rest =>
    match Word.ofBytes word with
    | .terminator => readArgs topic p rest
    | .option name value =>
      if isNamed name "help" then .error (switch p "help" value (.help topic))
      -- An unknown name is told even if the flag in front of it lacks its value.
      else match flagOf? topic name with
        | none => .error (.unexpected ("--" ++ Text.decodeLossy name))
        | some flag =>
          match settle p with
          | .error stop => .error stop
          | .ok o =>
            match value with
            | none => readOptions topic ⟨o, some ⟨flag, none⟩⟩ rest
            | some value =>
              match store o flag value with
              | .error stop => .error stop
              | .ok o => readOptions topic ⟨o, none⟩ rest
    | .cluster letters =>
      if Word.firstSwitch letters = some 'h' then .error (stopAt p (.help topic))
      else .error (.unexpected (Word.clusterName letters))
    | .plain =>
      match p.pending with
      | some ⟨flag, none⟩ => readOptions topic ⟨p.options, some ⟨flag, some word⟩⟩ rest
      | _ => .error (.unexpected (Text.decodeLossy word))

def stepOptions (topic : Topic) (words : List Bytes) : Except Stop StepOptions :=
  readOptions topic ⟨.empty, none⟩ words

def commandOf? (word : Bytes) : Option Topic :=
  Topic.commands.find? fun topic => Text.encode topic.name == word

/-- What help was asked for: the topic that the words name. No command has commands of its own. -/
def helpOn : List Bytes → Stop
  | [] => .help .top
  | [word] =>
    match commandOf? word with
    | some topic => .help topic
    | none => .unknownCommand (Text.decodeLossy word)
  | word :: other :: _ =>
    match commandOf? word with
    | some _ => .unknownCommand (Text.decodeLossy other)
    | none => .unknownCommand (Text.decodeLossy word)

/-- A word that stands behind two dashes where a command should stand. -/
def behindTerminator : List Bytes → Stop
  | [] => .noCommand
  | word :: _ =>
    match commandOf? word with
    | some topic => .unexpected topic.name
    | none => .unknownCommand (Text.decodeLossy word)

def topOption (name : Bytes) (value : Option Bytes) : Stop :=
  if isNamed name "help" then switch ⟨.empty, none⟩ "help" value (.help .top)
  else if isNamed name "version" then switch ⟨.empty, none⟩ "version" value .version
  else .unexpected ("--" ++ Text.decodeLossy name)

def topCluster (letters : Bytes) : Stop :=
  match Word.firstSwitch letters with
  | some 'h' => .help .top
  | some 'V' => .version
  | _ => .unexpected (Word.clusterName letters)

end CommandLine

open CommandLine

/-- The command of a command line, or why nothing is done. -/
def Command.ofWords : List Bytes → Except Stop Command
  | [] => .error .noCommand
  | word :: rest =>
    match Word.ofBytes word with
    | .terminator => .error (behindTerminator rest)
    | .option name value => .error (topOption name value)
    | .cluster letters => .error (topCluster letters)
    | .plain =>
      match commandOf? word with
      | some .run => (stepOptions .run rest).map .run
      | some .plan => (stepOptions .plan rest).map .plan
      | some .overrides => (stepOptions .overrides rest).map fun o => .overrides o.flags.builder
      | some .help => .error (helpOn rest)
      | _ => .error (.unknownCommand (Text.decodeLossy word))

end BenchJob
