import TypedSheets.Declaration.Language
import TypedSheets.Files.Path
import TypedSheets.Record.Load

/-!
# Arguments

A command line is a command with its options and operands, which may stand in any order. An option
takes its value from the text after `=` or from the next word, unless that word is itself an option.
After `--` every word is an operand. `Invocation.parse` reads a whole command line; a `Usage` is why
there is nothing to run.

A value counts only when the next option, the next operand or the end is reached (`Given.settle`).
So of two mistakes the one reported is that of the earlier value, except that a word which means
nothing is always reported first.
-/

namespace TypedSheets

/-- Why a command line is not run: it asks for a text, or it is wrong. -/
inductive Usage
  | help
  | version
  /-- There are no words at all. -/
  | nothingGiven
  | missingCommand
  | missingSource
  | unknownCommand
  | unknownArgument
  /-- An option has no value, or a path is empty. -/
  | missingValue
  /-- There is no such language. -/
  | badValue
  /-- A switch has a value. -/
  | unexpectedValue
  | repeated
  deriving DecidableEq, Repr

/-- What the command line asks for. -/
inductive Command
  | compile (config : Path) (sources : List Path)
  | remove (config : Path) (sources : List Path)
  | check (source : Path) (entityPrefix : String)
  | render (source : Path) (language : Language) (template : Option Path) (entityPrefix : String)
  | load (source : Path) (policy : Policy) (entityPrefix : String)
  deriving DecidableEq, Repr

/-- A command line that can be run. -/
structure Invocation where
  /-- Whether only warnings and errors are logged. -/
  quiet : Bool
  command : Command
  deriving DecidableEq, Repr

/-! ## Words -/

/-- A word of a command line by its form. -/
inductive Word
  /-- The word `--`. -/
  | escape
  /-- Two dashes and a name, with the value after `=` if there is one. -/
  | long (name : String) (value : Option String)
  /-- One dash and a letter. -/
  | short (letter : Char)
  | plain (text : String)
  deriving DecidableEq, Repr

/-- The form of a word. -/
def Word.ofText (text : String) : Word :=
  match text.toList with
  | ['-', '-'] => .escape
  | '-' :: '-' :: cs =>
    .long (String.ofList (cs.takeWhile (· ≠ '='))) <|
      match cs.dropWhile (· ≠ '=') with
      | [] => none
      | _ :: value => some (String.ofList value)
  | '-' :: letter :: _ => .short letter
  | _ => .plain text

/-- The name of a command. -/
inductive Verb
  | compile
  | remove
  | check
  | render
  | load
  deriving DecidableEq, Repr

/-- An option without a value. -/
inductive Switch
  | help
  | version
  | quiet
  | skipInvalidRows
  deriving DecidableEq, Repr

/-- An option with a value. -/
inductive Setting
  | config
  | language
  | template
  | entityPrefix
  deriving DecidableEq, Repr

namespace Switch

/-- The name after the two dashes. -/
def name : Switch → String
  | .help => "help"
  | .version => "version"
  | .quiet => "quiet"
  | .skipInvalidRows => "skip-invalid-rows"

/-- The letter after one dash, for a switch that has one. -/
def letter? : Switch → Option Char
  | .help => some 'h'
  | .version => some 'V'
  | .quiet | .skipInvalidRows => none

end Switch

/-- The name after the two dashes. -/
def Setting.name : Setting → String
  | .config => "config"
  | .language => "language"
  | .template => "template"
  | .entityPrefix => "prefix"

namespace Verb

/-- The commands there are. -/
def all : List Verb := [.compile, .remove, .check, .render, .load]

/-- The word for a command. -/
def name : Verb → String
  | .compile => "compile"
  | .remove => "remove"
  | .check => "check"
  | .render => "render"
  | .load => "load"

/-- The command with a name. -/
def ofName? (name : String) : Option Verb :=
  all.find? (·.name == name)

/-- Whether the command takes any number of sources. -/
def takesSources : Verb → Bool
  | .compile | .remove => true
  | .check | .render | .load => false

/-- The switches that a command takes. -/
def switches : Verb → List Switch
  | .load => [.help, .quiet, .skipInvalidRows]
  | _ => [.help, .quiet]

/-- The settings that a command takes. -/
def settings : Verb → List Setting
  | .compile | .remove => [.config]
  | .check | .load => [.entityPrefix]
  | .render => [.language, .template, .entityPrefix]

end Verb

/-- The switches before the command. -/
def rootSwitches : List Switch := [.help, .version, .quiet]

/-! ## A command's own words -/

/-- What the words of a command have given so far. -/
structure Given where
  quiet : Bool := false
  skipInvalidRows : Bool := false
  config : Option Path := none
  language : Option Language := none
  template : Option Path := none
  entityPrefix : Option String := none
  sources : List Path := []
  deriving DecidableEq, Repr

/-- What waits to be counted. -/
inductive Pending
  | nothing
  | setting (s : Setting) (value : Option String)
  | sources (texts : List String)
  deriving DecidableEq, Repr

/-- The path that a text is, which must not be empty. -/
def nonemptyPath (text : String) : Except Usage Path :=
  if text = "" then .error .missingValue else .ok ⟨text⟩

namespace Given

/-- Counts a setting, which may be given once. -/
def set (g : Given) (s : Setting) (text : String) : Except Usage Given :=
  match s with
  | .config =>
    if g.config.isSome then .error .repeated
    else (nonemptyPath text).map fun path => { g with config := some path }
  | .language =>
    if g.language.isSome then .error .repeated
    else match Language.parse text with
      | .error _ => .error .badValue
      | .ok language => .ok { g with language := some language }
  | .template =>
    if g.template.isSome then .error .repeated
    else (nonemptyPath text).map fun path => { g with template := some path }
  | .entityPrefix =>
    if g.entityPrefix.isSome then .error .repeated
    else .ok { g with entityPrefix := some text }

/-- Counts a switch, which may be given once. -/
def turnOn (g : Given) : Switch → Except Usage Given
  | .help => .error .help
  | .version => .error .version
  | .quiet => if g.quiet then .error .repeated else .ok { g with quiet := true }
  | .skipInvalidRows =>
    if g.skipInvalidRows then .error .repeated else .ok { g with skipInvalidRows := true }

/-- Counts what waits. -/
def settle (g : Given) : Pending → Except Usage Given
  | .nothing => .ok g
  | .setting _ none => .error .missingValue
  | .setting s (some text) => g.set s text
  | .sources texts =>
    (texts.mapM nonemptyPath).map fun paths => { g with sources := g.sources ++ paths }

end Given

namespace Verb

/-- Adds an operand to what has been given and what waits. -/
def addSource (v : Verb) (g : Given) (pending : Pending) (text : String) :
    Except Usage (Given × Pending) :=
  match pending with
  | .sources texts =>
    if v.takesSources then .ok (g, .sources (texts ++ [text])) else .error .unknownArgument
  | pending =>
    if !v.takesSources && !g.sources.isEmpty then .error .unknownArgument
    else (g.settle pending).map (·, .sources [text])

/-- Reads words that are operands all. -/
def readSources (v : Verb) (g : Given) (pending : Pending) : List String → Except Usage Given
  | [] => g.settle pending
  | text :: rest =>
    match v.addSource g pending text with
    | .error e => .error e
    | .ok (g, pending) => v.readSources g pending rest

/-- Counts a switch of the command. -/
def turnOn (g : Given) (pending : Pending) (s : Switch) : Except Usage (Given × Pending) :=
  match g.settle pending with
  | .error e => .error e
  | .ok g => (g.turnOn s).map (·, .nothing)

/-- Counts a setting that has its value, or lets it wait for one. -/
def readSetting (g : Given) (pending : Pending) (s : Setting) (value : Option String) :
    Except Usage (Given × Pending) :=
  match g.settle pending with
  | .error e => .error e
  | .ok g =>
    match value with
    | none => .ok (g, .setting s none)
    | some text => (g.set s text).map (·, .nothing)

/-- Reads one word other than `--`. -/
def readWord (v : Verb) (g : Given) (pending : Pending) (word : Word) :
    Except Usage (Given × Pending) :=
  match word with
  | .escape => .ok (g, pending)
  | .long name value =>
    match v.settings.find? (·.name == name), v.switches.find? (·.name == name), value with
    | some s, _, value => readSetting g pending s value
    | none, some s, none => turnOn g pending s
    | none, some _, some _ => .error .unexpectedValue
    | none, none, _ => .error .unknownArgument
  | .short letter =>
    match v.switches.find? (·.letter? == some letter) with
    | some s => turnOn g pending s
    | none => .error .unknownArgument
  | .plain text =>
    match pending with
    | .setting s none => .ok (g, .setting s (some text))
    | pending => v.addSource g pending text

/-- Reads the words of a command. -/
def readWords (v : Verb) (g : Given) (pending : Pending) : List String → Except Usage Given
  | [] => g.settle pending
  | text :: rest =>
    match Word.ofText text with
    | .escape => v.readSources g pending rest
    | word =>
      match v.readWord g pending word with
      | .error e => .error e
      | .ok (g, pending) => v.readWords g pending rest

/-- The configuration file of an importer when none is given. -/
def defaultConfig : Path := ⟨"./tablec.json"⟩

/-- What the names of entities start with when no prefix is given. -/
def defaultPrefix : String := "Entity_"

/-- The command with what has been given for it. -/
def command (v : Verb) (g : Given) : Except Usage Command :=
  match g.sources with
  | [] => .error .missingSource
  | source :: _ =>
    let config := g.config.getD defaultConfig
    let entityPrefix := g.entityPrefix.getD defaultPrefix
    .ok <| match v with
      | .compile => .compile config g.sources
      | .remove => .remove config g.sources
      | .check => .check source entityPrefix
      | .render => .render source (g.language.getD .csharp) g.template entityPrefix
      | .load => .load source (if g.skipInvalidRows then .skipRow else .abort) entityPrefix

/-- Reads what follows the name of a command. -/
def parse (v : Verb) (quiet : Bool) (words : List String) : Except Usage Invocation :=
  match v.readWords {} .nothing words with
  | .error e => .error e
  | .ok g => (v.command g).map fun command => ⟨quiet || g.quiet, command⟩

end Verb

/-! ## Command lines -/

/-- The name of the command that explains the others. -/
def helpName : String := "help"

/-- What a request for help comes to: it may name one command. -/
def helpUsage : List String → Usage
  | [] => .help
  | [name] => if name = helpName ∨ (Verb.ofName? name).isSome then .help else .unknownCommand
  | _ => .unknownCommand

/-- What a command line without a command comes to. -/
def emptyUsage (quiet : Bool) : Usage :=
  if quiet then .missingCommand else .nothingGiven

/-- What a command line comes to that has `--` before any command. -/
def escapedUsage (quiet : Bool) : List String → Usage
  | [] => emptyUsage quiet
  | name :: _ =>
    if name = helpName ∨ (Verb.ofName? name).isSome then .unknownArgument else .unknownCommand

/-- What a switch before the command comes to, if it is not passed over. -/
def rootUsage? (quiet : Bool) : Switch → Option Usage
  | .help => some .help
  | .version => some .version
  | .quiet => if quiet then some .repeated else none
  | .skipInvalidRows => some .unknownArgument

/-- Reads a command line. -/
def Invocation.parseFrom (quiet : Bool) : List String → Except Usage Invocation
  | [] => .error (emptyUsage quiet)
  | text :: rest =>
    match Word.ofText text with
    | .escape => .error (escapedUsage quiet rest)
    | .long name value =>
      match rootSwitches.find? (·.name == name), value with
      | none, _ => .error .unknownArgument
      | some _, some _ => .error .unexpectedValue
      | some s, none =>
        match rootUsage? quiet s with
        | some usage => .error usage
        | none => parseFrom true rest
    | .short letter =>
      match rootSwitches.find? (·.letter? == some letter) with
      | none => .error .unknownArgument
      | some s => .error ((rootUsage? quiet s).getD .unknownArgument)
    | .plain name =>
      if name = helpName then .error (helpUsage rest)
      else match Verb.ofName? name with
        | none => .error .unknownCommand
        | some verb => verb.parse quiet rest

/-- Reads a command line from its first word on. -/
def Invocation.parse (words : List String) : Except Usage Invocation :=
  parseFrom false words

end TypedSheets
