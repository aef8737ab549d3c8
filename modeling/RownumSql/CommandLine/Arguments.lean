/-!
# Arguments

The words of a command line: options in their long and short forms, the name of a command, and what
the command is about.  Words count in the order in which they stand: the first that asks for help or
for the version, or that makes no sense, decides.
-/

namespace RownumSql.CommandLine

/-! ## Commands -/

/-- The forms in which a compiled query is shown. -/
inductive Format where
  | sql
  | json
deriving DecidableEq, Repr

/-- What is to be done. -/
inductive Command where
  /-- Shows the SQL of the query in a file. -/
  | compile (file : String) (format : Format)
  /-- Shows the statements that define the table in a file. -/
  | define (file : String) (constraints truncate : Bool)
  /-- Shows the aliases of identifiers. -/
  | shorten (identifiers : List String)
  /-- Shows the block that switches foreign keys. -/
  | foreignKeys (enable : Bool)
deriving DecidableEq, Repr

/-- A command with the settings file that was named for it. -/
structure Invocation where
  settings : Option String
  command : Command
deriving DecidableEq, Repr

/-! ## Topics -/

/-- What a command line can be about. -/
inductive Topic where
  | compile
  | define
  | shorten
  | foreignKeys
  | help
deriving DecidableEq, Repr

namespace Topic

def name : Topic → String
  | compile => "compile"
  | define => "ddl"
  | shorten => "shorten"
  | foreignKeys => "foreign-keys"
  | help => "help"

def all : List Topic := [compile, define, shorten, foreignKeys, help]

def named? (name : String) : Option Topic := all.find? fun t => t.name = name

end Topic

/-- Why there is nothing to be done. -/
inductive Stop where
  | version
  /-- A topic is to be explained, or the command line as a whole. -/
  | help (topic : Option Topic)
  /-- The command line makes no sense. -/
  | usage
deriving DecidableEq, Repr

/-! ## What may be written -/

/-- An option. -/
structure Flag where
  long : String
  short : Option Char := none
  takesValue : Bool := false
  /-- What the option is for. -/
  meaning : String
deriving DecidableEq, Repr

/-- Every command explains itself. -/
def helpFlag : Flag := ⟨"help", some 'h', false, "Print help"⟩

/-- The options of a topic, or those in front of it. -/
def flagsOf : Option Topic → List Flag
  | none =>
    [⟨"config", some 'c', true,
      "Config file (defaults to qail-oracle.toml, then the user config dir)"⟩,
     ⟨"verbose", some 'v', false, "Verbose output"⟩, helpFlag,
     ⟨"version", some 'V', false, "Print version"⟩]
  | some .compile => [⟨"format", some 'f', true, "Output format"⟩, helpFlag]
  | some .define =>
    [⟨"constraints", none, false, "Also print ALTER TABLE statements for foreign keys"⟩,
     ⟨"truncate", none, false, "Print TRUNCATE TABLE instead of CREATE TABLE"⟩, helpFlag]
  | some .shorten => [helpFlag]
  | some .foreignKeys => [⟨"enable", none, false, "Enable instead of disable"⟩, helpFlag]
  | some .help => []

/-- The words that are no options. -/
inductive Operands where
  /-- The word for a topic, where the words of the topic begin. -/
  | topic
  | nothing
  /-- One path. -/
  | file
  /-- Words of any kind and number. -/
  | words
deriving DecidableEq, Repr

/-- The words that a topic takes, or those in front of it. -/
def operandsOf : Option Topic → Operands
  | none => .topic
  | some .compile | some .define => .file
  | some .shorten => .words
  | some .foreignKeys | some .help => .nothing

/-- A path has to be there, and a format has to be known. -/
def acceptsValue (name value : String) : Bool :=
  if name = "format" then value = "sql" || value = "json" else value ≠ ""

/-! ## What is written -/

/-- What has been read so far. -/
structure Words where
  /-- The options that are set, with their values. -/
  options : List (String × String) := []
  /-- The option last read, while its value has not been looked at. -/
  waiting : Option (String × String) := none
  operands : List String := []
deriving DecidableEq, Repr

namespace Words

/-- Whether an option is set. -/
def has (w : Words) (name : String) : Bool := (w.options.lookup name).isSome

/-- Sets an option, once. -/
def set (w : Words) (name value : String) : Except Stop Words :=
  if w.has name then .error .usage else .ok { w with options := w.options ++ [(name, value)] }

/-- Looks at the value of the option that waits. -/
def settle (w : Words) : Except Stop Words :=
  match w.waiting with
  | none => .ok w
  | some (name, value) =>
    if acceptsValue name value then { w with waiting := none }.set name value else .error .usage

/-- Sets an option whose effect is to stop, or to be remembered. -/
def raise (w : Words) (topic : Option Topic) (flag : Flag) : Except Stop Words :=
  if flag.long = "help" then .error (.help topic)
  else if flag.long = "version" then .error .version
  else w.set flag.long ""

/-- Takes a word that is no option, if there is a place for it. -/
def add (operands : Operands) (w : Words) (word : String) : Except Stop Words :=
  let fits := match operands with
    | .topic | .nothing => false
    | .file => w.operands.isEmpty && word ≠ ""
    | .words => true
  if fits then .ok { w with operands := w.operands ++ [word] } else .error .usage

end Words

/-- The value of an option in the word after it: a word with a hyphen in front is none. -/
def nextValue : List String → Except Stop (String × List String)
  | [] => .error .usage
  | word :: rest =>
    if word.toList.head? = some '-' && word ≠ "-" then .error .usage else .ok (word, rest)

/-- An option in its long form, perhaps with a value after an equals sign. -/
def readLong (topic : Option Topic) (w : Words) (body : List Char) (rest : List String) :
    Except Stop (Words × List String) := do
  let w ← w.settle
  let name := String.ofList (body.takeWhile (· ≠ '='))
  let attached := (body.dropWhile (· ≠ '=')).tail?.map String.ofList
  let some flag := (flagsOf topic).find? fun f => f.long = name | throw .usage
  match flag.takesValue, attached with
  | false, some _ => throw .usage
  | false, none => do pure (← w.raise topic flag, rest)
  | true, some value => do pure (← { w with waiting := some (name, value) }.settle, rest)
  | true, none => do
    let (value, rest) ← nextValue rest
    pure ({ w with waiting := some (name, value) }, rest)

/-- Options in their short form, several of them in one word; the last may take the rest of the
word, or the next word, as its value. -/
def readShort (topic : Option Topic) (w : Words) (rest : List String) :
    List Char → Except Stop (Words × List String)
  | [] => pure (w, rest)
  | c :: cs => do
    let w ← w.settle
    let some flag := (flagsOf topic).find? fun f => f.short = some c | throw .usage
    if !flag.takesValue then do readShort topic (← w.raise topic flag) rest cs
    else match cs with
      | [] => do
        let (value, rest) ← nextValue rest
        pure ({ w with waiting := some (flag.long, value) }, rest)
      | '=' :: value | value => do
        pure (← { w with waiting := some (flag.long, String.ofList value) }.settle, rest)

/-- Reads the words of a topic, or those in front of it, which end at the first word that is no
option; the words from there on are given back.  After two hyphens no word is an option. -/
def readWords (topic : Option Topic) :
    Nat → Words → List String → Except Stop (Words × List String)
  | 0, _, _ => .error .usage
  | _, w, [] => .ok (w, [])
  | n + 1, w, word :: rest =>
    match word.toList with
    | ['-', '-'] => do pure (← rest.foldlM (Words.add (operandsOf topic)) w, [])
    | '-' :: '-' :: body => do
      let (w, rest) ← readLong topic w body rest
      readWords topic n w rest
    | '-' :: c :: cs => do
      let (w, rest) ← readShort topic w rest (c :: cs)
      readWords topic n w rest
    | _ =>
      if operandsOf topic = .topic then .ok (w, word :: rest)
      else do readWords topic n (← w.add (operandsOf topic) word) rest

/-! ## Command lines -/

def readOwn (topic : Topic) (words : List String) : Except Stop Words := do
  let (w, _) ← readWords (some topic) (words.length + 1) {} words
  w.settle

def onlyFile (w : Words) : Except Stop String :=
  match w.operands with
  | [file] => .ok file
  | _ => .error .usage

/-- What help is asked about: one topic, or the command line as a whole. -/
def helpTopic : List String → Stop
  | [] => .help none
  | [name] => match Topic.named? name with
    | some topic => .help (some topic)
    | none => .usage
  | _ => .usage

def readCommand (topic : Topic) (words : List String) : Except Stop Command :=
  match topic with
  | .compile => do
    let w ← readOwn .compile words
    let file ← onlyFile w
    pure (.compile file (if w.options.lookup "format" = some "json" then .json else .sql))
  | .define => do
    let w ← readOwn .define words
    let file ← onlyFile w
    pure (.define file (w.has "constraints") (w.has "truncate"))
  | .shorten => do
    let w ← readOwn .shorten words
    if w.operands.isEmpty then throw .usage
    pure (.shorten w.operands)
  | .foreignKeys => do
    let w ← readOwn .foreignKeys words
    pure (.foreignKeys (w.has "enable"))
  | .help => throw (helpTopic words)

/-- What a command line asks for.  `settings` names a settings file where no option does.  An option
directly in front of the command is looked at after the command's own words. -/
def readInvocation (settings : Option String) (words : List String) : Except Stop Invocation := do
  let (w, rest) ← readWords none (words.length + 1) {} words
  match rest with
  | [] => throw .usage
  | name :: words => do
    let some topic := Topic.named? name | throw .usage
    let command ← readCommand topic words
    let w ← w.settle
    match w.options.lookup "config" with
    | some path => pure ⟨some path, command⟩
    | none => if settings = some "" then throw .usage else pure ⟨settings, command⟩

end RownumSql.CommandLine
