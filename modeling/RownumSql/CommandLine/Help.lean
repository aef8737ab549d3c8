import RownumSql.CommandLine.Arguments

/-!
# Help

The text that explains a command, or the command line as a whole: what it is for, how it is written,
and its parts, each with its meaning.
-/

namespace RownumSql.CommandLine

/-- The variable of the environment that names a settings file. -/
def settingsVariable : String := "QAIL_ORACLE_CONFIG"

/-! ## Parts -/

def Topic.purpose : Topic → String
  | compile => "Compile a TOML query document to Oracle SQL"
  | define => "Generate DDL for a TOML table document"
  | shorten => "Show the aliases generated for identifiers"
  | foreignKeys => "Print the PL/SQL block toggling foreign keys"
  | help => "Print this message or the help of the given subcommand(s)"

/-- How the words that are no options are written, and what they are. -/
def Topic.operandEntries : Topic → List (String × String)
  | compile => [("<FILE>", "Query document")]
  | define => [("<FILE>", "Table document")]
  | shorten => [("<IDENTIFIERS>...", "Identifiers to shorten")]
  | foreignKeys => []
  | help => [("[COMMAND]...", "Print help for the subcommand(s)")]

/-- How an option is written: the long forms stand below each other. -/
def Flag.form (f : Flag) : String :=
  let short := f.short.elim "    " fun c => "-" ++ c.toString ++ ", "
  let value := if f.takesValue then " <" ++ f.long.toUpper ++ ">" else ""
  short ++ "--" ++ f.long ++ value

/-- What is said of the value of an option; `settings` names a settings file where no option
does. -/
def Flag.valueNote (settings : Option String) (f : Flag) : String :=
  if f.long = "config" then " [env: " ++ settingsVariable ++ "=" ++ settings.getD "" ++ "]"
  else if f.long = "format" then " [default: sql] [possible values: sql, json]"
  else ""

/-! ## Texts -/

/-- Parts under a heading, their meanings in one column. -/
def listing (heading : String) (entries : List (String × String)) : List String :=
  let width := (entries.map fun e => e.1.length).foldl max 0
  if entries.isEmpty then []
  else "" :: (heading ++ ":") :: entries.map fun e =>
    "  " ++ e.1 ++ "".pushn ' ' (width - e.1.length) ++ "  " ++ e.2

def optionLines (settings : Option String) (topic : Option Topic) : List String :=
  listing "Options" ((flagsOf topic).map fun f => (f.form, f.meaning ++ f.valueNote settings))

/-- How a command line is written; options are mentioned where there are any but for help. -/
def usageLine (topic : Option Topic) : String :=
  let name := topic.elim "" fun t => " " ++ t.name
  let options := if (flagsOf topic).any (· ≠ helpFlag) then " [OPTIONS]" else ""
  let operands := topic.elim [" <COMMAND>"] fun t => t.operandEntries.map (" " ++ ·.1)
  "Usage: qail-oracle" ++ name ++ options ++ String.join operands

def exampleLines : List String :=
  ["",
   "EXAMPLES:",
   "    qail-oracle compile page.toml",
   "    qail-oracle compile page.toml --format json",
   "    qail-oracle ddl articles.toml --constraints",
   "    qail-oracle shorten Articles__a_really_long_field_name"]

def helpLines (settings : Option String) (topic : Option Topic) : List String :=
  match topic with
  | none =>
    ["Oracle dialect inspector for QAIL queries", "", usageLine none] ++
      listing "Commands" (Topic.all.map fun t => (t.name, t.purpose)) ++
      optionLines settings none ++ exampleLines
  | some t =>
    [t.purpose, "", usageLine topic] ++ listing "Arguments" t.operandEntries ++
      optionLines settings topic

end RownumSql.CommandLine
