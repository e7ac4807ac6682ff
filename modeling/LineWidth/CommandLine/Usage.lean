import LineWidth.CommandLine.Argument
import LineWidth.Failure.Basic
import LineWidth.Journal.Basic
import LineWidth.Text.Escape

/-! # Usage

What the program says about itself, and about a command line that it does not understand.
-/

namespace LineWidth

/-- What a run of the program leaves: its exit status, or what it stopped at, what it has written,
and the entries of its journal, shown or not. -/
structure Outcome where
  status : Except Stop Nat
  output : String := ""
  errors : String := ""
  entries : List Entry := []

/-- An outcome that only writes output. -/
def Outcome.say (text : String) : Outcome := { status := .ok 0, output := text }

/-- Lines with their line feeds. -/
def unlines (lines : List String) : String := String.join (lines.map (· ++ "\n"))

/-- The program itself, or one of its commands. -/
inductive Command where
  | program
  | check
deriving DecidableEq, Repr

namespace Command

/-- How a command is called. -/
def usageLine : Command → String
  | .program => "Usage: linegauge [OPTIONS] COMMAND [ARGS]..."
  | .check => "Usage: linegauge check [OPTIONS] PATHS..."

/-- Where to find help on a command. -/
def helpHint : Command → String
  | .program => "Try 'linegauge --help' for help."
  | .check => "Try 'linegauge check --help' for help."

/-- The help on a command. -/
def help : Command → String
  | .program => unlines
    [Command.program.usageLine,
      "",
      "  linegauge - Line Length Analysis for tokenized source files.",
      "",
      "  Reports lines longer than a soft limit (warning) or a hard limit (error),",
      "  with exemptions for import lines and unbreakable comments.",
      "",
      "Options:",
      "  --version  Show the version and exit.",
      "  --debug    Enable debug logging on stderr.",
      "  --help     Show this message and exit.",
      "",
      "Commands:",
      "  check  Check line lengths in files or directories."]
  | .check => unlines
    [Command.check.usageLine,
      "",
      "  Check line lengths in files or directories.",
      "",
      "Options:",
      "  --line-limit INTEGER RANGE      Soft limit; longer lines are warnings.",
      "                                  [default: 80]  [x>=1]",
      "  --absolute-line-limit INTEGER RANGE",
      "                                  Hard limit; longer lines are errors, 0",
      "                                  disables. [default: 80]  [x>=0]",
      "  --ignore-comments / --no-ignore-comments",
      "                                  Never report comment lines.",
      "  --ignore-use-statements / --no-ignore-use-statements",
      "                                  Never report import (use) lines. [default:",
      "                                  ignore]",
      "  --tab-width INTEGER RANGE       Tab stop width; 0 counts a tab as one",
      "                                  column.  [x>=0]",
      "  --config PATH                   JSON config file. [default:",
      "                                  ./.linegauge.json if present]",
      "  --format [text|json]            Output format.  [default: text]",
      "  --metrics                       Print the line length distribution.",
      "  --help                          Show this message and exit."]

end Command

/-- The version text. -/
def versionText : String := "linegauge v0.1.0\n"

/-- What can be wrong with a command line. -/
inductive UsageFault where
  | option (fault : OptionFault)
  | unknownCommand (name : String)
  | pathsMissing
  | notInteger (name text : String)
  | outOfRange (name : String) (number : Int) (least : Nat)
  | unknownFormat (text : String)
deriving DecidableEq, Repr

/-- The names offered in place of an unknown option. -/
def offer : List String → String
  | [] => ""
  | [name] => " Did you mean " ++ name ++ "?"
  | names => " (Possible options: " ++ String.intercalate ", " names ++ ")"

namespace UsageFault

/-- The start of a message about an option's value. -/
def invalidValue (name : String) : String := "Invalid value for '" ++ name ++ "': "

/-- The wording of a usage fault. -/
def message : UsageFault → String
  | .option (.unknown name close) => "No such option: " ++ name ++ offer close
  | .option (.valueMissing name) => "Option '" ++ name ++ "' requires an argument."
  | .option (.valueRefused name) => "Option '" ++ name ++ "' does not take a value."
  | .unknownCommand name => "No such command " ++ Text.quoted name.toList ++ "."
  | .pathsMissing => "Missing argument 'PATHS...'."
  | .notInteger name text =>
    invalidValue name ++ Text.quoted text.toList ++ " is not a valid integer range."
  | .outOfRange name number least =>
    invalidValue name ++ toString number ++ " is not in the range x>=" ++ toString least ++ "."
  | .unknownFormat text =>
    invalidValue "--format" ++ Text.quoted text.toList ++ " is not one of 'text', 'json'."

/-- A fault in how a value is attached is told without the usage. -/
def showsUsage : UsageFault → Bool
  | .option (.valueMissing _) | .option (.valueRefused _) => false
  | _ => true

/-- The outcome of a command line with a fault. -/
def outcome (command : Command) (fault : UsageFault) : Outcome :=
  let usage := if fault.showsUsage then [command.usageLine, command.helpHint, ""] else []
  { status := .ok 2, errors := Text.plain (unlines (usage ++ ["Error: " ++ fault.message])) }

end UsageFault

end LineWidth
