import LetLang.Command.Argument

namespace LetLang

def HelpPage.lines : HelpPage → List String
  | overview =>
    ["Tokenizer, parser and REPL for the interp language",
      "",
      "Usage: interp [OPTIONS] [COMMAND]",
      "",
      "Commands:",
      "  repl  Start the interactive read-echo loop",
      "  help  Print this message or the help of the given subcommand(s)",
      "",
      "Options:",
      "      --lex <FILE>    Tokenize a file and print every token",
      "      --parse <FILE>  Parse a file and print the program",
      "  -h, --help          Print help",
      "  -V, --version       Print version"]
  | sessionBrief =>
    ["Start the interactive read-echo loop",
      "",
      "Usage: interp repl [OPTIONS]",
      "",
      "Options:",
      "      --mode <MODE>    What to print for each line [default: tokens] " ++
        "[possible values: tokens, ast]",
      "      --prompt <TEXT>  Prompt shown before each line [default: \">> \"]",
      "  -h, --help           Print help (see more with '--help')"]
  | sessionFull =>
    ["Start the interactive read-echo loop",
      "",
      "Usage: interp repl [OPTIONS]",
      "",
      "Options:",
      "      --mode <MODE>",
      "          What to print for each line",
      "",
      "          Possible values:",
      "          - tokens: One token per line, `TAG(\"literal\")`",
      "          - ast:    The parsed program followed by any diagnostics",
      "          ",
      "          [default: tokens]",
      "",
      "      --prompt <TEXT>",
      "          Prompt shown before each line",
      "          ",
      "          [default: \">> \"]",
      "",
      "  -h, --help",
      "          Print help (see a summary with '-h')"]
  | helpCommand =>
    ["Print this message or the help of the given subcommand(s)",
      "",
      "Usage: interp help [COMMAND]...",
      "",
      "Arguments:",
      "  [COMMAND]...  Print help for the subcommand(s)"]

def HelpPage.text (page : HelpPage) : String :=
  String.join (page.lines.map (· ++ "\n"))

def versionText : String :=
  "interp 0.1.0\n"

def Halt.answer? : Halt → Option String
  | help page => some page.text
  | version => some versionText
  | refused _ => none

def Halt.exitCode : Halt → Nat
  | refused _ => 2
  | _ => 0

end LetLang
