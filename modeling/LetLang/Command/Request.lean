import LetLang.Command.Argument
import LetLang.Session

namespace LetLang

open Text (utf8 decode?)

def OsText.text (value : OsText) : String :=
  (decode? value).getD ""

structure Request (Path : Type := String) where
  lex : Option Path
  parse : Option Path
  session : Option Session
  deriving DecidableEq, Repr

namespace Request

def map {Path Path' : Type} (f : Path → Path') (r : Request Path) : Request Path' :=
  ⟨r.lex.map f,r.parse.map f,r.session⟩

end Request

def Given.value? (gs : List Given) (name : OsText) : Option OsText :=
  (gs.find? (·.name == name)).map Given.value

def Mode.ofText? (value : OsText) : Option Mode :=
  (decode? value).bind Mode.ofSpelling?

namespace Session

def modeRule : OptionRule :=
  ⟨utf8 "mode",[],fun value => (Mode.ofText? value).isSome⟩

def promptRule : OptionRule :=
  ⟨utf8 "prompt",[],fun value => (decode? value).isSome⟩

def options : List OptionRule :=
  [modeRule, promptRule]

def ofGiven (gs : List Given) : Session :=
  ⟨((Given.value? gs modeRule.name).bind Mode.ofText?).getD standard.mode,
    ((Given.value? gs promptRule.name).bind decode?).getD standard.prompt⟩

def level : Level Empty where
  options := options
  longFlag? name := if name = utf8 "help" then some (.help .sessionFull) else none
  shortFlag? flag := if flag = 'h'.toUInt8 then some (.help .sessionBrief) else none
  command _ _ := .error (.refused .unknownArgument)
  stray _ := .unknownArgument

end Session

namespace Request

def fileRule (name : OsText) (excludes : List OsText) : OptionRule :=
  ⟨name,excludes,fun path => !path.isEmpty⟩

def lexRule : OptionRule :=
  fileRule (utf8 "lex") [utf8 "parse"]

def parseRule : OptionRule :=
  fileRule (utf8 "parse") []

def options : List OptionRule :=
  [lexRule, parseRule]

def ofGiven (gs : List Given) (session : Option Session) : Request OsText :=
  ⟨Given.value? gs lexRule.name,Given.value? gs parseRule.name,session⟩

def helpHalt (args : List OsText) : Halt :=
  if args = [] then .help .overview
  else if args = [utf8 "repl"] then .help .sessionFull
  else if args = [utf8 "help"] then .help .helpCommand
  else .refused .invalidSubcommand

def command (name : OsText) (rest : List OsText) : Except Halt Session :=
  if name = utf8 "repl" then (Session.level.read rest).map fun m => .ofGiven m.given
  else if name = utf8 "help" then .error (helpHalt rest)
  else .error (.refused .invalidSubcommand)

def level : Level Session where
  options := options
  longFlag? name :=
    if name = utf8 "help" then some (.help .overview)
    else if name = utf8 "version" then some .version
    else none
  shortFlag? flag :=
    if flag = 'h'.toUInt8 then some (.help .overview)
    else if flag = 'V'.toUInt8 then some .version
    else none
  command := command
  stray name :=
    if name = utf8 "repl" ∨ name = utf8 "help" then .unknownArgument else .invalidSubcommand

def read (args : List OsText) : Except Halt (Request OsText) :=
  (level.read args).map fun m => ofGiven m.given m.command

-- The arguments are text, so the paths cut from them are text too.
def ofArguments (args : List String) : Except Halt Request :=
  (read (args.map utf8)).map (map OsText.text)

end Request

end LetLang
