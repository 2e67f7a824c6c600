import LetLang.Report.Basic
import LetLang.Tree.Dump
import LetLang.Tree.Parser

namespace LetLang

inductive Mode where
  | tokens
  | ast
  deriving DecidableEq, Repr

namespace Mode

def spelling : Mode → String
  | tokens => "tokens"
  | ast => "ast"

def ofSpelling? (s : String) : Option Mode :=
  [tokens, ast].find? (fun m => m.spelling == s)

theorem ofSpelling?_spelling (m : Mode) : ofSpelling? m.spelling = some m := by
  cases m <;> decide

theorem ofSpelling?_eq_some_iff {s : String} {m : Mode} :
    ofSpelling? s = some m ↔ m.spelling = s :=
  ⟨fun h => by simpa using List.find?_some h,fun h => h ▸ ofSpelling?_spelling m⟩

end Mode

def tokenLines (source : String) : String :=
  String.join ((Lexer.ofText source).drain.1.map (·.render ++ "\n"))

def programText (draw : Renderer) (sourceName source : String) : String :=
  let parsed := parse source
  parsed.program.dump ++ "\n" ++
    if parsed.isClean then "" else reports sourceName source parsed.faults draw ++ "\n"

inductive ReadFault where
  | notUtf8
  deriving DecidableEq, Repr

def ReadFault.message : ReadFault → String
  | notUtf8 => "stream did not contain valid UTF-8"

structure Session where
  mode : Mode
  prompt : String
  deriving DecidableEq, Repr

structure Transcript where
  output : String
  failure : Option ReadFault
  deriving DecidableEq, Repr

inductive Response where
  | reply (text : String)
  | stop (text : String) (failure : Option ReadFault)
  deriving DecidableEq, Repr

def Response.transcript (output : String) (more : String → Transcript) : Response → Transcript
  | reply text => more (output ++ text)
  | stop text failure => ⟨output ++ text,failure⟩

namespace Session

def standard : Session :=
  ⟨.tokens,">> "⟩

instance : Inhabited Session := ⟨standard⟩

def sourceName : String := "<repl>"

def isLineEnd (c : Char) : Bool :=
  c == '\n' || c == '\r'

def trimLine (line : String) : String :=
  String.ofList (line.toList.reverse.dropWhile isLineEnd).reverse

def reply (s : Session) (draw : Renderer) (line : String) : String :=
  match s.mode with
  | .tokens => tokenLines (trimLine line)
  | .ast => programText draw sourceName (trimLine line)

def respond (s : Session) (draw : Renderer) (line : List UInt8) : Response :=
  if line.isEmpty then .stop "\n" none
  else
    match Text.decode? line with
    | some text => .reply (s.reply draw text)
    | none => .stop "" (some .notUtf8)

def inputLinesOnto (acc : List (List UInt8)) (line : List UInt8) :
    List UInt8 → List (List UInt8)
  | [] => (if line.isEmpty then acc else line.reverse :: acc).reverse
  | b :: bs =>
    if b = 0x0A then inputLinesOnto ((b :: line).reverse :: acc) [] bs
    else inputLinesOnto acc (b :: line) bs

def inputLines (input : List UInt8) : List (List UInt8) :=
  inputLinesOnto [] [] input

def answer (s : Session) (draw : Renderer) (output : String) : List (List UInt8) → Transcript
  | [] => (s.respond draw []).transcript (output ++ s.prompt) (⟨·,none⟩)
  | line :: rest =>
    (s.respond draw line).transcript (output ++ s.prompt) fun output => s.answer draw output rest

def run (s : Session) (input : List UInt8) (draw : Renderer := .framed) : Transcript :=
  s.answer draw "" (inputLines input)

end Session

end LetLang
