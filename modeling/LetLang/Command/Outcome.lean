import LetLang.Command.Files
import LetLang.Command.Request

namespace LetLang

inductive Failure where
  | source (path : String) (e : SourceFault)
  | program (reports : String)
  | session (e : ReadFault)
  deriving DecidableEq, Repr

def Failure.message : Failure → String
  | source path e => e.message path
  | program reports => reports
  | session e => "REPL I/O error: " ++ e.message

structure Outcome where
  output : String
  failure : Option Failure
  deriving DecidableEq, Repr

namespace Outcome

def exitCode (o : Outcome) : Nat :=
  if o.failure.isSome then 1 else 0

def ofListing (path : String) (found : Found) : Outcome :=
  match found.source with
  | .error e => ⟨"",some (.source path e)⟩
  | .ok text => ⟨listing text,none⟩

def ofProgram (draw : Renderer) (path : String) (found : Found) : Outcome :=
  match found.source with
  | .error e => ⟨"",some (.source path e)⟩
  | .ok text =>
    let parsed := parse text
    ⟨parsed.program.dump ++ "\n",
      if parsed.isClean then none else some (.program (reports path text parsed.faults draw))⟩

def ofSession (draw : Renderer) (s : Session) (input : List UInt8) : Outcome :=
  let t := s.run input draw
  ⟨t.output,t.failure.map .session⟩

end Outcome

def Request.outcome (r : Request) (files : String → Found) (input : List UInt8)
    (draw : Renderer := .framed) : Outcome :=
  match r.lex, r.parse with
  | some path, _ => .ofListing path (files path)
  | none, some path => .ofProgram draw path (files path)
  | none, none => .ofSession draw (r.session.getD .standard) input

end LetLang
