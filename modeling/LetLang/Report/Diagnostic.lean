import LetLang.Tree.Fault

namespace LetLang

structure Diagnostic where
  message : String
  code : String
  sourceName : String
  offset : Nat
  length : Nat
  label : String
  help : Option String
  deriving DecidableEq, Repr

namespace Fault

def labelled? (e : Fault) : Option (String × Nat × Nat) :=
  e.span.length?.map fun n => (e.label, e.span.start, n)

def diagnostic (sourceName : String) (e : Fault) : Diagnostic :=
  ⟨e.message,"interp::parse",sourceName,e.span.start,e.span.stop - e.span.start,e.label,e.help?⟩

end Fault

-- A span that stops before it starts has no length and makes no diagnostic.
def Diagnostic.ofFault? (sourceName : String) (e : Fault) : Option Diagnostic :=
  e.labelled?.map fun _ => e.diagnostic sourceName

abbrev Renderer := Diagnostic → String → String

end LetLang
