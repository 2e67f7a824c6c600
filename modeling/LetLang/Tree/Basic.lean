import LetLang.Token.Basic

namespace LetLang

structure Identifier where
  token : Token
  value : String
  deriving DecidableEq, Repr

namespace Identifier

def ofToken (t : Token) : Identifier :=
  ⟨t,t.literal⟩

def tokenLiteral (i : Identifier) : String := i.token.literal

def span (i : Identifier) : Span := i.token.span

end Identifier

inductive Expression where
  | identifier (i : Identifier)
  deriving DecidableEq, Repr

namespace Expression

def tokenLiteral : Expression → String
  | identifier i => i.tokenLiteral

def span : Expression → Span
  | identifier i => i.span

end Expression

structure LetStatement where
  token : Token
  name : Identifier
  value : Option Expression
  span : Span
  deriving DecidableEq, Repr

structure ReturnStatement where
  token : Token
  value : Option Expression
  span : Span
  deriving DecidableEq, Repr

inductive Statement where
  | letStatement (s : LetStatement)
  | returnStatement (s : ReturnStatement)
  deriving DecidableEq, Repr

namespace Statement

def token : Statement → Token
  | letStatement s => s.token
  | returnStatement s => s.token

def tokenLiteral (s : Statement) : String := s.token.literal

def span : Statement → Span
  | letStatement s => s.span
  | returnStatement s => s.span

end Statement

structure Program where
  statements : List Statement
  deriving DecidableEq, Repr

namespace Program

def empty : Program := ⟨[]⟩

instance : Inhabited Program := ⟨empty⟩

def tokenLiteral (p : Program) : String :=
  match p.statements.head? with
  | some s => s.tokenLiteral
  | none => ""

def span (p : Program) : Span :=
  match p.statements.head?, p.statements.getLast? with
  | some first, some last => first.span.merge last.span
  | _, _ => .zero

end Program

end LetLang
