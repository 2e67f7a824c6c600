import LetLang.Text.Layout
import LetLang.Tree.Basic

namespace LetLang

open Layout

def Kind.inline : Kind → String
  | keyword k => "Keyword(" ++ k.name ++ ")"
  | operator o => "Operator(" ++ o.name ++ ")"
  | punctuation p => "Punctuation(" ++ p.name ++ ")"
  | ident => "Ident"
  | int => "Int"
  | illegal => "Illegal"
  | eof => "Eof"

def Kind.dump (depth : Nat) : Kind → String
  | keyword k => wrapped depth "Keyword" k.name
  | operator o => wrapped depth "Operator" o.name
  | punctuation p => wrapped depth "Punctuation" p.name
  | ident => "Ident"
  | int => "Int"
  | illegal => "Illegal"
  | eof => "Eof"

def Span.dump (depth : Nat) (s : Span) : String :=
  record depth "Span" [("start", toString s.start), ("end", toString s.stop)]

def Token.dump (depth : Nat) (t : Token) : String :=
  record depth "Token"
    [("kind", t.kind.dump (depth + 1)), ("literal", Text.quote t.literal),
      ("span", t.span.dump (depth + 1))]

def Identifier.dump (depth : Nat) (i : Identifier) : String :=
  record depth "Identifier" [("token", i.token.dump (depth + 1)), ("value", Text.quote i.value)]

def Expression.dump (depth : Nat) : Expression → String
  | identifier i => wrapped depth "Identifier" (i.dump (depth + 1))

def dumpOptional (depth : Nat) : Option Expression → String
  | none => "None"
  | some e => wrapped depth "Some" (e.dump (depth + 1))

def LetStatement.dump (depth : Nat) (s : LetStatement) : String :=
  record depth "LetStatement"
    [("token", s.token.dump (depth + 1)), ("name", s.name.dump (depth + 1)),
      ("value", dumpOptional (depth + 1) s.value), ("span", s.span.dump (depth + 1))]

def ReturnStatement.dump (depth : Nat) (s : ReturnStatement) : String :=
  record depth "ReturnStatement"
    [("token", s.token.dump (depth + 1)), ("value", dumpOptional (depth + 1) s.value),
      ("span", s.span.dump (depth + 1))]

def Statement.dump (depth : Nat) : Statement → String
  | letStatement s => wrapped depth "Let" (s.dump (depth + 1))
  | returnStatement s => wrapped depth "Return" (s.dump (depth + 1))

def Program.dump (p : Program) : String :=
  record 0 "Program" [("statements", sequence 1 (p.statements.map (Statement.dump 2)))]

end LetLang
