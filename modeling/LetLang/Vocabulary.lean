namespace LetLang

inductive Keyword where
  | fnKey
  | letKey
  | trueKey
  | falseKey
  | ifKey
  | elseKey
  | returnKey
  deriving DecidableEq, Repr

namespace Keyword

def all : List Keyword :=
  [.fnKey, .letKey, .trueKey, .falseKey, .ifKey, .elseKey, .returnKey]

def name : Keyword → String
  | .fnKey => "Function"
  | .letKey => "Let"
  | .trueKey => "True"
  | .falseKey => "False"
  | .ifKey => "If"
  | .elseKey => "Else"
  | .returnKey => "Return"

def tag : Keyword → String
  | .fnKey => "FUNCTION"
  | .letKey => "LET"
  | .trueKey => "TRUE"
  | .falseKey => "FALSE"
  | .ifKey => "IF"
  | .elseKey => "ELSE"
  | .returnKey => "RETURN"

def spelling : Keyword → String
  | .fnKey => "fn"
  | .letKey => "let"
  | .trueKey => "true"
  | .falseKey => "false"
  | .ifKey => "if"
  | .elseKey => "else"
  | .returnKey => "return"

def description : Keyword → String
  | .fnKey => "Introduce a function literal."
  | .letKey => "Bind a name to a value."
  | .trueKey => "Boolean true."
  | .falseKey => "Boolean false."
  | .ifKey => "Conditional branch."
  | .elseKey => "Alternative branch of an `if`."
  | .returnKey => "Return a value from the enclosing function."

def ofSpelling? (s : String) : Option Keyword :=
  all.find? (fun k => k.spelling == s)

theorem mem_all (k : Keyword) : k ∈ all := by
  cases k <;> decide

theorem ofSpelling?_spelling (k : Keyword) : ofSpelling? k.spelling = some k := by
  cases k <;> decide

theorem spelling_of_ofSpelling? {s : String} {k : Keyword} (h : ofSpelling? s = some k) :
    k.spelling = s := by
  simpa using List.find?_some h

theorem ofSpelling?_eq_some_iff {s : String} {k : Keyword} :
    ofSpelling? s = some k ↔ k.spelling = s :=
  ⟨spelling_of_ofSpelling?,fun h => h ▸ ofSpelling?_spelling k⟩

end Keyword

inductive Operator where
  | assign
  | plus
  | minus
  | asterisk
  | slash
  | bang
  | lt
  | gt
  | eq
  | notEq
  deriving DecidableEq, Repr

namespace Operator

def all : List Operator :=
  [.assign, .plus, .minus, .asterisk, .slash, .bang, .lt, .gt, .eq, .notEq]

def name : Operator → String
  | .assign => "Assign"
  | .plus => "Plus"
  | .minus => "Minus"
  | .asterisk => "Asterisk"
  | .slash => "Slash"
  | .bang => "Bang"
  | .lt => "Lt"
  | .gt => "Gt"
  | .eq => "Eq"
  | .notEq => "NotEq"

def tag : Operator → String
  | .assign => "ASSIGN"
  | .plus => "PLUS"
  | .minus => "MINUS"
  | .asterisk => "ASTERISK"
  | .slash => "SLASH"
  | .bang => "BANG"
  | .lt => "LT"
  | .gt => "GT"
  | .eq => "EQ"
  | .notEq => "NOT_EQ"

def spelling : Operator → String
  | .assign => "="
  | .plus => "+"
  | .minus => "-"
  | .asterisk => "*"
  | .slash => "/"
  | .bang => "!"
  | .lt => "<"
  | .gt => ">"
  | .eq => "=="
  | .notEq => "!="

def ofSpelling? (s : String) : Option Operator :=
  all.find? (fun o => o.spelling == s)

theorem mem_all (o : Operator) : o ∈ all := by
  cases o <;> decide

theorem ofSpelling?_spelling (o : Operator) : ofSpelling? o.spelling = some o := by
  cases o <;> decide

theorem spelling_of_ofSpelling? {s : String} {o : Operator} (h : ofSpelling? s = some o) :
    o.spelling = s := by
  simpa using List.find?_some h

theorem ofSpelling?_eq_some_iff {s : String} {o : Operator} :
    ofSpelling? s = some o ↔ o.spelling = s :=
  ⟨spelling_of_ofSpelling?,fun h => h ▸ ofSpelling?_spelling o⟩

end Operator

inductive Punctuation where
  | comma
  | semicolon
  | lParen
  | rParen
  | lBrace
  | rBrace
  deriving DecidableEq, Repr

namespace Punctuation

def all : List Punctuation :=
  [.comma, .semicolon, .lParen, .rParen, .lBrace, .rBrace]

def name : Punctuation → String
  | .comma => "Comma"
  | .semicolon => "Semicolon"
  | .lParen => "LParen"
  | .rParen => "RParen"
  | .lBrace => "LBrace"
  | .rBrace => "RBrace"

def tag : Punctuation → String
  | .comma => "COMMA"
  | .semicolon => "SEMICOLON"
  | .lParen => "LPAREN"
  | .rParen => "RPAREN"
  | .lBrace => "LBRACE"
  | .rBrace => "RBRACE"

def spelling : Punctuation → String
  | .comma => ","
  | .semicolon => ";"
  | .lParen => "("
  | .rParen => ")"
  | .lBrace => "\x7b"
  | .rBrace => "\x7d"

def ofSpelling? (s : String) : Option Punctuation :=
  all.find? (fun p => p.spelling == s)

theorem mem_all (p : Punctuation) : p ∈ all := by
  cases p <;> decide

theorem ofSpelling?_spelling (p : Punctuation) : ofSpelling? p.spelling = some p := by
  cases p <;> decide

theorem spelling_of_ofSpelling? {s : String} {p : Punctuation} (h : ofSpelling? s = some p) :
    p.spelling = s := by
  simpa using List.find?_some h

theorem ofSpelling?_eq_some_iff {s : String} {p : Punctuation} :
    ofSpelling? s = some p ↔ p.spelling = s :=
  ⟨spelling_of_ofSpelling?,fun h => h ▸ ofSpelling?_spelling p⟩

end Punctuation

end LetLang
