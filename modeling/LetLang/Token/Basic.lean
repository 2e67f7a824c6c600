import LetLang.Vocabulary
import LetLang.Span
import LetLang.Text.Quoted

namespace LetLang

inductive Kind where
  | keyword (k : Keyword)
  | operator (o : Operator)
  | punctuation (p : Punctuation)
  | ident
  | int
  | illegal
  | eof
  deriving DecidableEq, Repr

namespace Kind

def all : List Kind :=
  Keyword.all.map keyword ++ Operator.all.map operator ++ Punctuation.all.map punctuation ++
    [ident, int, illegal, eof]

theorem mem_all (k : Kind) : k ∈ all := by
  cases k with
  | keyword k => simp [all, Keyword.mem_all]
  | operator o => simp [all, Operator.mem_all]
  | punctuation p => simp [all, Punctuation.mem_all]
  | ident | int | illegal | eof => simp [all]

def tag : Kind → String
  | keyword k => k.tag
  | operator o => o.tag
  | punctuation p => p.tag
  | ident => "IDENT"
  | int => "INT"
  | illegal => "ILLEGAL"
  | eof => "EOF"

def describe : Kind → String
  | keyword k => "'" ++ k.spelling ++ "'"
  | operator o => "'" ++ o.spelling ++ "'"
  | punctuation p => "'" ++ p.spelling ++ "'"
  | ident => "identifier"
  | int => "integer literal"
  | illegal => "illegal character"
  | eof => "end of input"

def ofWord (word : String) : Kind :=
  match Keyword.ofSpelling? word with
  | some k => keyword k
  | none => ident

theorem ofWord_eq_keyword_iff {word : String} {k : Keyword} :
    ofWord word = keyword k ↔ k.spelling = word := by
  rw [← Keyword.ofSpelling?_eq_some_iff, ofWord]
  split <;> simp_all

theorem ofWord_ne_eof (word : String) : ofWord word ≠ eof := by
  unfold ofWord
  split <;> simp

end Kind

structure Token where
  kind : Kind
  literal : String
  span : Span
  deriving DecidableEq, Repr

namespace Token

def eof (n : Nat) : Token :=
  ⟨.eof,"",⟨n,n⟩⟩

instance : Inhabited Token := ⟨eof 0⟩

def render (t : Token) : String :=
  t.kind.tag ++ "(" ++ Text.quote t.literal ++ ")"

def entry (t : Token) : String :=
  t.render ++ " " ++ toString t.span.start ++ ".." ++ toString t.span.stop ++ "\n"

def weight (t : Token) : Nat :=
  if t.kind = .eof then 0 else 1

def shift (n : Nat) (t : Token) : Token :=
  { t with span := t.span.shift n }

end Token

end LetLang
