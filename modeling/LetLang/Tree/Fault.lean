import LetLang.Token.Basic

namespace LetLang

inductive Fault where
  | unexpectedToken (expected found : Kind) (span : Span)
  | unsupportedStatement (found : Kind) (span : Span)
  deriving DecidableEq, Repr

namespace Fault

def found : Fault → Kind
  | unexpectedToken _ k _ => k
  | unsupportedStatement k _ => k

def expected? : Fault → Option Kind
  | unexpectedToken k _ _ => some k
  | unsupportedStatement _ _ => none

def span : Fault → Span
  | unexpectedToken _ _ s => s
  | unsupportedStatement _ s => s

def isUnsupported : Fault → Bool
  | unexpectedToken _ _ _ => false
  | unsupportedStatement _ _ => true

def message : Fault → String
  | unexpectedToken e k _ => "expected " ++ e.describe ++ ", found " ++ k.describe
  | unsupportedStatement k _ => "cannot start a statement with " ++ k.describe

def code : Fault → String
  | unexpectedToken _ _ _ => "interp::parse::unexpected_token"
  | unsupportedStatement _ _ => "interp::parse::unsupported_statement"

def label : Fault → String
  | unexpectedToken _ _ _ => "unexpected token"
  | unsupportedStatement _ _ => "statement starts here"

def help? : Fault → Option String
  | unexpectedToken _ _ _ => none
  | unsupportedStatement _ _ => some "only `let` statements are parsed so far"

def shift (n : Nat) : Fault → Fault
  | unexpectedToken e k s => unexpectedToken e k (s.shift n)
  | unsupportedStatement k s => unsupportedStatement k (s.shift n)

end Fault

end LetLang
