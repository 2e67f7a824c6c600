import LetLang.Token.Lexer
import LetLang.Tree.Basic
import LetLang.Tree.Fault

namespace LetLang

structure Parser where
  lexer : Lexer
  current : Token
  ahead : Token
  faults : Array Fault
  deriving DecidableEq, Repr

namespace Parser

def ofLexer (lx : Lexer) : Parser :=
  let first := lx.next
  let second := first.2.next
  ⟨second.2,first.1,second.1,#[]⟩

def advance (p : Parser) : Parser :=
  let step := p.lexer.next
  ⟨step.2,p.ahead,step.1,p.faults⟩

def addFault (p : Parser) (e : Fault) : Parser :=
  { p with faults := p.faults.push e }

def atEof (p : Parser) : Bool :=
  p.current.kind == .eof

def atSemicolon (p : Parser) : Bool :=
  p.current.kind == .punctuation .semicolon

theorem advance_addFault (p : Parser) (e : Fault) :
    (p.addFault e).advance = p.advance.addFault e := rfl

def weight (p : Parser) : Nat :=
  p.lexer.rest.length + p.current.weight + p.ahead.weight

theorem weight_addFault (p : Parser) (e : Fault) : (p.addFault e).weight = p.weight := rfl

theorem weight_advance_le (p : Parser) : p.advance.weight + p.current.weight ≤ p.weight := by
  have hnext := p.lexer.next_weight_le
  have hw : p.advance.weight =
      p.lexer.next.2.rest.length + p.ahead.weight + p.lexer.next.1.weight := rfl
  rw [hw, weight]
  omega

theorem weight_advance_lt {p : Parser} (h : ¬p.atEof) : p.advance.weight < p.weight := by
  have := p.weight_advance_le
  have : p.current.weight = 1 := by simpa [atEof, Token.weight] using h
  omega

def expect (p : Parser) (k : Kind) : Except Fault Parser :=
  if p.ahead.kind = k then .ok p.advance
  else .error (.unexpectedToken k p.ahead.kind p.ahead.span)

theorem expect_eq_ok_iff {p q : Parser} {k : Kind} :
    p.expect k = .ok q ↔ p.ahead.kind = k ∧ q = p.advance := by
  unfold expect
  split <;> simp_all [eq_comm]

def skipValue (p : Parser) : Parser :=
  if p.atSemicolon then p
  else if _ : p.atEof then p
  else p.advance.skipValue
termination_by p.weight
decreasing_by exact weight_advance_lt ‹_›

theorem weight_skipValue_le (p : Parser) : p.skipValue.weight ≤ p.weight := by
  fun_induction skipValue p with
  | case1 | case2 => exact Nat.le_refl _
  | case3 p _ h ih =>
    have := weight_advance_lt h
    omega

def letStatement (p : Parser) : Except Fault LetStatement × Parser :=
  match p.expect .ident with
  | .error e => (.error e, p)
  | .ok q =>
    match q.expect (.operator .assign) with
    | .error e => (.error e, q)
    | .ok r =>
      let s := r.skipValue
      if s.atEof then
        (.error (.unexpectedToken (.punctuation .semicolon) .eof s.current.span), s)
      else
        (.ok ⟨p.current,.ofToken q.current,none,p.current.span.merge s.current.span⟩, s)

def statement (p : Parser) : Except Fault Statement × Parser :=
  if p.current.kind = .keyword .letKey then
    let (result, q) := p.letStatement
    (result.map Statement.letStatement, q)
  else (.error (.unsupportedStatement p.current.kind p.current.span), p)

theorem weight_letStatement (p : Parser) :
    p.letStatement.2 = p ∨ p.letStatement.2.weight ≤ p.advance.weight := by
  unfold letStatement
  split
  · exact .inl rfl
  · rename_i q hq
    have hq := (expect_eq_ok_iff.1 hq).2
    subst hq
    split
    · exact .inr (Nat.le_refl _)
    · rename_i r hr
      have hr := (expect_eq_ok_iff.1 hr).2
      subst hr
      have h1 := p.advance.weight_advance_le
      have h2 := p.advance.advance.weight_skipValue_le
      simp only
      split <;> exact .inr (by simp only; omega)

theorem weight_statement (p : Parser) :
    p.statement.2 = p ∨ p.statement.2.weight ≤ p.advance.weight := by
  unfold statement
  split
  · exact p.weight_letStatement
  · exact .inl rfl

theorem weight_advance_statement_lt {p : Parser} (h : ¬p.atEof) :
    p.statement.2.advance.weight < p.weight := by
  have hlt := weight_advance_lt h
  rcases p.weight_statement with heq | hle
  · rwa [heq]
  · have := p.statement.2.weight_advance_le
    omega

end Parser

structure ParserLoop where
  parser : Parser
  statements : Array Statement
  atBoundary : Bool
  deriving DecidableEq, Repr

namespace ParserLoop

def ofParser (p : Parser) : ParserLoop :=
  ⟨p,#[],true⟩

def step (s : ParserLoop) : ParserLoop :=
  if s.parser.atSemicolon then ⟨s.parser.advance,s.statements,true⟩
  else
    match s.parser.statement with
    | (.ok stmt, q) => ⟨q.advance,s.statements.push stmt,true⟩
    | (.error e, q) =>
      if e.isUnsupported && !s.atBoundary then ⟨q.advance,s.statements,s.atBoundary⟩
      else ⟨(q.addFault e).advance,s.statements,false⟩

theorem weight_step_lt {s : ParserLoop} (h : ¬s.parser.atEof) :
    s.step.parser.weight < s.parser.weight := by
  have hs := Parser.weight_advance_statement_lt h
  unfold step
  split
  · exact Parser.weight_advance_lt h
  · split
    · rename_i hq
      simpa [hq] using hs
    · rename_i hq
      split <;> simpa [hq, Parser.advance_addFault, Parser.weight_addFault] using hs

def run (s : ParserLoop) : ParserLoop :=
  if _ : s.parser.atEof then s else s.step.run
termination_by s.parser.weight
decreasing_by exact weight_step_lt ‹_›

theorem run_of_atEof {s : ParserLoop} (h : s.parser.atEof) : s.run = s := by
  rw [run]
  simp [h]

theorem run_of_not_atEof {s : ParserLoop} (h : ¬s.parser.atEof) : s.run = s.step.run := by
  rw [run]
  simp [h]

theorem atEof_run (s : ParserLoop) : s.run.parser.atEof := by
  fun_induction run s with
  | case1 s h => exact h
  | case2 s h ih => exact ih

end ParserLoop

namespace Parser

def program (p : Parser) : Program × Parser :=
  let s := (ParserLoop.ofParser p).run
  (⟨s.statements.toList⟩, s.parser)

theorem program_of_atEof {p : Parser} (h : p.atEof) : p.program = (.empty, p) := by
  have hrun : (ParserLoop.ofParser p).run = .ofParser p := ParserLoop.run_of_atEof h
  unfold program
  rw [hrun]
  rfl

end Parser

structure ParseResult where
  program : Program
  faults : List Fault
  deriving DecidableEq, Repr

namespace ParseResult

def ofBytes (bytes : List UInt8) : ParseResult :=
  let (program, p) := (Parser.ofLexer (.ofBytes bytes)).program
  ⟨program,p.faults.toList⟩

def isClean (r : ParseResult) : Bool :=
  r.faults.isEmpty

def toExcept (r : ParseResult) : Except (List Fault) Program :=
  if r.isClean then .ok r.program else .error r.faults

end ParseResult

def parse (source : String) : ParseResult :=
  .ofBytes (Text.utf8 source)

end LetLang
