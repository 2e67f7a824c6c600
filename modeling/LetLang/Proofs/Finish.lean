import LetLang.Proofs.Calls
import LetLang.Proofs.Place

namespace LetLang

theorem Lexer.stop_skip_ofBytes (n : Nat) (bytes : List UInt8) :
    ((ofBytes bytes).skip n).offset + ((ofBytes bytes).skip n).rest.length = bytes.length := by
  have hlast : ((ofBytes bytes).skip n).last = .eof bytes.length := by
    rw [last_skip, last_ofBytes]
  exact congrArg (fun t => t.span.start) hlast

namespace Parser

structure Exhausted (n : Nat) (p : Parser) : Prop where
  current : p.current = .eof n
  ahead : p.ahead = .eof n
  lexer : p.lexer = ⟨n,[]⟩

def programs : Nat → Parser → List Program × Parser
  | 0, p => ([], p)
  | n + 1, p => (p.program.1 :: (p.program.2.programs n).1, (p.program.2.programs n).2)

variable {lx : Lexer} {p : Parser} {i : Nat}

theorem StandsAt.exhausted (h : p.StandsAt lx i) (he : p.atEof) :
    p.Exhausted (lx.offset + lx.rest.length) := by
  have hi : lx.tokens.length ≤ i := h.atEof_iff.mp he
  refine ⟨?_,?_,?_⟩
  · rw [h.current, Lexer.token_of_length_le hi]
    rfl
  · rw [h.ahead, Lexer.token_of_length_le (Nat.le_succ_of_le hi)]
    rfl
  · rw [h.lexer, Lexer.skip_of_length_lt (by omega)]
    rfl

theorem exhausted_program (lx : Lexer) :
    (ofLexer lx).program.2.Exhausted (lx.offset + lx.rest.length) := by
  have hfirst : (ParserLoop.ofParser (ofLexer lx)).parser.Reachable lx := .ofLexer
  obtain ⟨_,hi⟩ := (ParserLoop.reachable_run hfirst).standsAt
  exact hi.exhausted (ParserLoop.atEof_run _)

theorem programs_of_atEof (h : p.atEof) (k : Nat) :
    p.programs k = (List.replicate k .empty, p) := by
  induction k with
  | zero => rfl
  | succ k ih =>
    rw [programs, program_of_atEof h, ih]
    rfl

theorem programs_succ (p : Parser) (k : Nat) :
    p.programs (k + 1) = (p.program.1 :: List.replicate k .empty, p.program.2) := by
  have hend : p.program.2.atEof := ParserLoop.atEof_run _
  rw [programs, programs_of_atEof hend]

theorem programs_exhausted (bytes : List UInt8) (n : Nat) :
    (ofLexer ((Lexer.ofBytes bytes).skip n)).program.2.Exhausted bytes.length ∧
      ∀ k, (ofLexer ((Lexer.ofBytes bytes).skip n)).programs (k + 1) =
          ((ofLexer ((Lexer.ofBytes bytes).skip n)).program.1 :: List.replicate k .empty,
            (ofLexer ((Lexer.ofBytes bytes).skip n)).program.2) ∧
        ((ofLexer ((Lexer.ofBytes bytes).skip n)).programs (k + 1)).2.faults.toList =
          (ofLexer ((Lexer.ofBytes bytes).skip n)).program.2.faults.toList := by
  refine ⟨?_,?_⟩
  · rw [← Lexer.stop_skip_ofBytes n bytes]
    exact exhausted_program ((Lexer.ofBytes bytes).skip n)
  · intro k
    have hcalls := programs_succ (ofLexer ((Lexer.ofBytes bytes).skip n)) k
    exact ⟨hcalls,congrArg (fun calls => calls.2.faults.toList) hcalls⟩

end Parser

end LetLang
