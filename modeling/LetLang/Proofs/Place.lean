import Mathlib.Data.List.GetD
import LetLang.Proofs.Expectation

namespace LetLang

namespace Lexer

def token (lx : Lexer) (i : Nat) : Token :=
  lx.tokens.getD i lx.last

variable {lx : Lexer} {i j n : Nat}

theorem next_skip_eq_token (n : Nat) (lx : Lexer) : (lx.skip n).next.1 = lx.token n :=
  next_skip n lx

theorem next_skip_skip (n i : Nat) (lx : Lexer) :
    ((lx.skip n).skip i).next.1 = lx.token (n + i) := by
  rw [← skip_add, next_skip_eq_token]

theorem token_skip (n i : Nat) (lx : Lexer) : (lx.skip n).token i = lx.token (n + i) := by
  rw [← next_skip_eq_token, next_skip_skip]

theorem token_of_length_le (h : lx.tokens.length ≤ i) : lx.token i = lx.last :=
  List.getD_eq_default _ _ h

theorem token_mem_of_lt (h : i < lx.tokens.length) : lx.token i ∈ lx.tokens := by
  rw [token, List.getD_eq_getElem _ _ h]
  exact List.getElem_mem h

theorem token_kind_eq_eof_iff : (lx.token i).kind = .eof ↔ lx.tokens.length ≤ i := by
  constructor
  · intro he
    apply Nat.le_of_not_lt
    intro hlt
    exact kind_ne_eof_of_mem (token_mem_of_lt hlt) he
  · intro h
    rw [token_of_length_le h]
    rfl

theorem lt_length_of_ne_eof (h : (lx.token i).kind ≠ .eof) : i < lx.tokens.length :=
  Nat.lt_of_not_le (fun hle => h (token_kind_eq_eof_iff.mpr hle))

theorem token_mem_value (h : i < lx.value.length) : lx.token i ∈ lx.value := by
  have hi : lx.tokens[i]? = lx.value[i]? := by
    rw [← lx.value_append_tokens, List.getElem?_append_left h]
  rw [token, List.getD_eq_getElem?_getD, hi, List.getElem?_eq_getElem h]
  exact List.getElem_mem h

theorem value_length_le : lx.value.length ≤ lx.tokens.length :=
  (List.takeWhile_sublist _).length_le

theorem value_length_eq (hj : (lx.token j).kind = .punctuation .semicolon)
    (hfirst : ∀ m < j, (lx.token m).kind ≠ .punctuation .semicolon) : lx.value.length = j := by
  have hstop : (lx.token lx.value.length).kind = .punctuation .semicolon ∨
      (lx.token lx.value.length).kind = .eof := by
    rw [← next_skip_eq_token]
    exact lx.afterValue_kind
  rcases Nat.lt_trichotomy lx.value.length j with hlt | heq | hgt
  · rcases hstop with hs | he
    · exact absurd hs (hfirst _ hlt)
    · have hend : (lx.token j).kind = .eof :=
        token_kind_eq_eof_iff.mpr (Nat.le_trans (token_kind_eq_eof_iff.mp he) (Nat.le_of_lt hlt))
      rw [hj] at hend
      cases hend
  · exact heq
  · exact absurd hj (ne_semicolon_of_mem_value (token_mem_value hgt))

theorem value_length_of_no_semicolon
    (h : ∀ m, (lx.token m).kind ≠ .punctuation .semicolon) :
    lx.value.length = lx.tokens.length := by
  have hstop := lx.afterValue_kind
  rw [afterValue, next_skip_eq_token] at hstop
  rcases hstop with hs | he
  · exact absurd hs (h _)
  · exact Nat.le_antisymm value_length_le (token_kind_eq_eof_iff.mp he)

end Lexer

namespace Parser

structure StandsAt (lx : Lexer) (i : Nat) (p : Parser) : Prop where
  current : p.current = lx.token i
  ahead : p.ahead = lx.token (i + 1)
  lexer : p.lexer = lx.skip (i + 2)

section
variable {lx : Lexer} {i : Nat} {p : Parser}

theorem standsAt_window (lx : Lexer) (i : Nat) (fs : Array Fault) :
    (window (lx.skip i) fs).StandsAt lx i :=
  ⟨lx.next_skip_skip i 0,lx.next_skip_skip i 1,(lx.skip_add i 2).symm⟩

theorem StandsAt.eq_window (h : p.StandsAt lx i) : p = window (lx.skip i) p.faults := by
  obtain ⟨hc,ha,hl⟩ := standsAt_window lx i p.faults
  obtain ⟨lexer,current,ahead,faults⟩ := p
  rw [mk.injEq, hc, ha, hl]
  exact ⟨h.lexer,h.current,h.ahead,rfl⟩

theorem StandsAt.atEof_iff (h : p.StandsAt lx i) : p.atEof ↔ lx.tokens.length ≤ i := by
  rw [← Lexer.token_kind_eq_eof_iff, ← h.current, atEof, beq_iff_eq]

theorem StandsAt.advance (h : p.StandsAt lx i) : p.advance.StandsAt lx (i + 1) := by
  rw [h.eq_window]
  have hskip : (window (lx.skip i) p.faults).advance = window (lx.skip (i + 1)) p.faults := by
    rw [Lexer.skip_add]
    rfl
  rw [hskip]
  exact standsAt_window lx (i + 1) p.faults

theorem StandsAt.addFault (h : p.StandsAt lx i) (f : Fault) : (p.addFault f).StandsAt lx i :=
  ⟨h.current,h.ahead,h.lexer⟩

end

inductive Reachable (lx : Lexer) : Parser → Prop
  | ofLexer : Reachable lx (ofLexer lx)
  | advance {p : Parser} (h : Reachable lx p) : Reachable lx p.advance
  | addFault {p : Parser} (h : Reachable lx p) (f : Fault) : Reachable lx (p.addFault f)

namespace Reachable

variable {lx : Lexer} {p q : Parser}

theorem standsAt (h : p.Reachable lx) : ∃ i, p.StandsAt lx i := by
  induction h with
  | ofLexer => exact ⟨0,standsAt_window lx 0 #[]⟩
  | advance _ ih =>
    obtain ⟨i,hi⟩ := ih
    exact ⟨i + 1,hi.advance⟩
  | addFault _ f ih =>
    obtain ⟨i,hi⟩ := ih
    exact ⟨i,hi.addFault f⟩

theorem expect {k : Kind} (h : p.Reachable lx) (hq : p.expect k = .ok q) : q.Reachable lx := by
  rw [(expect_eq_ok_iff.mp hq).2]
  exact h.advance

theorem skipValue (h : p.Reachable lx) : p.skipValue.Reachable lx := by
  fun_induction Parser.skipValue p with
  | case1 | case2 => exact h
  | case3 p _ _ ih => exact ih h.advance

theorem letStatement (h : p.Reachable lx) : p.letStatement.2.Reachable lx := by
  unfold Parser.letStatement
  split
  · exact h
  · rename_i q hq
    have hq := h.expect hq
    split
    · exact hq
    · rename_i r hr
      have hs := (hq.expect hr).skipValue
      simp only
      split
      · exact hs
      · exact hs

theorem statement (h : p.Reachable lx) : p.statement.2.Reachable lx := by
  unfold Parser.statement
  split
  · exact h.letStatement
  · exact h

end Reachable

end Parser

namespace ParserLoop

-- A turn passes a semicolon, or it attempts a statement and goes on from where that has got to.
theorem parser_step (s : ParserLoop) :
    (s.parser.atSemicolon ∧ s.step.parser = s.parser.advance) ∨
      ¬s.parser.atSemicolon ∧ ∃ q, s.step.parser = q.advance ∧
        (q = s.parser.statement.2 ∨ ∃ f, q = s.parser.statement.2.addFault f) := by
  by_cases hs : s.parser.atSemicolon
  · refine .inl ⟨hs,?_⟩
    rw [step, if_pos hs]
  · refine .inr ⟨hs,?_⟩
    rw [step, if_neg hs]
    split
    · rename_i q hq
      exact ⟨q,rfl,.inl (by rw [hq])⟩
    · rename_i e q hq
      split
      · exact ⟨q,rfl,.inl (by rw [hq])⟩
      · exact ⟨q.addFault e,rfl,.inr ⟨e,by rw [hq]⟩⟩

theorem reachable_step {lx : Lexer} {s : ParserLoop} (h : s.parser.Reachable lx) :
    s.step.parser.Reachable lx := by
  rcases s.parser_step with ⟨_,hstep⟩ | ⟨_,q,hstep,rfl | ⟨f,rfl⟩⟩
  · rw [hstep]
    exact h.advance
  · rw [hstep]
    exact h.statement.advance
  · rw [hstep]
    exact (h.statement.addFault f).advance

theorem reachable_run {lx : Lexer} {s : ParserLoop} (h : s.parser.Reachable lx) :
    s.run.parser.Reachable lx := by
  fun_induction run s with
  | case1 => exact h
  | case2 s _ ih => exact ih (reachable_step h)

inductive Turn (lx : Lexer) : ParserLoop → Prop
  | first : Turn lx (.ofParser (.ofLexer lx))
  | next {s : ParserLoop} (h : Turn lx s) (he : ¬s.parser.atEof) : Turn lx s.step

theorem Turn.reachable {lx : Lexer} {s : ParserLoop} (h : Turn lx s) :
    s.parser.Reachable lx := by
  induction h with
  | first => exact .ofLexer
  | next _ _ ih => exact reachable_step ih

end ParserLoop

end LetLang
