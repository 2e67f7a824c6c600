import LetLang.Proofs.Yield
import LetLang.Proofs.Spelling

namespace LetLang

def Identifier.shift (n : Nat) (i : Identifier) : Identifier :=
  { i with token := i.token.shift n }

def Expression.shift (n : Nat) : Expression → Expression
  | identifier i => identifier (i.shift n)

def LetStatement.shift (n : Nat) (s : LetStatement) : LetStatement :=
  ⟨s.token.shift n,s.name.shift n,s.value.map (Expression.shift n),s.span.shift n⟩

def ReturnStatement.shift (n : Nat) (s : ReturnStatement) : ReturnStatement :=
  ⟨s.token.shift n,s.value.map (Expression.shift n),s.span.shift n⟩

def Statement.shift (n : Nat) : Statement → Statement
  | letStatement s => letStatement (s.shift n)
  | returnStatement s => returnStatement (s.shift n)

@[simp]
theorem Token.kind_shift (n : Nat) (t : Token) : (t.shift n).kind = t.kind := rfl

def Lexer.shift (n : Nat) (lx : Lexer) : Lexer :=
  ⟨lx.offset + n,lx.rest⟩

namespace Lexer

theorem next_shift (n : Nat) (lx : Lexer) :
    (lx.shift n).next = (lx.next.1.shift n, lx.next.2.shift n) := by
  induction lx using scan_induction with
  | nil o => rfl
  | blank o b bs hb ih =>
    simp only [shift] at ih ⊢
    rw [next_blank hb, next_blank hb, ← ih, Nat.add_right_comm]
  | token o b bs hb ih =>
    have hadd : o + n + 1 + (lexeme b bs).2 = o + 1 + (lexeme b bs).2 + n := by omega
    rw [shift, next_cons hb, next_cons hb, hadd]
    rfl

theorem tokens_shift (n : Nat) (lx : Lexer) :
    (lx.shift n).tokens = lx.tokens.map (Token.shift n) := by
  induction lx using stream_induction with
  | eof lx he =>
    have hn : (lx.shift n).next.1.kind = .eof := by rw [next_shift, Token.kind_shift, he]
    rw [tokens_of_eof he, tokens_of_eof hn, List.map_nil]
  | token lx he ih =>
    have hn : (lx.shift n).next.1.kind ≠ .eof := by rwa [next_shift, Token.kind_shift]
    rw [tokens_of_ne_eof he, tokens_of_ne_eof hn, next_shift, List.map_cons, ih]

theorem tokens_eq_map_shift (n : Nat) (bs : List UInt8) :
    tokens ⟨n,bs⟩ = (ofBytes bs).tokens.map (Token.shift n) := by
  have h := tokens_shift n (ofBytes bs)
  have hs : (ofBytes bs).shift n = ⟨n,bs⟩ := by
    rw [ofBytes, shift, Nat.zero_add]
  rwa [hs] at h

end Lexer

section
variable (n : Nat)

theorem letAt_map_shift {ts : List Token} {k : Nat} :
    LetAt (ts.map (Token.shift n)) k ↔ LetAt ts k := by
  have hk (i : Nat) : (ts.map (Token.shift n))[i]?.map Token.kind = ts[i]?.map Token.kind := by
    rw [List.getElem?_map, Option.map_map]
    rfl
  simp only [LetAt, hk]

theorem firstLet?_map_shift (ts : List Token) :
    firstLet? (ts.map (Token.shift n)) = firstLet? ts := by
  simp only [firstLet?, List.length_map, letAt_map_shift]

namespace Segment

def shift (s : Segment) : Segment :=
  ⟨s.body.map (Token.shift n),s.stop.shift n⟩

theorem cut_map_shift (last : Token) (ts : List Token) :
    cut (last.shift n) (ts.map (Token.shift n)) =
      ((cut last ts).1.shift n, (cut last ts).2.map (shift n)) := by
  induction ts using cut_induction with
  | nil => rfl
  | semicolon t ts h ih =>
    have hs : (t.shift n).kind = .punctuation .semicolon := h
    rw [List.map_cons, cut_semicolon hs, cut_semicolon h, ih]
    rfl
  | other t ts h ih =>
    have hs : (t.shift n).kind ≠ .punctuation .semicolon := h
    rw [List.map_cons, cut_cons hs, cut_cons h, ih]
    rfl

theorem token_shift (s : Segment) (k : Nat) : (s.shift n).token k = (s.token k).shift n := by
  simp only [token, shift, List.getD_eq_getElem?_getD, List.getElem?_map]
  cases s.body[k]? <;> rfl

theorem statement?_shift (s : Segment) :
    (s.shift n).statement? = s.statement?.map (Statement.shift n) := by
  have hst (k : Nat) : (s.shift n).letStatement k = (s.letStatement k).shift n := by
    rw [letStatement, token_shift, token_shift]
    rfl
  have hfirst : firstLet? (s.shift n).body = firstLet? s.body := firstLet?_map_shift n s.body
  have hstop : (s.shift n).stop.kind = s.stop.kind := rfl
  rw [statement?, statement?, hfirst, hstop]
  split
  · simp only [hst, Option.map_map]
    rfl
  · rfl

theorem leadFaults_shift (s : Segment) :
    (s.shift n).leadFaults = s.leadFaults.map (Fault.shift n) := by
  obtain ⟨body,stop⟩ := s
  cases body with
  | nil => rfl
  | cons t ts =>
    rcases eq_or_ne t.kind (.keyword .letKey) with h | h
    · simp [shift, leadFaults, h]
    · simp [shift, leadFaults, h]
      rfl

theorem letFault_shift (s : Segment) (i : Nat) :
    (s.shift n).letFault i = (s.letFault i).shift n := by
  simp only [letFault, token_shift, Token.kind_shift]
  split
  · rfl
  · rfl

theorem letFaults_shift (s : Segment) :
    (s.shift n).letFaults = s.letFaults.map (Fault.shift n) := by
  have hfirst : firstLet? (s.shift n).body = firstLet? s.body := firstLet?_map_shift n s.body
  have hlen : (s.shift n).body.length = s.body.length := List.length_map _
  rw [letFaults, letFaults, List.map_map, hfirst, hlen]
  simp only [token_shift, Token.kind_shift]
  exact List.map_congr_left (fun i _ => letFault_shift n s i)

theorem endFaults_shift (s : Segment) :
    (s.shift n).endFaults = s.endFaults.map (Fault.shift n) := by
  have hfirst : firstLet? (s.shift n).body = firstLet? s.body := firstLet?_map_shift n s.body
  have hstop : (s.shift n).stop.kind = s.stop.kind := rfl
  rw [endFaults, endFaults, hfirst, hstop]
  split
  · rfl
  · rfl

theorem faults_shift (s : Segment) : (s.shift n).faults = s.faults.map (Fault.shift n) := by
  simp only [faults, List.map_append, leadFaults_shift, letFaults_shift, endFaults_shift]

end Segment

theorem segments_map_shift (last : Token) (ts : List Token) :
    segments (last.shift n) (ts.map (Token.shift n)) =
      (segments last ts).map (Segment.shift n) := by
  rw [segments, Segment.cut_map_shift]
  rfl

theorem statementsOf_map_shift (last : Token) (ts : List Token) :
    statementsOf (last.shift n) (ts.map (Token.shift n)) =
      (statementsOf last ts).map (Statement.shift n) := by
  rw [statementsOf, segments_map_shift, List.filterMap_map, statementsOf, List.map_filterMap]
  congr 1
  funext s
  exact Segment.statement?_shift n s

theorem faultsOf_map_shift (last : Token) (ts : List Token) :
    faultsOf (last.shift n) (ts.map (Token.shift n)) = (faultsOf last ts).map (Fault.shift n) := by
  rw [faultsOf, segments_map_shift, List.flatMap_map, faultsOf, List.map_flatMap]
  congr 1
  funext s
  exact Segment.faults_shift n s

end

end LetLang
