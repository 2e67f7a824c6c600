import Mathlib.Data.Nat.Find
import LetLang.Proofs.Place

namespace LetLang

namespace Lexer

structure InValue (lx : Lexer) (k i : Nat) : Prop where
  keyword : (lx.token k).kind = .keyword .letKey
  name : (lx.token (k + 1)).kind = .ident
  assign : (lx.token (k + 2)).kind = .operator .assign
  after : k + 2 < i
  unclosed : ∀ m, k + 2 < m → m ≤ i → (lx.token m).kind ≠ .punctuation .semicolon

variable {lx : Lexer} {i j : Nat}

theorem InValue.of_keyword (hl : (lx.token i).kind = .keyword .letKey)
    (hn : (lx.token (i + 1)).kind = .ident) (ha : (lx.token (i + 2)).kind = .operator .assign)
    (hj : i < j) (hk : (lx.token j).kind = .keyword .letKey)
    (hv : ∀ m, i + 2 < m → m ≤ j → (lx.token m).kind ≠ .punctuation .semicolon) :
    lx.InValue i j := by
  have hname : j ≠ i + 1 := by
    rintro rfl
    rw [hn] at hk
    cases hk
  have hassign : j ≠ i + 2 := by
    rintro rfl
    rw [ha] at hk
    cases hk
  exact ⟨hl,hn,ha,by omega,hv⟩

theorem exists_semicolon_or_none (lx : Lexer) (i : Nat) :
    (∃ j, i < j ∧ (lx.token j).kind = .punctuation .semicolon ∧
      ∀ m, i < m → m < j → (lx.token m).kind ≠ .punctuation .semicolon) ∨
    ∀ m, i < m → (lx.token m).kind ≠ .punctuation .semicolon := by
  by_cases h : ∃ j, i < j ∧ (lx.token j).kind = .punctuation .semicolon
  · obtain ⟨hj,hs⟩ := Nat.find_spec h
    refine .inl ⟨Nat.find h,hj,hs,?_⟩
    intro m hm hlt hsemi
    exact Nat.find_min h hlt ⟨hm,hsemi⟩
  · refine .inr (fun m hm hsemi => h ⟨m,hm,hsemi⟩)

theorem afterValue_eq_skip (ha : (lx.token i).kind = .operator .assign) (hj : i < j)
    (hs : (lx.token j).kind = .punctuation .semicolon)
    (hv : ∀ m, i < m → m < j → (lx.token m).kind ≠ .punctuation .semicolon) :
    (lx.skip i).afterValue = lx.skip j := by
  have hlen : (lx.skip i).value.length = j - i := by
    apply value_length_eq
    · rw [token_skip, Nat.add_sub_of_le (Nat.le_of_lt hj)]
      exact hs
    · intro m hm
      rw [token_skip]
      rcases Nat.eq_zero_or_pos m with rfl | hpos
      · simp [ha]
      · exact hv _ (by omega) (by omega)
  rw [afterValue, hlen, ← skip_add, Nat.add_sub_of_le (Nat.le_of_lt hj)]

theorem afterValue_eq_skip_length (ha : (lx.token i).kind = .operator .assign)
    (hv : ∀ m, i < m → (lx.token m).kind ≠ .punctuation .semicolon) :
    (lx.skip i).afterValue = lx.skip lx.tokens.length := by
  have hi : i < lx.tokens.length := lt_length_of_ne_eof (by simp [ha])
  have hlen : (lx.skip i).value.length = (lx.skip i).tokens.length := by
    apply value_length_of_no_semicolon
    intro m
    rw [token_skip]
    rcases Nat.eq_zero_or_pos m with rfl | hpos
    · simp [ha]
    · exact hv _ (by omega)
  rw [afterValue, hlen, tokens_skip, List.length_drop, ← skip_add,
    Nat.add_sub_of_le (Nat.le_of_lt hi)]

end Lexer

namespace Parser

inductive Attempt (lx : Lexer) (i : Nat) (p : Parser) : Except Fault LetStatement × Parser → Prop
  | unnamed (hn : (lx.token (i + 1)).kind ≠ .ident) :
      Attempt lx i p (.error (.unexpectedToken .ident (lx.token (i + 1)).kind
        (lx.token (i + 1)).span), p)
  | unassigned {q : Parser} (hn : (lx.token (i + 1)).kind = .ident)
      (ha : (lx.token (i + 2)).kind ≠ .operator .assign) (hq : q.StandsAt lx (i + 1))
      (hf : q.faults = p.faults) :
      Attempt lx i p (.error (.unexpectedToken (.operator .assign) (lx.token (i + 2)).kind
        (lx.token (i + 2)).span), q)
  | closed {j : Nat} {q : Parser} (hn : (lx.token (i + 1)).kind = .ident)
      (ha : (lx.token (i + 2)).kind = .operator .assign) (hj : i + 2 < j)
      (hs : (lx.token j).kind = .punctuation .semicolon)
      (hv : ∀ m, i + 2 < m → m < j → (lx.token m).kind ≠ .punctuation .semicolon)
      (hq : q.StandsAt lx j) (hf : q.faults = p.faults) :
      Attempt lx i p (.ok ⟨lx.token i,.ofToken (lx.token (i + 1)),none,
        ⟨(lx.token i).span.start,(lx.token j).span.stop⟩⟩, q)
  | unclosed {q : Parser} (hn : (lx.token (i + 1)).kind = .ident)
      (ha : (lx.token (i + 2)).kind = .operator .assign)
      (hv : ∀ m, i + 2 < m → (lx.token m).kind ≠ .punctuation .semicolon)
      (hq : q.StandsAt lx lx.tokens.length) (he : q.current = lx.last)
      (hf : q.faults = p.faults) :
      Attempt lx i p (.error (.unexpectedToken (.punctuation .semicolon) .eof lx.last.span), q)

section
variable {lx : Lexer} {i : Nat} {p : Parser} {result : Except Fault LetStatement × Parser}

theorem Attempt.faults (h : Attempt lx i p result) : result.2.faults = p.faults := by
  cases h with
  | unnamed => rfl
  | unassigned _ _ _ hf | closed _ _ _ _ _ _ hf | unclosed _ _ _ _ _ hf => exact hf

namespace StandsAt

variable (h : p.StandsAt lx i)
include h

theorem attempt_unnamed (hn : (lx.token (i + 1)).kind ≠ .ident) :
    Attempt lx i p p.letStatement := by
  have hp := h.eq_window
  have hn' := hn
  rw [← Lexer.next_skip_skip] at hn'
  rw [hp, letStatement_of_ne_ident p.faults hn', Lexer.next_skip_skip, ← hp]
  exact .unnamed hn

variable (hn : (lx.token (i + 1)).kind = .ident)
include hn

theorem attempt_unassigned (ha : (lx.token (i + 2)).kind ≠ .operator .assign) :
    Attempt lx i p p.letStatement := by
  have hn' := hn
  have ha' := ha
  rw [← Lexer.next_skip_skip] at hn' ha'
  have hlet := letStatement_of_ne_assign p.faults hn' ha'
  rw [← h.eq_window, Lexer.next_skip_skip, ← Lexer.skip_add] at hlet
  rw [hlet]
  exact .unassigned hn ha (standsAt_window lx (i + 1) p.faults) rfl

variable (ha : (lx.token (i + 2)).kind = .operator .assign)
include ha

theorem attempt_closed {j : Nat} (hj : i + 2 < j)
    (hs : (lx.token j).kind = .punctuation .semicolon)
    (hv : ∀ m, i + 2 < m → m < j → (lx.token m).kind ≠ .punctuation .semicolon) :
    Attempt lx i p p.letStatement := by
  have hafter : ((lx.skip i).skip 2).afterValue = lx.skip j := by
    rw [← Lexer.skip_add]
    exact Lexer.afterValue_eq_skip ha hj hs hv
  have hstop : ((lx.skip i).skip 2).afterValue.next.1.kind ≠ .eof := by
    rw [hafter, Lexer.next_skip_eq_token, hs]
    exact Kind.noConfusion
  have hn' := hn
  have ha' := ha
  rw [← Lexer.next_skip_skip] at hn' ha'
  have hlet := letStatement_of_closed p.faults hn' ha' hstop
  rw [← h.eq_window, hafter, Lexer.next_skip_skip, Lexer.next_skip_eq_token,
    Lexer.next_skip_eq_token] at hlet
  rw [hlet]
  exact .closed hn ha hj hs hv (standsAt_window lx j p.faults) rfl

theorem attempt_unclosed
    (hv : ∀ m, i + 2 < m → (lx.token m).kind ≠ .punctuation .semicolon) :
    Attempt lx i p p.letStatement := by
  have hafter : ((lx.skip i).skip 2).afterValue = lx.skip lx.tokens.length := by
    rw [← Lexer.skip_add]
    exact Lexer.afterValue_eq_skip_length ha hv
  have hlast : (lx.skip lx.tokens.length).next.1 = lx.last := by
    rw [Lexer.next_skip_eq_token]
    exact Lexer.token_of_length_le (Nat.le_refl _)
  have hstop : ((lx.skip i).skip 2).afterValue.next.1.kind = .eof := by
    rw [hafter, hlast]
    rfl
  have hn' := hn
  have ha' := ha
  rw [← Lexer.next_skip_skip] at hn' ha'
  have hlet := letStatement_of_open p.faults hn' ha' hstop
  rw [← h.eq_window, hafter, hlast] at hlet
  rw [hlet]
  exact .unclosed hn ha hv (standsAt_window lx _ p.faults) hlast rfl

omit hn ha in
theorem attempt : Attempt lx i p p.letStatement := by
  rcases eq_or_ne (lx.token (i + 1)).kind .ident with hn | hn
  · rcases eq_or_ne (lx.token (i + 2)).kind (.operator .assign) with ha | ha
    · rcases lx.exists_semicolon_or_none (i + 2) with ⟨j,hj,hs,hv⟩ | hv
      · exact h.attempt_closed hn ha hj hs hv
      · exact h.attempt_unclosed hn ha hv
    · exact h.attempt_unassigned hn ha
  · exact h.attempt_unnamed hn

end StandsAt

end

end Parser

namespace ParserLoop

open LetLang.Parser (StandsAt)

def Tries (lx : Lexer) (i : Nat) : Prop :=
  ∃ s, Turn lx s ∧ s.parser.StandsAt lx i ∧
    s.parser.statement = (s.parser.letStatement.1.map .letStatement, s.parser.letStatement.2)

def GoesOn (lx : Lexer) (i : Nat) (s : ParserLoop) : Prop :=
  ∃ j, i < j ∧ s.parser.StandsAt lx j ∧
    ∀ m, i < m → m < j → (lx.token m).kind = .keyword .letKey → lx.InValue i m

variable {lx : Lexer} {s : ParserLoop} {i k : Nat}

theorem goesOn_of_next (h : s.parser.StandsAt lx (i + 1)) : GoesOn lx i s :=
  ⟨i + 1,Nat.lt_succ_self i,h,fun m hm hlt _ => absurd hlt (by omega)⟩

theorem statement_of_let (hl : s.parser.current.kind = .keyword .letKey) :
    s.parser.statement =
      (s.parser.letStatement.1.map .letStatement, s.parser.letStatement.2) :=
  if_pos hl

theorem standsAt_step (hs : ¬s.parser.atSemicolon) (h : s.parser.statement.2.StandsAt lx i) :
    s.step.parser.StandsAt lx (i + 1) := by
  rcases s.parser_step with ⟨hs',_⟩ | ⟨_,q,hstep,rfl | ⟨f,rfl⟩⟩
  · exact absurd hs' hs
  · rw [hstep]
    exact h.advance
  · rw [hstep]
    exact (h.addFault f).advance

theorem goesOn_step_of_let (h : s.parser.StandsAt lx i)
    (hl : (lx.token i).kind = .keyword .letKey) : GoesOn lx i s.step := by
  have hc : s.parser.current.kind = .keyword .letKey := by rw [h.current, hl]
  have hs : ¬s.parser.atSemicolon := by simp [Parser.atSemicolon, hc]
  have hstep {j : Nat} (hj : s.parser.letStatement.2.StandsAt lx j) :
      s.step.parser.StandsAt lx (j + 1) := by
    apply standsAt_step hs
    rwa [statement_of_let hc]
  have hattempt := h.attempt
  generalize s.parser.letStatement = result at hattempt hstep
  cases hattempt with
  | unnamed => exact goesOn_of_next (hstep h)
  | unassigned hn _ hq _ =>
    refine ⟨i + 2,by omega,hstep hq,?_⟩
    intro m hm hlt hk
    obtain rfl : m = i + 1 := by omega
    rw [hn] at hk
    cases hk
  | @closed j q hn ha hj hsemi hv hq _ =>
    refine ⟨j + 1,by omega,hstep hq,?_⟩
    intro m hm hlt hk
    have hmj : m ≠ j := by
      rintro rfl
      rw [hsemi] at hk
      cases hk
    exact .of_keyword hl hn ha hm hk (fun n hn hle => hv n hn (by omega))
  | @unclosed q hn ha hv hq _ _ =>
    have hi : i < lx.tokens.length := Lexer.lt_length_of_ne_eof (by simp [hl])
    refine ⟨lx.tokens.length + 1,by omega,hstep hq,?_⟩
    intro m hm _ hk
    exact .of_keyword hl hn ha hm hk (fun n hn _ => hv n hn)

theorem goesOn_step (h : s.parser.StandsAt lx i) : GoesOn lx i s.step := by
  rcases eq_or_ne (lx.token i).kind (.keyword .letKey) with hl | hl
  · exact goesOn_step_of_let h hl
  · apply goesOn_of_next
    by_cases hs : s.parser.atSemicolon
    · rw [step, if_pos hs]
      exact h.advance
    · apply standsAt_step hs
      have hc : s.parser.current.kind ≠ .keyword .letKey := by rwa [h.current]
      rw [Parser.statement, if_neg hc]
      exact h

-- By induction on the tokens between the place where a turn begins and the `let`.
theorem Turn.tries_or_inValue (hs : Turn lx s) (h : s.parser.StandsAt lx k) (hk : k ≤ i)
    (hl : (lx.token i).kind = .keyword .letKey) :
    Tries lx i ∨ ∃ j, Tries lx j ∧ lx.InValue j i := by
  induction hd : i - k using Nat.strongRecOn generalizing s k with
  | ind d ih =>
    rcases Nat.eq_or_lt_of_le hk with rfl | hlt
    · exact .inl ⟨s,hs,h,statement_of_let (by rw [h.current, hl])⟩
    · have hi : i < lx.tokens.length := Lexer.lt_length_of_ne_eof (by simp [hl])
      have he : ¬s.parser.atEof := by
        rw [h.atEof_iff]
        omega
      obtain ⟨j,hj,hstands,hpast⟩ := goesOn_step h
      rcases Nat.lt_or_ge i j with hij | hji
      · have hvalue := hpast i hlt hij hl
        exact .inr ⟨k,⟨s,hs,h,statement_of_let (by rw [h.current, hvalue.keyword])⟩,hvalue⟩
      · exact ih (i - j) (by omega) (hs.next he) hstands hji rfl

end ParserLoop

open ParserLoop (Turn Tries)

theorem Parser.letStatement_attempts (lx : Lexer) :
    (∀ s, Turn lx s → s.parser.Reachable lx) ∧
    (∀ p : Parser, p.Reachable lx → ∃ i, p.StandsAt lx i) ∧
    (∀ (p : Parser) (i : Nat), p.StandsAt lx i → (lx.token i).kind = .keyword .letKey →
      Attempt lx i p p.letStatement ∧ p.letStatement.2.faults = p.faults) ∧
    ∀ i, (lx.token i).kind = .keyword .letKey →
      Tries lx i ∨ ∃ k, Tries lx k ∧ lx.InValue k i := by
  refine ⟨fun _ => Turn.reachable,fun _ => Reachable.standsAt,?_,?_⟩
  · intro p i h _
    exact ⟨h.attempt,h.attempt.faults⟩
  · intro i hl
    exact Turn.first.tries_or_inValue (standsAt_window lx 0 #[]) (Nat.zero_le i) hl

theorem Parser.letStatement_attempts_truncated :
    Turn (.ofText "let let x y let a = let b; let c = let")
        (.ofParser (.ofLexer (.ofText "let let x y let a = let b; let c = let"))) ∧
      (ofLexer (.ofText "let let x y let a = let b; let c = let")).Reachable
        (.ofText "let let x y let a = let b; let c = let") ∧
      (∃ i, (ofLexer (.ofText "let let x y let a = let b; let c = let")).StandsAt
        (.ofText "let let x y let a = let b; let c = let") i) ∧
      ((Lexer.ofText "let let x y let a = let b; let c = let").token 10).kind =
        .keyword .letKey ∧
      Attempt (.ofText "let let x y let a = let b; let c = let") 10
        (window ((Lexer.ofText "let let x y let a = let b; let c = let").skip 10) #[])
        (window ((Lexer.ofText "let let x y let a = let b; let c = let").skip 10)
          #[]).letStatement ∧
      ((Lexer.ofText "let let x y let a = let b; let c = let").token 7).kind =
        .keyword .letKey ∧
      (Tries (.ofText "let let x y let a = let b; let c = let") 7 ∨
        ∃ k, Tries (.ofText "let let x y let a = let b; let c = let") k ∧
          (Lexer.ofText "let let x y let a = let b; let c = let").InValue k 7) := by
  have hopen : ((Lexer.ofText "let let x y let a = let b; let c = let").token 10).kind =
      .keyword .letKey := by decide +kernel
  have hinner : ((Lexer.ofText "let let x y let a = let b; let c = let").token 7).kind =
      .keyword .letKey := by decide +kernel
  obtain ⟨hreachable,hstands,hattempt,htries⟩ :=
    letStatement_attempts (.ofText "let let x y let a = let b; let c = let")
  have hfirst := hreachable _ Turn.first
  exact ⟨.first,hfirst,hstands _ hfirst,hopen,(hattempt _ 10 (standsAt_window _ 10 #[]) hopen).1,
    hinner,htries 7 hinner⟩

end LetLang
