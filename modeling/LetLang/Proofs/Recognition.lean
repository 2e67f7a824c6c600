import LetLang.Proofs.Window
import LetLang.Proofs.Yield

namespace LetLang

namespace ParserLoop

open LetLang.Parser (window)

def At (lx : Lexer) (s : ParserLoop) : Prop :=
  s.parser = window lx s.parser.faults

def prospect (lx : Lexer) (s : ParserLoop) : List Statement × List Fault :=
  (s.statements.toList ++ statementsOf lx.last lx.tokens,
    s.parser.faults.toList ++ faultsFrom s.atBoundary lx.last lx.tokens)

section
variable {lx after : Lexer} {fs : Array Fault} {xs : Array Statement} {b : Bool}

theorem step_semicolon (h : lx.next.1.kind = .punctuation .semicolon) :
    step ⟨window lx fs,xs,b⟩ = ⟨window (lx.skip 1) fs,xs,true⟩ := by
  have hs : (window lx fs).atSemicolon := by simpa [Parser.atSemicolon, window] using h
  rw [step, if_pos hs]
  rfl

theorem step_other (hs : lx.next.1.kind ≠ .punctuation .semicolon)
    (hl : lx.next.1.kind ≠ .keyword .letKey) :
    step ⟨window lx fs,xs,b⟩ =
      ⟨window (lx.skip 1) (if b then fs.push (.unsupportedAt lx.next.1) else fs),xs,false⟩ := by
  have hp : ¬(window lx fs).atSemicolon := by simpa [Parser.atSemicolon, window] using hs
  have hst : (window lx fs).statement = (.error (.unsupportedAt lx.next.1), window lx fs) :=
    if_neg hl
  rw [step, if_neg hp, hst]
  cases b <;> rfl

theorem step_let_error (hl : lx.next.1.kind = .keyword .letKey) {k : Kind} {t : Token}
    (hp : (window lx fs).letStatement = (.error (.unexpectedAt k t), window after fs)) :
    step ⟨window lx fs,xs,b⟩ = ⟨window (after.skip 1) (fs.push (.unexpectedAt k t)),xs,false⟩ := by
  have hs : ¬(window lx fs).atSemicolon := by simp [Parser.atSemicolon, window, hl]
  have hst : (window lx fs).statement = (.error (.unexpectedAt k t), window after fs) := by
    have hc : (window lx fs).current.kind = .keyword .letKey := hl
    rw [Parser.statement, if_pos hc, hp]
    rfl
  rw [step, if_neg hs, hst]
  rfl

theorem step_let_ok (hl : lx.next.1.kind = .keyword .letKey) {x : LetStatement}
    (hp : (window lx fs).letStatement = (.ok x, window after fs)) :
    step ⟨window lx fs,xs,b⟩ = ⟨window (after.skip 1) fs,xs.push (.letStatement x),true⟩ := by
  have hs : ¬(window lx fs).atSemicolon := by simp [Parser.atSemicolon, window, hl]
  have hst : (window lx fs).statement = (.ok (.letStatement x), window after fs) := by
    have hc : (window lx fs).current.kind = .keyword .letKey := hl
    rw [Parser.statement, if_pos hc, hp]
    rfl
  rw [step, if_neg hs, hst]
  rfl

def Advances (lx : Lexer) (s : ParserLoop) : Prop :=
  ∃ n, At (lx.skip (n + 1)) s.step ∧ prospect (lx.skip (n + 1)) s.step = prospect lx s

theorem tokens_eq_cons (he : lx.next.1.kind ≠ .eof) :
    lx.tokens = lx.next.1 :: (lx.skip 1).tokens :=
  Lexer.tokens_of_ne_eof he

theorem next_eq_headD (n : Nat) :
    (lx.skip n).next.1 = (lx.skip n).tokens.headD lx.last := by
  rw [Lexer.next_eq_head, Lexer.last_skip]

theorem advances_of_step {n : Nat} {gs : Array Fault} {ys : Array Statement} {c : Bool}
    (hstep : step ⟨window lx fs,xs,b⟩ = ⟨window (lx.skip (n + 1)) gs,ys,c⟩)
    (hst : ys.toList ++ statementsOf lx.last (lx.skip (n + 1)).tokens =
      xs.toList ++ statementsOf lx.last lx.tokens)
    (hf : gs.toList ++ faultsFrom c lx.last (lx.skip (n + 1)).tokens =
      fs.toList ++ faultsFrom b lx.last lx.tokens) : Advances lx ⟨window lx fs,xs,b⟩ := by
  refine ⟨n,?_⟩
  rw [hstep, prospect, prospect, Lexer.last_skip]
  exact ⟨rfl,Prod.ext hst hf⟩

theorem advances_semicolon (h : lx.next.1.kind = .punctuation .semicolon) :
    Advances lx ⟨window lx fs,xs,b⟩ := by
  have he : lx.next.1.kind ≠ .eof := by simp [h]
  apply advances_of_step (step_semicolon h)
  · rw [tokens_eq_cons he, statementsOf_semicolon h]
  · rw [tokens_eq_cons he, faultsFrom_semicolon b h]

theorem advances_other (he : lx.next.1.kind ≠ .eof)
    (hs : lx.next.1.kind ≠ .punctuation .semicolon) (hl : lx.next.1.kind ≠ .keyword .letKey) :
    Advances lx ⟨window lx fs,xs,b⟩ := by
  apply advances_of_step (step_other hs hl)
  · rw [tokens_eq_cons he, statementsOf_other hs hl]
  · rw [tokens_eq_cons he, faultsFrom_other b hs hl]
    cases b <;> simp

theorem advances_unnamed (hl : lx.next.1.kind = .keyword .letKey)
    (hi : (lx.skip 1).next.1.kind ≠ .ident) : Advances lx ⟨window lx fs,xs,b⟩ := by
  have he : lx.next.1.kind ≠ .eof := by simp [hl]
  have hp := Parser.letStatement_of_ne_ident fs hi
  rw [next_eq_headD] at hp hi
  apply advances_of_step (step_let_error hl hp)
  · rw [tokens_eq_cons he, statementsOf_let_unnamed hl hi]
  · rw [tokens_eq_cons he, faultsFrom_let_unnamed b hl hi]
    simp

theorem advances_unassigned (hl : lx.next.1.kind = .keyword .letKey)
    (hi : (lx.skip 1).next.1.kind = .ident) (ha : (lx.skip 2).next.1.kind ≠ .operator .assign) :
    Advances lx ⟨window lx fs,xs,b⟩ := by
  have he : lx.next.1.kind ≠ .eof := by simp [hl]
  have hie : (lx.skip 1).next.1.kind ≠ .eof := by simp [hi]
  have hts : (lx.skip 1).tokens = (lx.skip 1).next.1 :: (lx.skip 2).tokens := tokens_eq_cons hie
  have hp := Parser.letStatement_of_ne_assign fs hi ha
  rw [next_eq_headD 2] at hp ha
  apply advances_of_step (n := 1) (step_let_error hl hp)
  · rw [tokens_eq_cons he, hts, statementsOf_let_unassigned hl hi ha]
  · rw [tokens_eq_cons he, hts, faultsFrom_let_unassigned b hl hi ha]
    simp

theorem tokens_eq_let (hl : lx.next.1.kind = .keyword .letKey)
    (hi : (lx.skip 1).next.1.kind = .ident) (ha : (lx.skip 2).next.1.kind = .operator .assign) :
    lx.tokens = lx.next.1 :: (lx.skip 1).next.1 :: (lx.skip 2).next.1 ::
      ((lx.skip 3).value ++ (lx.skip 2).afterValue.tokens) := by
  have he : lx.next.1.kind ≠ .eof := by simp [hl]
  have hie : (lx.skip 1).next.1.kind ≠ .eof := by simp [hi]
  have hae : (lx.skip 2).next.1.kind ≠ .eof := by simp [ha]
  have has : (lx.skip 2).next.1.kind ≠ .punctuation .semicolon := by simp [ha]
  have hv : (lx.skip 2).value = (lx.skip 2).next.1 :: (lx.skip 3).value := by
    rw [Lexer.value, tokens_eq_cons hae, List.takeWhile_cons_of_pos (by simpa using has)]
    rfl
  have h2 := (lx.skip 2).value_append_tokens
  rw [hv, List.cons_append] at h2
  have h1 : (lx.skip 1).tokens = (lx.skip 1).next.1 :: (lx.skip 2).tokens := tokens_eq_cons hie
  rw [tokens_eq_cons he, h1, ← h2]

theorem afterValue_skip_two :
    (lx.skip 2).afterValue = lx.skip ((lx.skip 2).value.length + 2) := by
  rw [Lexer.afterValue, Nat.add_comm, Lexer.skip_add]

theorem advances_let (hl : lx.next.1.kind = .keyword .letKey)
    (hi : (lx.skip 1).next.1.kind = .ident) (ha : (lx.skip 2).next.1.kind = .operator .assign) :
    Advances lx ⟨window lx fs,xs,b⟩ := by
  have hts := tokens_eq_let hl hi ha
  have hvs : ∀ v ∈ (lx.skip 3).value, v.kind ≠ .punctuation .semicolon :=
    fun v hv => Lexer.ne_semicolon_of_mem_value hv
  have hskip : lx.skip ((lx.skip 2).value.length + 2 + 1) = (lx.skip 2).afterValue.skip 1 := by
    rw [afterValue_skip_two, Lexer.skip_add _ 1]
  have hlast : (lx.skip 2).afterValue.next.1 = (lx.skip 2).afterValue.tokens.headD lx.last := by
    rw [afterValue_skip_two, next_eq_headD]
  rcases (lx.skip 2).afterValue_kind with hsemi | heof
  · have hne : (lx.skip 2).afterValue.next.1.kind ≠ .eof := by simp [hsemi]
    have hp := Parser.letStatement_of_closed fs hi ha hne
    rw [tokens_eq_cons hne] at hts
    apply advances_of_step (hskip ▸ step_let_ok hl hp)
    · rw [hskip, hts, statementsOf_let_closed hl hi ha hvs hsemi]
      simp
    · rw [hskip, hts, faultsFrom_let_closed b hl hi ha hvs hsemi]
  · have hnil : (lx.skip 2).afterValue.tokens = [] := Lexer.tokens_of_eof heof
    have hend : ((lx.skip 2).afterValue.skip 1).tokens = [] := by
      rw [Lexer.tokens_skip, hnil]
      rfl
    have hp := Parser.letStatement_of_open fs hi ha heof
    rw [hnil, List.headD_nil] at hlast
    rw [hlast] at hp
    rw [hnil, List.append_nil] at hts
    apply advances_of_step (hskip ▸ step_let_error hl hp)
    · rw [hskip, hts, hend, statementsOf_nil, statementsOf_let_open hl hi ha hvs rfl]
    · rw [hskip, hts, hend, faultsFrom_nil, faultsFrom_let_open b hl hi ha hvs rfl]
      simp

theorem advances (he : lx.next.1.kind ≠ .eof) : Advances lx ⟨window lx fs,xs,b⟩ := by
  rcases eq_or_ne lx.next.1.kind (.punctuation .semicolon) with hs | hs
  · exact advances_semicolon hs
  rcases eq_or_ne lx.next.1.kind (.keyword .letKey) with hl | hl
  · rcases eq_or_ne (lx.skip 1).next.1.kind .ident with hi | hi
    · rcases eq_or_ne (lx.skip 2).next.1.kind (.operator .assign) with ha | ha
      · exact advances_let hl hi ha
      · exact advances_unassigned hl hi ha
    · exact advances_unnamed hl hi
  · exact advances_other he hs hl

end

-- By induction on the turns: at the end nothing is left to come, and the prospect is what was found.
theorem run_prospect (lx : Lexer) (s : ParserLoop) (hs : At lx s) :
    ∃ n, At (lx.skip n) s.run ∧ (lx.skip n).next.1.kind = .eof ∧
      (s.run.statements.toList, s.run.parser.faults.toList) = prospect lx s := by
  induction s using ParserLoop.run.induct generalizing lx with
  | case1 s he =>
    have hk : lx.next.1.kind = .eof := by
      rw [hs] at he
      simpa [Parser.atEof, window] using he
    refine ⟨0,?_⟩
    rw [run_of_atEof he, prospect, Lexer.tokens_of_eof hk, statementsOf_nil, faultsFrom_nil]
    exact ⟨hs,hk,by simp⟩
  | case2 s he ih =>
    have hk : lx.next.1.kind ≠ .eof := by
      rw [hs] at he
      simpa [Parser.atEof, window] using he
    obtain ⟨p,xs,b⟩ := s
    obtain ⟨m,hat,hpro⟩ : Advances lx ⟨p,xs,b⟩ := by
      rw [show p = window lx p.faults from hs]
      exact advances hk
    obtain ⟨n,hrun,hend,hfound⟩ := ih _ hat
    rw [run_of_not_atEof he]
    refine ⟨m + 1 + n,?_,?_,hfound.trans hpro⟩
    · rwa [Lexer.skip_add]
    · rwa [Lexer.skip_add]

end ParserLoop

def Lexer.segments (lx : Lexer) : List Segment :=
  LetLang.segments lx.last lx.tokens

namespace Parser

theorem program_ofLexer (lx : Lexer) :
    (ofLexer lx).program.1.statements = statementsOf lx.last lx.tokens ∧
      (ofLexer lx).program.2.faults.toList = faultsOf lx.last lx.tokens := by
  obtain ⟨_,_,_,hfound⟩ := ParserLoop.run_prospect lx (.ofParser (ofLexer lx)) rfl
  rw [← faultsFrom_true]
  exact Prod.ext_iff.mp hfound

theorem statements_program_eq_filterMap (bytes : List UInt8) (n : Nat) :
    (ofLexer ((Lexer.ofBytes bytes).skip n)).program.1.statements =
        ((Lexer.ofBytes bytes).skip n).segments.filterMap Segment.statement? ∧
      ∀ s ∈ ((Lexer.ofBytes bytes).skip n).segments, ∀ x, s.statement? = some x ↔
        s.stop.kind = .punctuation .semicolon ∧
          ∃ k, LetAt s.body k ∧ (∀ j < k, ¬LetAt s.body j) ∧
            x = .letStatement ⟨s.token k,.ofToken (s.token (k + 1)),none,
              ⟨(s.token k).span.start,s.stop.span.stop⟩⟩ := by
  refine ⟨(program_ofLexer _).1,fun s _ x => ?_⟩
  exact Segment.statement?_eq_some_iff

theorem faults_program_eq_flatMap (bytes : List UInt8) (n : Nat) :
    (ofLexer ((Lexer.ofBytes bytes).skip n)).program.2.faults.toList =
        ((Lexer.ofBytes bytes).skip n).segments.flatMap Segment.faults ∧
      ∀ s ∈ ((Lexer.ofBytes bytes).skip n).segments,
        ∃ k ≤ s.body.length, (∀ j < k, ¬LetAt s.body j) ∧
          (k < s.body.length → LetAt s.body k) ∧
          s.faults =
            (if 0 < s.body.length ∧ (s.token 0).kind ≠ .keyword .letKey then
              [.unsupportedStatement (s.token 0).kind (s.token 0).span] else []) ++
            ((List.range k).filter (fun i => (s.token i).kind = .keyword .letKey)).map (fun i =>
              if (s.token (i + 1)).kind ≠ .ident then
                .unexpectedToken .ident (s.token (i + 1)).kind (s.token (i + 1)).span
              else .unexpectedToken (.operator .assign) (s.token (i + 2)).kind
                (s.token (i + 2)).span) ++
            (if k < s.body.length ∧ s.stop.kind = .eof then
              [.unexpectedToken (.punctuation .semicolon) .eof s.stop.span] else []) :=
  ⟨(program_ofLexer _).2,fun s _ => s.exists_faults_eq⟩

end Parser

theorem ParseResult.ofBytes_eq (bytes : List UInt8) :
    ParseResult.ofBytes bytes =
      ⟨⟨statementsOf (Lexer.ofBytes bytes).last (Lexer.ofBytes bytes).tokens⟩,
        faultsOf (Lexer.ofBytes bytes).last (Lexer.ofBytes bytes).tokens⟩ := by
  obtain ⟨hs,hf⟩ := Parser.program_ofLexer (.ofBytes bytes)
  rw [← hs, ← hf]
  rfl

end LetLang
