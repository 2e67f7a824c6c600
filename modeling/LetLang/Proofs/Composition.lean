import LetLang.Proofs.Recognition
import LetLang.Proofs.Shift

namespace LetLang

theorem lexeme_append {b : UInt8} {bs cs : List UInt8}
    (h : bs.drop (lexeme b bs).2 = [] → ∀ c ∈ cs.head?, ¬(lexeme b bs).1.extendedBy c) :
    lexeme b (bs ++ cs) = lexeme b bs := by
  have hmax : ∀ c ∈ (bs.drop (lexeme b bs).2 ++ cs).head?, ¬(lexeme b bs).1.extendedBy c := by
    cases hd : bs.drop (lexeme b bs).2 with
    | nil => exact h hd
    | cons d ds =>
      have hm := lexeme_maximal b bs
      rwa [hd] at hm
  have hu := lexeme_unique (lexeme_spelled b bs) hmax
  rwa [← List.append_assoc, List.take_append_drop,
    List.length_take_of_le (lexeme_le_length b bs)] at hu

namespace Lexer

theorem tokens_append (lx : Lexer) (bs : List UInt8)
    (h : ∀ t ∈ lx.tokens.getLast?, t.span.stop = lx.offset + lx.rest.length →
      ∀ c ∈ bs.head?, ¬t.kind.extendedBy c) :
    tokens ⟨lx.offset,lx.rest ++ bs⟩ =
      lx.tokens ++ tokens ⟨lx.offset + lx.rest.length,bs⟩ := by
  induction lx using scan_induction with
  | nil n => rw [tokens_nil]; rfl
  | blank n c cs hc ih =>
    simp only [tokens_blank hc, List.length_cons] at h ih ⊢
    have hadd : n + 1 + cs.length = n + (cs.length + 1) := by omega
    rw [hadd] at ih
    rw [List.cons_append, tokens_blank hc, ih h]
  | token n c cs hc ih =>
    have hle := lexeme_le_length c cs
    have hjoin : lexeme c (cs ++ bs) = lexeme c cs := by
      refine lexeme_append (fun hd => ?_)
      have hlen := congrArg List.length hd
      rw [List.length_drop, List.length_nil] at hlen
      have hlast : (tokens ⟨n,c :: cs⟩).getLast? = some (next ⟨n,c :: cs⟩).1 := by
        rw [tokens_cons hc, next_cons hc, hd, tokens_nil]
        rfl
      have hstop : (next ⟨n,c :: cs⟩).1.span.stop = n + (c :: cs).length := by
        rw [next_cons hc, List.length_cons]
        simp only
        omega
      have hkind := h _ hlast hstop
      rwa [next_cons hc] at hkind
    have hadd : n + 1 + (lexeme c cs).2 + (cs.drop (lexeme c cs).2).length =
        n + (cs.length + 1) := by
      rw [List.length_drop]
      omega
    simp only [hadd] at ih
    rw [List.cons_append, tokens_cons hc, tokens_cons hc, hjoin,
      List.take_append_of_le_length hle, List.drop_append_of_le_length hle, ih]
    · rfl
    · intro t ht
      refine h t ?_
      rw [tokens_cons hc, List.getLast?_cons, Option.mem_def.mp ht]
      rfl

-- No byte extends a semicolon, so nothing that comes after it changes the tokens up to it.
theorem tokens_append_of_semicolon {lx : Lexer}
    (h : ∀ t ∈ lx.tokens.getLast?, t.kind = .punctuation .semicolon) (bs : List UInt8) :
    tokens ⟨lx.offset,lx.rest ++ bs⟩ =
      lx.tokens ++ tokens ⟨lx.offset + lx.rest.length,bs⟩ := by
  refine tokens_append lx bs ?_
  intro t ht _ c _
  rw [h t ht]
  exact Bool.false_ne_true

theorem tokens_ofBytes_append {as bs : List UInt8}
    (h : ∀ t ∈ (ofBytes as).tokens.getLast?, t.kind = .punctuation .semicolon) :
    (ofBytes (as ++ bs)).tokens =
      (ofBytes as).tokens ++ (ofBytes bs).tokens.map (Token.shift as.length) := by
  have happ := tokens_append_of_semicolon h bs
  rw [← tokens_shift]
  exact happ

theorem last_ofBytes_append (as bs : List UInt8) :
    (ofBytes (as ++ bs)).last = (ofBytes bs).last.shift as.length := by
  rw [last, last]
  simp only [ofBytes, List.length_append, Nat.add_comm as.length, Nat.zero_add]
  rfl

end Lexer

section
variable {ts : List Token} (h : ∀ t ∈ ts.getLast?, t.kind = .punctuation .semicolon)
include h

theorem segments_append (last last' : Token) (us : List Token) :
    ∃ ss, segments last' ts = ss ++ [⟨[],last'⟩] ∧ segments last (ts ++ us) = ss ++ segments last us := by
  cases hl : ts.getLast? with
  | none =>
    obtain rfl := List.getLast?_eq_none_iff.mp hl
    exact ⟨[],rfl,rfl⟩
  | some t =>
    obtain ⟨vs,rfl⟩ := List.getLast?_eq_some_iff.mp hl
    have ht := h t hl
    refine ⟨segments t vs,?_,?_⟩
    · exact segments_append_semicolon ht last' vs []
    · rw [List.append_assoc]
      exact segments_append_semicolon ht last vs us

theorem statementsOf_append (last last' : Token) (us : List Token) :
    statementsOf last (ts ++ us) = statementsOf last' ts ++ statementsOf last us := by
  obtain ⟨ss,h1,h2⟩ := segments_append h last last' us
  have hnil := statementsOf_nil last'
  rw [statementsOf, segments_nil] at hnil
  rw [statementsOf, h2, statementsOf, h1, List.filterMap_append, List.filterMap_append, hnil,
    List.append_nil]
  rfl

theorem faultsOf_append (last last' : Token) (us : List Token) :
    faultsOf last (ts ++ us) = faultsOf last' ts ++ faultsOf last us := by
  obtain ⟨ss,h1,h2⟩ := segments_append h last last' us
  have hnil := faultsFrom_nil true last'
  rw [faultsFrom_true, faultsOf, segments_nil] at hnil
  rw [faultsOf, h2, faultsOf, h1, List.flatMap_append, List.flatMap_append, hnil, List.append_nil]
  rfl

end

theorem ParseResult.ofBytes_append (as bs : List UInt8)
    (h : ∀ t ∈ (Lexer.ofBytes as).tokens.getLast?, t.kind = .punctuation .semicolon) :
    ParseResult.ofBytes (as ++ bs) =
      ⟨⟨(ParseResult.ofBytes as).program.statements ++
          (ParseResult.ofBytes bs).program.statements.map (Statement.shift as.length)⟩,
        (ParseResult.ofBytes as).faults ++
          (ParseResult.ofBytes bs).faults.map (Fault.shift as.length)⟩ := by
  simp only [ParseResult.ofBytes_eq]
  rw [Lexer.tokens_ofBytes_append h, Lexer.last_ofBytes_append,
    statementsOf_append h _ (Lexer.ofBytes as).last, faultsOf_append h _ (Lexer.ofBytes as).last,
    statementsOf_map_shift, faultsOf_map_shift]

theorem ParseResult.ofBytes_append_failed_let :
    (∀ t ∈ (Lexer.ofBytes (Text.utf8 "@ let let x = 1;")).tokens.getLast?,
        t.kind = .punctuation .semicolon) ∧
      ofBytes (Text.utf8 "@ let let x = 1;") =
        ⟨⟨[.letStatement ⟨⟨.keyword .letKey,"let",⟨6,9⟩⟩,⟨⟨.ident,"x",⟨10,11⟩⟩,"x"⟩,none,
            ⟨6,16⟩⟩]⟩,
          [.unsupportedStatement .illegal ⟨0,1⟩,
            .unexpectedToken .ident (.keyword .letKey) ⟨6,9⟩]⟩ ∧
      ofBytes (Text.utf8 "= let z = 3; let") =
        ⟨⟨[.letStatement ⟨⟨.keyword .letKey,"let",⟨2,5⟩⟩,⟨⟨.ident,"z",⟨6,7⟩⟩,"z"⟩,none,
            ⟨2,12⟩⟩]⟩,
          [.unsupportedStatement (.operator .assign) ⟨0,1⟩,
            .unexpectedToken .ident .eof ⟨16,16⟩]⟩ ∧
      ofBytes (Text.utf8 "@ let let x = 1;" ++ Text.utf8 "= let z = 3; let") =
        ⟨⟨[.letStatement ⟨⟨.keyword .letKey,"let",⟨6,9⟩⟩,⟨⟨.ident,"x",⟨10,11⟩⟩,"x"⟩,none,
            ⟨6,16⟩⟩,
          .letStatement ⟨⟨.keyword .letKey,"let",⟨18,21⟩⟩,⟨⟨.ident,"z",⟨22,23⟩⟩,"z"⟩,none,
            ⟨18,28⟩⟩]⟩,
          [.unsupportedStatement .illegal ⟨0,1⟩,
            .unexpectedToken .ident (.keyword .letKey) ⟨6,9⟩,
            .unsupportedStatement (.operator .assign) ⟨16,17⟩,
            .unexpectedToken .ident .eof ⟨32,32⟩]⟩ := by
  have h : ∀ t ∈ (Lexer.ofBytes (Text.utf8 "@ let let x = 1;")).tokens.getLast?,
      t.kind = .punctuation .semicolon := by decide +kernel
  refine ⟨h,?_,?_,(ofBytes_append _ _ h).trans ?_⟩
  · decide +kernel
  · decide +kernel
  · decide +kernel

end LetLang
